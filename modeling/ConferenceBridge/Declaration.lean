import ConferenceBridge.Schema.Record

/-!
# Octo declarations

What a conference is told about one of its Octo channels: how long it lasts, the relays it goes to,
the header extensions and payload types in use, and the sources of its streams. A declaration is
plain data; the schemas say which values are accepted.
-/

namespace ConferenceBridge

/-- A header extension and the number it was given. -/
structure HeaderExtension where
  /-- The number on the wire. -/
  number : Int
  /-- The name of the extension. -/
  uri : String
  deriving DecidableEq

/-- A kind of feedback that a payload type allows. -/
structure RtcpFeedback where
  /-- The kind of feedback. -/
  type : String
  /-- What the feedback is about. -/
  subtype : Option String
  deriving DecidableEq

/-- A payload type as it was declared. -/
structure PayloadDeclaration where
  /-- The number on the wire. -/
  number : Int
  /-- The name of the encoding, in any spelling. -/
  name : String
  /-- The clock rate, zero if it was not declared. -/
  clockRate : Int
  /-- The number of channels. -/
  channels : Int
  /-- The parameters of the encoding. -/
  parameters : Table String String
  /-- The kinds of feedback that are allowed. -/
  feedback : List RtcpFeedback
  deriving DecidableEq

/-- The source of a stream. -/
structure Source where
  /-- The number that identifies the source. -/
  ssrc : Int
  /-- A name for the source. -/
  name : Option String
  /-- What else is known about the source. -/
  parameters : Table String String
  deriving DecidableEq

/-- Sources that belong together. -/
structure SourceGroup where
  /-- How the sources belong together. -/
  semantics : String
  /-- The members of the group. -/
  sources : List Source
  deriving DecidableEq

/-- The Octo channel of one media type. -/
structure OctoChannel where
  /-- The channel's id. -/
  id : Option String
  /-- The seconds that the channel lasts; at zero the relay is torn down. -/
  expire : Int
  /-- The relays that media go to. -/
  relays : RelaySet
  /-- The header extensions in use. -/
  extensions : List HeaderExtension
  /-- The payload types in use. -/
  payloadTypes : List PayloadDeclaration
  /-- The sources of the channel's streams. -/
  sources : List Source
  /-- The groups of those sources. -/
  groups : List SourceGroup
  deriving DecidableEq

namespace HeaderExtension

/-- Numbers take one octet and zero is none; the name is not empty. -/
def fields : Fields HeaderExtension :=
  (Fields.cons (.required "id" (.integerBetween 1 255)) <|
    .one (.required "uri" .nonEmptyText)).as
    (fun (number, uri) => { number, uri })
    (fun extension => (extension.number, extension.uri))

/-- A header extension as a record of its fields. -/
def schema : Schema HeaderExtension := .record "RtpHeaderExtensionDescription" fields

end HeaderExtension

namespace RtcpFeedback

/-- Any two texts, the second of which may be absent. -/
def fields : Fields RtcpFeedback :=
  (Fields.cons (.required "type" .text) <| .one (.optional "subtype" .text)).as
    (fun (type, subtype) => { type, subtype })
    (fun feedback => (feedback.type, feedback.subtype))

/-- A kind of feedback as a record of its fields. -/
def schema : Schema RtcpFeedback := .record "RtcpFeedbackDescription" fields

end RtcpFeedback

namespace PayloadDeclaration

/-- Numbers take seven bits, and there is at least one channel. -/
def fields : Fields PayloadDeclaration :=
  (Fields.cons (.required "id" (.integerBetween 0 127)) <|
    .cons (.required "name" .text) <|
    .cons (.withDefault "clockrate" (.integerFrom 0) 0) <|
    .cons (.withDefault "channels" (.integerFrom 1) 1) <|
    .cons (.withDefault "parameters" .textTable Table.empty) <|
    .one (.withDefault "rtcp_feedback" (.list RtcpFeedback.schema) [])).as
    (fun (number, name, clockRate, channels, parameters, feedback) =>
      { number, name, clockRate, channels, parameters, feedback })
    (fun d => (d.number, d.name, d.clockRate, d.channels, d.parameters, d.feedback))

/-- A payload type as a record of its fields. -/
def schema : Schema PayloadDeclaration := .record "PayloadTypeDescription" fields

end PayloadDeclaration

namespace Source

/-- The number takes four octets. -/
def fields : Fields Source :=
  (Fields.cons (.required "ssrc" (.integerBetween 0 0xffffffff)) <|
    .cons (.optional "name" .text) <|
    .one (.withDefault "parameters" .textTable Table.empty)).as
    (fun (ssrc, name, parameters) => { ssrc, name, parameters })
    (fun source => (source.ssrc, source.name, source.parameters))

/-- A source as a record of its fields. -/
def schema : Schema Source := .record "SourceDescription" fields

end Source

namespace SourceGroup

/-- Any text and any sources. -/
def fields : Fields SourceGroup :=
  (Fields.cons (.required "semantics" .text) <|
    .one (.withDefault "sources" (.list Source.schema) [])).as
    (fun (semantics, sources) => { semantics, sources })
    (fun group => (group.semantics, group.sources))

/-- A group of sources as a record of its fields. -/
def schema : Schema SourceGroup := .record "SourceGroupDescription" fields

end SourceGroup

namespace OctoChannel

/-- Only the time to last is required, and it is not negative. -/
def fields : Fields OctoChannel :=
  (Fields.cons (.optional "id" .text) <|
    .cons (.required "expire" (.integerFrom 0)) <|
    .cons (.withDefault "relays" .relays RelaySet.empty) <|
    .cons (.withDefault "rtp_header_extensions" (.list HeaderExtension.schema) []) <|
    .cons (.withDefault "payload_types" (.list PayloadDeclaration.schema) []) <|
    .cons (.withDefault "sources" (.list Source.schema) []) <|
    .one (.withDefault "source_groups" (.list SourceGroup.schema) [])).as
    (fun (id, expire, relays, extensions, payloadTypes, sources, groups) =>
      { id, expire, relays, extensions, payloadTypes, sources, groups })
    (fun c => (c.id, c.expire, c.relays, c.extensions, c.payloadTypes, c.sources, c.groups))

/-- An Octo channel as a record of its fields. -/
def schema : Schema OctoChannel := .record "OctoChannelDescription" fields

end OctoChannel

end ConferenceBridge
