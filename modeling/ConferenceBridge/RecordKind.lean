import ConferenceBridge.Declaration
import ConferenceBridge.Description

/-!
# Kinds of records

All records that are exchanged, so that what holds of every kind can be said at once.
-/

namespace ConferenceBridge

/-- A kind of record. -/
inductive RecordKind where
  /-- A header extension. -/
  | headerExtension
  /-- A kind of feedback. -/
  | rtcpFeedback
  /-- A payload type. -/
  | payloadType
  /-- A source. -/
  | source
  /-- A group of sources. -/
  | sourceGroup
  /-- A channel of a content. -/
  | channel
  /-- An Octo channel. -/
  | octoChannel
  /-- A content. -/
  | content
  /-- An endpoint. -/
  | endpoint
  /-- The channels of an endpoint. -/
  | channelBundle
  /-- A conference. -/
  | conference
  deriving DecidableEq

namespace RecordKind

/-- All kinds of records. -/
def all : List RecordKind :=
  [.headerExtension, .rtcpFeedback, .payloadType, .source, .sourceGroup, .channel, .octoChannel,
    .content, .endpoint, .channelBundle, .conference]

/-- The title of a kind of record. -/
def title : RecordKind → String
  | .headerExtension => "RtpHeaderExtensionDescription"
  | .rtcpFeedback => "RtcpFeedbackDescription"
  | .payloadType => "PayloadTypeDescription"
  | .source => "SourceDescription"
  | .sourceGroup => "SourceGroupDescription"
  | .channel => "ChannelDescription"
  | .octoChannel => "OctoChannelDescription"
  | .content => "ContentDescription"
  | .endpoint => "EndpointDescription"
  | .channelBundle => "ChannelBundleDescription"
  | .conference => "ConferenceDescription"

/-- The kind of record with a title. -/
def ofTitle? (title : String) : Option RecordKind := all.find? fun kind => kind.title == title

/-- The type of the records of a kind. -/
def Carrier : RecordKind → Type
  | .headerExtension => HeaderExtension
  | .rtcpFeedback => RtcpFeedback
  | .payloadType => PayloadDeclaration
  | .source => Source
  | .sourceGroup => SourceGroup
  | .channel => Description.Channel
  | .octoChannel => OctoChannel
  | .content => Description.Content
  | .endpoint => Description.Endpoint
  | .channelBundle => Description.Bundle
  | .conference => Description.Conference

/-- The fields of the records of a kind. -/
def fields : (kind : RecordKind) → Fields kind.Carrier
  | .headerExtension => HeaderExtension.fields
  | .rtcpFeedback => RtcpFeedback.fields
  | .payloadType => PayloadDeclaration.fields
  | .source => Source.fields
  | .sourceGroup => SourceGroup.fields
  | .channel => Description.Channel.fields
  | .octoChannel => OctoChannel.fields
  | .content => Description.Content.fields
  | .endpoint => Description.Endpoint.fields
  | .channelBundle => Description.Bundle.fields
  | .conference => Description.Conference.fields

/-- How records of a kind are read and written. -/
def schema : (kind : RecordKind) → Schema kind.Carrier
  | .headerExtension => HeaderExtension.schema
  | .rtcpFeedback => RtcpFeedback.schema
  | .payloadType => PayloadDeclaration.schema
  | .source => Source.schema
  | .sourceGroup => SourceGroup.schema
  | .channel => Description.Channel.schema
  | .octoChannel => OctoChannel.schema
  | .content => Description.Content.schema
  | .endpoint => Description.Endpoint.schema
  | .channelBundle => Description.Bundle.schema
  | .conference => Description.Conference.schema

end RecordKind

end ConferenceBridge
