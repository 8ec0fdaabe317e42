import ConferenceBridge.Declaration
import ConferenceBridge.Proofs.Schema.Ensures

/-!
# Bounds of declarations

Every value that the schemas accept lies within the bounds of its record, and so do the records
inside it.
-/

namespace ConferenceBridge

/-- A header extension within its bounds. -/
structure HeaderExtension.InBounds (extension : HeaderExtension) : Prop where
  /-- The number takes one octet and is not zero. -/
  number : 1 ≤ extension.number ∧ extension.number ≤ 255
  /-- There is a name. -/
  uri : extension.uri ≠ ""

/-- A declaration of a payload type within its bounds. -/
structure PayloadDeclaration.InBounds (declaration : PayloadDeclaration) : Prop where
  /-- The number takes seven bits. -/
  number : 0 ≤ declaration.number ∧ declaration.number ≤ 127
  /-- The clock rate is not negative. -/
  clockRate : 0 ≤ declaration.clockRate
  /-- There is at least one channel. -/
  channels : 1 ≤ declaration.channels

/-- A source within its bounds: its number takes four octets. -/
def Source.InBounds (source : Source) : Prop := 0 ≤ source.ssrc ∧ source.ssrc ≤ 0xffffffff

/-- A group of sources within their bounds. -/
def SourceGroup.InBounds (group : SourceGroup) : Prop :=
  ∀ source ∈ group.sources, source.InBounds

/-- A channel within its bounds, as are the records inside it. -/
structure OctoChannel.InBounds (channel : OctoChannel) : Prop where
  /-- The channel does not last less than no time. -/
  expire : 0 ≤ channel.expire
  /-- The header extensions are within their bounds. -/
  extensions : ∀ extension ∈ channel.extensions, extension.InBounds
  /-- The payload types are within their bounds. -/
  payloadTypes : ∀ declaration ∈ channel.payloadTypes, declaration.InBounds
  /-- The sources are within their bounds. -/
  sources : ∀ source ∈ channel.sources, source.InBounds
  /-- The groups are within their bounds. -/
  groups : ∀ group ∈ channel.groups, group.InBounds

/-- Accepted header extensions are within their bounds. -/
theorem HeaderExtension.schema_ensures : schema.Ensures InBounds := by
  refine .record _ <| .as (.cons (.required _ (.integerBetween 1 255)) <|
    .one (.required _ .nonEmptyText)) ?_
  rintro ⟨number, uri⟩ ⟨hnumber, huri⟩
  exact ⟨hnumber, huri⟩

/-- Accepted declarations of payload types are within their bounds. -/
theorem PayloadDeclaration.schema_ensures : schema.Ensures InBounds := by
  refine .record _ <| .as (.cons (.required _ (.integerBetween 0 127)) <|
    .cons .trivial <|
    .cons (.withDefault _ (.integerFrom 0) (by decide)) <|
    .cons (.withDefault _ (.integerFrom 1) (by decide)) <|
    .cons .trivial <|
    .one .trivial) ?_
  rintro ⟨number, name, clockRate, channels, parameters, feedback⟩
    ⟨hnumber, _, hclockRate, hchannels, _⟩
  exact ⟨hnumber, hclockRate, hchannels⟩

/-- Accepted sources are within their bounds. -/
theorem Source.schema_ensures : schema.Ensures InBounds := by
  refine .record _ <| .as (.cons (.required _ (.integerBetween 0 0xffffffff)) <|
    .cons .trivial <|
    .one .trivial) ?_
  rintro ⟨ssrc, name, parameters⟩ ⟨hssrc, _⟩
  exact ⟨hssrc.1, hssrc.2⟩

/-- Accepted groups of sources are within their bounds. -/
theorem SourceGroup.schema_ensures : schema.Ensures InBounds := by
  refine .record _ <| .as (.cons .trivial <|
    .one (.withDefault _ (.list Source.schema_ensures) (by simp))) ?_
  rintro ⟨semantics, sources⟩ ⟨_, hsources⟩
  exact hsources

/-- Accepted channels are within their bounds. -/
theorem OctoChannel.schema_ensures : schema.Ensures InBounds := by
  refine .record _ <| .as (.cons .trivial <|
    .cons (.required _ (.integerFrom 0)) <|
    .cons .trivial <|
    .cons (.withDefault _ (.list HeaderExtension.schema_ensures) (by simp)) <|
    .cons (.withDefault _ (.list PayloadDeclaration.schema_ensures) (by simp)) <|
    .cons (.withDefault _ (.list Source.schema_ensures) (by simp)) <|
    .one (.withDefault _ (.list SourceGroup.schema_ensures) (by simp))) ?_
  rintro ⟨id, expire, relays, extensions, payloadTypes, sources, groups⟩
    ⟨_, hexpire, _, hextensions, hpayloadTypes, hsources, hgroups⟩
  exact ⟨hexpire, hextensions, hpayloadTypes, hsources, hgroups⟩

end ConferenceBridge
