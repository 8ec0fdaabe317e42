import ConferenceBridge.Description
import ConferenceBridge.Proofs.Schema.Ensures

/-!
# Bounds of descriptions

In a description of a conference only the times to last are bounded. What the schemas accept keeps
to that bound, however deep a channel stands in it.
-/

namespace ConferenceBridge.Description

/-- A channel within its bounds: it does not last less than no time. -/
def Channel.InBounds (channel : Channel) : Prop :=
  ∀ seconds, channel.expire = some seconds → 0 ≤ seconds

/-- A content of channels within their bounds. -/
def Content.InBounds (content : Content) : Prop := ∀ channel ∈ content.channels, channel.InBounds

/-- A conference of contents within their bounds. -/
def Conference.InBounds (conference : Conference) : Prop :=
  ∀ content ∈ conference.contents, content.InBounds

/-- Accepted channels are within their bounds. -/
theorem Channel.schema_ensures : schema.Ensures InBounds := by
  refine .record _ <| .as (.cons .trivial <|
    .cons .trivial <|
    .cons (.withDefault _ (.optional (.integerFrom 0)) nofun) <|
    .cons .trivial <|
    .cons .trivial <|
    .one .trivial) ?_
  rintro ⟨id, endpoint, expire, direction, lastN, bundle⟩ ⟨_, _, hexpire, _⟩
  exact hexpire

/-- Accepted contents are within their bounds. -/
theorem Content.schema_ensures : schema.Ensures InBounds := by
  refine .record _ <| .as (.cons .trivial <|
    .one (.withDefault _ (.list Channel.schema_ensures) (by simp))) ?_
  rintro ⟨name, channels⟩ ⟨_, hchannels⟩
  exact hchannels

/-- Accepted conferences are within their bounds. -/
theorem Conference.schema_ensures : schema.Ensures InBounds := by
  refine .record _ <| .as (.cons .trivial <|
    .cons .trivial <|
    .cons (.withDefault _ (.list Content.schema_ensures) (by simp)) <|
    .cons .trivial <|
    .one .trivial) ?_
  rintro ⟨id, name, contents, endpoints, bundles⟩ ⟨_, _, hcontents, _⟩
  exact hcontents

end ConferenceBridge.Description
