import ConferenceBridge.RecordKind
import Mathlib.Data.List.Nodup

/-!
# Outlines of records

The outline of a kind of record lists its fields in order of declaration and says of each one
whether it has to be present and whether it holds records of another kind. All schemas follow the
outlines of their kinds, so what holds of the ways in which fields are read and written is carried
over to every kind at once, from the inner records to the outer ones.
-/

namespace ConferenceBridge

/-- What a field is for its record. -/
inductive FieldRole where
  /-- The field has to be present, and there are no records in it. -/
  | required
  /-- The field may be absent, and there are no records in it. -/
  | optional
  /-- The field may be absent, and it holds a list of records of a kind. -/
  | records (kind : RecordKind)
  deriving DecidableEq

namespace RecordKind

/-- The fields of a kind of record in order of declaration. -/
def outline : RecordKind → List (String × FieldRole)
  | .headerExtension => [("id", .required), ("uri", .required)]
  | .rtcpFeedback => [("type", .required), ("subtype", .optional)]
  | .payloadType =>
    [("id", .required), ("name", .required), ("clockrate", .optional), ("channels", .optional),
      ("parameters", .optional), ("rtcp_feedback", .records .rtcpFeedback)]
  | .source => [("ssrc", .required), ("name", .optional), ("parameters", .optional)]
  | .sourceGroup => [("semantics", .required), ("sources", .records .source)]
  | .channel =>
    [("id", .optional), ("endpoint", .optional), ("expire", .optional), ("direction", .optional),
      ("last_n", .optional), ("channel_bundle_id", .optional)]
  | .octoChannel =>
    [("id", .optional), ("expire", .required), ("relays", .optional),
      ("rtp_header_extensions", .records .headerExtension),
      ("payload_types", .records .payloadType), ("sources", .records .source),
      ("source_groups", .records .sourceGroup)]
  | .content => [("name", .required), ("channels", .records .channel)]
  | .endpoint => [("id", .optional), ("stats_id", .optional), ("display_name", .optional)]
  | .channelBundle => [("id", .required), ("channel_ids", .optional)]
  | .conference =>
    [("id", .optional), ("name", .optional), ("contents", .records .content),
      ("endpoints", .records .endpoint), ("channel_bundles", .records .channelBundle)]

/-- How deep records are nested in those of a kind. -/
def depth : RecordKind → Nat
  | .payloadType | .sourceGroup | .content => 1
  | .octoChannel | .conference => 2
  | _ => 0

/-- The fields of a record have different names. -/
theorem nodup_outline (kind : RecordKind) : (kind.outline.map Prod.fst).Nodup := by
  cases kind <;> decide

/-- Inner records are nested less deeply than the records that hold them. -/
theorem depth_lt_depth {kind inner : RecordKind} {name : String}
    (h : (name, .records inner) ∈ kind.outline) : inner.depth < kind.depth := by
  cases kind <;> simp [outline] at h <;> grind [depth]

/-- What holds of a kind of record if it holds of the kinds inside it holds of every kind. -/
theorem induction_inside {P : RecordKind → Prop}
    (step : ∀ kind, (∀ name inner, (name, .records inner) ∈ kind.outline → P inner) → P kind)
    (kind : RecordKind) : P kind := by
  induction hdepth : kind.depth using Nat.strongRecOn generalizing kind with
  | _ depth ih =>
    subst hdepth
    exact step kind fun name inner hmem => ih _ (depth_lt_depth hmem) inner rfl

end RecordKind

namespace Schema

/-- The schemas of values that hold no records. -/
inductive Plain : {α : Type} → Schema α → Prop where
  /-- Texts hold none. -/
  | text : Plain text
  /-- Texts that are not empty hold none. -/
  | nonEmptyText : Plain nonEmptyText
  /-- Integers hold none. -/
  | integer : Plain integer
  /-- Integers with a lower bound hold none. -/
  | integerFrom (lower : Int) : Plain (integerFrom lower)
  /-- Integers with two bounds hold none. -/
  | integerBetween (lower upper : Int) : Plain (integerBetween lower upper)
  /-- Optional values hold none if the values hold none. They are not written as null. -/
  | optional {α : Type} {schema : Schema α} :
    Plain schema → (∀ value, schema.dump value ≠ .null) → Plain schema.optional
  /-- Lists hold none if their items hold none. -/
  | list {α : Type} {schema : Schema α} : Plain schema → Plain schema.list
  /-- Sets of relays hold none. -/
  | relays : Plain relays
  /-- Maps hold none. -/
  | textTable : Plain textTable

end Schema

/-- A field has a role in its record. A default is read back from what is written for it. -/
inductive Field.Plays : {α : Type} → Field α → FieldRole → Prop where
  /-- A field without a default has to be present. -/
  | required {α : Type} (name : String) {schema : Schema α} :
    schema.Plain → Plays (.required name schema) .required
  /-- A field with a default may be absent. -/
  | optional {α : Type} (name : String) {schema : Schema α} {default : α} :
    schema.Plain → schema.check (schema.dump default) = .valid default →
    Plays (.withDefault name schema default) .optional
  /-- A list of records is empty by default. -/
  | records (name : String) (kind : RecordKind) :
    Plays (.withDefault name kind.schema.list []) (.records kind)

/-- Fields are those of an outline. -/
inductive Fields.Follow : {α : Type} → Fields α → List (String × FieldRole) → Prop where
  /-- A single field plays its role. -/
  | one {α : Type} {field : Field α} {role : FieldRole} :
    field.Plays role → Follow (.one field) [(field.name, role)]
  /-- The first field plays its role, and the others follow theirs. -/
  | cons {α β : Type} {field : Field α} {role : FieldRole} {rest : Fields β}
      {outline : List (String × FieldRole)} :
    field.Plays role → Follow rest outline →
    Follow (.cons field rest) ((field.name, role) :: outline)
  /-- Values that are taken apart and put together again are the same. -/
  | as {α β : Type} {fields : Fields α} {outline : List (String × FieldRole)} {make : α → β}
      {parts : β → α} :
    Follow fields outline → (∀ value, parts (make value) = value) →
    Follow (fields.as make parts) outline

namespace Field.Plays

/-- A text that may be absent. -/
theorem optionalText (name : String) : (Field.optional name .text).Plays .optional :=
  .optional name (.optional .text nofun) rfl

end Field.Plays

namespace RecordKind

/-- The fields of each kind follow its outline. -/
theorem fields_follow (kind : RecordKind) : kind.fields.Follow kind.outline := by
  cases kind with
  | headerExtension =>
    exact .as (.cons (.required _ (.integerBetween 1 255)) <|
      .one (.required _ .nonEmptyText)) fun _ => rfl
  | rtcpFeedback =>
    exact .as (.cons (.required _ .text) <| .one (.optionalText _)) fun _ => rfl
  | payloadType =>
    exact .as (.cons (.required _ (.integerBetween 0 127)) <|
      .cons (.required _ .text) <|
      .cons (.optional _ (.integerFrom 0) rfl) <|
      .cons (.optional _ (.integerFrom 1) rfl) <|
      .cons (.optional _ .textTable rfl) <|
      .one (.records _ .rtcpFeedback)) fun _ => rfl
  | source =>
    exact .as (.cons (.required _ (.integerBetween 0 0xffffffff)) <|
      .cons (.optionalText _) <|
      .one (.optional _ .textTable rfl)) fun _ => rfl
  | sourceGroup =>
    exact .as (.cons (.required _ .text) <| .one (.records _ .source)) fun _ => rfl
  | channel =>
    exact .as (.cons (.optionalText _) <|
      .cons (.optionalText _) <|
      .cons (.optional _ (.optional (.integerFrom 0) nofun) rfl) <|
      .cons (.optionalText _) <|
      .cons (.optional _ (.optional .integer nofun) rfl) <|
      .one (.optionalText _)) fun _ => rfl
  | octoChannel =>
    exact .as (.cons (.optionalText _) <|
      .cons (.required _ (.integerFrom 0)) <|
      .cons (.optional _ .relays rfl) <|
      .cons (.records _ .headerExtension) <|
      .cons (.records _ .payloadType) <|
      .cons (.records _ .source) <|
      .one (.records _ .sourceGroup)) fun _ => rfl
  | content => exact .as (.cons (.required _ .text) <| .one (.records _ .channel)) fun _ => rfl
  | endpoint =>
    exact .as (.cons (.optionalText _) <|
      .cons (.optionalText _) <|
      .one (.optionalText _)) fun _ => rfl
  | channelBundle =>
    exact .as (.cons (.required _ .text) <|
      .one (.optional _ (.list .text) rfl)) fun _ => rfl
  | conference =>
    exact .as (.cons (.optionalText _) <|
      .cons (.optionalText _) <|
      .cons (.records _ .content) <|
      .cons (.records _ .endpoint) <|
      .one (.records _ .channelBundle)) fun _ => rfl

/-- Each kind is a record of its fields under its title. -/
theorem schema_eq_record (kind : RecordKind) :
    kind.schema = .record kind.title kind.fields := by
  cases kind <;> rfl

end RecordKind

end ConferenceBridge
