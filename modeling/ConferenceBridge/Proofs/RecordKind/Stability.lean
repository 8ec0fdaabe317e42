import ConferenceBridge.Proofs.Declaration
import ConferenceBridge.Proofs.Description
import ConferenceBridge.Proofs.RecordKind.Place
import ConferenceBridge.Proofs.RelaySet
import ConferenceBridge.Proofs.Schema.Reading
import ConferenceBridge.Validation

/-!
# Validated records are sound and stable

A record that was validated keeps to the bounds of its kind, and so do the records inside it. What
is written for it in full is read back as the same record, so validating a record again changes
nothing: booleans, whole decimals and digits stand for integers only in what is read first, and the
same is true of repeated relays, absent fields and members that are no fields.
-/

namespace ConferenceBridge

/-! ### Stable schemas -/

namespace Schema

variable {α : Type}

/-- What is written for an accepted value is read back as this value. -/
def Stable (schema : Schema α) : Prop :=
  schema.Ensures fun value => schema.check (schema.dump value) = .valid value

/-- Values that may be absent are read back if those that are present are, and are never written as
`null`. -/
theorem Stable.optional {schema : Schema α} (h : schema.Stable)
    (hpresent : ∀ value, schema.dump value ≠ .null) : schema.optional.Stable := by
  intro json read hread
  cases read with
  | none => rfl
  | some value =>
    have hstable : schema.check (schema.dump value) = .valid value :=
      Ensures.optional h json _ hread value rfl
    exact (check_optional (hpresent value)).trans (congrArg (Checked.map some) hstable)

/-- Lists are read back if their items are. -/
theorem Stable.list {schema : Schema α} (h : schema.Stable) : schema.list.Stable := by
  intro json values hvalues
  have hstable : ∀ value ∈ values, schema.check (schema.dump value) = .valid value :=
    Ensures.list h json values hvalues
  exact checkItems_map hstable 0

/-- A set of relays is read from its members in any order, repeated or not. -/
theorem check_relays {set : RelaySet} {listed : List String}
    (h : ∀ relay, relay ∈ listed ↔ relay ∈ set.toList) :
    relays.check (.array (listed.map .string)) = .valid set := by
  have hitems : checkItems text 0 (listed.map Json.string) = .valid listed :=
    checkItems_map (fun _ _ => rfl) 0
  have hread : relays.check (.array (listed.map .string)) =
      (checkItems text 0 (listed.map Json.string)).map RelaySet.ofList := rfl
  rw [hread, hitems, Checked.map, RelaySet.ofList_of_mem_iff h]

/-- Values without records are read back as they are written. -/
theorem Plain.stable {schema : Schema α} (h : schema.Plain) : schema.Stable := by
  induction h with
  | text | integer => exact fun _ _ _ => rfl
  | nonEmptyText =>
    intro json value hvalue
    have hne : value ≠ "" := Ensures.nonEmptyText json value hvalue
    exact if_neg (by simpa using hne)
  | integerFrom lower =>
    intro json value hvalue
    exact check_integerFrom (Ensures.integerFrom lower json value hvalue)
  | integerBetween lower upper =>
    intro json value hvalue
    obtain ⟨hlower, hupper⟩ := Ensures.integerBetween lower upper json value hvalue
    exact check_integerBetween hlower hupper
  | optional _ hpresent ih => exact ih.optional hpresent
  | list _ ih => exact ih.list
  | relays => exact fun _ _ _ => check_relays fun _ => Iff.rfl
  | textTable => exact fun _ _ _ => check_textTable (.refl _)

end Schema

/-- A field is read back from what is written for its value, a default as well as any other. -/
theorem Field.Plays.check_dump {α : Type} {field : Field α} {role : FieldRole}
    (h : field.Plays role) (hinner : ∀ kind, role = .records kind → kind.schema.Stable)
    {member : Option Json} {value : α} (hvalue : field.check member = .valid value) :
    field.check (some (field.dump value)) = .valid value := by
  cases h with
  | required name hplain =>
    cases member with
    | none => cases hvalue
    | some json => exact hplain.stable json value hvalue
  | optional name hplain hdefault =>
    cases member with
    | none =>
      cases hvalue
      exact hdefault
    | some json => exact hplain.stable json value hvalue
  | records name kind =>
    cases member with
    | none =>
      cases hvalue
      rfl
    | some json => exact (hinner kind rfl).list json value hvalue

namespace Fields

variable {α : Type} {fields : Fields α} {outline : List (String × FieldRole)}

/-- Every field is written, in order of declaration. -/
theorem Follow.names_dump (h : fields.Follow outline) (value : α) :
    (fields.dump value).map Prod.fst = outline.map Prod.fst := by
  induction h with
  | one => rfl
  | cons _ _ ih => exact congrArg (List.cons _) (ih value.2)
  | @as _ _ _ _ _ parts _ _ ih => exact ih (parts value)

/-- Fields are read back from any members that hold what is written for them. -/
theorem Follow.check_of_dump (h : fields.Follow outline)
    (hinner : ∀ name kind, (name, .records kind) ∈ outline → kind.schema.Stable)
    {members written : String → Option Json} {value : α}
    (hvalue : fields.check members = .valid value)
    (hwritten : ∀ entry ∈ fields.dump value, written entry.1 = some entry.2) :
    fields.check written = .valid value := by
  induction h with
  | @one _ field role hplays =>
    have hinside : ∀ kind, role = .records kind → kind.schema.Stable :=
      fun kind hrole => hinner field.name kind (by simp [hrole])
    refine check_one ?_
    rw [hwritten _ (List.mem_singleton.2 rfl)]
    exact hplays.check_dump hinside (Checked.under_eq_valid_iff.1 hvalue)
  | @cons _ _ field role rest outline hplays _ ih =>
    obtain ⟨hfirst, hrest⟩ := Checked.both_eq_valid_iff.1 hvalue
    obtain ⟨hhere, hthere⟩ := List.forall_mem_cons.1 hwritten
    have hinside : ∀ kind, role = .records kind → kind.schema.Stable :=
      fun kind hrole => hinner field.name kind (by simp [hrole])
    refine check_cons ?_ (ih (fun name kind hmem => hinner name kind (List.mem_cons_of_mem _ hmem))
      hrest hthere)
    rw [hhere]
    exact hplays.check_dump hinside (Checked.under_eq_valid_iff.1 hfirst)
  | @as _ _ inner _ make parts _ hparts ih =>
    obtain ⟨inside, hinside, rfl⟩ := Checked.map_eq_valid_iff.1 hvalue
    have hsame : (inner.as make parts).dump (make inside) = inner.dump inside :=
      congrArg inner.dump (hparts inside)
    rw [hsame] at hwritten
    exact Checked.map_eq_valid_iff.2 ⟨inside, ih hinner hinside hwritten, rfl⟩

end Fields

/-! ### Kinds of records -/

/-- A channel that lists its relays in some order, repeated or not. -/
def OctoChannel.dumpListing (channel : OctoChannel) (relays : List String) : Json :=
  .object <| (fields.dump channel).map fun member =>
    (member.1, if member.1 = "relays" then .array (relays.map .string) else member.2)

/-- It does not matter in which order a channel lists its relays, nor how often. -/
theorem OctoChannel.check_dumpListing {channel : OctoChannel}
    (h : schema.check (schema.dump channel) = .valid channel) {relays : List String}
    (hrelays : ∀ relay, relay ∈ relays ↔ relay ∈ channel.relays.toList) :
    schema.check (channel.dumpListing relays) = .valid channel := by
  have hmember : ∀ name, (channel.dumpListing relays).member? name =
      ((schema.dump channel).member? name).map fun json =>
        if name = "relays" then .array (relays.map .string) else json :=
    Json.memberOf?_map (fun name json =>
      if name = "relays" then .array (relays.map .string) else json) _
  have hother : ∀ name, name ≠ "relays" →
      (channel.dumpListing relays).member? name = (schema.dump channel).member? name := by
    intro name hname
    simp [hmember, hname]
  have hlisted : (channel.dumpListing relays).member? "relays" =
      some (.array (relays.map .string)) := hmember "relays"
  obtain ⟨parts, hparts, hmake⟩ := Checked.map_eq_valid_iff.1 h
  obtain ⟨id, expire, set, extensions, payloadTypes, sources, groups⟩ := parts
  obtain ⟨hid, hparts⟩ := Checked.both_eq_valid_iff.1 hparts
  obtain ⟨hexpire, hparts⟩ := Checked.both_eq_valid_iff.1 hparts
  obtain ⟨_, hparts⟩ := Checked.both_eq_valid_iff.1 hparts
  obtain ⟨hextensions, hparts⟩ := Checked.both_eq_valid_iff.1 hparts
  obtain ⟨hpayloadTypes, hparts⟩ := Checked.both_eq_valid_iff.1 hparts
  obtain ⟨hsources, hgroups⟩ := Checked.both_eq_valid_iff.1 hparts
  have hset : set = channel.relays := congrArg OctoChannel.relays hmake
  have hread : Schema.relays.check (.array (relays.map .string)) = .valid set :=
    hset ▸ Schema.check_relays hrelays
  -- All members but one are the same as before.
  have hsame : ∀ {α : Type} {field : Field α} {value : α}, field.name ≠ "relays" →
      (Fields.one field).check (schema.dump channel).member? = .valid value →
      field.check ((channel.dumpListing relays).member? field.name) = .valid value := by
    intro α field value hname hvalue
    rw [hother field.name hname]
    exact Checked.under_eq_valid_iff.1 hvalue
  refine Checked.map_eq_valid_iff.2 ⟨_, Fields.check_cons (hsame (by decide) hid) <|
    Fields.check_cons (hsame (by decide) hexpire) <| Fields.check_cons ?relays <|
    Fields.check_cons (hsame (by decide) hextensions) <|
    Fields.check_cons (hsame (by decide) hpayloadTypes) <|
    Fields.check_cons (hsame (by decide) hsources) <|
    Fields.check_one (hsame (by decide) hgroups), hmake⟩
  exact (congrArg _ hlisted).trans hread

namespace RecordKind

/-- A record of a kind within its bounds, as are the records inside it. -/
def InBounds : (kind : RecordKind) → kind.Carrier → Prop
  | .headerExtension => HeaderExtension.InBounds
  | .payloadType => PayloadDeclaration.InBounds
  | .source => Source.InBounds
  | .sourceGroup => SourceGroup.InBounds
  | .channel => Description.Channel.InBounds
  | .octoChannel => fun record => OctoChannel.InBounds record ∧ record.relays.toList.Nodup
  | .content => Description.Content.InBounds
  | .conference => Description.Conference.InBounds
  | .rtcpFeedback | .endpoint | .channelBundle => fun _ => True

/-- Accepted records are within their bounds. -/
theorem schema_ensures (kind : RecordKind) : kind.schema.Ensures kind.InBounds := by
  cases kind with
  | headerExtension => exact HeaderExtension.schema_ensures
  | payloadType => exact PayloadDeclaration.schema_ensures
  | source => exact Source.schema_ensures
  | sourceGroup => exact SourceGroup.schema_ensures
  | channel => exact Description.Channel.schema_ensures
  | octoChannel =>
    intro json channel hchannel
    exact ⟨OctoChannel.schema_ensures json channel hchannel, RelaySet.nodup_toList _⟩
  | content => exact Description.Content.schema_ensures
  | conference => exact Description.Conference.schema_ensures
  | rtcpFeedback | endpoint | channelBundle => exact .trivial

/-- What is written for a record of a kind holds its fields. -/
theorem dump_eq_object (kind : RecordKind) (record : kind.Carrier) :
    kind.schema.dump record = .object (kind.fields.dump record) := by
  rw [schema_eq_record]
  rfl

/-- Records of every kind are read back as they are written. -/
theorem schema_stable (kind : RecordKind) : kind.schema.Stable := by
  induction kind using induction_inside with
  | step kind ih =>
    intro json record hrecord
    obtain ⟨members, rfl, hfields⟩ := exists_members_of_valid hrecord
    have hdistinct : ((kind.fields.dump record).map Prod.fst).Nodup := by
      rw [kind.fields_follow.names_dump]
      exact kind.nodup_outline
    have hread : kind.fields.check (Json.memberOf? (kind.fields.dump record)) = .valid record :=
      kind.fields_follow.check_of_dump ih hfields fun entry hentry =>
        Json.memberOf?_eq_some_of_mem hdistinct hentry
    rw [dump_eq_object, schema_eq_record]
    exact hread

/-- A record is validated just if its schema accepts the value. -/
theorem validate_eq_ok_iff {kind : RecordKind} {json : Json} {record : kind.Carrier} :
    kind.validate json = .ok record ↔ kind.schema.check json = .valid record := by
  rw [validate]
  cases kind.schema.check json <;> simp [Checked.orError]

/-- A validated record is sound and stable. It is within the bounds of its kind, and wherever the
value holds a record, all required fields of that record are present. Written in full it has every
field, and validating it again gives the same record, in whatever order relays are listed. -/
theorem validated_sound_and_stable {kind : RecordKind} {json : Json} {record : kind.Carrier}
    (h : kind.validate json = .ok record) :
    kind.InBounds record ∧
    (∀ place inner part, kind.Holds place inner → json.at? place = some part →
      ∃ members, part = .object members ∧ ∀ name, (name, .required) ∈ inner.outline →
        ∃ member, Json.memberOf? members name = some member) ∧
    (∃ members, kind.schema.dump record = .object members ∧
      members.map Prod.fst = kind.outline.map Prod.fst) ∧
    kind.validate (kind.schema.dump record) = .ok record ∧
    ∀ channel : OctoChannel, RecordKind.octoChannel.validate json = .ok channel →
      ∀ relays, (∀ relay, relay ∈ relays ↔ relay ∈ channel.relays.toList) →
        RecordKind.octoChannel.validate (channel.dumpListing relays) = .ok channel := by
  have hvalid := validate_eq_ok_iff.1 h
  refine ⟨kind.schema_ensures json record hvalid, fun place inner part hholds hpart => ?_,
    ⟨_, kind.dump_eq_object record, kind.fields_follow.names_dump record⟩, ?_,
    fun channel hchannel relays hrelays => ?_⟩
  · obtain ⟨inside, hinside⟩ := hholds.exists_valid hvalid hpart
    obtain ⟨members, rfl, hfields⟩ := exists_members_of_valid hinside
    exact ⟨members, rfl, fun name hname => exists_member_of_required hfields hname⟩
  · exact validate_eq_ok_iff.2 (kind.schema_stable json record hvalid)
  · have hread : OctoChannel.schema.check (OctoChannel.schema.dump channel) = .valid channel :=
      schema_stable .octoChannel json channel (validate_eq_ok_iff.1 hchannel)
    exact validate_eq_ok_iff.2 (OctoChannel.check_dumpListing hread hrelays)

/-- Digits, a truth value and a whole decimal stand for integers, a relay is repeated, one field is
absent and another one unknown. -/
theorem validated_sound_and_stable_coerced :
    let json : Json := .object [
      ("expire", .string " 0_60.0"), ("unknown", .null),
      ("relays", .array [.string "b", .string "a", .string "b"]),
      ("rtp_header_extensions", .array [.object [("id", .bool true), ("uri", .string "urn:a")]]),
      ("payload_types", .array [.object [("id", .decimal 960 (-1)), ("name", .string "VP8"),
        ("parameters", .object [("z", .string "1"), ("a", .string "2")])]])]
    let channel : OctoChannel :=
      { id := none, expire := 60, relays := .ofList ["a", "b"],
        extensions := [{ number := 1, uri := "urn:a" }],
        payloadTypes := [{
          number := 96, name := "VP8", clockRate := 0, channels := 1,
          parameters := .ofList [("a", "2"), ("z", "1")], feedback := [] }],
        sources := [], groups := [] }
    RecordKind.octoChannel.validate json = .ok channel ∧
      RecordKind.octoChannel.validate (OctoChannel.schema.dump channel) = .ok channel ∧
      RecordKind.octoChannel.validate (channel.dumpListing ["b", "a"]) = .ok channel ∧
      json.at? [.name "payload_types", .position 0, .name "id"] ≠
        (OctoChannel.schema.dump channel).at? [.name "payload_types", .position 0, .name "id"] := by
  intro json channel
  have hvalid : RecordKind.octoChannel.validate json = .ok channel := rfl
  obtain ⟨_, _, _, hstable, hlisted⟩ := validated_sound_and_stable hvalid
  have hrelays : ∀ relay, relay ∈ ["b", "a"] ↔ relay ∈ channel.relays.toList := by
    intro relay
    have hlist : channel.relays.toList = ["a", "b"] := rfl
    simp [hlist, or_comm]
  refine ⟨hvalid, hstable, hlisted channel hvalid _ hrelays, ?_⟩
  intro hsame
  cases hsame

end RecordKind

end ConferenceBridge
