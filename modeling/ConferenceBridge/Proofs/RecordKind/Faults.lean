import ConferenceBridge.Proofs.Schema.Faults
import ConferenceBridge.Validation

/-!
# Faults of records

All faults of a value are reported, each at a place of its own. The faults of a record are those of
its fields in order of declaration, so what one field holds has no influence on what is reported of
the others.
-/

namespace ConferenceBridge

/-! ### Values without records -/

namespace Addressed

variable {α β : Type} {json : Json} {requires : Place → String → Prop}

/-- A value that was read has no faults to be found. -/
theorem valid (value : α) : Addressed json requires (Checked.valid value).faults := nil

/-- A failure is found at the value itself, unless its cause is a missing field. -/
theorem fail {cause : Cause} (h : cause ≠ .missing) :
    Addressed json requires (Checked.fail cause : Checked α).faults := root h

/-- Going on with a value adds faults only where there were none. -/
theorem bind {outcome : Checked α} {next : α → Checked β}
    (h : Addressed json requires outcome.faults)
    (hnext : ∀ value, Addressed json requires (next value).faults) :
    Addressed json requires (outcome.bind next).faults := by
  cases outcome with
  | valid value => exact hnext value
  | invalid faults => exact h

/-- The faults of the items of a list have the positions of the items. -/
theorem items {schema : Schema α} {items : List Json}
    (h : ∀ position item, Addressed item (fun record => requires (.position position :: record))
      (schema.check item).faults) :
    Addressed (.array items) requires (items.zipIdx.flatMap fun item =>
      (schema.check item.1).faults.map (Fault.under (.index item.2))) := by
  refine flatMap ?_ fun item hitem => (h item.2 item.1).under ?_
  · have hpositions : (items.zipIdx.map fun item => (Step.index item.2).mark) =
        (items.zipIdx.map Prod.snd).map Mark.position := by
      rw [List.map_map]
      rfl
    rw [hpositions, List.zipIdx_map_snd]
    exact (List.nodup_range' ..).map fun _ _ hsame => Mark.position.inj hsame
  · exact List.mem_zipIdx_iff_getElem?.1 hitem

/-- The faults of a list have the positions of its items. -/
theorem list {schema : Schema α}
    (h : ∀ position item, Addressed item (fun record => requires (.position position :: record))
      (schema.check item).faults) (json : Json) :
    Addressed json requires (schema.list.check json).faults := by
  cases json with
  | array list =>
    rw [Schema.faults_list]
    exact items h
  | _ => exact root nofun

end Addressed

namespace Schema

/-- What is wrong with a text is found at the text itself. -/
theorem addressed_text (json : Json) (requires : Place → String → Prop) :
    Addressed json requires (text.check json).faults := by
  cases json with
  | string value => exact .valid value
  | _ => exact .fail nofun

/-- What is wrong with a decimal number is found at the number itself. -/
theorem addressed_readDecimal (mantissa exponent : Int) (json : Json)
    (requires : Place → String → Prop) :
    Addressed json requires (readDecimal mantissa exponent).faults := by
  unfold readDecimal
  split
  · split
    · exact .valid _
    · exact .fail nofun
  · exact .fail nofun
  · exact .fail nofun

/-- What is wrong with an integer is found at the integer itself. -/
theorem addressed_readInteger (json : Json) (requires : Place → String → Prop) :
    Addressed json requires (readInteger json).faults := by
  unfold readInteger
  split
  · exact .valid _
  · exact .valid _
  · exact addressed_readDecimal _ _ _ requires
  · exact .fail nofun
  · split
    · exact .valid _
    · exact .fail nofun
    · exact .fail nofun
  · exact .fail nofun

/-- An integer below its bound is found to be wrong at the integer itself. -/
theorem addressed_integerFrom (lower : Int) (json : Json) (requires : Place → String → Prop) :
    Addressed json requires ((integerFrom lower).check json).faults := by
  refine (addressed_readInteger json requires).bind fun value => ?_
  split
  · exact .fail nofun
  · exact .valid value

/-- What holds no records has its faults where they are reported. No field of it is missing. -/
theorem Plain.addressed {α : Type} {schema : Schema α} (h : schema.Plain) (json : Json)
    (requires : Place → String → Prop) : Addressed json requires (schema.check json).faults := by
  induction h generalizing json requires with
  | text => exact addressed_text json requires
  | nonEmptyText =>
    refine (addressed_text json requires).bind fun value => ?_
    split
    · exact .fail nofun
    · exact .valid value
  | integer => exact addressed_readInteger json requires
  | integerFrom lower => exact addressed_integerFrom lower json requires
  | integerBetween lower upper =>
    refine (addressed_integerFrom lower json requires).bind fun value => ?_
    split
    · exact .fail nofun
    · exact .valid value
  | @optional _ schema _ _ ih =>
    by_cases hnull : json = .null
    · rw [hnull]
      exact .valid _
    · rw [check_optional hnull, Checked.faults_map]
      exact ih json requires
  | list _ ih => exact Addressed.list (fun _ item => ih item _) json
  | relays =>
    cases json with
    | array items =>
      rw [faults_relays]
      exact Addressed.items fun _ item => addressed_text item _
    | _ => exact .fail nofun
  | textTable =>
    cases json with
    | object members =>
      rw [faults_textTable]
      refine Addressed.flatMap ?_ fun entry hentry => (addressed_text entry.2 _).under ?_
      · have hkeys := (Table.ofList members).nodup_keys.map fun _ _ hsame => Mark.name.inj hsame
        rwa [List.map_map] at hkeys
      · -- The last member of a name is the one in the table.
        have hget : (Table.ofList members).get? entry.1 = some entry.2 :=
          (Entries.find?_eq_some_iff (Table.nodup_keys _)).2 hentry
        rw [Table.get?_ofList, ← Json.memberOf?_eq_find?] at hget
        exact hget
    | _ => exact .fail nofun

end Schema

/-! ### Fields -/

namespace Fields

variable {α : Type} {fields : Fields α} {outline : List (String × FieldRole)}

/-- The faults are listed field by field in order of declaration. -/
theorem Follow.names_faults (h : fields.Follow outline) :
    fields.faults.map Prod.fst = outline.map Prod.fst := by
  induction h with
  | one => rfl
  | cons _ _ ih => exact congrArg (List.cons _) ih
  | as _ _ ih => exact ih

/-- The faults of fields are those of one field after the other, each under the name of its
field. -/
theorem Follow.faults_check (h : fields.Follow outline) (members : String → Option Json) :
    (fields.check members).faults =
      fields.faults.flatMap fun field =>
        (field.2 (members field.1)).map (Fault.under (.field field.1)) := by
  induction h with
  | one =>
    rw [Fields.one, Checked.faults_under, List.flatMap_singleton]
  | cons _ _ ih =>
    rw [Fields.cons, Checked.faults_both, ih, List.flatMap_append, Fields.one,
      Checked.faults_under, List.flatMap_singleton]
  | as _ _ ih =>
    rw [Fields.as, Checked.faults_map]
    exact ih

/-- The faults that are listed are those of fields of the outline. -/
theorem Follow.exists_field (h : fields.Follow outline)
    {entry : String × (Option Json → List Fault)} (hentry : entry ∈ fields.faults) :
    ∃ (β : Type) (field : Field β) (role : FieldRole), field.Plays role ∧
      (field.name, role) ∈ outline ∧
      entry = (field.name, fun member => (field.check member).faults) := by
  induction h with
  | @one _ field role hplays =>
    exact ⟨_, field, role, hplays, List.mem_singleton_self _, List.mem_singleton.1 hentry⟩
  | @cons _ _ field role _ _ hplays _ ih =>
    rcases List.mem_cons.1 hentry with hhere | hthere
    · exact ⟨_, field, role, hplays, List.mem_cons_self, hhere⟩
    · obtain ⟨β, other, part, hother, hmem, hsame⟩ := ih hthere
      exact ⟨β, other, part, hother, List.mem_cons_of_mem _ hmem, hsame⟩
  | as _ _ ih => exact ih hentry

end Fields

/-! ### Kinds of records -/

namespace RecordKind

/-- The faults of a value as a record of a kind. -/
def faults (kind : RecordKind) (json : Json) : List Fault := (kind.schema.check json).faults

/-- A field is required of the record at a place. -/
def Requires (kind : RecordKind) (place : Place) (name : String) : Prop :=
  ∃ inner, kind.Holds place inner ∧ (name, .required) ∈ inner.outline

/-- The faults of a record are those of its fields in order of declaration. -/
theorem faults_object (kind : RecordKind) (members : List (String × Json)) :
    kind.faults (.object members) =
      kind.fields.faults.flatMap fun field =>
        (field.2 (Json.memberOf? members field.1)).map (Fault.under (.field field.1)) := by
  rw [faults, schema_eq_record]
  exact kind.fields_follow.faults_check _

/-- The faults of a field are found under its name, if the records that the field holds have theirs
where they are reported. -/
theorem addressed_field {kind : RecordKind} {α : Type} {field : Field α} {role : FieldRole}
    (hplays : field.Plays role) (hrole : (field.name, role) ∈ kind.outline)
    (hinner : ∀ inner, role = .records inner →
      ∀ json, Addressed json inner.Requires (inner.faults json))
    (members : List (String × Json)) :
    Addressed (.object members) kind.Requires
      ((field.check (Json.memberOf? members field.name)).faults.map
        (Fault.under (.field field.name))) := by
  cases hmember : Json.memberOf? members field.name with
  | none =>
    cases hplays with
    | required name _ => exact .missing hmember ⟨kind, .here kind, hrole⟩
    | optional | records => exact .nil
  | some json =>
    refine Addressed.under ?_ hmember
    cases hplays with
    | required _ hplain | optional _ hplain => exact hplain.addressed json _
    | records name inner =>
      refine Addressed.list (fun position item => ?_) json
      refine (hinner inner rfl item).mono fun record required hrequired => ?_
      obtain ⟨innermost, hholds, hmem⟩ := hrequired
      exact ⟨innermost, .inside hrole hholds, hmem⟩

/-- Every fault of a record is found where it is reported, and no two are found at one place. -/
theorem addressed (kind : RecordKind) (json : Json) :
    Addressed json kind.Requires (kind.faults json) := by
  induction kind using induction_inside generalizing json with
  | step kind ih =>
    cases json with
    | object members =>
      rw [faults_object]
      refine Addressed.flatMap ?_ fun entry hentry => ?_
      · have hnames := kind.nodup_outline.map fun _ _ hsame => Mark.name.inj hsame
        rwa [← kind.fields_follow.names_faults, List.map_map] at hnames
      · obtain ⟨β, field, role, hplays, hrole, rfl⟩ := kind.fields_follow.exists_field hentry
        refine addressed_field hplays hrole (fun inner hinner => ?_) members
        subst hinner
        exact ih field.name inner hrole
    | _ =>
      rw [faults, schema_eq_record]
      exact .root nofun

end RecordKind

namespace RecordKind

end RecordKind

end ConferenceBridge
