import ConferenceBridge.Schema.Record

/-!
# What schemas ensure

A schema ensures a property if every value that it accepts has it. Each way of building a schema
carries the properties of its parts over to the whole, so the bounds of a record are read off the
schemas of its fields.
-/

namespace ConferenceBridge

namespace Checked

variable {α β : Type} {P : α → Prop} {Q : β → Prop}

/-- A property of the value, should there be one. -/
def Ensures (outcome : Checked α) (property : α → Prop) : Prop :=
  ∀ value, outcome = .valid value → property value

/-- A valid outcome has the property of its value. -/
theorem Ensures.valid {value : α} (h : P value) : (Checked.valid value).Ensures P := by
  intro other hother
  cases hother
  exact h

/-- A failure has every property, as there is no value. -/
theorem Ensures.fail (cause : Cause) : (Checked.fail cause : Checked α).Ensures P := by
  intro value hvalue
  cases hvalue

/-- A value keeps its property when faults are seen from one step further outside. -/
theorem Ensures.under {outcome : Checked α} (h : outcome.Ensures P) (step : Step) :
    (outcome.under step).Ensures P := by
  intro value hvalue
  exact h value (under_eq_valid_iff.1 hvalue)

/-- A function carries the property over to its results. -/
theorem Ensures.map {outcome : Checked α} {f : α → β} (h : outcome.Ensures P)
    (hf : ∀ value, P value → Q (f value)) : (outcome.map f).Ensures Q := by
  intro result hresult
  obtain ⟨value, hvalue, rfl⟩ := map_eq_valid_iff.1 hresult
  exact hf value (h value hvalue)

/-- The two values of a pair have the properties of their outcomes. -/
theorem Ensures.both {first : Checked α} {second : Checked β} (hfirst : first.Ensures P)
    (hsecond : second.Ensures Q) :
    (first.both second).Ensures fun pair => P pair.1 ∧ Q pair.2 := by
  rintro ⟨a, b⟩ hpair
  obtain ⟨ha, hb⟩ := both_eq_valid_iff.1 hpair
  exact ⟨hfirst a ha, hsecond b hb⟩

/-- Going on with a value ensures what follows from the property of that value. -/
theorem Ensures.bind {outcome : Checked α} {next : α → Checked β} (h : outcome.Ensures P)
    (hnext : ∀ value, P value → (next value).Ensures Q) : (outcome.bind next).Ensures Q := by
  cases outcome with
  | valid value => exact hnext value (h value rfl)
  | invalid faults =>
    intro value hvalue
    cases hvalue

end Checked

namespace Schema

variable {α : Type} {P : α → Prop}

/-- A property of all values that a schema accepts. -/
def Ensures (schema : Schema α) (property : α → Prop) : Prop :=
  ∀ json, (schema.check json).Ensures property

/-- Values that a schema accepts, each read from some JSON. -/
def Accepts (schema : Schema α) (value : α) : Prop := ∃ json, schema.check json = .valid value

/-- An accepted value has the property that the schema ensures. -/
theorem Ensures.of_accepts {schema : Schema α} (h : schema.Ensures P) {value : α}
    (haccepts : schema.Accepts value) : P value := by
  obtain ⟨json, hjson⟩ := haccepts
  exact h json value hjson

/-- Every schema ensures what holds of all values. -/
theorem Ensures.trivial {schema : Schema α} : schema.Ensures fun _ => True :=
  fun _ _ _ => True.intro

/-- An accepted text is not empty where it must not be. -/
theorem Ensures.nonEmptyText : nonEmptyText.Ensures fun value => value ≠ "" := by
  intro json
  refine Checked.Ensures.bind (Ensures.trivial json) fun value _ => ?_
  split
  · exact .fail _
  · next hempty =>
    refine .valid ?_
    rintro rfl
    exact hempty rfl

/-- An accepted integer keeps to its lower bound. -/
theorem Ensures.integerFrom (lower : Int) :
    (integerFrom lower).Ensures fun value => lower ≤ value := by
  intro json
  refine Checked.Ensures.bind (P := fun _ => True) (fun _ _ => True.intro) fun value _ => ?_
  split
  · exact .fail _
  · next hlower => exact .valid (by omega)

/-- An accepted integer keeps to both of its bounds. -/
theorem Ensures.integerBetween (lower upper : Int) :
    (integerBetween lower upper).Ensures fun value => lower ≤ value ∧ value ≤ upper := by
  intro json
  refine Checked.Ensures.bind (Ensures.integerFrom lower json) fun value hlower => ?_
  split
  · exact .fail _
  · next hupper => exact .valid ⟨hlower, by omega⟩

/-- Items that are checked one after the other all have the property of their schema. -/
theorem Ensures.checkItems {schema : Schema α} (h : schema.Ensures P) (index : Nat)
    (items : List Json) :
    (checkItems schema index items).Ensures fun values => ∀ value ∈ values, P value := by
  induction items generalizing index with
  | nil => exact .valid (by simp)
  | cons item items ih =>
    refine Checked.Ensures.map (((h item).under _).both (ih (index + 1))) fun pair hpair => ?_
    exact List.forall_mem_cons.2 hpair

/-- An accepted value has the property unless it is absent. -/
theorem Ensures.optional {schema : Schema α} (h : schema.Ensures P) :
    (optional schema).Ensures fun read => ∀ value, read = some value → P value := by
  intro json
  cases json with
  | null => exact .valid nofun
  | _ =>
    refine Checked.Ensures.map (h _) fun value hvalue other hother => ?_
    cases hother
    exact hvalue

/-- The members of an accepted list have the property of its items. -/
theorem Ensures.list {schema : Schema α} (h : schema.Ensures P) :
    (list schema).Ensures fun values => ∀ value ∈ values, P value := by
  intro json
  cases json with
  | array items => exact Ensures.checkItems h 0 items
  | _ => exact .fail _

end Schema

namespace Field

variable {α : Type} {P : α → Prop}

/-- A property of all values of a field, whether its member is present or not. -/
def Ensures (field : Field α) (property : α → Prop) : Prop :=
  ∀ member, (field.check member).Ensures property

/-- Every field ensures what holds of all values. -/
theorem Ensures.trivial {field : Field α} : field.Ensures fun _ => True :=
  fun _ _ _ => True.intro

/-- A field that must be present has the property of its schema. -/
theorem Ensures.required (name : String) {schema : Schema α} (h : schema.Ensures P) :
    (required name schema).Ensures P := by
  intro member
  cases member with
  | none => exact .fail _
  | some json => exact h json

/-- A field that may be absent has the property if its default has it. -/
theorem Ensures.withDefault (name : String) {schema : Schema α} {default : α}
    (h : schema.Ensures P) (hdefault : P default) :
    (withDefault name schema default).Ensures P := by
  intro member
  cases member with
  | none => exact .valid hdefault
  | some json => exact h json

end Field

namespace Fields

variable {α β : Type} {P : α → Prop} {Q : β → Prop}

/-- A property of the values of several fields. -/
def Ensures (fields : Fields α) (property : α → Prop) : Prop :=
  ∀ members, (fields.check members).Ensures property

/-- A single field has the same property as the only one of several. -/
theorem Ensures.one {field : Field α} (h : field.Ensures P) : (one field).Ensures P :=
  fun members => (h (members field.name)).under _

/-- A field in front of others has its property, and they have theirs. -/
theorem Ensures.cons {field : Field α} {rest : Fields β} (hfield : field.Ensures P)
    (hrest : rest.Ensures Q) : (cons field rest).Ensures fun value => P value.1 ∧ Q value.2 :=
  fun members => (Ensures.one hfield members).both (hrest members)

/-- Fields make a value with a property if it follows from those of the fields. -/
theorem Ensures.as {fields : Fields α} {make : α → β} {parts : β → α} (h : fields.Ensures P)
    (hmake : ∀ value, P value → Q (make value)) : (fields.as make parts).Ensures Q :=
  fun members => (h members).map hmake

end Fields

/-- A record has the property of its fields. -/
theorem Schema.Ensures.record {α : Type} {P : α → Prop} (title : String) {fields : Fields α}
    (h : fields.Ensures P) : (Schema.record title fields).Ensures P := by
  intro json
  cases json with
  | object members => exact h _
  | _ => exact .fail _

end ConferenceBridge
