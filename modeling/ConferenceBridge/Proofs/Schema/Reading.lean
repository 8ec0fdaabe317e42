import ConferenceBridge.Proofs.Table
import ConferenceBridge.Schema.Record

/-!
# What schemas read

A schema reads a value from JSON if it accepts the JSON and the value is the outcome. A record is
read from an object if each of its fields is read from the member of its name, so it does not matter
whether a member with a default value is written.
-/

namespace ConferenceBridge

namespace Json

/-- Looking up a member goes through the last members first. -/
@[simp] theorem memberOf?_append (left right : List (String × Json)) (name : String) :
    memberOf? (left ++ right) name = (memberOf? right name).or (memberOf? left name) := by
  rw [memberOf?, List.reverse_append, List.find?_append, Option.map_or]
  rfl

/-- The first member is found if no other member has its name. -/
@[simp] theorem memberOf?_cons (member : String × Json) (members : List (String × Json))
    (name : String) :
    memberOf? (member :: members) name =
      (memberOf? members name).or (if member.1 = name then some member.2 else none) := by
  rw [← List.singleton_append, memberOf?_append]
  by_cases h : member.1 = name <;> simp [memberOf?, h]

/-- A member that is left out is not found. -/
@[simp] theorem memberOf?_unless (omitted : Prop) [Decidable omitted] (member : String × Json)
    (name : String) :
    memberOf? (if omitted then [] else [member]) name =
      if omitted then none else if member.1 = name then some member.2 else none := by
  split
  · rfl
  · exact memberOf?_cons member [] name

/-- Writing other values under the same names replaces what is found. -/
theorem memberOf?_map (f : String → Json → Json) (members : List (String × Json)) (name : String) :
    memberOf? (members.map fun member => (member.1, f member.1 member.2)) name =
      (memberOf? members name).map (f name) := by
  rw [memberOf?, ← List.map_reverse, List.find?_map, Option.map_map, memberOf?, Option.map_map]
  refine Option.map_congr fun member hmember => ?_
  have hname : member.1 = name := by simpa using List.find?_some hmember
  simp [hname]

/-- Looking up a member is looking for the last entry of its name. -/
theorem memberOf?_eq_find? (members : List (String × Json)) (name : String) :
    memberOf? members name = Entries.find? name members.reverse := by
  induction members with
  | nil => rfl
  | cons member rest ih =>
    rw [memberOf?_cons, ih, List.reverse_cons, Entries.find?_append, Entries.find?_cons,
      Entries.find?_nil]

/-- Members of different names are all found. -/
theorem memberOf?_eq_some_of_mem {members : List (String × Json)}
    (hdistinct : (members.map Prod.fst).Nodup) {name : String} {json : Json}
    (h : (name, json) ∈ members) : memberOf? members name = some json := by
  have hreverse : (members.reverse.map Prod.fst).Nodup := by
    rw [List.map_reverse]
    exact List.nodup_reverse.2 hdistinct
  rw [memberOf?_eq_find?, Entries.find?_eq_some_iff hreverse]
  exact List.mem_reverse.2 h

end Json

namespace Schema

variable {α : Type}

/-- An integer that is not too small is read from itself. -/
theorem check_integerFrom {lower n : Int} (h : lower ≤ n) :
    (integerFrom lower).check (.integer n) = .valid n :=
  if_neg (by omega)

/-- An integer within its bounds is read from itself. -/
theorem check_integerBetween {lower upper n : Int} (hlower : lower ≤ n) (hupper : n ≤ upper) :
    (integerBetween lower upper).check (.integer n) = .valid n := by
  have hread : (integerBetween lower upper).check (.integer n) =
      ((integerFrom lower).check (.integer n)).bind fun read =>
        if upper < read then .fail (.above upper) else .valid read := rfl
  rw [hread, check_integerFrom hlower]
  exact if_neg (by omega)

/-- A value that is not null is read as it is without the option of null. -/
theorem check_optional {schema : Schema α} {json : Json} (h : json ≠ .null) :
    schema.optional.check json = (schema.check json).map some := by
  cases json with
  | null => exact absurd rfl h
  | _ => rfl

/-- Values are read from what each of them is read from. -/
theorem checkItems_map {schema : Schema α} {write : α → Json} {values : List α}
    (h : ∀ value ∈ values, schema.check (write value) = .valid value) (index : Nat) :
    checkItems schema index (values.map write) = .valid values := by
  induction values generalizing index with
  | nil => rfl
  | cons value values ih =>
    obtain ⟨hvalue, hvalues⟩ := List.forall_mem_cons.1 h
    rw [List.map_cons, checkItems, hvalue, ih hvalues]
    rfl

/-- Texts under names are read from the texts. -/
theorem checkEntries_text (entries : List (String × String)) :
    checkEntries text (entries.map fun entry => (entry.1, .string entry.2)) = .valid entries := by
  induction entries with
  | nil => rfl
  | cons entry entries ih =>
    rw [List.map_cons, checkEntries, ih]
    rfl

/-- A map is read from its entries in any order. -/
theorem check_textTable {table : Table String String} {entries : List (String × String)}
    (h : entries.Perm table.entries) :
    textTable.check (.object (entries.map fun entry => (entry.1, .string entry.2))) =
      .valid table := by
  have hmembers : Table.ofList (entries.map fun entry => (entry.1, Json.string entry.2)) =
      table.mapValues Json.string := Table.ofList_of_perm (h.map _)
  have hread : textTable.check (.object (entries.map fun entry => (entry.1, .string entry.2))) =
      (checkEntries text (Table.ofList
        (entries.map fun entry => (entry.1, Json.string entry.2))).entries).map Table.ofList := rfl
  rw [hread, hmembers, Table.mapValues, checkEntries_text, Checked.map,
    Table.ofList_of_perm (.refl _)]

end Schema

/-- A field that was left out because it has its default is read as the default. -/
theorem Field.check_withDefault {α : Type} {name : String} {schema : Schema α} {default value : α}
    {omitted : Prop} [Decidable omitted] {json : Json} (homitted : omitted → value = default)
    (hjson : ¬omitted → schema.check json = .valid value) :
    (Field.withDefault name schema default).check (if omitted then none else some json) =
      .valid value := by
  by_cases h : omitted
  · rw [if_pos h, homitted h]
    rfl
  · rw [if_neg h]
    exact hjson h

namespace Fields

variable {α β : Type} {members : String → Option Json}

/-- A single field is read from its member. -/
theorem check_one {field : Field α} {value : α}
    (h : field.check (members field.name) = .valid value) :
    (one field).check members = .valid value :=
  Checked.under_eq_valid_iff.2 h

/-- Fields are read from the members one after the other. -/
theorem check_cons {field : Field α} {rest : Fields β} {value : α} {values : β}
    (h : field.check (members field.name) = .valid value)
    (hrest : rest.check members = .valid values) :
    (cons field rest).check members = .valid (value, values) :=
  Checked.both_eq_valid_iff.2 ⟨check_one h, hrest⟩

end Fields

end ConferenceBridge
