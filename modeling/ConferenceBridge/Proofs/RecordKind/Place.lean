import ConferenceBridge.Proofs.RecordKind.Outline

/-!
# Places in a value

A place is reported as a list of names and positions, in which a field of a record and a key of a
map look the same. Following a place into a value may lead to a part of the value; the outlines say
at which places a record of one kind holds records of another.
-/

namespace ConferenceBridge

/-- A step into a value as it is reported. -/
inductive Mark where
  /-- Into a record or a map. -/
  | name (name : String)
  /-- Into a list. -/
  | position (position : Nat)
  deriving DecidableEq

/-- The way to a part of a value, from the outside in. -/
abbrev Place := List Mark

/-- How a step is reported. -/
def Step.mark : Step → Mark
  | .field name => .name name
  | .index position => .position position
  | .key name => .name name

/-- Where a fault is reported. -/
def Fault.place (fault : Fault) : Place := fault.path.map Step.mark

/-- Seen from one step further outside, the place of a fault begins with the mark of that step. -/
@[simp] theorem Fault.place_under (step : Step) (fault : Fault) :
    (fault.under step).place = step.mark :: fault.place := rfl

namespace Json

/-- The part of a value that a step leads to. -/
def into? : Json → Mark → Option Json
  | .object members, .name name => memberOf? members name
  | .array items, .position position => items[position]?
  | _, _ => none

/-- The part of a value at a place. -/
def at? (json : Json) (place : Place) : Option Json := place.foldlM into? json

/-- The empty place is that of the value itself. -/
@[simp] theorem at?_nil (json : Json) : json.at? [] = some json := rfl

/-- A place leads into the part of its first mark, and on from there. -/
@[simp] theorem at?_cons (json : Json) (mark : Mark) (place : Place) :
    json.at? (mark :: place) = (json.into? mark).bind fun part => part.at? place := rfl

example : (Json.object [("a", .array [.null, .integer 7])]).at? [.name "a", .position 1] =
    some (.integer 7) := rfl

end Json

/-- Records of one kind hold records of another at a place. -/
inductive RecordKind.Holds : RecordKind → Place → RecordKind → Prop where
  /-- A record is its own outermost record. -/
  | here (kind : RecordKind) : Holds kind [] kind
  /-- Further records stand in the lists of records that the fields hold. -/
  | inside {kind inner innermost : RecordKind} {name : String} {position : Nat} {place : Place} :
    (name, .records inner) ∈ kind.outline → Holds inner place innermost →
    Holds kind (.name name :: .position position :: place) innermost

namespace Schema

variable {α : Type}

/-- The items of an accepted list are accepted. -/
theorem exists_valid_of_checkItems {schema : Schema α} {index position : Nat} {items : List Json}
    {values : List α} {item : Json} (h : checkItems schema index items = .valid values)
    (hitem : items[position]? = some item) : ∃ value, schema.check item = .valid value := by
  induction items generalizing index position values with
  | nil => simp at hitem
  | cons first rest ih =>
    obtain ⟨⟨value, others⟩, hboth, _⟩ := Checked.map_eq_valid_iff.1 h
    obtain ⟨hfirst, hrest⟩ := Checked.both_eq_valid_iff.1 hboth
    cases position with
    | zero =>
      obtain rfl : first = item := by simpa using hitem
      exact ⟨value, Checked.under_eq_valid_iff.1 hfirst⟩
    | succ position => exact ih hrest (by simpa using hitem)

end Schema

namespace Fields

variable {α : Type} {fields : Fields α} {outline : List (String × FieldRole)}
  {members : String → Option Json} {value : α} {name : String}

/-- What holds of the fields of accepted members holds of each role that they play: a field is
accepted with the member of its name. -/
theorem Follow.exists_check (h : fields.Follow outline)
    (hvalid : fields.check members = .valid value) {role : FieldRole}
    (hrole : (name, role) ∈ outline) :
    ∃ (β : Type) (field : Field β) (read : β), field.Plays role ∧
      field.check (members name) = .valid read := by
  induction h with
  | one hplays =>
    obtain ⟨rfl, rfl⟩ := Prod.mk.inj (List.mem_singleton.1 hrole)
    exact ⟨_, _, value, hplays, Checked.under_eq_valid_iff.1 hvalid⟩
  | cons hplays _ ih =>
    obtain ⟨hfirst, hrest⟩ := Checked.both_eq_valid_iff.1 hvalid
    rcases List.mem_cons.1 hrole with hhere | hthere
    · obtain ⟨rfl, rfl⟩ := Prod.mk.inj hhere
      exact ⟨_, _, value.1, hplays, Checked.under_eq_valid_iff.1 hfirst⟩
    · exact ih hrest hthere
  | as _ _ ih =>
    obtain ⟨inner, hinner, _⟩ := Checked.map_eq_valid_iff.1 hvalid
    exact ih hinner hrole

end Fields

namespace RecordKind

/-- A record that is accepted is an object, and its fields are accepted. -/
theorem exists_members_of_valid {kind : RecordKind} {json : Json} {record : kind.Carrier}
    (h : kind.schema.check json = .valid record) :
    ∃ members, json = .object members ∧
      kind.fields.check (Json.memberOf? members) = .valid record := by
  rw [schema_eq_record] at h
  cases json with
  | object members => exact ⟨members, rfl, h⟩
  | _ => cases h

/-- A required field of an accepted record is present. -/
theorem exists_member_of_required {kind : RecordKind} {members : List (String × Json)}
    {record : kind.Carrier} (h : kind.fields.check (Json.memberOf? members) = .valid record)
    {name : String} (hrequired : (name, .required) ∈ kind.outline) :
    ∃ member, Json.memberOf? members name = some member := by
  obtain ⟨β, field, read, hplays, hread⟩ := kind.fields_follow.exists_check h hrequired
  cases hplays with
  | required _ hplain =>
    cases hmember : Json.memberOf? members name with
    | none =>
      rw [hmember] at hread
      cases hread
    | some member => exact ⟨member, rfl⟩

/-- The records that an accepted record holds are accepted. -/
theorem Holds.exists_valid {kind inner : RecordKind} {place : Place} (h : kind.Holds place inner)
    {json part : Json} {record : kind.Carrier} (hvalid : kind.schema.check json = .valid record)
    (hpart : json.at? place = some part) : ∃ inside, inner.schema.check part = .valid inside := by
  induction h generalizing json with
  | here kind =>
    obtain rfl : json = part := by simpa using hpart
    exact ⟨record, hvalid⟩
  | @inside kind inner innermost name position place hname _ ih =>
    obtain ⟨members, rfl, hfields⟩ := exists_members_of_valid hvalid
    obtain ⟨β, field, read, hplays, hread⟩ := kind.fields_follow.exists_check hfields hname
    -- The place leads through a member with a list and through one of its items.
    simp only [Json.at?_cons, Json.into?, Option.bind_eq_some_iff] at hpart
    obtain ⟨member, hmember, item, hitem, hinner⟩ := hpart
    cases hplays with
    | records =>
      rw [hmember] at hread
      cases member with
      | array items =>
        obtain ⟨value, hvalue⟩ := Schema.exists_valid_of_checkItems hread hitem
        exact ih hvalue hinner
      | _ => cases hread

end RecordKind

end ConferenceBridge
