import ConferenceBridge.Schema.Basic

/-!
# Records

A record is read field by field. Every field is checked whatever the others hold, and its faults are
found under its name, so the faults of a record are those of its fields one after the other.
-/

namespace ConferenceBridge

/-- One field of a record: its name, how it is read from a member that may be absent, and how it is
written. -/
structure Field (α : Type) where
  /-- The name of the member that holds the field. -/
  name : String
  /-- Reads the field from the member's value, which is absent if there is no such member. -/
  check : Option Json → Checked α
  /-- Writes the field. -/
  dump : α → Json

namespace Field

variable {α : Type}

/-- A field that has to be present. -/
def required (name : String) (schema : Schema α) : Field α where
  name
  check
    | some value => schema.check value
    | none => .fail .missing
  dump := schema.dump

/-- A field with a value that it takes when it is absent. -/
def withDefault (name : String) (schema : Schema α) (default : α) : Field α where
  name
  check
    | some value => schema.check value
    | none => .valid default
  dump := schema.dump

/-- A field that may be absent or null. -/
def optional (name : String) (schema : Schema α) : Field (Option α) :=
  withDefault name schema.optional none

end Field

/-- Several fields of a record in order of declaration. -/
structure Fields (α : Type) where
  /-- Reads the fields, given the record's members. -/
  check : (String → Option Json) → Checked α
  /-- Writes the fields as named values. -/
  dump : α → List (String × Json)
  /-- For each field its name and the faults of a member that holds it. -/
  faults : List (String × (Option Json → List Fault))

namespace Fields

variable {α β : Type}

/-- A single field. -/
def one (field : Field α) : Fields α where
  check members := (field.check (members field.name)).under (.field field.name)
  dump value := [(field.name, field.dump value)]
  faults := [(field.name, fun member => (field.check member).faults)]

/-- One field followed by others. -/
def cons (field : Field α) (rest : Fields β) : Fields (α × β) where
  check members := ((one field).check members).both (rest.check members)
  dump value := (one field).dump value.1 ++ rest.dump value.2
  faults := (one field).faults ++ rest.faults

/-- The same fields as the parts of another type. -/
def as (fields : Fields α) (make : α → β) (parts : β → α) : Fields β where
  check members := (fields.check members).map make
  dump value := fields.dump (parts value)
  faults := fields.faults

end Fields

/-- A record with a title, read from an object. Members that are no fields are passed over. -/
def Schema.record {α : Type} (title : String) (fields : Fields α) : Schema α where
  check
    | .object members => fields.check (Json.memberOf? members)
    | _ => .fail (.notRecord title)
  dump value := .object (fields.dump value)

end ConferenceBridge
