import ConferenceBridge.Double
import ConferenceBridge.Json.Basic
import ConferenceBridge.MachineWord
import ConferenceBridge.RelaySet
import ConferenceBridge.Schema.Checked
import ConferenceBridge.Text.Numeral.Lenient

/-!
# Schemas

A schema reads values of a type from JSON and writes them back. Reading is lenient where a value can
be understood in one way only: a truth value or a whole decimal number may stand for an integer, and
so may a text in digits. Writing is canonical, so what is written is read back as it was.
-/

namespace ConferenceBridge

/-- How values of a type are read from JSON, and how they are written in full. -/
structure Schema (α : Type) where
  /-- Reads a value and collects what is wrong with it. -/
  check : Json → Checked α
  /-- Writes a value with all its fields. -/
  dump : α → Json

namespace Schema

variable {α : Type}

/-- Any text. -/
def text : Schema String where
  check
    | .string value => .valid value
    | _ => .fail .notText
  dump := .string

/-- A text with at least one character. -/
def nonEmptyText : Schema String where
  check value := (text.check value).bind fun read =>
    if read.isEmpty then .fail .emptyText else .valid read
  dump := .string

/-- The integer that a decimal number stands for. It has to fit into a machine word, and so does its
negation. -/
def readDecimal (mantissa exponent : Int) : Checked Int :=
  match nearestDouble mantissa exponent with
  | .whole value =>
    if fitsMachineWord value && fitsMachineWord (-value) then .valid value else .fail .longNumeral
  | .fractional => .fail .fractional
  | .infinite => .fail .infinite

/-- The integer that a value stands for. One that is written as an integer may have any size. -/
def readInteger : Json → Checked Int
  | .integer value => .valid value
  | .bool value => .valid (if value then 1 else 0)
  | .decimal mantissa exponent => readDecimal mantissa exponent
  | .nonFinite _ => .fail .infinite
  | .string value =>
    match Text.readLenientInteger value with
    | .ok value => .valid value
    | .error .malformed => .fail .notNumeral
    | .error (.tooLong _) => .fail .longNumeral
  | _ => .fail .notInteger

/-- Any integer. -/
def integer : Schema Int where
  check := readInteger
  dump := .integer

/-- An integer with a lower bound. -/
def integerFrom (lower : Int) : Schema Int where
  check value := (readInteger value).bind fun read =>
    if read < lower then .fail (.below lower) else .valid read
  dump := .integer

/-- An integer with a lower and an upper bound. -/
def integerBetween (lower upper : Int) : Schema Int where
  check value := ((integerFrom lower).check value).bind fun read =>
    if upper < read then .fail (.above upper) else .valid read
  dump := .integer

/-- The texts for a true value, in small letters. -/
def affirmations : List String := ["1", "t", "true", "y", "yes", "on"]

/-- The texts for a false value, in small letters. -/
def negations : List String := ["0", "f", "false", "n", "no", "off"]

/-- The truth value that a text stands for in any case of its plain letters. -/
def truthOfText (text : String) : Checked Bool :=
  let folded := String.ofList (text.toList.map Char.toLower)
  if affirmations.contains folded then .valid true
  else if negations.contains folded then .valid false
  else .fail .unclearTruth

/-- The truth value that a whole number stands for. One that fits into no machine word does not even
look like one. -/
def truthOfWhole (value : Int) : Checked Bool :=
  if value = 0 then .valid false
  else if value = 1 then .valid true
  else if fitsMachineWord value then .fail .unclearTruth
  else .fail .notTruth

/-- A truth value. The numbers one and zero and several words may stand for one. -/
def truth : Schema Bool where
  check
    | .bool value => .valid value
    | .integer value => truthOfWhole value
    | .decimal mantissa exponent =>
      match readDecimal mantissa exponent with
      | .valid value => truthOfWhole value
      | .invalid _ => .fail .notTruth
    | .string value => truthOfText value
    | _ => .fail .notTruth
  dump := .bool

/-- A value or null. -/
def optional (schema : Schema α) : Schema (Option α) where
  check
    | .null => .valid none
    | value => (schema.check value).map some
  dump
    | some value => schema.dump value
    | none => .null

/-- Checks the items of a list, the first of which has the given index. -/
def checkItems (schema : Schema α) (index : Nat) : List Json → Checked (List α)
  | [] => .valid []
  | item :: items =>
    (((schema.check item).under (.index index)).both (checkItems schema (index + 1) items)).map
      fun (value, values) => value :: values

/-- A list of values. -/
def list (schema : Schema α) : Schema (List α) where
  check
    | .array items => checkItems schema 0 items
    | _ => .fail .notList
  dump values := .array (values.map schema.dump)

/-- A set of relays, read from a list in which a relay may be repeated. -/
def relays : Schema RelaySet where
  check
    | .array items => (checkItems text 0 items).map RelaySet.ofList
    | _ => .fail .notSet
  dump set := .array (set.toList.map .string)

/-- Checks the values of a map's entries. -/
def checkEntries (schema : Schema α) : List (String × Json) → Checked (List (String × α))
  | [] => .valid []
  | (name, value) :: entries =>
    (((schema.check value).under (.key name)).both (checkEntries schema entries)).map
      fun (read, rest) => (name, read) :: rest

/-- A map from texts to texts. Its entries are taken in order of their keys. -/
def textTable : Schema (Table String String) where
  check
    | .object members => (checkEntries text (Table.ofList members).entries).map Table.ofList
    | _ => .fail .notMap
  dump table := .object (table.entries.map fun (name, value) => (name, .string value))

end Schema

end ConferenceBridge
