import ConferenceBridge.Json.Basic
import ConferenceBridge.Text.Numeral

/-!
# Compact JSON text

Values are written without spaces. In texts only the quotation mark, the backslash and the control
characters below the space are escaped; every other character stands for itself.
-/

namespace ConferenceBridge.Json

open Text

/-- One character of a text. -/
def writeChar (c : Char) : List Char :=
  if c = '"' then ['\\', '"']
  else if c = '\\' then ['\\', '\\']
  else if c = '\x08' then ['\\', 'b']
  else if c = '\t' then ['\\', 't']
  else if c = '\n' then ['\\', 'n']
  else if c = '\x0c' then ['\\', 'f']
  else if c = '\r' then ['\\', 'r']
  else if c.toNat < 0x20 then '\\' :: 'u' :: hexDigits 4 c.toNat
  else [c]

/-- A text between quotation marks. -/
def writeText (text : String) : List Char :=
  '"' :: (text.toList.flatMap writeChar ++ ['"'])

mutual

/-- A value without spaces. -/
def writeChars : Json → List Char
  | .null => ['n', 'u', 'l', 'l']
  | .bool true => ['t', 'r', 'u', 'e']
  | .bool false => ['f', 'a', 'l', 's', 'e']
  | .integer value => integerChars value
  | .decimal mantissa exponent => integerChars mantissa ++ 'e' :: integerChars exponent
  | .nonFinite value => value.name.toList
  | .string value => writeText value
  | .array items => '[' :: (writeItems items ++ [']'])
  | .object members => '{' :: (writeMembers members ++ ['}'])

/-- Values with commas between them. -/
def writeItems : List Json → List Char
  | [] => []
  | [item] => writeChars item
  | item :: items => writeChars item ++ ',' :: writeItems items

/-- Named values with commas between them. -/
def writeMembers : List (String × Json) → List Char
  | [] => []
  | [(name, value)] => writeText name ++ ':' :: writeChars value
  | (name, value) :: members =>
    writeText name ++ ':' :: (writeChars value ++ ',' :: writeMembers members)

end

/-- Between two items stands a comma. -/
theorem writeItems_more (item next : Json) (others : List Json) :
    writeItems (item :: next :: others) =
      writeChars item ++ ',' :: writeItems (next :: others) := by
  rw [writeItems]
  exact List.cons_ne_nil _ _

/-- Between two members stands a comma. -/
theorem writeMembers_more (name : String) (value : Json) (next : String × Json)
    (others : List (String × Json)) :
    writeMembers ((name, value) :: next :: others) =
      writeText name ++ ':' :: (writeChars value ++ ',' :: writeMembers (next :: others)) := by
  rw [writeMembers]
  exact List.cons_ne_nil _ _

/-- The compact text of a value. -/
def write (value : Json) : String := String.ofList (writeChars value)

end ConferenceBridge.Json
