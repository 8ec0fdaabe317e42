/-!
# JSON values

A value as it was written: a decimal number keeps its digits and its power of ten, and an object
keeps its members in order. Looking up a member takes the last one of a name. Beside the numbers
there are infinity and what is no number, which other programs write by name.
-/

namespace ConferenceBridge

/-- What stands in the place of a number and is no finite number. -/
inductive NonFinite where
  /-- More than every number. -/
  | infinity
  /-- Less than every number. -/
  | negativeInfinity
  /-- No number at all. -/
  | notNumber
  deriving DecidableEq

/-- A JSON value. -/
inductive Json where
  /-- The absent value. -/
  | null
  /-- A truth value. -/
  | bool (value : Bool)
  /-- A number written without a point and without a power of ten. -/
  | integer (value : Int)
  /-- The number `mantissa * 10 ^ exponent`, written with a point or a power of ten. -/
  | decimal (mantissa exponent : Int)
  /-- Infinity, or what is no number. -/
  | nonFinite (value : NonFinite)
  /-- A text. -/
  | string (value : String)
  /-- A list of values. -/
  | array (items : List Json)
  /-- A list of named values. -/
  | object (members : List (String × Json))
  deriving Inhabited

/-- How a value that is no finite number is written. -/
def NonFinite.name : NonFinite → String
  | .infinity => "Infinity"
  | .negativeInfinity => "-Infinity"
  | .notNumber => "NaN"

namespace Json

/-- The value of the last member of a name. -/
def memberOf? (members : List (String × Json)) (name : String) : Option Json :=
  (members.reverse.find? fun member => member.1 == name).map Prod.snd

/-- The value of an object's member. -/
def member? (value : Json) (name : String) : Option Json :=
  match value with
  | .object members => memberOf? members name
  | _ => none

/-- The text that a value is, if it is one. -/
def text? : Json → Option String
  | .string value => some value
  | _ => none

/-- The integer that a value is, if it is one. -/
def integer? : Json → Option Int
  | .integer value => some value
  | _ => none

/-- The truth value that a value is, if it is one. -/
def bool? : Json → Option Bool
  | .bool value => some value
  | _ => none

/-- The items of a list. -/
def items? : Json → Option (List Json)
  | .array items => some items
  | _ => none

/-- The members of an object. -/
def members? : Json → Option (List (String × Json))
  | .object members => some members
  | _ => none

/-- An absent text is null. -/
def ofText? : Option String → Json
  | some text => .string text
  | none => .null

/-- An absent integer is null. -/
def ofInteger? : Option Int → Json
  | some n => .integer n
  | none => .null

end Json

end ConferenceBridge
