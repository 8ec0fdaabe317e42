import ConferenceBridge.Text.Numeral

/-!
# Faults of a value

A fault says where in a value something is wrong and what it is. The place is a path of steps from
the outside in; the wording of a cause is fixed here and nowhere else.
-/

namespace ConferenceBridge

/-- A step into a value. -/
inductive Step where
  /-- To a field of a record. -/
  | field (name : String)
  /-- To an item of a list, the first one having index zero. -/
  | index (position : Nat)
  /-- To the value under a key of a map. -/
  | key (name : String)
  deriving DecidableEq

/-- What is wrong with a value. -/
inductive Cause where
  /-- A required field is absent. -/
  | missing
  /-- Not an object, where a record with this title is expected. -/
  | notRecord (title : String)
  /-- Not a text. -/
  | notText
  /-- An empty text where one character is required. -/
  | emptyText
  /-- Neither a number nor a text nor a truth value. -/
  | notInteger
  /-- A text that is not read as an integer. -/
  | notNumeral
  /-- A text with too many digits, or a decimal number that is too large. -/
  | longNumeral
  /-- A number between two integers. -/
  | fractional
  /-- A number out of the range of finite numbers. -/
  | infinite
  /-- An integer below this bound. -/
  | below (bound : Int)
  /-- An integer above this bound. -/
  | above (bound : Int)
  /-- Not a list. -/
  | notList
  /-- Not a list, where its items form a set. -/
  | notSet
  /-- Not an object, where it is a map. -/
  | notMap
  /-- Neither a truth value nor a number or text that could stand for one. -/
  | notTruth
  /-- A number or a text that stands for no truth value. -/
  | unclearTruth
  deriving DecidableEq

/-- The short name of a cause. -/
def Cause.label : Cause → String
  | .missing => "missing"
  | .notRecord _ => "model_type"
  | .notText => "string_type"
  | .emptyText => "string_too_short"
  | .notInteger => "int_type"
  | .notNumeral => "int_parsing"
  | .longNumeral => "int_parsing_size"
  | .fractional => "int_from_float"
  | .infinite => "finite_number"
  | .below _ => "greater_than_equal"
  | .above _ => "less_than_equal"
  | .notList => "list_type"
  | .notSet => "set_type"
  | .notMap => "dict_type"
  | .notTruth => "bool_type"
  | .unclearTruth => "bool_parsing"

/-- What is said about a cause. -/
def Cause.message : Cause → String
  | .missing => "Field required"
  | .notRecord title => "Input should be a valid dictionary or instance of " ++ title
  | .notText => "Input should be a valid string"
  | .emptyText => "String should have at least 1 character"
  | .notInteger => "Input should be a valid integer"
  | .notNumeral => "Input should be a valid integer, unable to parse string as an integer"
  | .longNumeral => "Unable to parse input string as an integer, exceeded maximum size"
  | .fractional => "Input should be a valid integer, got a number with a fractional part"
  | .infinite => "Input should be a finite number"
  | .below bound => "Input should be greater than or equal to " ++ Text.integerText bound
  | .above bound => "Input should be less than or equal to " ++ Text.integerText bound
  | .notList => "Input should be a valid list"
  | .notSet => "Input should be a valid set"
  | .notMap => "Input should be a valid dictionary"
  | .notTruth => "Input should be a valid boolean"
  | .unclearTruth => "Input should be a valid boolean, unable to interpret input"

/-- A cause and the place where it was found. -/
structure Fault where
  /-- The steps from the outermost value to the place. -/
  path : List Step
  /-- What is wrong there. -/
  cause : Cause
  deriving DecidableEq

/-- The same fault, seen from one step further outside. -/
def Fault.under (step : Step) (fault : Fault) : Fault := { fault with path := step :: fault.path }

end ConferenceBridge
