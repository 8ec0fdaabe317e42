import ConferenceBridge.Text.Blank
import ConferenceBridge.Text.Digit
import ConferenceBridge.Text.Quoted

/-!
# Integers as text

An integer is read from an optional sign and digits of any script, with single low lines allowed
between digits, and written in plain digits. A text with more digits than `digitLimit` is refused.
-/

namespace ConferenceBridge.Text

/-- Why a text is not read as an integer. -/
inductive NumeralFault where
  /-- The text does not follow the grammar. -/
  | malformed
  /-- The text has this many digits, which is over the limit. -/
  | tooLong (digits : Nat)
  deriving DecidableEq

/-- The longest numeral that is read. -/
def digitLimit : Nat := 4300

/-- The sign in front of a numeral, true for a minus, and what follows it. -/
def splitSign : List Char → Bool × List Char
  | '-' :: rest => (true, rest)
  | '+' :: rest => (false, rest)
  | text => (false, text)

/-- Whether a text is not empty and has each low line between two other characters. -/
def wellSeparated : List Char → Bool
  | [] => false
  | '_' :: _ => false
  | [_] => true
  | _ :: '_' :: rest => wellSeparated rest
  | _ :: c :: rest => wellSeparated (c :: rest)

/-- The number written by decimal digits, the most significant one first. -/
def valueOfDigits (digits : List Nat) : Nat :=
  digits.foldl (fun value digit => 10 * value + digit) 0

/-- A number with a sign, true for a minus. -/
def signed (negative : Bool) (n : Nat) : Int := if negative then -(n : Int) else n

/-- The digits at the start of a text, and what follows them. Nothing if the run of digits and low
lines is not well separated. -/
def leadingDigits? (text : List Char) : Option (List Nat × List Char) :=
  let inRun := fun c => c == '_' || (digitOfAnyScript? c).isSome
  let run := text.takeWhile inRun
  if wellSeparated run then some (run.filterMap digitOfAnyScript?, text.dropWhile inRun) else none

/-- Reads an integer whose digits may be of any script. Leading zeros count towards the limit, and
the limit is looked at before what follows the digits. -/
def readIntegerChars (text : List Char) : Except NumeralFault Int :=
  let (negative, body) := splitSign (trim isWhiteSpace text)
  match leadingDigits? body with
  | none => .error .malformed
  | some (digits, rest) =>
    if digitLimit < digits.length then .error (.tooLong digits.length)
    else if rest.isEmpty then .ok (signed negative (valueOfDigits digits))
    else .error .malformed

/-- Reads an integer whose digits may be of any script. -/
def readInteger (text : String) : Except NumeralFault Int := readIntegerChars text.toList

/-- The digits of a number in a base up to sixteen, at least as many as asked for. -/
def paddedDigits (base least n : Nat) : List Char :=
  let digits := Nat.toDigits base n
  List.replicate (least - digits.length) '0' ++ digits

/-- An integer in plain digits, without leading zeros and with a sign only if it is negative. -/
def integerChars : Int → List Char
  | .ofNat n => Nat.toDigits 10 n
  | .negSucc n => '-' :: Nat.toDigits 10 (n + 1)

/-- An integer in plain digits. -/
def integerText (n : Int) : String := String.ofList (integerChars n)

/-- The most of a refused text that a message shows, its quotation marks included. -/
def shownLength : Nat := 200

/-- What is said about a text that could not be read as an integer. -/
def NumeralFault.message (text : String) : NumeralFault → String
  | .malformed =>
    "invalid literal for int() with base 10: "
      ++ String.ofList ((quotedChars text.toList).take shownLength)
  | .tooLong digits =>
    "Exceeds the limit (4300 digits) for integer string conversion: value has "
      ++ integerText digits
      ++ " digits; use sys.set_int_max_str_digits() to increase the limit"

end ConferenceBridge.Text
