import ConferenceBridge.Text.Digit
import ConferenceBridge.Text.Word

/-!
# Formats of logged lines

A format is a text with directives: a percent sign, the name of a field in parentheses, flags, a
width, a precision and a conversion. A format is accepted if it holds a directive anywhere; whether
all of it can be carried out shows when a line is written.
-/

namespace ConferenceBridge.Logging

open Text

/-- The flags of a directive. -/
def isFlag (c : Char) : Bool := ['#', '0', '+', ' ', '-'].contains c

/-- The conversions in any case, among them the long s and the two forms of i that differ from one
of the letters in case only. -/
def isConversion (c : Char) : Bool :=
  ['d', 'i', 'o', 'u', 'x', 'e', 'f', 'g', 'c', 'r', 's', 'a', '%'].contains c.toLower
    || ['\u017f', '\u0130', '\u0131'].contains c

/-- The text after a star or after one or more digits of any script, if it starts so. -/
def skipCount? (text : List Char) : Option (List Char) :=
  let isDigit := fun c => (digitOfAnyScript? c).isSome
  match text with
  | '*' :: rest => some rest
  | c :: rest => if isDigit c then some (rest.dropWhile isDigit) else none
  | [] => none

/-- The text after a precision, if it starts with one. -/
def skipPrecision (text : List Char) : List Char :=
  match text with
  | '.' :: rest => (skipCount? rest).getD text
  | _ => text

/-- Whether a text starts with a directive. -/
def startsDirective (text : List Char) : Bool :=
  match text with
  | '%' :: '(' :: afterOpening =>
    match afterOpening.takeWhile isWordCharacter, afterOpening.dropWhile isWordCharacter with
    | _ :: _, ')' :: afterField =>
      let afterFlags := afterField.dropWhile isFlag
      let afterWidth := (skipCount? afterFlags).getD afterFlags
      (skipPrecision afterWidth).head?.any isConversion
    | _, _ => false
  | _ => false

/-- Whether a text holds a directive. -/
def holdsDirective : List Char → Bool
  | [] => false
  | c :: rest => startsDirective (c :: rest) || holdsDirective rest

/-- The format of a line that is only its message. -/
def messageFormat : String := "%(message)s"

/-- The format that a setting stands for: an empty one shows the message. Nothing if the format is
not accepted. -/
def acceptedFormat? (format : String) : Option String :=
  if format.isEmpty then some messageFormat
  else if holdsDirective format.toList then some format
  else none

end ConferenceBridge.Logging
