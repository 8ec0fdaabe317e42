import ConferenceBridge.Text.Numeral

/-!
# Integers as text, leniently

A plain numeral has no leading zeros, no plus sign and nothing but digits after an optional minus.
Any other text is tidied up once and has to be a plain numeral then: blanks around it, one sign,
leading zeros, a fraction of zeros and single low lines are taken away. Only a text that starts as
a plain numeral is refused for its length; a text that is too long once it is tidied up counts as
malformed.
-/

namespace ConferenceBridge.Text

/-- Reads a plain numeral. The limit is looked at before what follows the digits. -/
def readPlainChars (text : List Char) : Except NumeralFault Int :=
  let (negative, body) := match text with
    | '-' :: rest => (true, rest)
    | _ => (false, text)
  let digits := (body.takeWhile Char.isDigit).filterMap digit?
  match digits with
  | [] | 0 :: _ :: _ => .error .malformed
  | _ =>
    if digitLimit < digits.length then .error (.tooLong digits.length)
    else if (body.dropWhile Char.isDigit).isEmpty then
      .ok (signed negative (valueOfDigits digits))
    else .error .malformed

/-- The text from the first character on that is neither a zero nor a low line, after a zero or low
line `last`. This is a digit, or a minus, which then is the sign of the number. In front of a point
and at the end of the text `last` is kept. -/
def skipZeros? (last : Char) : List Char → Option (List Char)
  | [] => some [last]
  | c :: rest =>
    if c = '0' ∨ c = '_' then skipZeros? c rest
    else if c = '.' then some (last :: c :: rest)
    else if c = '-' ∨ c.isDigit then some (c :: rest)
    else none

/-- The text without its leading zeros. It has to start with a digit. -/
def withoutLeadingZeros? : List Char → Option (List Char)
  | '0' :: rest => skipZeros? '0' rest
  | c :: rest => if c.isDigit then some (c :: rest) else none
  | [] => none

/-- The text without a fraction of zeros, of which there has to be at least one. -/
def withoutZeroFraction (text : List Char) : List Char :=
  match text.dropWhile (· != '.') with
  | '.' :: '0' :: zeros => if zeros.all (· == '0') then text.takeWhile (· != '.') else text
  | _ => text

/-- The text without its low lines, if each of them stands between two other characters. -/
def withoutLowLines (text : List Char) : List Char :=
  if wellSeparated text then text.filter (· != '_') else text

/-- The text as a plain numeral, if tidying up makes it one. -/
def tidied? (text : List Char) : Option (List Char) :=
  let (negative, body) := splitSign (trim isWhiteSpace text)
  (withoutLeadingZeros? body).map fun digits =>
    let plain := withoutLowLines (withoutZeroFraction digits)
    if negative then '-' :: plain else plain

/-- Reads an integer leniently. -/
def readLenientChars (text : List Char) : Except NumeralFault Int :=
  match readPlainChars text with
  | .error .malformed =>
    match (tidied? text).map readPlainChars with
    | some (.ok value) => .ok value
    | _ => .error .malformed
  | outcome => outcome

/-- Reads an integer leniently. -/
def readLenientInteger (text : String) : Except NumeralFault Int := readLenientChars text.toList

end ConferenceBridge.Text
