import ConferenceBridge.Logging.Format
import ConferenceBridge.Logging.Level
import ConferenceBridge.Text.Places

/-!
# Logged lines

What a format makes of a logged message. A format can be carried out if every percent sign in it
is doubled or starts a directive, for a field that is known and a conversion that the field's value
has; otherwise there is no line at all.
-/

namespace ConferenceBridge.Logging

open Text

/-- A message that is logged. -/
structure Entry where
  /-- The name of the logger that was told. -/
  logger : String
  /-- The level of the message. -/
  level : Level
  /-- The message. -/
  message : String

/-- The value of a field of an entry. -/
inductive FieldValue where
  /-- A text. -/
  | text (value : List Char)
  /-- A number. -/
  | number (value : Int)

/-- The value of a field, if it is known. -/
def Entry.field? (entry : Entry) : (name : String) → Option FieldValue
  | "message" => some (.text entry.message.toList)
  | "name" => some (.text entry.logger.toList)
  | "levelname" => some (.text (levelName entry.level).toList)
  | "levelno" => some (.number entry.level)
  | _ => none

/-- How the value of a field is to be written. -/
structure Directive where
  /-- The name of the field. -/
  field : String
  /-- The flags. -/
  flags : List Char
  /-- The least number of characters. -/
  width : Nat
  /-- The most characters of a text, the least digits of a number, or the places of a double. -/
  precision : Option Nat
  /-- The conversion. -/
  conversion : Char
  /-- The number of characters of the directive itself. -/
  length : Nat
  deriving DecidableEq

/-- The number written by the plain digits at the start of a text, and what follows them. -/
def readCount (text : List Char) : Nat × List Char :=
  (valueOfDigits ((text.takeWhile Char.isDigit).filterMap digit?), text.dropWhile Char.isDigit)

/-- The precision at the start of a text, if there is one, and what follows it. -/
def readPrecision (text : List Char) : Option Nat × List Char :=
  match text with
  | '.' :: rest => ((readCount rest).map some id)
  | _ => (none, text)

/-- The text without a letter for the size of a number, which has no meaning. -/
def skipSize : List Char → List Char
  | 'h' :: rest | 'l' :: rest | 'L' :: rest => rest
  | text => text

/-- The directive at the start of a text. -/
def directive? (text : List Char) : Option Directive :=
  match text with
  | '%' :: '(' :: afterOpening =>
    let afterField := (afterOpening.dropWhile (· != ')')).drop 1
    let (width, afterWidth) := readCount (afterField.dropWhile isFlag)
    let (precision, afterPrecision) := readPrecision afterWidth
    match skipSize afterPrecision with
    | conversion :: rest =>
      some {
        field := String.ofList (afterOpening.takeWhile (· != ')'))
        flags := afterField.takeWhile isFlag
        width
        precision
        conversion
        length := text.length - rest.length }
    | [] => none
  | _ => none

/-- The largest width or precision of a directive that is carried out. -/
def largestCount : Nat := 0x7fffffff

namespace Directive

/-- Whether a flag is set. -/
def has (directive : Directive) (flag : Char) : Bool := directive.flags.contains flag

/-- A text with spaces up to the width, after it if the flags say so. -/
def pad (directive : Directive) (text : List Char) : List Char :=
  let spaces := List.replicate (directive.width - text.length) ' '
  if directive.has '-' then text ++ spaces else spaces ++ text

/-- The sign of a number, as the flags ask for one. -/
def sign (directive : Directive) (value : Int) : List Char :=
  if value < 0 then ['-'] else if directive.has '+' then ['+']
  else if directive.has ' ' then [' '] else []

/-- A number of which the digits are known, after its sign and a mark. Zeros go between them and the
digits, spaces around them all. -/
def renderDigits (directive : Directive) (value : Int) (mark digits : List Char) : List Char :=
  let front := directive.sign value ++ mark
  let zeros :=
    if directive.has '0' && !directive.has '-' then
      List.replicate (directive.width - (front.length + digits.length)) '0'
    else []
  directive.pad (front ++ zeros ++ digits)

/-- A number in a base, after a mark of the base if the flags ask for it. -/
def renderInteger (directive : Directive) (mark : List Char) (base : Nat) (value : Int) :
    List Char :=
  directive.renderDigits value (if directive.has '#' then mark else [])
    (paddedDigits base (directive.precision.getD 0) value.natAbs)

/-- The double nearest to a number, in one of the ways to write it with places. The precision is
six if none is given, and the flags may ask for the point. Nothing if the number is too large. -/
def renderDouble? (directive : Directive) (write : (point : Bool) → (precision n : Nat) → List Char)
    (value : Int) : Option (List Char) :=
  match nearestDouble value 0 with
  | .whole near =>
    let digits := write (directive.has '#') (directive.precision.getD 6) near.natAbs
    some (directive.renderDigits near [] digits)
  | _ => none

/-- A text, cut to the precision. -/
def renderText (directive : Directive) (text : List Char) : List Char :=
  directive.pad <| match directive.precision with
    | some most => text.take most
    | none => text

/-- A value as the conversion asks for it. -/
def renderValue? (directive : Directive) (value : FieldValue) : Option (List Char) :=
  match directive.conversion, value with
  | 's', .text text => some (directive.renderText text)
  | 'r', .text text => some (directive.renderText (quotedChars text))
  | 'a', .text text => some (directive.renderText (plainQuotedChars text))
  | 'c', .text [c] => some (directive.pad [c])
  | 's', .number n | 'r', .number n | 'a', .number n => some (directive.renderText (integerChars n))
  | 'd', .number n | 'i', .number n | 'u', .number n => some (directive.renderInteger [] 10 n)
  | 'o', .number n => some (directive.renderInteger ['0', 'o'] 8 n)
  | 'x', .number n => some (directive.renderInteger ['0', 'x'] 16 n)
  | 'X', .number n => some ((directive.renderInteger ['0', 'x'] 16 n).map Char.toUpper)
  | 'f', .number n | 'F', .number n => directive.renderDouble? fixedChars n
  | 'e', .number n => directive.renderDouble? exponentialChars n
  | 'E', .number n => (directive.renderDouble? exponentialChars n).map (·.map Char.toUpper)
  | 'g', .number n => directive.renderDouble? generalChars n
  | 'G', .number n => (directive.renderDouble? generalChars n).map (·.map Char.toUpper)
  | 'c', .number n =>
    if 0 ≤ n ∧ n.toNat.isValidChar then some (directive.pad [Char.ofNat n.toNat]) else none
  | _, _ => none

/-- What a directive stands for, if it can be carried out. -/
def render? (directive : Directive) (entry : Entry) : Option (List Char) :=
  if largestCount < max directive.width (directive.precision.getD 0) then none
  else (entry.field? directive.field).bind directive.renderValue?

end Directive

/-- The line that a format gives for an entry, after `skip` characters that are dealt with. A
doubled percent sign stands for one. -/
def renderFrom? (entry : Entry) : (skip : Nat) → List Char → Option (List Char)
  | _, [] => some []
  | skip + 1, _ :: rest => renderFrom? entry skip rest
  | 0, c :: rest =>
    if c = '%' then
      if rest.head? = some '%' then (renderFrom? entry 1 rest).map ('%' :: ·)
      else do
        let directive ← directive? (c :: rest)
        let text ← directive.render? entry
        let later ← renderFrom? entry (directive.length - 1) rest
        return text ++ later
    else (renderFrom? entry 0 rest).map (c :: ·)

/-- The line that a format gives for an entry. -/
def render? (format : String) (entry : Entry) : Option String :=
  (renderFrom? entry 0 format.toList).map String.ofList

end ConferenceBridge.Logging
