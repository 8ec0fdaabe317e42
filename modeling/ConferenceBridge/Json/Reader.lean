import ConferenceBridge.Json.Basic
import ConferenceBridge.Text.Numeral

/-!
# Reading JSON text

Each reader takes a value from the start of a text and gives back what follows it. The readers of
nested values count down from the length of the text, which no nesting exceeds.
-/

namespace ConferenceBridge.Json

open Text

/-- The text after its leading spaces, tabs and line ends. -/
def skipSpace (text : List Char) : List Char :=
  text.dropWhile fun c => c == ' ' || c == '\t' || c == '\n' || c == '\r'

/-- The value of a hexadecimal digit in either case. -/
def hexDigit? (c : Char) : Option Nat :=
  if '0' ≤ c ∧ c ≤ '9' then some (c.toNat - '0'.toNat)
  else if 'a' ≤ c ∧ c ≤ 'f' then some (c.toNat - 'a'.toNat + 10)
  else if 'A' ≤ c ∧ c ≤ 'F' then some (c.toNat - 'A'.toNat + 10)
  else none

/-- The number written by four hexadecimal digits. -/
def hexUnit? (a b c d : Char) : Option Nat := do
  return (((← hexDigit? a) * 16 + (← hexDigit? b)) * 16 + (← hexDigit? c)) * 16 + (← hexDigit? d)

/-- The character of a unit that is no surrogate; a surrogate left alone is replaced. -/
def charOfUnit (unit : Nat) : Char :=
  if 0xd800 ≤ unit ∧ unit ≤ 0xdfff then '\ufffd' else Char.ofNat unit

/-- The character that two units form as a pair of surrogates. -/
def charOfPair? (high low : Nat) : Option Char :=
  if 0xd800 ≤ high ∧ high ≤ 0xdbff ∧ 0xdc00 ≤ low ∧ low ≤ 0xdfff then
    some (Char.ofNat (0x10000 + (high - 0xd800) * 0x400 + (low - 0xdc00)))
  else none

/-- The character that a letter after a backslash stands for. -/
def shortEscape? : Char → Option Char
  | '"' => some '"'
  | '\\' => some '\\'
  | '/' => some '/'
  | 'b' => some '\x08'
  | 'f' => some '\x0c'
  | 'n' => some '\n'
  | 'r' => some '\r'
  | 't' => some '\t'
  | _ => none

/-- A text up to its closing quotation mark. -/
def readText : List Char → Option (List Char × List Char)
  | [] => none
  | '"' :: rest => some ([], rest)
  | '\\' :: 'u' :: a :: b :: c :: d :: rest => do
    let unit ← hexUnit? a b c d
    match rest with
    | '\\' :: 'u' :: a' :: b' :: c' :: d' :: rest' =>
      match (hexUnit? a' b' c' d').bind (charOfPair? unit) with
      | some char => (readText rest').map fun (text, left) => (char :: text, left)
      | none =>
        (readText ('\\' :: 'u' :: a' :: b' :: c' :: d' :: rest')).map
          fun (text, left) => (charOfUnit unit :: text, left)
    | rest => (readText rest).map fun (text, left) => (charOfUnit unit :: text, left)
  | '\\' :: letter :: rest => do
    let char ← shortEscape? letter
    (readText rest).map fun (text, left) => (char :: text, left)
  | char :: rest =>
    if char = '\\' then none else (readText rest).map fun (text, left) => (char :: text, left)

/-- The plain digits at the start of a text, at least one. -/
def readDigits (text : List Char) : Option (List Nat × List Char) :=
  let digits := text.takeWhile Char.isDigit
  if digits.isEmpty then none
  else some (digits.filterMap digit?, text.dropWhile Char.isDigit)

/-- The digits after a point, none if there is no point. -/
def readFraction (text : List Char) : Option (List Nat × List Char) :=
  match text with
  | '.' :: rest => readDigits rest
  | rest => some ([], rest)

/-- The power of ten, zero if none is written. -/
def readExponent (text : List Char) : Option (Int × List Char) :=
  match text with
  | c :: rest =>
    if c = 'e' ∨ c = 'E' then do
      let (negative, rest) := splitSign rest
      let (digits, rest) ← readDigits rest
      some (signed negative (valueOfDigits digits), rest)
    else some (0, c :: rest)
  | [] => some (0, [])

/-- A number. It is an integer if neither a point nor a power of ten is written. -/
def readNumber (text : List Char) : Option (Json × List Char) := do
  let (negative, body) := match text with
    | '-' :: rest => (true, rest)
    | rest => (false, rest)
  let (whole, afterWhole) ← readDigits body
  let (fraction, afterFraction) ← readFraction afterWhole
  let (power, rest) ← readExponent afterFraction
  if rest.length = afterWhole.length then
    some (.integer (signed negative (valueOfDigits whole)), rest)
  else
    some (.decimal (signed negative (valueOfDigits (whole ++ fraction))) (power - fraction.length),
      rest)

mutual

/-- A value at the start of a text. -/
def readValue : Nat → List Char → Option (Json × List Char)
  | 0, _ => none
  | fuel + 1, text =>
    match skipSpace text with
    | 'n' :: 'u' :: 'l' :: 'l' :: rest => some (.null, rest)
    | 't' :: 'r' :: 'u' :: 'e' :: rest => some (.bool true, rest)
    | 'f' :: 'a' :: 'l' :: 's' :: 'e' :: rest => some (.bool false, rest)
    | 'N' :: 'a' :: 'N' :: rest => some (.nonFinite .notNumber, rest)
    | 'I' :: 'n' :: 'f' :: 'i' :: 'n' :: 'i' :: 't' :: 'y' :: rest =>
      some (.nonFinite .infinity, rest)
    | '-' :: 'I' :: 'n' :: 'f' :: 'i' :: 'n' :: 'i' :: 't' :: 'y' :: rest =>
      some (.nonFinite .negativeInfinity, rest)
    | '"' :: rest => (readText rest).map fun (text, left) => (.string (String.ofList text), left)
    | '[' :: rest =>
      match skipSpace rest with
      | ']' :: left => some (.array [], left)
      | rest => (readItems fuel rest).map fun (items, left) => (.array items, left)
    | '{' :: rest =>
      match skipSpace rest with
      | '}' :: left => some (.object [], left)
      | rest => (readMembers fuel rest).map fun (members, left) => (.object members, left)
    | rest => readNumber rest

/-- The items of a list up to its closing bracket, at least one. -/
def readItems : Nat → List Char → Option (List Json × List Char)
  | 0, _ => none
  | fuel + 1, text => do
    let (item, rest) ← readValue fuel text
    match skipSpace rest with
    | ']' :: left => some ([item], left)
    | ',' :: rest => (readItems fuel rest).map fun (items, left) => (item :: items, left)
    | _ => none

/-- The members of an object up to its closing brace, at least one. -/
def readMembers : Nat → List Char → Option (List (String × Json) × List Char)
  | 0, _ => none
  | fuel + 1, text =>
    match skipSpace text with
    | '"' :: rest => do
      let (name, rest) ← readText rest
      match skipSpace rest with
      | ':' :: rest => do
        let (value, rest) ← readValue fuel rest
        let member := (String.ofList name, value)
        match skipSpace rest with
        | '}' :: left => some ([member], left)
        | ',' :: rest =>
          (readMembers fuel rest).map fun (members, left) => (member :: members, left)
        | _ => none
      | _ => none
    | _ => none

end

/-- Reads a text that holds one value and nothing after it. -/
def readChars? (text : List Char) : Option Json := do
  let (value, rest) ← readValue (text.length + 1) text
  if (skipSpace rest).isEmpty then some value else none

/-- Reads a text that holds one value and nothing after it. -/
def read? (text : String) : Option Json := readChars? text.toList

end ConferenceBridge.Json
