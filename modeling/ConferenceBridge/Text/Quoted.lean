import ConferenceBridge.Text.Printable

/-!
# Quoted text

How a text is shown inside a message: between quotation marks, with everything escaped that would
not print or would end the quotation.
-/

namespace ConferenceBridge.Text

/-- The lowest `width` hexadecimal digits of a number, in small letters. -/
def hexDigits : (width : Nat) → Nat → List Char
  | 0, _ => []
  | width + 1, n => hexDigits width (n / 16) ++ [Nat.digitChar (n % 16)]

/-- A code point as an escape of two, four or eight digits. -/
def codeEscape (code : Nat) : List Char :=
  if code < 0x100 then '\\' :: 'x' :: hexDigits 2 code
  else if code < 0x10000 then '\\' :: 'u' :: hexDigits 4 code
  else '\\' :: 'U' :: hexDigits 8 code

/-- A double mark is used only where it saves escaping a single one. -/
def quotationMark (text : List Char) : Char :=
  if text.contains '\'' && !text.contains '"' then '"' else '\''

/-- One character as it stands between the marks. -/
def quotedChar (mark c : Char) : List Char :=
  if c = mark ∨ c = '\\' then ['\\', c]
  else if c = '\t' then ['\\', 't']
  else if c = '\n' then ['\\', 'n']
  else if c = '\r' then ['\\', 'r']
  else if isPrintable c then [c]
  else codeEscape c.toNat

/-- The text between quotation marks. -/
def quotedChars (text : List Char) : List Char :=
  let mark := quotationMark text
  mark :: (text.flatMap (quotedChar mark) ++ [mark])

/-- The text between quotation marks, where everything but plain characters is escaped as well. -/
def plainQuotedChars (text : List Char) : List Char :=
  (quotedChars text).flatMap fun c => if c.toNat < 0x80 then [c] else codeEscape c.toNat

/-- The text between quotation marks. -/
def quoted (text : String) : String := String.ofList (quotedChars text.toList)

/-- Several texts, each quoted, as a list in square brackets. -/
def quotedList (texts : List String) : String :=
  "[" ++ String.intercalate ", " (texts.map quoted) ++ "]"

end ConferenceBridge.Text
