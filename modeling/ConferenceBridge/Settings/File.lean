import ConferenceBridge.Text.Blank

/-!
# The settings file

A file of bindings, as a rule one on a line: a name, an equals sign and a value. A value may stand
between quotation marks, where it may hold line ends and escapes; otherwise it ends before a
comment. What follows a binding on its line has to be a comment, and a line that starts in any
other way is passed over.
-/

namespace ConferenceBridge.Settings

open Text

/-- A name and the value that it is bound to. A name that stands alone is bound to nothing. -/
structure Binding where
  /-- The name. -/
  name : String
  /-- The value, if there is one. -/
  value : Option String
  deriving DecidableEq

/-- The text with a line feed for each line end. A line ends with a line feed, a carriage return, or
both. -/
def unifyLineEnds : List Char → List Char
  | [] => []
  | '\r' :: '\n' :: rest => '\n' :: unifyLineEnds rest
  | c :: rest => (if c = '\r' then '\n' else c) :: unifyLineEnds rest

/-- The text without the mark that some programs put in front of it. -/
def withoutMark : List Char → List Char
  | '\ufeff' :: text => text
  | text => text

/-- Whether a character is a blank inside a line. -/
def isInnerBlank (c : Char) : Bool := isBlank c && c != '\n'

/-- The text without the blanks at the start of its first line. -/
def skipInnerBlanks (text : List Char) : List Char := text.dropWhile isInnerBlank

/-- The text after its first line. -/
def skipLine (text : List Char) : List Char := (text.dropWhile (· != '\n')).drop 1

/-- The text without the word that marks a binding for other programs, if a blank follows it. -/
def skipExport (text : List Char) : List Char :=
  match text with
  | 'e' :: 'x' :: 'p' :: 'o' :: 'r' :: 't' :: c :: rest =>
    if isInnerBlank c then skipInnerBlanks rest else text
  | _ => text

/-- The text up to a comment, which starts with blanks and a number sign. -/
def beforeComment : List Char → List Char
  | [] => []
  | c :: rest =>
    if isBlank c && (rest.dropWhile isBlank).head? == some '#' then []
    else c :: beforeComment rest

/-- A text up to a quotation mark, and what follows the mark. A backslash takes the next character
of its line with it, so a mark after a backslash does not end the text. -/
def readQuoted? (mark : Char) : List Char → Option (List Char × List Char)
  | [] => none
  | [c] => if c = mark then some ([], []) else none
  | c :: d :: rest =>
    if c = mark then some ([], d :: rest)
    else if c = '\\' then
      if d = '\n' then none
      else (readQuoted? mark rest).map fun (text, after) => (c :: d :: text, after)
    else (readQuoted? mark (d :: rest)).map fun (text, after) => (c :: text, after)

/-- The character that a letter after a backslash stands for between single quotation marks. -/
def plainEscape? : Char → Option Char
  | '\\' => some '\\'
  | '\'' => some '\''
  | _ => none

/-- The character that a letter after a backslash stands for between double quotation marks. -/
def richEscape? : Char → Option Char
  | '"' => some '"'
  | 'a' => some '\x07'
  | 'b' => some '\x08'
  | 'f' => some '\x0c'
  | 'n' => some '\n'
  | 'r' => some '\r'
  | 't' => some '\t'
  | 'v' => some '\x0b'
  | c => plainEscape? c

/-- The text with its escapes carried out. -/
def unescape (escape? : Char → Option Char) : List Char → List Char
  | [] => []
  | [c] => [c]
  | c :: d :: rest =>
    if c = '\\' then
      match escape? d with
      | some e => e :: unescape escape? rest
      | none => c :: unescape escape? (d :: rest)
    else c :: unescape escape? (d :: rest)

/-- The name at the start of a text, and what follows it. -/
def readName? (text : List Char) : Option (String × List Char) :=
  match text with
  | '\'' :: rest =>
    match rest.takeWhile (· != '\''), rest.dropWhile (· != '\'') with
    | c :: name, _ :: after => some (String.ofList (c :: name), after)
    | _, _ => none
  | _ =>
    let inName := fun c => c != '=' && c != '#' && !isBlank c
    match text.takeWhile inName with
    | [] => none
    | name => some (String.ofList name, text.dropWhile inName)

/-- The value after an equals sign, and what follows it. -/
def readBoundValue? (text : List Char) : Option (String × List Char) :=
  match skipInnerBlanks text with
  | '\'' :: rest => (readQuoted? '\'' rest).map fun (value, after) =>
    (String.ofList (unescape plainEscape? value), after)
  | '"' :: rest => (readQuoted? '"' rest).map fun (value, after) =>
    (String.ofList (unescape richEscape? value), after)
  | _ =>
    let value := trim isBlank (beforeComment (text.takeWhile (· != '\n')))
    some (String.ofList value, text.dropWhile (· != '\n'))

/-- A binding, if nothing but a comment follows it on its line, and the text after that line. -/
def endBinding (binding : Binding) (text : List Char) : Option Binding × List Char :=
  match skipInnerBlanks text with
  | [] | '\n' :: _ | '#' :: _ => (some binding, skipLine text)
  | _ => (none, skipLine text)

/-- The binding at the start of a text, if there is one, and the text after it. -/
def readBinding (text : List Char) : Option Binding × List Char :=
  let body := skipExport text
  match readName? body with
  | none => (none, skipLine body)
  | some (name, afterName) =>
    match skipInnerBlanks afterName with
    | '=' :: afterSign =>
      match readBoundValue? afterSign with
      | none => (none, skipLine afterSign)
      | some (value, rest) => endBinding ⟨name, some value⟩ rest
    | rest => endBinding ⟨name, none⟩ rest

/-- The bindings of a text in order. Whether or not there is a binding, some of the text is used up,
so the reading ends. -/
def readBindings (text : List Char) : List Binding :=
  match text.dropWhile isBlank with
  | [] => []
  | c :: rest =>
    let (binding, after) := readBinding (c :: rest)
    if after.length < text.length then binding.toList ++ readBindings after
    else binding.toList
termination_by text.length

/-- The bindings of a file in order. -/
def readFile (text : String) : List Binding :=
  readBindings (unifyLineEnds (withoutMark text.toList))

end ConferenceBridge.Settings
