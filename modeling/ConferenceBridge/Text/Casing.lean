import ConferenceBridge.Text.Casing.Context
import ConferenceBridge.Text.Casing.Runs

/-!
# Small and capital letters

The full Unicode mappings between the cases. A character may grow into several ones, and a capital
sigma becomes the final form at the end of a word. All other characters are mapped on their own.
-/

namespace ConferenceBridge.Text

/-- The partner of a character under the first run that contains it, or the character itself. -/
def partnerIn (runs : List CaseRun) (c : Char) : Char :=
  match runs.find? (·.contains c.toNat) with
  | some run => Char.ofNat (run.partner c.toNat)
  | none => c

/-- The small form of a character regardless of its neighbours. The dotted capital I keeps its dot
as a mark of its own. -/
def smallForm (c : Char) : List Char :=
  if c = '\u0130' then ['i', '\u0307'] else [partnerIn smallRuns c]

/-- The capital form of a character. -/
def capitalForm (c : Char) : List Char :=
  match longCapitals.lookup c.toNat with
  | some codes => codes.map Char.ofNat
  | none => [partnerIn capitalRuns c]

/-- Whether the first character that is not passed over is a letter with case. -/
def startsWithLetter (text : List Char) : Bool :=
  match text.dropWhile (inRanges caseIgnorable) with
  | [] => false
  | c :: _ => inRanges casedLetters c

/-- The small form of a sigma between two texts: the final form if a word ends with it. The text
before is given from its end. -/
def smallSigma (before after : List Char) : Char :=
  if startsWithLetter before && !startsWithLetter after then 'ς' else 'σ'

/-- The small form of a text that follows `before`, which is given from its end. -/
def lowercaseAfter (before : List Char) : List Char → List Char
  | [] => []
  | c :: rest =>
    (if c = 'Σ' then [smallSigma before rest] else smallForm c) ++ lowercaseAfter (c :: before) rest

/-- The text in small letters. -/
def lowercase (text : List Char) : List Char := lowercaseAfter [] text

/-- The text in capital letters. -/
def uppercase (text : List Char) : List Char := text.flatMap capitalForm

end ConferenceBridge.Text
