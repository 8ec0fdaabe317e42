import ConferenceBridge.Text.CodeRange

/-!
# White space and trimming

Two notions of a blank are in use. `isWhiteSpace` is the Unicode property and governs numerals;
`isBlank` also counts the four information separators and governs names and settings.
-/

namespace ConferenceBridge.Text

/-- The Unicode property `White_Space`. -/
def whiteSpace : List CodeRange :=
  [(0x9, 0xd), (0x20, 0x20), (0x85, 0x85), (0xa0, 0xa0), (0x1680, 0x1680), (0x2000, 0x200a),
  (0x2028, 0x2029), (0x202f, 0x202f), (0x205f, 0x205f), (0x3000, 0x3000)]

/-- Whether a character is white space. -/
def isWhiteSpace (c : Char) : Bool := inRanges whiteSpace c

/-- Whether a character is white space or an information separator. -/
def isBlank (c : Char) : Bool := inRanges ((0x1c, 0x1f) :: whiteSpace) c

/-- The text without the characters at its end that satisfy `drop`. -/
def trimEnd (drop : Char → Bool) (text : List Char) : List Char :=
  (text.reverse.dropWhile drop).reverse

/-- The text without the characters at both ends that satisfy `drop`. -/
def trim (drop : Char → Bool) (text : List Char) : List Char :=
  trimEnd drop (text.dropWhile drop)

end ConferenceBridge.Text
