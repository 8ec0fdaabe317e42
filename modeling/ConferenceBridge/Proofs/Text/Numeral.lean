import ConferenceBridge.Text.Numeral
import Mathlib.Algebra.Group.Nat.Defs
import Mathlib.Data.List.Induction

/-!
# The digits of integers

Plain digits are digits with the same value as those of any other script. Digits of any script are
neither white space nor one of the marks around them, and their number bounds what they make up.
-/

namespace ConferenceBridge.Text

/-- The code points of the plain digits. -/
theorem toNat_of_isDigit {c : Char} (hc : c.isDigit = true) : 48 ≤ c.toNat ∧ c.toNat ≤ 57 :=
  Char.isDigit_iff_toNat.1 hc

/-- Numbers are written in plain digits. -/
theorem isDigit_of_mem_toDigits {n : Nat} {c : Char} (hc : c ∈ Nat.toDigits 10 n) :
    c.isDigit = true :=
  Nat.isDigit_of_mem_toDigits (by decide) (by decide) hc

/-- A plain digit is a digit of a script, with the same value. -/
theorem digitOfAnyScript?_of_isDigit {c : Char} (hc : c.isDigit = true) :
    digitOfAnyScript? c = some (c.toNat - 48) := by
  have hrange := toNat_of_isDigit hc
  have hfirst : digitZeros.find? (fun first => first ≤ c.toNat && c.toNat < first + 10) =
      some 48 := by
    refine List.find?_cons_of_pos ?_
    simp only [Bool.and_eq_true, decide_eq_true_eq]
    omega
  rw [digitOfAnyScript?, hfirst]
  rfl

/-- The value of a digit of any script is less than ten. -/
theorem digitOfAnyScript?_lt {c : Char} {digit : Nat} (h : digitOfAnyScript? c = some digit) :
    digit < 10 := by
  obtain ⟨first, hfirst, hdigit⟩ := Option.map_eq_some_iff.1 h
  have hrange := List.find?_some hfirst
  simp only [Bool.and_eq_true, decide_eq_true_eq] at hrange
  omega

/-- The ranges of the digits of all scripts. -/
def digitRanges : List CodeRange := digitZeros.map fun first => (first, first + 9)

/-- Digits keep clear of white space. -/
theorem digits_clear_of_whiteSpace : disjointRanges digitRanges whiteSpace = true := by
  decide +kernel

/-- The code points of the two signs and of the low line. -/
def markCodes : List CodeRange := [(0x2b, 0x2b), (0x2d, 0x2d), (0x5f, 0x5f)]

/-- Digits keep clear of the two signs and of the low line. -/
theorem digits_clear_of_marks : disjointRanges digitRanges markCodes = true := by
  decide +kernel

/-- A digit of any script lies in one of the ranges. -/
theorem inRanges_of_digitOfAnyScript? {c : Char} {digit : Nat}
    (h : digitOfAnyScript? c = some digit) : inRanges digitRanges c = true := by
  obtain ⟨first, hfirst, _⟩ := Option.map_eq_some_iff.1 h
  have hrange := List.find?_some hfirst
  simp only [Bool.and_eq_true, decide_eq_true_eq] at hrange
  refine inRanges_iff.2 ⟨_, List.mem_map_of_mem (List.mem_of_find?_eq_some hfirst), hrange.1, ?_⟩
  simp only
  omega

/-- A digit of any script is no white space. -/
theorem isWhiteSpace_of_digitOfAnyScript? {c : Char} {digit : Nat}
    (h : digitOfAnyScript? c = some digit) : isWhiteSpace c = false :=
  inRanges_eq_false_of_disjoint digits_clear_of_whiteSpace (inRanges_of_digitOfAnyScript? h)

/-- A digit of any script is neither a low line nor a sign. -/
theorem not_mark_of_digitOfAnyScript? {c : Char} {digit : Nat}
    (h : digitOfAnyScript? c = some digit) : c ∉ ['_', '+', '-'] := by
  have hclear := inRanges_eq_false_of_disjoint digits_clear_of_marks
    (inRanges_of_digitOfAnyScript? h)
  intro hmark
  simp only [List.mem_cons, List.not_mem_nil, or_false] at hmark
  rcases hmark with rfl | rfl | rfl <;> exact absurd hclear (by decide)

/-- A low line has no value. -/
theorem digitOfAnyScript?_lowLine : digitOfAnyScript? '_' = none :=
  Option.eq_none_iff_forall_ne_some.2 fun _ h => not_mark_of_digitOfAnyScript? h (by simp)

/-- One more digit makes the number ten times as large, and adds to it. -/
theorem valueOfDigits_concat (digits : List Nat) (digit : Nat) :
    valueOfDigits (digits ++ [digit]) = 10 * valueOfDigits digits + digit := by
  simp [valueOfDigits]

/-- The number of digits bounds their value. -/
theorem valueOfDigits_lt {digits : List Nat} (h : ∀ digit ∈ digits, digit < 10) :
    valueOfDigits digits < 10 ^ digits.length := by
  induction digits using List.reverseRecOn with
  | nil => decide
  | append_singleton others digit ih =>
    have hothers := ih fun d hd => h d (List.mem_append_left _ hd)
    have hdigit : digit < 10 := h digit (List.mem_append_right _ List.mem_cons_self)
    rw [valueOfDigits_concat, List.length_append, List.length_singleton, Nat.pow_succ]
    omega

/-- The values of plain digits make up the number that they are the digits of. -/
theorem valueOfDigits_map (digits : List Char) :
    valueOfDigits (digits.map fun c => c.toNat - 48) = Nat.ofDigitChars 10 digits 0 := by
  simp [valueOfDigits, Nat.ofDigitChars_eq_foldl, List.foldl_map]

/-- There is no sign to split off in front of a digit. -/
theorem splitSign_cons_of_digit {first : Char} {digit : Nat}
    (h : digitOfAnyScript? first = some digit) (rest : List Char) :
    splitSign (first :: rest) = (false, first :: rest) := by
  have hmark := not_mark_of_digitOfAnyScript? h
  simp only [List.mem_cons, List.not_mem_nil, or_false, not_or] at hmark
  rw [splitSign]
  · rintro others ⟨⟩
    exact hmark.2.2 rfl
  · rintro others ⟨⟩
    exact hmark.2.1 rfl

/-- A sign does not change the size of a number. -/
theorem natAbs_signed (negative : Bool) (n : Nat) : (signed negative n).natAbs = n := by
  cases negative <;> simp [signed]

end ConferenceBridge.Text
