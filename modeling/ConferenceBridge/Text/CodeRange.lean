/-!
# Ranges of code points

A class of characters is given as a list of inclusive ranges of code points.
-/

namespace ConferenceBridge.Text

/-- The first and the last code point of a range. -/
abbrev CodeRange := Nat × Nat

/-- Whether a character lies in one of the ranges. -/
def inRanges (ranges : List CodeRange) (c : Char) : Bool :=
  ranges.any fun range => range.1 ≤ c.toNat && c.toNat ≤ range.2

/-- A character lies in one of the ranges if its code point is between the bounds of that range. -/
theorem inRanges_iff {ranges : List CodeRange} {c : Char} :
    inRanges ranges c = true ↔ ∃ range ∈ ranges, range.1 ≤ c.toNat ∧ c.toNat ≤ range.2 := by
  simp [inRanges]

/-- Whether no range of one list meets a range of the other. -/
def disjointRanges (left right : List CodeRange) : Bool :=
  left.all fun a => right.all fun b => a.2 < b.1 || b.2 < a.1

/-- A character of one class is not in a class that keeps clear of it. -/
theorem inRanges_eq_false_of_disjoint {left right : List CodeRange}
    (hdisjoint : disjointRanges left right = true) {c : Char} (hc : inRanges left c = true) :
    inRanges right c = false := by
  rw [Bool.eq_false_iff]
  intro hright
  obtain ⟨a, ha, haLow, haHigh⟩ := inRanges_iff.1 hc
  obtain ⟨b, hb, hbLow, hbHigh⟩ := inRanges_iff.1 hright
  have hclear := List.all_eq_true.1 (List.all_eq_true.1 hdisjoint a ha) b hb
  simp only [Bool.or_eq_true, decide_eq_true_eq] at hclear
  omega

end ConferenceBridge.Text
