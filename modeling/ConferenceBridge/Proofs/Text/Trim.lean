import ConferenceBridge.Text.Blank
import Mathlib.Data.List.TakeWhile

/-!
# What trimming takes away

Trimming splits a text into a margin in front, a core and a margin behind it. The core does not
start or end with a character that is dropped, and this determines it.
-/

namespace ConferenceBridge.Text

variable {drop : Char → Bool}

/-- A core starts and ends with characters that are not dropped, unless it is empty. -/
structure IsCore (drop : Char → Bool) (core : List Char) : Prop where
  /-- The first character is kept. -/
  head : ∀ c, core.head? = some c → drop c = false
  /-- The last character is kept. -/
  last : ∀ c, core.getLast? = some c → drop c = false

/-- Margins of dropped characters around a core are what trimming takes away. -/
theorem trim_margins {front core back : List Char} (hfront : ∀ c ∈ front, drop c = true)
    (hcore : IsCore drop core) (hback : ∀ c ∈ back, drop c = true) :
    trim drop (front ++ core ++ back) = core := by
  have hbackReverse : ∀ c ∈ back.reverse, drop c = true := by simpa using hback
  unfold trim trimEnd
  rw [List.append_assoc, List.dropWhile_append_of_pos hfront]
  cases hlist : core with
  | nil =>
    have hall : back.dropWhile drop = [] := List.dropWhile_eq_nil_iff.2 hback
    simp [hall]
  | cons first rest =>
    have hfirst : drop first = false := hcore.head first (by simp [hlist])
    have hend : (first :: rest).reverse.dropWhile drop = (first :: rest).reverse := by
      cases hreverse : (first :: rest).reverse with
      | nil => rfl
      | cons last others =>
        have hlast : core.getLast? = some last := by
          rw [hlist, ← List.head?_reverse, hreverse]
          rfl
        rw [List.dropWhile_cons_of_neg (by simp [hcore.last last hlast])]
    rw [List.cons_append, List.dropWhile_cons_of_neg (by simp [hfirst]), ← List.cons_append,
      List.reverse_append, List.dropWhile_append_of_pos hbackReverse, hend, List.reverse_reverse]

/-- A text without dropped characters at its ends is not changed. -/
theorem trim_of_isCore {text : List Char} (h : IsCore drop text) : trim drop text = text := by
  have hnone : ∀ c ∈ ([] : List Char), drop c = true := by simp
  simpa using trim_margins hnone h hnone

/-- Where dropping characters stops, there is one that is kept. -/
theorem head?_dropWhile_eq_false {text : List Char} {c : Char}
    (h : (text.dropWhile drop).head? = some c) : drop c = false := by
  have hnot := List.head?_dropWhile_not drop text
  rw [h] at hnot
  exact hnot

/-- What trimming leaves is a core. -/
theorem isCore_trim (drop : Char → Bool) (text : List Char) : IsCore drop (trim drop text) where
  head c hc := by
    unfold trim trimEnd at hc
    obtain ⟨back, hback⟩ : trimEnd drop (text.dropWhile drop) <+: text.dropWhile drop := by
      rw [trimEnd, ← List.reverse_suffix, List.reverse_reverse]
      exact List.dropWhile_suffix drop
    have hhead : (text.dropWhile drop).head? = some c := by
      rw [← hback, List.head?_append, trimEnd, hc]
      rfl
    exact head?_dropWhile_eq_false hhead
  last c hc := by
    rw [trim, trimEnd, List.getLast?_reverse] at hc
    exact head?_dropWhile_eq_false hc

/-- Every text is its trimmed form between two margins of dropped characters. -/
theorem exists_margins (drop : Char → Bool) (text : List Char) :
    ∃ front back, text = front ++ trim drop text ++ back ∧ (∀ c ∈ front, drop c = true) ∧
      ∀ c ∈ back, drop c = true := by
  have hkept : text.dropWhile drop = trim drop text ++
      ((text.dropWhile drop).reverse.takeWhile drop).reverse := by
    rw [trim, trimEnd, ← List.reverse_append, List.takeWhile_append_dropWhile,
      List.reverse_reverse]
  refine ⟨text.takeWhile drop, ((text.dropWhile drop).reverse.takeWhile drop).reverse, ?_, ?_, ?_⟩
  · rw [List.append_assoc, ← hkept, List.takeWhile_append_dropWhile]
  · exact fun c hc => List.all_eq_true.1 List.all_takeWhile c hc
  · exact fun c hc => List.all_eq_true.1 List.all_takeWhile c (List.mem_reverse.1 hc)

end ConferenceBridge.Text
