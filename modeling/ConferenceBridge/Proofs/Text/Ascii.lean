import ConferenceBridge.Proofs.Text.Casing

/-!
# ASCII names in small letters

Small letters are formed for all of Unicode, but hardly any of them lead into ASCII from outside.
The Kelvin sign has the small form `k`, and the dotted capital I has an `i` in its small form, next
to a mark that is not ASCII. So a name of ASCII characters other than `k` is the small form of its
own ASCII spellings alone.
-/

namespace ConferenceBridge.Text

/-- The code points of all ASCII characters but `k` and the null character. -/
def nameCodes : List CodeRange := [(0x1, 0x6a), (0x6c, 0x7f)]

/-- These characters are ASCII characters. -/
theorem lt_of_inRanges_nameCodes {c : Char} (h : inRanges nameCodes c = true) : c.toNat < 128 := by
  obtain ⟨range, hrange, _, hhigh⟩ := inRanges_iff.1 h
  simp only [nameCodes, List.mem_cons, List.not_mem_nil, or_false] at hrange
  rcases hrange with rfl | rfl <;> simp only at hhigh <;> omega

/-- Of the runs that reach beyond ASCII, none has partners among these characters. -/
theorem partners_clear_of_nameCodes :
    disjointRanges ((smallRuns.filter fun run => 128 ≤ run.last).map CaseRun.partnerRange)
      nameCodes = true := by
  decide +kernel

/-- The small form of an ASCII character. -/
theorem smallForm_of_ascii {c : Char} (hc : c.toNat < 128) : smallForm c = [c.toLower] := by
  have hall : ∀ code : Fin 128,
      smallForm (Char.ofNat code) = [(Char.ofNat code).toLower] := by decide +kernel
  simpa using hall ⟨c.toNat, hc⟩

/-- Only ASCII characters have small forms of ASCII characters other than `k`. -/
theorem lt_of_smallForm {c : Char} (h : ∀ d ∈ smallForm c, inRanges nameCodes d = true) :
    c.toNat < 128 := by
  by_contra hlarge
  unfold smallForm at h
  split at h
  · -- The mark of the dotted capital I is no ASCII character.
    exact absurd (h '\u0307' (by simp)) (by decide)
  · have hpartner := h _ List.mem_cons_self
    rw [partnerIn] at hpartner
    split at hpartner
    · next run hfind =>
      have hcontains : run.contains c.toNat = true := by simpa using List.find?_some hfind
      have hlast : c.toNat ≤ run.last := by
        simp only [CaseRun.contains, Bool.and_eq_true, decide_eq_true_eq] at hcontains
        exact hcontains.1.2
      have hrun : run ∈ smallRuns.filter fun run => 128 ≤ run.last := by
        refine List.mem_filter.2 ⟨List.mem_of_find?_eq_some hfind, decide_eq_true ?_⟩
        omega
      have hclear := inRanges_partner partners_clear_of_nameCodes (by decide) hrun hcontains
      rw [hclear] at hpartner
      cases hpartner
    · exact hlarge (lt_of_inRanges_nameCodes hpartner)

/-- ASCII texts are put in small letters character by character. -/
theorem lowercaseAfter_of_ascii {text : List Char} (h : ∀ c ∈ text, c.toNat < 128)
    (before : List Char) : lowercaseAfter before text = text.map Char.toLower := by
  induction text generalizing before with
  | nil => rfl
  | cons c rest ih =>
    obtain ⟨hc, hrest⟩ := List.forall_mem_cons.1 h
    have hsigma : c ≠ 'Σ' := by
      rintro rfl
      revert hc
      decide
    rw [lowercaseAfter, if_neg hsigma, smallForm_of_ascii hc, ih hrest, List.map_cons,
      List.singleton_append]

/-- A text whose small letters are ASCII characters other than `k` is an ASCII text. -/
theorem ascii_of_lowercaseAfter {text : List Char} {before : List Char}
    (h : ∀ d ∈ lowercaseAfter before text, inRanges nameCodes d = true) :
    ∀ c ∈ text, c.toNat < 128 := by
  induction text generalizing before with
  | nil => simp
  | cons c rest ih =>
    rw [lowercaseAfter] at h
    obtain ⟨hform, hrest⟩ := List.forall_mem_append.1 h
    refine List.forall_mem_cons.2 ⟨?_, ih hrest⟩
    by_cases hsigma : c = 'Σ'
    · -- Neither small sigma is an ASCII character.
      rw [if_pos hsigma] at hform
      have hsmall := lt_of_inRanges_nameCodes (hform _ List.mem_cons_self)
      unfold smallSigma at hsmall
      split at hsmall <;> exact absurd hsmall (by decide)
    · rw [if_neg hsigma] at hform
      exact lt_of_smallForm hform

/-- The texts that become a name of ASCII characters other than `k` in small letters are those of
ASCII characters that do so by the case of ASCII letters alone. -/
theorem lowercase_eq_iff {text name : List Char}
    (hname : ∀ d ∈ name, inRanges nameCodes d = true) :
    lowercase text = name ↔ (∀ c ∈ text, c.toNat < 128) ∧ text.map Char.toLower = name := by
  constructor
  · rintro rfl
    have hascii : ∀ c ∈ text, c.toNat < 128 := ascii_of_lowercaseAfter hname
    exact ⟨hascii, (lowercaseAfter_of_ascii hascii []).symm⟩
  · rintro ⟨hascii, rfl⟩
    exact lowercaseAfter_of_ascii hascii []

end ConferenceBridge.Text
