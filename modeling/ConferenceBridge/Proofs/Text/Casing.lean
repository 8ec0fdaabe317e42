import ConferenceBridge.Proofs.Text.Trim
import ConferenceBridge.Text.Casing

/-!
# Small letters and blanks

Blanks have no case, are not passed over when looking for a letter, and are the small form of
nothing but themselves. So it does not matter whether a text is trimmed before or after it is put in
small letters. All that is needed about the tables of letters is that their ranges keep clear of the
blanks.
-/

namespace ConferenceBridge.Text

/-- The code points of the blanks. -/
def blankCodes : List CodeRange := (0x1c, 0x1f) :: whiteSpace

/-- The range of a run, moved by the distance to its partners. -/
def CaseRun.partnerRange (run : CaseRun) : CodeRange :=
  (run.partner run.first, run.partner run.last)

/-- Blanks keep clear of the characters that are passed over when looking for a letter. -/
theorem blanks_clear_of_ignorables : disjointRanges blankCodes caseIgnorable = true := by
  decide +kernel

/-- Blanks keep clear of the letters that have a case. -/
theorem blanks_clear_of_letters : disjointRanges blankCodes casedLetters = true := by
  decide +kernel

/-- Blanks keep clear of the runs of characters with other small forms. -/
theorem blanks_clear_of_smallRuns :
    disjointRanges blankCodes (smallRuns.map fun run => (run.first, run.last)) = true := by
  decide +kernel

/-- The partners of these runs keep clear of the blanks. -/
theorem blanks_clear_of_partners :
    disjointRanges (smallRuns.map CaseRun.partnerRange) blankCodes = true := by
  decide +kernel

/-- A blank is its own small form. -/
theorem smallForm_of_isBlank {c : Char} (hc : isBlank c = true) : smallForm c = [c] := by
  have hne : c ≠ '\u0130' := by
    rintro rfl
    revert hc
    decide
  have hclear := inRanges_eq_false_of_disjoint blanks_clear_of_smallRuns hc
  have hnone : smallRuns.find? (·.contains c.toNat) = none := by
    refine List.find?_eq_none.2 fun run hrun hcontains => ?_
    simp only [CaseRun.contains, Bool.and_eq_true, decide_eq_true_eq] at hcontains
    rw [Bool.eq_false_iff] at hclear
    exact hclear (inRanges_iff.2 ⟨_, List.mem_map_of_mem hrun, hcontains.1⟩)
  simp [smallForm, hne, partnerIn, hnone]

/-- A character made from a code point has that code point, or is the null character. -/
theorem toNat_ofNat_or (code : Nat) :
    (Char.ofNat code).toNat = code ∨ Char.ofNat code = Char.ofNat 0 := by
  by_cases hvalid : code.isValidChar
  · left
    rw [Char.ofNat, dif_pos hvalid]
    rfl
  · right
    rw [Char.ofNat, dif_neg hvalid]
    rfl

/-- The partner of a member of a run is not in a class that keeps clear of the partners of all runs,
unless the null character is. -/
theorem inRanges_partner {runs : List CaseRun} {ranges : List CodeRange}
    (hdisjoint : disjointRanges (runs.map CaseRun.partnerRange) ranges = true)
    (hnull : inRanges ranges (Char.ofNat 0) = false) {run : CaseRun} (hrun : run ∈ runs)
    {code : Nat} (hcontains : run.contains code = true) :
    inRanges ranges (Char.ofNat (run.partner code)) = false := by
  rcases toNat_ofNat_or (run.partner code) with hcode | hnullCode
  · have hpartner : inRanges (runs.map CaseRun.partnerRange)
        (Char.ofNat (run.partner code)) = true := by
      refine inRanges_iff.2 ⟨_, List.mem_map_of_mem hrun, ?_⟩
      simp only [CaseRun.contains, Bool.and_eq_true, decide_eq_true_eq] at hcontains
      rw [hcode]
      simp only [CaseRun.partnerRange, CaseRun.partner]
      omega
    exact inRanges_eq_false_of_disjoint hdisjoint hpartner
  · rw [hnullCode]
    exact hnull

/-- The partner of a small run is no blank. -/
theorem isBlank_partner {run : CaseRun} (hrun : run ∈ smallRuns) {code : Nat}
    (hcontains : run.contains code = true) : isBlank (Char.ofNat (run.partner code)) = false :=
  inRanges_partner blanks_clear_of_partners (by decide) hrun hcontains

/-- No character but a blank has a blank in its small form. -/
theorem isBlank_of_mem_smallForm {c d : Char} (hc : isBlank c = false) (hd : d ∈ smallForm c) :
    isBlank d = false := by
  unfold smallForm at hd
  split at hd
  · simp only [List.mem_cons, List.not_mem_nil, or_false] at hd
    rcases hd with rfl | rfl <;> decide
  · rw [List.mem_singleton] at hd
    rw [hd, partnerIn]
    split
    · next run hfind =>
      exact isBlank_partner (List.mem_of_find?_eq_some hfind) (by simpa using List.find?_some hfind)
    · exact hc

/-- The small form of a character has at least one character. -/
theorem smallForm_ne_nil (c : Char) : smallForm c ≠ [] := by
  unfold smallForm
  split <;> simp

/-- Blanks after a text do not make it start with a letter. -/
theorem startsWithLetter_append_blanks {blanks : List Char}
    (hblanks : ∀ c ∈ blanks, isBlank c = true) (text : List Char) :
    startsWithLetter (text ++ blanks) = startsWithLetter text := by
  induction text with
  | nil =>
    cases blanks with
    | nil => rfl
    | cons c rest =>
      have hc := hblanks c List.mem_cons_self
      have hpass := inRanges_eq_false_of_disjoint blanks_clear_of_ignorables hc
      simp [startsWithLetter, hpass, inRanges_eq_false_of_disjoint blanks_clear_of_letters hc]
  | cons c rest ih =>
    cases hpass : inRanges caseIgnorable c with
    | true => simpa [startsWithLetter, hpass] using ih
    | false => simp [startsWithLetter, hpass]

/-- A blank is no capital sigma. -/
theorem ne_sigma_of_isBlank {c : Char} (hc : isBlank c = true) : c ≠ 'Σ' := by
  rintro rfl
  revert hc
  decide

/-- Blanks before a text are kept as they are, and the text sees them as what was before it. -/
theorem lowercaseAfter_blanks_append {blanks : List Char}
    (hblanks : ∀ c ∈ blanks, isBlank c = true) (before text : List Char) :
    lowercaseAfter before (blanks ++ text) =
      blanks ++ lowercaseAfter (blanks.reverse ++ before) text := by
  induction blanks generalizing before with
  | nil => rfl
  | cons c rest ih =>
    have hc := hblanks c List.mem_cons_self
    rw [List.cons_append, lowercaseAfter, if_neg (ne_sigma_of_isBlank hc), smallForm_of_isBlank hc,
      ih fun d hd => hblanks d (List.mem_cons_of_mem _ hd)]
    simp

/-- Blanks in front of what was before do not matter. -/
theorem lowercaseAfter_append_blanks_before {blanks : List Char}
    (hblanks : ∀ c ∈ blanks, isBlank c = true) (before text : List Char) :
    lowercaseAfter (before ++ blanks) text = lowercaseAfter before text := by
  induction text generalizing before with
  | nil => rfl
  | cons c rest ih =>
    have hsigma : smallSigma (before ++ blanks) rest = smallSigma before rest := by
      rw [smallSigma, startsWithLetter_append_blanks hblanks, smallSigma]
    rw [lowercaseAfter, hsigma, ← List.cons_append, ih, lowercaseAfter]

/-- Blanks after a text are kept as they are, and do not matter to the text. -/
theorem lowercaseAfter_append_blanks {blanks : List Char}
    (hblanks : ∀ c ∈ blanks, isBlank c = true) (before text : List Char) :
    lowercaseAfter before (text ++ blanks) = lowercaseAfter before text ++ blanks := by
  induction text generalizing before with
  | nil =>
    have hkept := lowercaseAfter_blanks_append hblanks before []
    simpa [lowercaseAfter] using hkept
  | cons c rest ih =>
    have hsigma : smallSigma before (rest ++ blanks) = smallSigma before rest := by
      rw [smallSigma, startsWithLetter_append_blanks hblanks, smallSigma]
    rw [List.cons_append, lowercaseAfter, hsigma, ih, lowercaseAfter, List.append_assoc]

/-- The small form of one character of a text, which may depend on its neighbours. -/
theorem lowercaseAfter_cons (before : List Char) (c : Char) (rest : List Char) :
    ∃ form, lowercaseAfter before (c :: rest) = form ++ lowercaseAfter (c :: before) rest ∧
      form ≠ [] ∧ (isBlank c = false → ∀ d ∈ form, isBlank d = false) := by
  by_cases hc : c = 'Σ'
  · refine ⟨[smallSigma before rest], by rw [lowercaseAfter, if_pos hc], by simp, ?_⟩
    intro _ d hd
    rw [List.mem_singleton.1 hd, smallSigma]
    split <;> decide
  · refine ⟨smallForm c, by rw [lowercaseAfter, if_neg hc], smallForm_ne_nil c, ?_⟩
    exact fun hblank d hd => isBlank_of_mem_smallForm hblank hd

/-- A text that does not end with a blank does not do so in small letters. -/
theorem getLast?_lowercaseAfter {text : List Char}
    (hlast : ∀ c, text.getLast? = some c → isBlank c = false) (before : List Char) {d : Char}
    (hd : (lowercaseAfter before text).getLast? = some d) : isBlank d = false := by
  induction text generalizing before with
  | nil => simp [lowercaseAfter] at hd
  | cons c rest ih =>
    obtain ⟨form, hform, hne, hkept⟩ := lowercaseAfter_cons before c rest
    cases rest with
    | nil =>
      have hc : isBlank c = false := hlast c rfl
      rw [hform] at hd
      simp only [lowercaseAfter, List.append_nil] at hd
      exact hkept hc d (List.mem_of_getLast? hd)
    | cons next others =>
      obtain ⟨nextForm, hnextForm, hnextNe, _⟩ := lowercaseAfter_cons (c :: before) next others
      have hrest : lowercaseAfter (c :: before) (next :: others) ≠ [] := by
        rw [hnextForm]
        simp [hnextNe]
      cases hend : (lowercaseAfter (c :: before) (next :: others)).getLast? with
      | none => exact absurd (List.getLast?_eq_none_iff.1 hend) hrest
      | some e =>
        rw [hform, List.getLast?_append, hend, Option.some_or] at hd
        exact ih (fun e he => hlast e (by simpa using he)) (c :: before) (hend.trans hd)

/-- A core is a core in small letters. -/
theorem IsCore.lowercaseAfter {text : List Char} (h : IsCore isBlank text) (before : List Char) :
    IsCore isBlank (lowercaseAfter before text) where
  head d hd := by
    cases text with
    | nil => simp [Text.lowercaseAfter] at hd
    | cons c rest =>
      obtain ⟨form, hform, hne, hkept⟩ := lowercaseAfter_cons before c rest
      have hd' : form.head? = some d := by
        rw [hform, List.head?_append, List.head?_eq_some_head hne, Option.some_or] at hd
        rwa [List.head?_eq_some_head hne]
      exact hkept (h.head c rfl) d (List.mem_of_head? hd')
  last _ hd := getLast?_lowercaseAfter h.last before hd

/-- Trimming a text and putting it in small letters may change places. -/
theorem lowercase_trim (text : List Char) :
    lowercase (trim isBlank text) = trim isBlank (lowercase text) := by
  obtain ⟨front, back, htext, hfront, hback⟩ := exists_margins isBlank text
  have hlower : lowercase text = front ++ lowercase (trim isBlank text) ++ back := by
    calc lowercase text
        = lowercaseAfter [] (front ++ trim isBlank text ++ back) := by rw [← htext, lowercase]
      _ = lowercaseAfter [] (front ++ trim isBlank text) ++ back :=
          lowercaseAfter_append_blanks hback _ _
      _ = front ++ lowercaseAfter ([] ++ front.reverse) (trim isBlank text) ++ back := by
          rw [lowercaseAfter_blanks_append hfront, List.append_nil, List.nil_append]
      _ = front ++ lowercase (trim isBlank text) ++ back := by
          rw [lowercaseAfter_append_blanks_before (by simpa using hfront), lowercase]
  have hcore : IsCore isBlank (lowercase (trim isBlank text)) :=
    (isCore_trim isBlank text).lowercaseAfter []
  rw [hlower, trim_margins hfront hcore hback]

end ConferenceBridge.Text
