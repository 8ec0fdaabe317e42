import ConferenceBridge.Proofs.Text.Numeral
import ConferenceBridge.Proofs.Text.Trim

/-!
# The grammar of integers

Which texts stand for integers, and for which, rule by rule and apart from any reader: digits of any
script with single low lines between them, a sign in front of them, and white space around both.
There are at most `digitLimit` digits, leading zeros included. A text is read as an integer just if
it follows these rules, so the integer is bounded, and every integer within the bound is read back
from its plain digits.
-/

namespace ConferenceBridge.Text

/-! ### The rules -/

/-- Digits of any script, with at most one low line between two of them, and the values of the
digits. -/
inductive IsDigitRun : List Char → List Nat → Prop where
  /-- A single digit. -/
  | last {c : Char} {digit : Nat} (hc : digitOfAnyScript? c = some digit) : IsDigitRun [c] [digit]
  /-- A digit right in front of others. -/
  | digit {c : Char} {digit : Nat} {rest : List Char} {digits : List Nat}
    (hc : digitOfAnyScript? c = some digit) (hrest : IsDigitRun rest digits) :
    IsDigitRun (c :: rest) (digit :: digits)
  /-- A digit and a low line in front of others. -/
  | separated {c : Char} {digit : Nat} {rest : List Char} {digits : List Nat}
    (hc : digitOfAnyScript? c = some digit) (hrest : IsDigitRun rest digits) :
    IsDigitRun (c :: '_' :: rest) (digit :: digits)

/-- The sign of a numeral, true for a minus. -/
inductive IsSign : List Char → Bool → Prop where
  /-- There is none. -/
  | absent : IsSign [] false
  /-- A plus. -/
  | plus : IsSign ['+'] false
  /-- A minus. -/
  | minus : IsSign ['-'] true

/-- A text that stands for an integer. -/
inductive IsNumeral : List Char → Int → Prop where
  /-- White space, an optional sign, digits within the limit, and white space. -/
  | parts {front sign run back : List Char} {negative : Bool} {digits : List Nat}
    (hfront : ∀ c ∈ front, isWhiteSpace c = true) (hsign : IsSign sign negative)
    (hrun : IsDigitRun run digits) (hlength : digits.length ≤ digitLimit)
    (hback : ∀ c ∈ back, isWhiteSpace c = true) :
    IsNumeral (front ++ (sign ++ run) ++ back) (signed negative (valueOfDigits digits))

/-! ### Runs of digits -/

/-- Whether a character is a low line or a digit of any script. -/
def isRunChar (c : Char) : Bool := c == '_' || (digitOfAnyScript? c).isSome

namespace IsDigitRun

variable {run : List Char} {digits : List Nat}

/-- A run starts with a digit. -/
theorem exists_first (h : IsDigitRun run digits) :
    ∃ first others digit, run = first :: others ∧ digitOfAnyScript? first = some digit := by
  cases h with
  | last hc | digit hc _ | separated hc _ => exact ⟨_, _, _, rfl, hc⟩

/-- A run ends with a digit. -/
theorem exists_last (h : IsDigitRun run digits) :
    ∃ last digit, run.getLast? = some last ∧ digitOfAnyScript? last = some digit := by
  induction h with
  | last hc => exact ⟨_, _, rfl, hc⟩
  | digit hc hrest ih =>
    obtain ⟨last, digit, hlast, hdigit⟩ := ih
    exact ⟨last, digit, by simp [List.getLast?_cons, hlast], hdigit⟩
  | separated hc hrest ih =>
    obtain ⟨last, digit, hlast, hdigit⟩ := ih
    exact ⟨last, digit, by simp [List.getLast?_cons, hlast], hdigit⟩

/-- A run has no other characters. -/
theorem isRunChar_of_mem (h : IsDigitRun run digits) : ∀ c ∈ run, isRunChar c = true := by
  induction h with
  | last hc => simp [isRunChar, hc]
  | digit hc hrest ih => exact List.forall_mem_cons.2 ⟨by simp [isRunChar, hc], ih⟩
  | separated hc hrest ih =>
    exact List.forall_mem_cons.2 ⟨by simp [isRunChar, hc], List.forall_mem_cons.2 ⟨rfl, ih⟩⟩

/-- The low lines of a run stand between digits. -/
theorem wellSeparated (h : IsDigitRun run digits) : Text.wellSeparated run = true := by
  induction h with
  | last hc =>
    have hmark := not_mark_of_digitOfAnyScript? hc
    simp_all [Text.wellSeparated]
  | digit hc hrest ih =>
    obtain ⟨first, others, _, rfl, hfirst⟩ := hrest.exists_first
    have hmark := not_mark_of_digitOfAnyScript? hc
    have hnext := not_mark_of_digitOfAnyScript? hfirst
    rw [Text.wellSeparated]
    · exact ih
    · simp_all
    · simp_all
  | separated hc hrest ih =>
    have hmark := not_mark_of_digitOfAnyScript? hc
    rw [Text.wellSeparated]
    · exact ih
    · simp_all

/-- The values of a run are those of its digits. -/
theorem filterMap_eq (h : IsDigitRun run digits) : run.filterMap digitOfAnyScript? = digits := by
  induction h with
  | last hc => simp [hc]
  | digit hc hrest ih => simp [hc, ih]
  | separated hc hrest ih => simp [hc, digitOfAnyScript?_lowLine, ih]

/-- The digits of a run are decimal. -/
theorem lt_ten (h : IsDigitRun run digits) : ∀ digit ∈ digits, digit < 10 := by
  intro digit hdigit
  rw [← h.filterMap_eq] at hdigit
  obtain ⟨c, _, hc⟩ := List.mem_filterMap.1 hdigit
  exact digitOfAnyScript?_lt hc

end IsDigitRun

/-- Plain digits are a run. -/
theorem isDigitRun_of_isDigit {run : List Char} (hne : run ≠ [])
    (hrun : ∀ c ∈ run, c.isDigit = true) : IsDigitRun run (run.map fun c => c.toNat - 48) := by
  induction run with
  | nil => exact absurd rfl hne
  | cons c rest ih =>
    obtain ⟨hc, hrest⟩ := List.forall_mem_cons.1 hrun
    have hdigit := digitOfAnyScript?_of_isDigit hc
    by_cases hlast : rest = []
    · rw [hlast]
      exact .last hdigit
    · exact .digit hdigit (ih hlast hrest)

/-- A character of a run that is no low line is a digit. -/
theorem exists_digit_of_isRunChar {c : Char} (hc : isRunChar c = true) (hlowLine : c ≠ '_') :
    ∃ digit, digitOfAnyScript? c = some digit := by
  rw [isRunChar, Bool.or_eq_true, beq_iff_eq] at hc
  exact Option.isSome_iff_exists.1 (hc.resolve_left hlowLine)

/-- Digits and low lines that are well separated are a run. -/
theorem isDigitRun_of_wellSeparated {run : List Char} (hrun : ∀ c ∈ run, isRunChar c = true)
    (hseparated : wellSeparated run = true) : ∃ digits, IsDigitRun run digits := by
  induction run using wellSeparated.induct with
  | case1 => cases hseparated
  | case2 rest => simp [wellSeparated] at hseparated
  | case3 c hc =>
    obtain ⟨digit, hdigit⟩ := exists_digit_of_isRunChar (hrun c List.mem_cons_self) hc
    exact ⟨[digit], .last hdigit⟩
  | case4 c rest hc ih =>
    obtain ⟨hfirst, _, hrest⟩ :=
      (List.forall_mem_cons.1 hrun).imp_right List.forall_mem_cons.1
    obtain ⟨digit, hdigit⟩ := exists_digit_of_isRunChar hfirst hc
    rw [wellSeparated] at hseparated
    · obtain ⟨digits, hdigits⟩ := ih hrest hseparated
      exact ⟨digit :: digits, .separated hdigit hdigits⟩
    · exact hc
  | case5 c next rest hc hnext ih =>
    obtain ⟨hfirst, hrest⟩ := List.forall_mem_cons.1 hrun
    obtain ⟨digit, hdigit⟩ := exists_digit_of_isRunChar hfirst hc
    rw [wellSeparated] at hseparated
    · obtain ⟨digits, hdigits⟩ := ih hrest hseparated
      exact ⟨digit :: digits, .digit hdigit hdigits⟩
    · exact hc
    · exact hnext

/-- The digits at the start of a text are all of it just if it is a run of them. -/
theorem leadingDigits?_eq_some_nil_iff {text : List Char} {digits : List Nat} :
    leadingDigits? text = some (digits, []) ↔ IsDigitRun text digits := by
  have hunfold : leadingDigits? text =
      if wellSeparated (text.takeWhile isRunChar) then
        some ((text.takeWhile isRunChar).filterMap digitOfAnyScript?, text.dropWhile isRunChar)
      else none := rfl
  rw [hunfold]
  constructor
  · intro h
    split at h
    · next hseparated =>
      obtain ⟨hdigits, hrest⟩ := Prod.mk.inj (Option.some.inj h)
      have hrun : ∀ c ∈ text, isRunChar c = true := List.dropWhile_eq_nil_iff.1 hrest
      rw [List.takeWhile_eq_self_iff.2 hrun] at hseparated hdigits
      obtain ⟨values, hvalues⟩ := isDigitRun_of_wellSeparated hrun hseparated
      rwa [← hdigits, hvalues.filterMap_eq]
    · cases h
  · intro h
    rw [List.takeWhile_eq_self_iff.2 h.isRunChar_of_mem,
      List.dropWhile_eq_nil_iff.2 h.isRunChar_of_mem, if_pos h.wellSeparated, h.filterMap_eq]

/-! ### Reading numerals -/

/-- Every text is its sign and what follows it. -/
theorem isSign_splitSign (text : List Char) :
    ∃ sign, text = sign ++ (splitSign text).2 ∧ IsSign sign (splitSign text).1 := by
  unfold splitSign
  split
  · exact ⟨['-'], rfl, .minus⟩
  · exact ⟨['+'], rfl, .plus⟩
  · exact ⟨[], rfl, .absent⟩

/-- The sign in front of digits is split off. -/
theorem splitSign_append {sign run : List Char} {negative : Bool} {digits : List Nat}
    (hsign : IsSign sign negative) (hrun : IsDigitRun run digits) :
    splitSign (sign ++ run) = (negative, run) := by
  cases hsign with
  | plus | minus => rfl
  | absent =>
    obtain ⟨first, others, _, rfl, hfirst⟩ := hrun.exists_first
    exact splitSign_cons_of_digit hfirst others

/-- No white space stands at the ends of a sign and digits. -/
theorem isCore_sign_append {sign run : List Char} {negative : Bool} {digits : List Nat}
    (hsign : IsSign sign negative) (hrun : IsDigitRun run digits) :
    IsCore isWhiteSpace (sign ++ run) where
  head c hc := by
    obtain ⟨first, others, _, rfl, hfirst⟩ := hrun.exists_first
    have hdigit := isWhiteSpace_of_digitOfAnyScript? hfirst
    cases hsign with
    | absent => cases hc; exact hdigit
    | plus | minus => cases hc; decide
  last c hc := by
    obtain ⟨last, _, hlast, hdigit⟩ := hrun.exists_last
    rw [List.getLast?_append, hlast, Option.some_or] at hc
    cases hc
    exact isWhiteSpace_of_digitOfAnyScript? hdigit

/-- Reads the digits of a number whose sign is known. -/
def readUnsigned (negative : Bool) (body : List Char) : Except NumeralFault Int :=
  match leadingDigits? body with
  | none => .error .malformed
  | some (digits, rest) =>
    if digitLimit < digits.length then .error (.tooLong digits.length)
    else if rest.isEmpty then .ok (signed negative (valueOfDigits digits))
    else .error .malformed

/-- An integer is read by its sign and its digits. -/
theorem readInteger_eq_readUnsigned (text : String) :
    readInteger text =
      readUnsigned (splitSign (trim isWhiteSpace text.toList)).1
        (splitSign (trim isWhiteSpace text.toList)).2 := rfl

/-- Digits within the limit are read if nothing follows them, and nothing else is. -/
theorem readUnsigned_eq_ok_iff {negative : Bool} {body : List Char} {n : Int} :
    readUnsigned negative body = .ok n ↔
      ∃ digits, leadingDigits? body = some (digits, []) ∧ digits.length ≤ digitLimit ∧
        n = signed negative (valueOfDigits digits) := by
  rw [readUnsigned]
  constructor
  · intro h
    split at h
    · cases h
    · next digits rest hread =>
      split at h
      · cases h
      · next hlength =>
        split at h
        · next hrest =>
          rw [List.isEmpty_iff.1 hrest] at hread
          exact ⟨digits, hread, Nat.not_lt.1 hlength, (Except.ok.inj h).symm⟩
        · cases h
  · rintro ⟨digits, hread, hlength, rfl⟩
    simp only [hread, if_neg (Nat.not_lt.2 hlength), List.isEmpty_nil, if_true]

/-- A text is read as an integer just if it is a numeral for it. -/
theorem readInteger_eq_ok_iff {text : String} {n : Int} :
    readInteger text = .ok n ↔ IsNumeral text.toList n := by
  rw [readInteger_eq_readUnsigned, readUnsigned_eq_ok_iff]
  constructor
  · rintro ⟨digits, hread, hlength, rfl⟩
    obtain ⟨front, back, htext, hfront, hback⟩ := exists_margins isWhiteSpace text.toList
    obtain ⟨sign, hsplit, hsign⟩ := isSign_splitSign (trim isWhiteSpace text.toList)
    have hnumeral := IsNumeral.parts hfront hsign (leadingDigits?_eq_some_nil_iff.1 hread) hlength
      hback
    rwa [← hsplit, ← htext] at hnumeral
  · intro h
    generalize text.toList = chars at h
    cases h with
    | parts hfront hsign hrun hlength hback =>
      rw [trim_margins hfront (isCore_sign_append hsign hrun) hback, splitSign_append hsign hrun]
      exact ⟨_, leadingDigits?_eq_some_nil_iff.2 hrun, hlength, rfl⟩

/-! ### Reading back written integers -/

/-- A numeral stands for an integer within the limit. -/
theorem natAbs_lt_of_isNumeral {text : List Char} {n : Int} (h : IsNumeral text n) :
    n.natAbs < 10 ^ digitLimit := by
  cases h with
  | @parts _ _ _ _ negative digits _ _ hrun hlength _ =>
    calc (signed negative (valueOfDigits digits)).natAbs
        = valueOfDigits digits := natAbs_signed _ _
      _ < 10 ^ digits.length := valueOfDigits_lt hrun.lt_ten
      _ ≤ 10 ^ digitLimit := Nat.pow_le_pow_right (by decide) hlength

/-- A sign and the plain digits of a number within the limit are a numeral. -/
theorem isNumeral_sign_toDigits {sign : List Char} {negative : Bool} (hsign : IsSign sign negative)
    {n : Nat} (hn : n < 10 ^ digitLimit) :
    IsNumeral (sign ++ Nat.toDigits 10 n) (signed negative n) := by
  have hrun := isDigitRun_of_isDigit (Nat.toDigits_ne_nil (b := 10) (n := n)) fun _ =>
    isDigit_of_mem_toDigits
  have hlength : ((Nat.toDigits 10 n).map fun c => c.toNat - 48).length ≤ digitLimit := by
    rw [List.length_map]
    exact (Nat.length_toDigits_le_iff (by decide) (by decide)).2 hn
  have hnone : ∀ c ∈ ([] : List Char), isWhiteSpace c = true := List.forall_mem_nil _
  have hnumeral := IsNumeral.parts hnone hsign hrun hlength hnone
  rwa [valueOfDigits_map, Nat.ofDigitChars_ten_toDigits, List.nil_append, List.append_nil]
    at hnumeral

/-- An integer within the limit is read back from what is written for it. -/
theorem readInteger_integerText {n : Int} (hn : n.natAbs < 10 ^ digitLimit) :
    readInteger (integerText n) = .ok n := by
  rw [readInteger_eq_ok_iff, integerText, String.toList_ofList]
  cases n with
  | ofNat n => exact isNumeral_sign_toDigits .absent hn
  | negSucc n => exact isNumeral_sign_toDigits .minus hn

/-- An integer that was read lies within the limit. -/
theorem natAbs_lt_of_readInteger {text : String} {n : Int} (h : readInteger text = .ok n) :
    n.natAbs < 10 ^ digitLimit :=
  natAbs_lt_of_isNumeral (readInteger_eq_ok_iff.1 h)

end ConferenceBridge.Text
