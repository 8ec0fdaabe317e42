import ConferenceBridge.Logging.Format
import ConferenceBridge.Proofs.Text.Numeral
import Mathlib.Data.List.TakeWhile

/-!
# The grammar of formats

Which texts are accepted as formats, rule by rule and apart from any reader: a directive is a
percent sign, a name in parentheses, flags, an optional width, an optional precision and a
conversion, and a format is empty or holds a directive somewhere. The reader takes each part as far
as it goes and never goes back. It need not, because the part that follows starts with another
character. Only a zero at the start of a width is a flag as well, and what is left of the width is a
width again.
-/

namespace ConferenceBridge.Logging

open Text

/-! ### The rules -/

/-- Whether a character is a digit of some script. -/
def isDigitOfAnyScript (c : Char) : Bool := (digitOfAnyScript? c).isSome

/-- A star, or one or more digits of any script. -/
inductive IsCount : List Char → Prop where
  /-- A star. -/
  | star : IsCount ['*']
  /-- Digits. -/
  | digits {run : List Char} (hne : run ≠ [])
    (hrun : ∀ c ∈ run, isDigitOfAnyScript c = true) : IsCount run

/-- The width of a directive. -/
inductive IsWidth : List Char → Prop where
  /-- There is none. -/
  | absent : IsWidth []
  /-- A count. -/
  | count {count : List Char} (hcount : IsCount count) : IsWidth count

/-- The precision of a directive. -/
inductive IsPrecision : List Char → Prop where
  /-- There is none. -/
  | absent : IsPrecision []
  /-- A point and a count. -/
  | count {count : List Char} (hcount : IsCount count) : IsPrecision ('.' :: count)

/-- A directive. -/
inductive IsDirective : List Char → Prop where
  /-- A percent sign, a name in parentheses, flags, a width, a precision and a conversion. -/
  | parts {field flags width precision : List Char} {conversion : Char} (hne : field ≠ [])
    (hfield : ∀ c ∈ field, isWordCharacter c = true) (hflags : ∀ c ∈ flags, isFlag c = true)
    (hwidth : IsWidth width) (hprecision : IsPrecision precision)
    (hconversion : isConversion conversion = true) :
    IsDirective ('%' :: '(' :: field ++ ')' :: flags ++ width ++ precision ++ [conversion])

/-- A format that is accepted: an empty one, or one that holds a directive. -/
def IsFormat (format : String) : Prop :=
  format = "" ∨ ∃ before directive after,
    format.toList = before ++ directive ++ after ∧ IsDirective directive

/-! ### What the parts start with -/

/-- What does not start with a character of a class is kept when such characters are dropped. -/
theorem dropWhile_append_of_clear {drop : Char → Bool} {text rest : List Char}
    (hrest : ∀ c, rest.head? = some c → drop c = false) :
    (text ++ rest).dropWhile drop = text.dropWhile drop ++ rest := by
  have hkept : rest.dropWhile drop = rest := by
    cases rest with
    | nil => rfl
    | cons c rest => rw [List.dropWhile_cons_of_neg (by simp [hrest c rfl])]
  rw [List.dropWhile_append]
  split
  · next hnone => rw [List.isEmpty_iff.1 hnone, hkept, List.nil_append]
  · rfl

/-- It is all that is kept after such characters. -/
theorem dropWhile_append_of_head {drop : Char → Bool} {run rest : List Char}
    (hrun : ∀ c ∈ run, drop c = true) (hrest : ∀ c, rest.head? = some c → drop c = false) :
    (run ++ rest).dropWhile drop = rest := by
  rw [dropWhile_append_of_clear hrest, List.dropWhile_eq_nil_iff.2 hrun, List.nil_append]

/-- The code points among which those of all conversions are. -/
def conversionCodes : List CodeRange :=
  [(0x25, 0x25), (0x41, 0x5a), (0x61, 0x7a), (0x130, 0x131), (0x17f, 0x17f)]

/-- Conversions keep clear of the digits of all scripts. -/
theorem conversions_clear_of_digits : disjointRanges conversionCodes digitRanges = true := by
  decide +kernel

/-- A conversion is a letter or a percent sign. -/
theorem inRanges_of_isConversion {c : Char} (hc : isConversion c = true) :
    inRanges conversionCodes c = true := by
  rw [isConversion, Bool.or_eq_true, List.contains_iff_mem, List.contains_iff_mem] at hc
  have hsmall : ['d', 'i', 'o', 'u', 'x', 'e', 'f', 'g', 'c', 'r', 's', 'a', '%'].all
      (inRanges conversionCodes) = true := by decide
  have hspecial : ['\u017f', '\u0130', '\u0131'].all (inRanges conversionCodes) = true := by decide
  rcases hc with hletter | hother
  · unfold Char.toLower at hletter
    split at hletter
    · next hcapital =>
      exact inRanges_iff.2 ⟨(0x41, 0x5a), by decide, hcapital⟩
    · exact List.all_eq_true.1 hsmall c hletter
  · exact List.all_eq_true.1 hspecial c hother

/-- A conversion is no digit. -/
theorem isDigitOfAnyScript_of_isConversion {c : Char} (hc : isConversion c = true) :
    isDigitOfAnyScript c = false := by
  have hclear := inRanges_eq_false_of_disjoint conversions_clear_of_digits
    (inRanges_of_isConversion hc)
  refine Bool.eq_false_iff.2 fun hdigit => ?_
  obtain ⟨_, hvalue⟩ := Option.isSome_iff_exists.1 hdigit
  rw [inRanges_of_digitOfAnyScript? hvalue] at hclear
  cases hclear

/-- A character that neither belongs to the flags nor to a count. -/
structure IsDelimiter (c : Char) : Prop where
  /-- It is no flag. -/
  flag : isFlag c = false
  /-- It is no star. -/
  star : c ≠ '*'
  /-- It is no digit. -/
  digit : isDigitOfAnyScript c = false

/-- The point in front of a precision belongs neither to the flags nor to a count. -/
theorem isDelimiter_point : IsDelimiter '.' := ⟨by decide, by decide, by decide +kernel⟩

/-- A conversion belongs neither to the flags nor to a count. -/
theorem isDelimiter_of_isConversion {c : Char} (hc : isConversion c = true) : IsDelimiter c where
  flag := by
    have hflags : ['#', '0', '+', ' ', '-'].all (fun d => !isConversion d) = true := by decide
    refine Bool.eq_false_iff.2 fun hflag => ?_
    have hother := List.all_eq_true.1 hflags c (List.contains_iff_mem.1 hflag)
    rw [hc] at hother
    cases hother
  star := by
    rintro rfl
    revert hc
    decide
  digit := isDigitOfAnyScript_of_isConversion hc

/-! ### Counts, widths and precisions -/

/-- A count is read as far as it goes. -/
theorem skipCount?_append {count rest : List Char} (hcount : IsCount count)
    (hrest : ∀ c, rest.head? = some c → isDigitOfAnyScript c = false) :
    skipCount? (count ++ rest) = some rest := by
  cases hcount with
  | star => rfl
  | digits hne hrun =>
    obtain ⟨c, others, rfl⟩ := List.exists_cons_of_ne_nil hne
    obtain ⟨hc, hothers⟩ := List.forall_mem_cons.1 hrun
    have hstar : c ≠ '*' := by
      rintro rfl
      revert hc
      decide
    rw [List.cons_append, skipCount?]
    · exact (if_pos hc).trans (congrArg some (dropWhile_append_of_head hothers hrest))
    · exact hstar

/-- Where no count starts, none is read. -/
theorem skipCount?_eq_none {text : List Char} (h : ∀ c, text.head? = some c → IsDelimiter c) :
    skipCount? text = none := by
  cases text with
  | nil => rfl
  | cons c rest =>
    rw [skipCount?]
    · exact if_neg (Bool.eq_false_iff.1 (h c rfl).digit)
    · exact (h c rfl).star

/-- What is passed over as a count is one. -/
theorem isCount_of_skipCount? {text rest : List Char} (h : skipCount? text = some rest) :
    ∃ count, text = count ++ rest ∧ IsCount count := by
  unfold skipCount? at h
  split at h
  · cases h
    exact ⟨['*'], rfl, .star⟩
  · next c others _ =>
    obtain ⟨hc, hothers⟩ := Option.ite_none_right_eq_some.1 h
    cases hothers
    refine ⟨c :: others.takeWhile isDigitOfAnyScript, ?_, .digits (List.cons_ne_nil _ _) ?_⟩
    · exact congrArg (c :: ·) List.takeWhile_append_dropWhile.symm
    · exact List.forall_mem_cons.2 ⟨hc, fun d hd => List.mem_takeWhile_imp hd⟩
  · cases h

/-- A width without the flags at its start is a width. -/
theorem IsWidth.dropWhile_flags {width : List Char} (h : IsWidth width) :
    IsWidth (width.dropWhile isFlag) := by
  cases h with
  | absent => exact .absent
  | count hcount =>
    cases hcount with
    | star => exact .count .star
    | digits hne hrun =>
      by_cases hnil : width.dropWhile isFlag = []
      · rw [hnil]
        exact .absent
      · refine .count (.digits hnil fun c hc => hrun c ?_)
        exact (List.dropWhile_suffix isFlag).subset hc

/-- A width is read as far as it goes. -/
theorem skipCount?_getD_append {width rest : List Char} (hwidth : IsWidth width)
    (hrest : ∀ c, rest.head? = some c → IsDelimiter c) :
    (skipCount? (width ++ rest)).getD (width ++ rest) = rest := by
  cases hwidth with
  | absent => rw [List.nil_append, skipCount?_eq_none hrest, Option.getD_none]
  | count hcount =>
    rw [skipCount?_append hcount fun c hc => (hrest c hc).digit, Option.getD_some]

/-- What is passed over as a width is one. -/
theorem isWidth_of_skipCount?_getD (text : List Char) :
    ∃ width, text = width ++ (skipCount? text).getD text ∧ IsWidth width := by
  cases hskip : skipCount? text with
  | none => exact ⟨[], rfl, .absent⟩
  | some rest =>
    obtain ⟨count, htext, hcount⟩ := isCount_of_skipCount? hskip
    exact ⟨count, htext, .count hcount⟩

/-- A precision is read as far as it goes. -/
theorem skipPrecision_append {precision rest : List Char} {conversion : Char}
    (hprecision : IsPrecision precision) (hconversion : isConversion conversion = true) :
    skipPrecision (precision ++ conversion :: rest) = conversion :: rest := by
  cases hprecision with
  | absent =>
    rw [List.nil_append, skipPrecision]
    rintro others ⟨⟩
    revert hconversion
    decide
  | count hcount =>
    rw [List.cons_append, skipPrecision, skipCount?_append hcount, Option.getD_some]
    exact fun c hc => Option.some.inj hc ▸ isDigitOfAnyScript_of_isConversion hconversion

/-- What is passed over as a precision is one. -/
theorem isPrecision_of_skipPrecision (text : List Char) :
    ∃ precision, text = precision ++ skipPrecision text ∧ IsPrecision precision := by
  unfold skipPrecision
  split
  · next rest =>
    cases hskip : skipCount? rest with
    | none => exact ⟨[], rfl, .absent⟩
    | some after =>
      obtain ⟨count, hrest, hcount⟩ := isCount_of_skipCount? hskip
      exact ⟨'.' :: count, congrArg ('.' :: ·) hrest, .count hcount⟩
  · exact ⟨[], rfl, .absent⟩

/-- A precision and a conversion start with a character that ends flags and counts. -/
theorem isDelimiter_head {precision rest : List Char} {conversion : Char}
    (hprecision : IsPrecision precision) (hconversion : isConversion conversion = true) :
    ∀ c, (precision ++ conversion :: rest).head? = some c → IsDelimiter c := by
  cases hprecision with
  | absent => exact fun c hc => Option.some.inj hc ▸ isDelimiter_of_isConversion hconversion
  | count _ => exact fun c hc => Option.some.inj hc ▸ isDelimiter_point

/-! ### Directives and formats -/

/-- A closing parenthesis does not belong to a name. -/
theorem isWordCharacter_closing : isWordCharacter ')' = false := by decide +kernel

/-- What follows the name of a field, as far as it is looked at: flags, a width and a precision are
passed over, and a conversion has to follow. -/
def endsDirective (text : List Char) : Bool :=
  let afterFlags := text.dropWhile isFlag
  (skipPrecision ((skipCount? afterFlags).getD afterFlags)).head?.any isConversion

/-- A text starts with a directive if a name in parentheses comes after a percent sign, and the
rest of a directive after it. -/
theorem startsDirective_iff_name {text : List Char} :
    startsDirective text = true ↔ ∃ field rest, text = '%' :: '(' :: field ++ ')' :: rest ∧
      field ≠ [] ∧ (∀ c ∈ field, isWordCharacter c = true) ∧ endsDirective rest = true := by
  constructor
  · intro h
    unfold startsDirective at h
    split at h
    · next afterOpening =>
      split at h
      · next c name afterField htake hdrop =>
        refine ⟨c :: name, afterField, ?_, List.cons_ne_nil _ _, ?_, h⟩
        · rw [List.cons_append, List.cons_append, ← htake, ← hdrop,
            List.takeWhile_append_dropWhile]
        · rw [← htake]
          exact fun d hd => List.mem_takeWhile_imp hd
      · cases h
    · cases h
  · rintro ⟨field, rest, rfl, hne, hfield, hrest⟩
    obtain ⟨c, name, rfl⟩ := List.exists_cons_of_ne_nil hne
    have htake : ((c :: name) ++ ')' :: rest).takeWhile isWordCharacter = c :: name := by
      rw [List.takeWhile_append_of_pos hfield, List.takeWhile_cons_of_neg, List.append_nil]
      simp [isWordCharacter_closing]
    have hdrop : ((c :: name) ++ ')' :: rest).dropWhile isWordCharacter = ')' :: rest :=
      dropWhile_append_of_head hfield fun d hd => Option.some.inj hd ▸ isWordCharacter_closing
    rw [List.cons_append, List.cons_append, startsDirective, htake, hdrop]
    exact hrest

/-- The rest of a directive is flags, a width, a precision and a conversion. -/
theorem endsDirective_iff {text : List Char} :
    endsDirective text = true ↔ ∃ flags width precision conversion rest,
      text = flags ++ width ++ precision ++ conversion :: rest ∧
        (∀ c ∈ flags, isFlag c = true) ∧ IsWidth width ∧ IsPrecision precision ∧
        isConversion conversion = true := by
  constructor
  · intro h
    obtain ⟨width, hafterFlags, hwidth⟩ := isWidth_of_skipCount?_getD (text.dropWhile isFlag)
    obtain ⟨precision, hafterWidth, hprecision⟩ := isPrecision_of_skipPrecision
      ((skipCount? (text.dropWhile isFlag)).getD (text.dropWhile isFlag))
    obtain ⟨conversion, hhead, hconversion⟩ := (Option.any_eq_true _ _).1 h
    obtain ⟨rest, hrest⟩ := List.head?_eq_some_iff.1 hhead
    refine ⟨text.takeWhile isFlag, width, precision, conversion, rest, ?_, ?_, hwidth, hprecision,
      hconversion⟩
    · rw [List.append_assoc, List.append_assoc, ← hrest, ← hafterWidth, ← hafterFlags,
        List.takeWhile_append_dropWhile]
    · exact fun c hc => List.mem_takeWhile_imp hc
  · rintro ⟨flags, width, precision, conversion, rest, rfl, hflags, hwidth, hprecision,
      hconversion⟩
    have hhead : ∀ c, (precision ++ conversion :: rest).head? = some c → IsDelimiter c :=
      isDelimiter_head hprecision hconversion
    -- Zeros in front of the width count as flags.
    have hafterFlags : (flags ++ width ++ precision ++ conversion :: rest).dropWhile isFlag =
        width.dropWhile isFlag ++ (precision ++ conversion :: rest) := by
      rw [List.append_assoc, List.append_assoc, List.dropWhile_append_of_pos hflags]
      exact dropWhile_append_of_clear fun c hc => (hhead c hc).flag
    rw [endsDirective, hafterFlags]
    simp only [skipCount?_getD_append hwidth.dropWhile_flags hhead,
      skipPrecision_append hprecision hconversion, List.head?_cons, Option.any_some, hconversion]

/-- A text starts with a directive just if the rules say so. -/
theorem startsDirective_iff {text : List Char} :
    startsDirective text = true ↔ ∃ directive rest, text = directive ++ rest ∧
      IsDirective directive := by
  rw [startsDirective_iff_name]
  constructor
  · rintro ⟨field, after, rfl, hne, hfield, hafter⟩
    obtain ⟨flags, width, precision, conversion, rest, rfl, hflags, hwidth, hprecision,
      hconversion⟩ := endsDirective_iff.1 hafter
    exact ⟨_, rest, by simp, .parts hne hfield hflags hwidth hprecision hconversion⟩
  · rintro ⟨_, rest, rfl, @⟨field, flags, width, precision, conversion, hne, hfield, hflags, hwidth,
      hprecision, hconversion⟩⟩
    refine ⟨field, flags ++ width ++ precision ++ conversion :: rest, by simp, hne, hfield, ?_⟩
    exact endsDirective_iff.2 ⟨flags, width, precision, conversion, rest, rfl, hflags, hwidth,
      hprecision, hconversion⟩

/-- A text holds a directive just if one stands somewhere in it. -/
theorem holdsDirective_iff {text : List Char} :
    holdsDirective text = true ↔ ∃ before directive after,
      text = before ++ directive ++ after ∧ IsDirective directive := by
  induction text with
  | nil =>
    constructor
    · intro h
      cases h
    · rintro ⟨before, directive, after, hnil, ⟨_, _, _, _, _, _⟩⟩
      simp at hnil
  | cons c rest ih =>
    rw [holdsDirective, Bool.or_eq_true, startsDirective_iff, ih]
    constructor
    · rintro (⟨directive, after, heq, h⟩ | ⟨before, directive, after, heq, h⟩)
      · exact ⟨[], directive, after, heq, h⟩
      · exact ⟨c :: before, directive, after, congrArg (c :: ·) heq, h⟩
    · rintro ⟨before, directive, after, heq, h⟩
      cases before with
      | nil => exact Or.inl ⟨directive, after, heq, h⟩
      | cons d before => exact Or.inr ⟨before, directive, after, (List.cons.inj heq).2, h⟩

/-- An accepted format stands for itself, and an empty one for the message. -/
theorem acceptedFormat?_of_isFormat {format : String} (h : IsFormat format) :
    acceptedFormat? format = some (if format = "" then messageFormat else format) := by
  unfold acceptedFormat?
  by_cases hempty : format = ""
  · rw [if_pos hempty, if_pos (String.isEmpty_iff.2 hempty)]
  · rw [if_neg hempty, if_neg fun htrue => hempty (String.isEmpty_iff.1 htrue),
      if_pos (holdsDirective_iff.2 (h.resolve_left hempty))]

/-- No other format is accepted. -/
theorem acceptedFormat?_of_not_isFormat {format : String} (h : ¬IsFormat format) :
    acceptedFormat? format = none := by
  obtain ⟨hempty, hnone⟩ := not_or.1 h
  rw [acceptedFormat?, if_neg fun htrue => hempty (String.isEmpty_iff.1 htrue),
    if_neg fun htrue => hnone (holdsDirective_iff.1 htrue)]

/-- A zero before a width in digits of another script, and a star as the precision. -/
example : IsFormat "[%(name)0\u0664.*S]" :=
  Or.inr (holdsDirective_iff.1 (by decide +kernel))

end ConferenceBridge.Logging
