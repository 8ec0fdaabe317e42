import ConferenceBridge.Json.Reader
import ConferenceBridge.Json.Writer
import ConferenceBridge.Proofs.Text.Numeral
import Mathlib.Data.List.Basic
import Mathlib.Tactic.SplitIfs

/-!
# Reading back written JSON

Every value is read back from its compact text. Each reader undoes its writer in front of any rest
of a text, where a number has to be followed by something that does not go on with it. The readers
of nested values count down, and the length of what was written is enough for them.
-/

namespace ConferenceBridge.Json

open Text

/-! ### Texts -/

/-- A hexadecimal digit is read as its value. -/
theorem hexDigit?_digitChar {n : Nat} (hn : n < 16) : hexDigit? (Nat.digitChar n) = some n := by
  revert n
  decide

/-- Four hexadecimal digits are read as the number that they are written for. -/
theorem exists_hexDigits_four {n : Nat} (hn : n < 0x10000) :
    ∃ a b c d, hexDigits 4 n = [a, b, c, d] ∧ hexUnit? a b c d = some n := by
  refine ⟨_, _, _, _, rfl, ?_⟩
  simp only [hexUnit?, hexDigit?_digitChar (Nat.mod_lt _ (by decide : 0 < 16))]
  simp only [bind, Option.bind, pure]
  congr 1
  omega

/-- A letter after a backslash is read as what it stands for. -/
theorem readText_shortEscape {letter char : Char} (h : shortEscape? letter = some char)
    (rest : List Char) :
    readText ('\\' :: letter :: rest) =
      (readText rest).map fun (text, left) => (char :: text, left) := by
  have hunit : letter ≠ 'u' := by
    rintro rfl
    cases h
  rw [readText]
  · simp [h]
  · exact fun _ _ _ _ _ hu _ => hunit hu

/-- Four hexadecimal digits are read as the character of their number, unless that is a
surrogate. -/
theorem readText_unit {a b c d : Char} {unit : Nat} (h : hexUnit? a b c d = some unit)
    (hunit : unit < 0xd800) (rest : List Char) :
    readText ('\\' :: 'u' :: a :: b :: c :: d :: rest) =
      (readText rest).map fun (text, left) => (Char.ofNat unit :: text, left) := by
  have hpair : ∀ low, charOfPair? unit low = none := fun low => if_neg (by omega)
  have hchar : charOfUnit unit = Char.ofNat unit := if_neg (by omega)
  rw [readText, h]
  simp only [bind, Option.bind_some]
  split
  · next a' b' c' d' others =>
    have hnone : (hexUnit? a' b' c' d').bind (charOfPair? unit) = none := by
      cases hexUnit? a' b' c' d' with
      | none => rfl
      | some low => exact hpair low
    rw [hnone, hchar]
  · rw [hchar]

/-- A character other than the quotation mark and the backslash is read as it is. -/
theorem readText_plain {char : Char} (hmark : char ≠ '"') (hslash : char ≠ '\\')
    (rest : List Char) :
    readText (char :: rest) = (readText rest).map fun (text, left) => (char :: text, left) := by
  rw [readText]
  · simp [hslash]
  · exact hmark
  · exact fun _ _ _ _ _ h _ => hslash h
  · exact fun _ _ h _ => hslash h

/-- A written character is read as itself. -/
theorem readText_writeChar (char : Char) (rest : List Char) :
    readText (writeChar char ++ rest) =
      (readText rest).map fun (text, left) => (char :: text, left) := by
  unfold writeChar
  split_ifs with hmark hslash hback htab hline hfeed hreturn hcontrol
  · subst hmark
    exact readText_shortEscape rfl rest
  · subst hslash
    exact readText_shortEscape rfl rest
  · subst hback
    exact readText_shortEscape rfl rest
  · subst htab
    exact readText_shortEscape rfl rest
  · subst hline
    exact readText_shortEscape rfl rest
  · subst hfeed
    exact readText_shortEscape rfl rest
  · subst hreturn
    exact readText_shortEscape rfl rest
  · obtain ⟨a, b, c, d, hdigits, hunit⟩ :=
      exists_hexDigits_four (by omega : char.toNat < 0x10000)
    have hread := readText_unit hunit (by omega) rest
    rw [Char.ofNat_toNat] at hread
    rw [hdigits]
    exact hread
  · exact readText_plain hmark hslash rest

/-- A written text is read up to its closing mark. -/
theorem readText_written (text rest : List Char) :
    readText (text.flatMap writeChar ++ '"' :: rest) = some (text, rest) := by
  induction text with
  | nil => rfl
  | cons char others ih =>
    rw [List.flatMap_cons, List.append_assoc, readText_writeChar, ih]
    rfl

/-! ### Numbers -/

/-- A rest of a text that does not go on with a number. -/
def EndsNumber (rest : List Char) : Prop :=
  ∀ c ∈ rest.head?, c.isDigit = false ∧ c ≠ '.' ∧ c ≠ 'e' ∧ c ≠ 'E'

/-- Plain digits are read up to what is no digit. -/
theorem readDigits_append {digits rest : List Char} (hne : digits ≠ [])
    (hdigits : ∀ c ∈ digits, c.isDigit = true) (hrest : ∀ c ∈ rest.head?, c.isDigit = false) :
    readDigits (digits ++ rest) = some (digits.map fun c => c.toNat - 48, rest) := by
  have htake : (digits ++ rest).takeWhile Char.isDigit = digits := by
    rw [List.takeWhile_append_of_pos hdigits]
    cases rest with
    | nil => simp
    | cons c others => simp [hrest c rfl]
  have hdrop : (digits ++ rest).dropWhile Char.isDigit = rest := by
    rw [List.dropWhile_append_of_pos hdigits]
    cases rest with
    | nil => rfl
    | cons c others => simp [hrest c rfl]
  have hvalues : digits.filterMap digit? = digits.map fun c => c.toNat - 48 := by
    rw [← List.filterMap_eq_map]
    exact List.filterMap_congr fun c hc => if_pos (hdigits c hc)
  rw [readDigits, htake, hdrop, hvalues, if_neg (by simpa using hne)]

/-- The digits of a number are read as the number. -/
theorem readDigits_toDigits (n : Nat) {rest : List Char}
    (hrest : ∀ c ∈ rest.head?, c.isDigit = false) :
    ∃ digits, readDigits (Nat.toDigits 10 n ++ rest) = some (digits, rest) ∧
      valueOfDigits digits = n :=
  ⟨_, readDigits_append Nat.toDigits_ne_nil (fun _ => isDigit_of_mem_toDigits) hrest,
    by rw [valueOfDigits_map, Nat.ofDigitChars_ten_toDigits]⟩

/-- Reads a number whose sign is known. -/
def readMagnitude (negative : Bool) (body : List Char) : Option (Json × List Char) := do
  let (whole, afterWhole) ← readDigits body
  let (fraction, afterFraction) ← readFraction afterWhole
  let (power, rest) ← readExponent afterFraction
  if rest.length = afterWhole.length then
    some (.integer (signed negative (valueOfDigits whole)), rest)
  else
    some (.decimal (signed negative (valueOfDigits (whole ++ fraction))) (power - fraction.length),
      rest)

/-- An integer is a sign and the digits of a number. -/
theorem exists_integerChars (n : Int) :
    ∃ negative magnitude, signed negative magnitude = n ∧
      integerChars n = (if negative then ['-'] else []) ++ Nat.toDigits 10 magnitude := by
  cases n with
  | ofNat n => exact ⟨false, n, rfl, rfl⟩
  | negSucc n => exact ⟨true, n + 1, rfl, rfl⟩

/-- A number is written in digits, the first of which is there. -/
theorem exists_toDigits_eq_cons (n : Nat) :
    ∃ first others, Nat.toDigits 10 n = first :: others ∧ first.isDigit = true := by
  have hne : Nat.toDigits 10 n ≠ [] := Nat.toDigits_ne_nil
  obtain ⟨first, others, hdigits⟩ := List.exists_cons_of_ne_nil hne
  exact ⟨first, others, hdigits, isDigit_of_mem_toDigits (hdigits ▸ List.mem_cons_self)⟩

/-- A number is read by its sign and its digits. -/
theorem readNumber_signed (negative : Bool) (magnitude : Nat) (rest : List Char) :
    readNumber ((if negative then ['-'] else []) ++ Nat.toDigits 10 magnitude ++ rest) =
      readMagnitude negative (Nat.toDigits 10 magnitude ++ rest) := by
  cases negative with
  | true => rfl
  | false =>
    obtain ⟨first, others, hdigits, hfirst⟩ := exists_toDigits_eq_cons magnitude
    have hsign : first ≠ '-' := by
      rintro rfl
      cases hfirst
    rw [hdigits]
    simp only [Bool.false_eq_true, if_false, List.nil_append, List.cons_append, readNumber]
    split
    · next heq => exact absurd (List.cons.inj heq).1 hsign
    · rfl

/-- What does not go on with a number has no fraction. -/
theorem readFraction_of_endsNumber {rest : List Char} (h : EndsNumber rest) :
    readFraction rest = some ([], rest) := by
  unfold readFraction
  split
  · exact absurd rfl (h '.' rfl).2.1
  · rfl

/-- What does not go on with a number has no power of ten. -/
theorem readExponent_of_endsNumber {rest : List Char} (h : EndsNumber rest) :
    readExponent rest = some (0, rest) := by
  cases rest with
  | nil => rfl
  | cons c others =>
    obtain ⟨_, _, hsmall, hlarge⟩ := h c rfl
    simp [readExponent, hsmall, hlarge]

/-- A written power of ten is read back. -/
theorem readExponent_integerChars (n : Int) {rest : List Char} (h : EndsNumber rest) :
    readExponent ('e' :: (integerChars n ++ rest)) = some (n, rest) := by
  obtain ⟨negative, magnitude, rfl, hchars⟩ := exists_integerChars n
  obtain ⟨digits, hdigits, rfl⟩ := readDigits_toDigits magnitude fun c hc => (h c hc).1
  have hsign : splitSign (integerChars (signed negative (valueOfDigits digits)) ++ rest) =
      (negative, Nat.toDigits 10 (valueOfDigits digits) ++ rest) := by
    rw [hchars]
    cases negative with
    | true => rfl
    | false =>
      obtain ⟨first, others, hfirst, hdigit⟩ := exists_toDigits_eq_cons (valueOfDigits digits)
      rw [hfirst]
      exact splitSign_cons_of_digit (digitOfAnyScript?_of_isDigit hdigit) _
  simp [readExponent, hsign, hdigits]

/-- An integer is read back. -/
theorem readNumber_integerChars (n : Int) {rest : List Char} (h : EndsNumber rest) :
    readNumber (integerChars n ++ rest) = some (.integer n, rest) := by
  obtain ⟨negative, magnitude, rfl, hchars⟩ := exists_integerChars n
  obtain ⟨digits, hdigits, rfl⟩ := readDigits_toDigits magnitude fun c hc => (h c hc).1
  rw [hchars, readNumber_signed, readMagnitude, hdigits]
  simp [bind, readFraction_of_endsNumber h, readExponent_of_endsNumber h]

/-- A number with a power of ten is read back. -/
theorem readNumber_decimal (mantissa exponent : Int) {rest : List Char} (h : EndsNumber rest) :
    readNumber (integerChars mantissa ++ 'e' :: (integerChars exponent ++ rest)) =
      some (.decimal mantissa exponent, rest) := by
  obtain ⟨negative, magnitude, rfl, hchars⟩ := exists_integerChars mantissa
  have hmark : ∀ c ∈ ('e' :: (integerChars exponent ++ rest)).head?, c.isDigit = false := by simp
  obtain ⟨digits, hdigits, rfl⟩ := readDigits_toDigits magnitude hmark
  have hfraction : readFraction ('e' :: (integerChars exponent ++ rest)) =
      some ([], 'e' :: (integerChars exponent ++ rest)) := rfl
  have hshorter : rest.length ≠ ('e' :: (integerChars exponent ++ rest)).length := by
    simp only [List.length_cons, List.length_append]
    omega
  rw [hchars, readNumber_signed, readMagnitude, hdigits]
  simp only [bind, Option.bind_some, hfraction, readExponent_integerChars exponent h,
    if_neg hshorter]
  simp

/-! ### Values -/

/-- A character that is passed over in front of a value, or that closes a list. -/
def IsBetweenValues (c : Char) : Prop := c ∈ [' ', '\t', '\n', '\r', ']']

instance (c : Char) : Decidable (IsBetweenValues c) := inferInstanceAs (Decidable (c ∈ _))

/-- A digit is neither passed over nor closes a list. -/
theorem not_isBetweenValues_of_isDigit {c : Char} (h : c.isDigit = true) : ¬IsBetweenValues c := by
  intro hmem
  simp only [IsBetweenValues, List.mem_cons, List.not_mem_nil, or_false] at hmem
  obtain rfl | rfl | rfl | rfl | rfl := hmem <;> cases h

/-- An integer starts with its sign or its first digit. -/
theorem exists_integerChars_eq_cons (n : Int) :
    ∃ first others, integerChars n = first :: others ∧ ¬IsBetweenValues first := by
  cases n with
  | ofNat n =>
    obtain ⟨first, others, hdigits, hfirst⟩ := exists_toDigits_eq_cons n
    exact ⟨first, others, hdigits, not_isBetweenValues_of_isDigit hfirst⟩
  | negSucc n => exact ⟨_, _, rfl, by decide⟩

/-- A written value starts with a character of its own. -/
theorem exists_writeChars_eq_cons (value : Json) :
    ∃ first others, writeChars value = first :: others ∧ ¬IsBetweenValues first := by
  cases value with
  | null => exact ⟨_, _, rfl, by decide⟩
  | bool value => cases value <;> exact ⟨_, _, rfl, by decide⟩
  | integer n => exact exists_integerChars_eq_cons n
  | decimal mantissa exponent =>
    obtain ⟨first, others, hchars, hfirst⟩ := exists_integerChars_eq_cons mantissa
    exact ⟨first, _, by rw [writeChars, hchars, List.cons_append], hfirst⟩
  | nonFinite value => cases value <;> exact ⟨_, _, rfl, by decide⟩
  | string value => exact ⟨_, _, rfl, by decide⟩
  | array items => exact ⟨_, _, by rw [writeChars], by decide⟩
  | object members => exact ⟨_, _, by rw [writeChars], by decide⟩

/-- Items start as the first of them. -/
theorem exists_writeItems_eq_cons (item : Json) (items : List Json) :
    ∃ first others, writeItems (item :: items) = first :: others ∧ ¬IsBetweenValues first := by
  obtain ⟨first, others, hchars, hfirst⟩ := exists_writeChars_eq_cons item
  cases items with
  | nil => exact ⟨first, others, by rw [writeItems, hchars], hfirst⟩
  | cons next more => exact ⟨first, _, by rw [writeItems_more, hchars, List.cons_append], hfirst⟩

/-- Members start with the mark in front of a name. -/
theorem exists_writeMembers_eq_cons (member : String × Json) (members : List (String × Json)) :
    ∃ others, writeMembers (member :: members) = '"' :: others := by
  cases members with
  | nil => exact ⟨_, rfl⟩
  | cons next more => exact ⟨_, by rw [writeMembers_more, writeText, List.cons_append]⟩

/-- Nothing is skipped in front of other characters than blanks. -/
theorem skipSpace_cons {first : Char} (h : ¬IsBetweenValues first) (rest : List Char) :
    skipSpace (first :: rest) = first :: rest := by
  refine List.dropWhile_cons_of_neg ?_
  simp only [IsBetweenValues, List.mem_cons, not_or] at h
  simp [h.1, h.2.1, h.2.2.1, h.2.2.2.1]

/-- What starts as an integer is written is read as a number. -/
theorem readValue_integerChars (fuel : Nat) (n : Int) (rest : List Char) :
    readValue (fuel + 1) (integerChars n ++ rest) = readNumber (integerChars n ++ rest) := by
  cases n with
  | ofNat n =>
    obtain ⟨first, others, hdigits, hfirst⟩ := exists_toDigits_eq_cons n
    have hchars : integerChars (.ofNat n) ++ rest = first :: (others ++ rest) := by
      rw [integerChars, hdigits, List.cons_append]
    rw [hchars, readValue, skipSpace_cons (not_isBetweenValues_of_isDigit hfirst)]
    -- Every other way to go on starts with a character that is no digit.
    split <;> simp_all
  | negSucc n =>
    obtain ⟨first, others, hdigits, hfirst⟩ := exists_toDigits_eq_cons (n + 1)
    have hchars : integerChars (.negSucc n) ++ rest = '-' :: first :: (others ++ rest) := by
      rw [integerChars, hdigits, List.cons_append, List.cons_append]
    rw [hchars, readValue, skipSpace_cons (by decide)]
    split <;> simp_all

/-- After a mark a text is read. -/
theorem readValue_mark (fuel : Nat) (others : List Char) :
    readValue (fuel + 1) ('"' :: others) =
      (readText others).map fun (text, left) => (.string (String.ofList text), left) := rfl

/-- A list that is not empty is read by its items. -/
theorem readValue_openBracket {first : Char} (hfirst : ¬IsBetweenValues first) (fuel : Nat)
    (others : List Char) :
    readValue (fuel + 1) ('[' :: first :: others) =
      (readItems fuel (first :: others)).map fun (items, left) => (.array items, left) := by
  have hclose : first ≠ ']' := by
    rintro rfl
    exact hfirst (by decide)
  have hbracket : skipSpace ('[' :: first :: others) = '[' :: first :: others := rfl
  rw [readValue, hbracket]
  simp only [skipSpace_cons hfirst]
  split
  · next heq => exact absurd (List.cons.inj heq).1 hclose
  · rfl

/-- An object that is not empty is read by its members. -/
theorem readValue_openBrace (fuel : Nat) (others : List Char) :
    readValue (fuel + 1) ('{' :: '"' :: others) =
      (readMembers fuel ('"' :: others)).map fun (members, left) => (.object members, left) := rfl

variable {fuel : Nat} {text rest : List Char}

/-- The last item of a list comes before the closing bracket. -/
theorem readItems_last {item : Json} (h : readValue fuel text = some (item, ']' :: rest)) :
    readItems (fuel + 1) text = some ([item], rest) := by
  rw [readItems, h]
  rfl

/-- An item before a comma is followed by others. -/
theorem readItems_next {item : Json} (h : readValue fuel text = some (item, ',' :: rest)) :
    readItems (fuel + 1) text =
      (readItems fuel rest).map fun (items, left) => (item :: items, left) := by
  rw [readItems, h]
  rfl

/-- The last member of an object comes before the closing brace. -/
theorem readMembers_last {name body : List Char} {value : Json}
    (hname : readText text = some (name, ':' :: body))
    (h : readValue fuel body = some (value, '}' :: rest)) :
    readMembers (fuel + 1) ('"' :: text) = some ([(String.ofList name, value)], rest) := by
  have hmark : skipSpace ('"' :: text) = '"' :: text := rfl
  have hcolon : skipSpace (':' :: body) = ':' :: body := rfl
  have hclose : skipSpace ('}' :: rest) = '}' :: rest := rfl
  rw [readMembers, hmark]
  simp [bind, hname, hcolon, h, hclose]

/-- A member before a comma is followed by others. -/
theorem readMembers_next {name body : List Char} {value : Json}
    (hname : readText text = some (name, ':' :: body))
    (h : readValue fuel body = some (value, ',' :: rest)) :
    readMembers (fuel + 1) ('"' :: text) =
      (readMembers fuel rest).map fun (members, left) =>
        ((String.ofList name, value) :: members, left) := by
  have hmark : skipSpace ('"' :: text) = '"' :: text := rfl
  have hcolon : skipSpace (':' :: body) = ':' :: body := rfl
  have hcomma : skipSpace (',' :: rest) = ',' :: rest := rfl
  rw [readMembers, hmark]
  simp [bind, hname, hcolon, h, hcomma]

/-- A closing mark and a comma do not go on with a number. -/
theorem endsNumber_cons {c : Char} (hc : c ∈ [',', ']', '}']) (rest : List Char) :
    EndsNumber (c :: rest) := by
  intro other hother
  obtain rfl : c = other := by simpa using hother
  simp only [List.mem_cons, List.not_mem_nil, or_false] at hc
  rcases hc with rfl | rfl | rfl <;> decide

/-- A written text is read up to what follows it. -/
theorem readText_writeText (text : String) (rest : List Char) :
    ∃ others, writeText text ++ rest = '"' :: others ∧
      readText others = some (text.toList, rest) := by
  refine ⟨text.toList.flatMap writeChar ++ '"' :: rest, ?_, readText_written text.toList rest⟩
  rw [writeText, List.cons_append, List.append_assoc, List.singleton_append]

mutual

/-- A value is read back from the front of a text. -/
theorem readValue_writeChars (value : Json) {fuel : Nat} {rest : List Char}
    (hfuel : (writeChars value).length ≤ fuel) (hrest : EndsNumber rest) :
    readValue fuel (writeChars value ++ rest) = some (value, rest) := by
  obtain ⟨fuel, rfl⟩ : ∃ less, fuel = less + 1 := by
    obtain ⟨first, others, hchars, _⟩ := exists_writeChars_eq_cons value
    rw [hchars, List.length_cons] at hfuel
    exact ⟨fuel - 1, by omega⟩
  match value with
  | .null => rfl
  | .bool true => rfl
  | .bool false => rfl
  | .integer n => rw [writeChars, readValue_integerChars, readNumber_integerChars n hrest]
  | .decimal mantissa exponent =>
    rw [writeChars, List.append_assoc, readValue_integerChars, List.cons_append,
      readNumber_decimal mantissa exponent hrest]
  | .nonFinite .infinity => rfl
  | .nonFinite .negativeInfinity => rfl
  | .nonFinite .notNumber => rfl
  | .string text =>
    obtain ⟨others, hchars, hread⟩ := readText_writeText text rest
    rw [writeChars, hchars, readValue_mark, hread]
    simp
  | .array [] => rfl
  | .array (item :: items) =>
    rw [writeChars, List.length_cons, List.length_append, List.length_singleton] at hfuel
    have hitems : readItems fuel (writeItems (item :: items) ++ ']' :: rest) =
        some (item :: items, rest) :=
      readItems_writeItems (item :: items) (List.cons_ne_nil _ _) (by omega)
    obtain ⟨first, others, hchars, hfirst⟩ := exists_writeItems_eq_cons item items
    rw [writeChars, List.cons_append, List.append_assoc, List.singleton_append, hchars,
      List.cons_append, readValue_openBracket hfirst, ← List.cons_append, ← hchars, hitems,
      Option.map_some]
  | .object [] => rfl
  | .object (member :: members) =>
    rw [writeChars, List.length_cons, List.length_append, List.length_singleton] at hfuel
    have hmembers : readMembers fuel (writeMembers (member :: members) ++ '}' :: rest) =
        some (member :: members, rest) :=
      readMembers_writeMembers (member :: members) (List.cons_ne_nil _ _) (by omega)
    obtain ⟨others, hchars⟩ := exists_writeMembers_eq_cons member members
    rw [writeChars, List.cons_append, List.append_assoc, List.singleton_append, hchars,
      List.cons_append, readValue_openBrace, ← List.cons_append, ← hchars, hmembers,
      Option.map_some]

/-- The items of a list are read back up to the closing bracket. -/
theorem readItems_writeItems (items : List Json) {fuel : Nat} {rest : List Char}
    (hne : items ≠ []) (hfuel : (writeItems items).length < fuel) :
    readItems fuel (writeItems items ++ ']' :: rest) = some (items, rest) := by
  obtain ⟨fuel, rfl⟩ : ∃ less, fuel = less + 1 := ⟨fuel - 1, by omega⟩
  match items with
  | [] => exact absurd rfl hne
  | [item] =>
    rw [writeItems] at hfuel ⊢
    exact readItems_last (readValue_writeChars item (by omega) (endsNumber_cons (by decide) rest))
  | item :: next :: others =>
    rw [writeItems_more, List.length_append, List.length_cons] at hfuel
    have hitem := readValue_writeChars item (by omega : _ ≤ fuel)
      (endsNumber_cons (by decide : ',' ∈ _) (writeItems (next :: others) ++ ']' :: rest))
    have hothers : readItems fuel (writeItems (next :: others) ++ ']' :: rest) =
        some (next :: others, rest) :=
      readItems_writeItems (next :: others) (List.cons_ne_nil _ _) (by omega)
    rw [writeItems_more, List.append_assoc, List.cons_append, readItems_next hitem, hothers,
      Option.map_some]

/-- The members of an object are read back up to the closing brace. -/
theorem readMembers_writeMembers (members : List (String × Json)) {fuel : Nat} {rest : List Char}
    (hne : members ≠ []) (hfuel : (writeMembers members).length < fuel) :
    readMembers fuel (writeMembers members ++ '}' :: rest) = some (members, rest) := by
  obtain ⟨fuel, rfl⟩ : ∃ less, fuel = less + 1 := ⟨fuel - 1, by omega⟩
  match members with
  | [] => exact absurd rfl hne
  | [(name, value)] =>
    rw [writeMembers, List.length_append, List.length_cons] at hfuel
    have hvalue := readValue_writeChars value (by omega : _ ≤ fuel)
      (endsNumber_cons (by decide : '}' ∈ _) rest)
    obtain ⟨others, hchars, hname⟩ :=
      readText_writeText name (':' :: (writeChars value ++ '}' :: rest))
    rw [writeMembers, List.append_assoc, List.cons_append, hchars, readMembers_last hname hvalue,
      String.ofList_toList]
  | (name, value) :: next :: others =>
    rw [writeMembers_more, List.length_append, List.length_cons, List.length_append,
      List.length_cons] at hfuel
    have hvalue := readValue_writeChars value (by omega : _ ≤ fuel)
      (endsNumber_cons (by decide : ',' ∈ _) (writeMembers (next :: others) ++ '}' :: rest))
    have hothers : readMembers fuel (writeMembers (next :: others) ++ '}' :: rest) =
        some (next :: others, rest) :=
      readMembers_writeMembers (next :: others) (List.cons_ne_nil _ _) (by omega)
    obtain ⟨chars, hchars, hname⟩ := readText_writeText name
      (':' :: (writeChars value ++ ',' :: (writeMembers (next :: others) ++ '}' :: rest)))
    rw [writeMembers_more, List.append_assoc, List.cons_append, List.append_assoc,
      List.cons_append, hchars, readMembers_next hname hvalue, hothers, Option.map_some,
      String.ofList_toList]

end

/-- Every value is read back from its compact text. -/
theorem read?_write (value : Json) : read? value.write = some value := by
  have hend : EndsNumber [] := by simp [EndsNumber]
  have hread := readValue_writeChars value (Nat.le_succ _) hend
  rw [List.append_nil] at hread
  rw [read?, write, String.toList_ofList, readChars?, hread]
  rfl

end ConferenceBridge.Json
