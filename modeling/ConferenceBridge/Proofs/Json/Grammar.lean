import ConferenceBridge.Json.Writer
import Mathlib.Data.List.Basic
import Mathlib.Tactic.SplitIfs

/-!
# The grammar of JSON

Which texts are JSON, rule by rule and apart from any reader. Blanks may stand around values, names
and marks. A value whose numbers are all finite is written as a text of the grammar; there is none
for infinity and for what is no number.
-/

namespace ConferenceBridge.Json

open Text

/-! ### The rules -/

/-- Any number of spaces, tabs and line ends. -/
def IsSpace (text : List Char) : Prop := ∀ c ∈ text, c ∈ [' ', '\t', '\n', '\r']

/-- A hexadecimal digit in either case. -/
def IsHexDigit (c : Char) : Prop :=
  ('0' ≤ c ∧ c ≤ '9') ∨ ('a' ≤ c ∧ c ≤ 'f') ∨ ('A' ≤ c ∧ c ≤ 'F')

instance (c : Char) : Decidable (IsHexDigit c) := inferInstanceAs (Decidable (_ ∨ _))

/-- What stands between the marks of a text. -/
inductive IsTextBody : List Char → Prop where
  /-- Nothing at all. -/
  | empty : IsTextBody []
  /-- A character that stands for itself, and more. -/
  | plain {c : Char} {rest : List Char} (hcode : 0x20 ≤ c.toNat) (hmark : c ≠ '"')
    (hslash : c ≠ '\\') (hrest : IsTextBody rest) : IsTextBody (c :: rest)
  /-- A letter after a backslash, and more. -/
  | escape {letter : Char} {rest : List Char}
    (hletter : letter ∈ ['"', '\\', '/', 'b', 'f', 'n', 'r', 't']) (hrest : IsTextBody rest) :
    IsTextBody ('\\' :: letter :: rest)
  /-- Four digits after a backslash, and more. -/
  | code {digits rest : List Char} (hlength : digits.length = 4)
    (hdigits : ∀ digit ∈ digits, IsHexDigit digit) (hrest : IsTextBody rest) :
    IsTextBody ('\\' :: 'u' :: (digits ++ rest))

/-- A text between its marks. -/
inductive IsText : List Char → Prop where
  /-- The marks and what stands between them. -/
  | marked {body : List Char} (hbody : IsTextBody body) : IsText ('"' :: (body ++ ['"']))

/-- One digit or more. -/
def IsDigits (text : List Char) : Prop := text ≠ [] ∧ ∀ c ∈ text, c.isDigit = true

/-- The digits in front of a point: a single zero, or digits of which the first is no zero. -/
inductive IsWhole : List Char → Prop where
  /-- A single zero. -/
  | zero : IsWhole ['0']
  /-- Digits without a zero in front. -/
  | digits {first : Char} {others : List Char} (hzero : first ≠ '0')
    (hdigits : IsDigits (first :: others)) : IsWhole (first :: others)

/-- The point of a number and the digits after it, if there is a point. -/
inductive IsFraction : List Char → Prop where
  /-- There is no point. -/
  | absent : IsFraction []
  /-- A point with digits. -/
  | digits {digits : List Char} (hdigits : IsDigits digits) : IsFraction ('.' :: digits)

/-- The power of ten of a number, if it has one. -/
inductive IsPower : List Char → Prop where
  /-- There is none. -/
  | absent : IsPower []
  /-- A mark, an optional sign and digits. -/
  | digits {mark : Char} {sign digits : List Char} (hmark : mark ∈ ['e', 'E'])
    (hsign : sign ∈ [[], ['-'], ['+']]) (hdigits : IsDigits digits) :
    IsPower (mark :: (sign ++ digits))

/-- A number. -/
inductive IsNumber : List Char → Prop where
  /-- An optional minus and the parts of a number. -/
  | parts {sign whole fraction power : List Char} (hsign : sign ∈ [[], ['-']])
    (hwhole : IsWhole whole) (hfraction : IsFraction fraction) (hpower : IsPower power) :
    IsNumber (sign ++ (whole ++ (fraction ++ power)))

mutual

/-- A value without blanks around it. -/
inductive IsValue : List Char → Prop where
  /-- The absent value. -/
  | null : IsValue ['n', 'u', 'l', 'l']
  /-- The true value. -/
  | true : IsValue ['t', 'r', 'u', 'e']
  /-- The false value. -/
  | false : IsValue ['f', 'a', 'l', 's', 'e']
  /-- A number. -/
  | number {text : List Char} (h : IsNumber text) : IsValue text
  /-- A text. -/
  | text {text : List Char} (h : IsText text) : IsValue text
  /-- A list without items. -/
  | emptyArray {space : List Char} (hspace : IsSpace space) : IsValue ('[' :: (space ++ [']']))
  /-- A list of items. -/
  | array {items : List Char} (hitems : IsItems items) : IsValue ('[' :: (items ++ [']']))
  /-- An object without members. -/
  | emptyObject {space : List Char} (hspace : IsSpace space) : IsValue ('{' :: (space ++ ['}']))
  /-- An object of members. -/
  | object {members : List Char} (hmembers : IsMembers members) :
    IsValue ('{' :: (members ++ ['}']))

/-- A value with blanks around it. -/
inductive IsElement : List Char → Prop where
  /-- The blanks and the value. -/
  | spaced {before value after : List Char} (hbefore : IsSpace before) (hvalue : IsValue value)
    (hafter : IsSpace after) : IsElement (before ++ (value ++ after))

/-- Values with commas between them. -/
inductive IsItems : List Char → Prop where
  /-- The last value. -/
  | last {item : List Char} (hitem : IsElement item) : IsItems item
  /-- A value and more after a comma. -/
  | more {item items : List Char} (hitem : IsElement item) (hitems : IsItems items) :
    IsItems (item ++ ',' :: items)

/-- Named values with commas between them. -/
inductive IsMembers : List Char → Prop where
  /-- The last member. -/
  | last {member : List Char} (hmember : IsMember member) : IsMembers member
  /-- A member and more after a comma. -/
  | more {member members : List Char} (hmember : IsMember member) (hmembers : IsMembers members) :
    IsMembers (member ++ ',' :: members)

/-- A named value. -/
inductive IsMember : List Char → Prop where
  /-- The name, a colon and the value. -/
  | named {before name after value : List Char} (hbefore : IsSpace before) (hname : IsText name)
    (hafter : IsSpace after) (hvalue : IsElement value) :
    IsMember (before ++ (name ++ (after ++ ':' :: value)))

end

/-- Whether a text is JSON. -/
def IsJson (text : String) : Prop := IsElement text.toList

/-! ### Written texts and numbers -/

/-- No blanks. -/
theorem isSpace_nil : IsSpace [] := fun _ h => absurd h List.not_mem_nil

/-- The digits of an escape are hexadecimal, as many as asked for. -/
theorem isHexDigit_of_mem_hexDigits {width n : Nat} {c : Char} (hc : c ∈ hexDigits width n) :
    IsHexDigit c := by
  induction width generalizing n with
  | zero => exact absurd hc List.not_mem_nil
  | succ width ih =>
    rw [hexDigits, List.mem_append, List.mem_singleton] at hc
    obtain hc | rfl := hc
    · exact ih hc
    · have hdigits : ∀ digit, digit < 16 → IsHexDigit (Nat.digitChar digit) := by decide
      exact hdigits _ (Nat.mod_lt _ (by decide))

/-- A written character goes in front of what stands between marks. -/
theorem isTextBody_writeChar (c : Char) {rest : List Char} (hrest : IsTextBody rest) :
    IsTextBody (writeChar c ++ rest) := by
  unfold writeChar
  split_ifs with hmark hslash
  · exact .escape (by decide) hrest
  · exact .escape (by decide) hrest
  · exact .escape (by decide) hrest
  · exact .escape (by decide) hrest
  · exact .escape (by decide) hrest
  · exact .escape (by decide) hrest
  · exact .escape (by decide) hrest
  · exact .code rfl (fun digit => isHexDigit_of_mem_hexDigits) hrest
  · exact .plain (by omega) hmark hslash hrest

/-- A text is written as one. -/
theorem isText_writeText (text : String) : IsText (writeText text) := by
  have hbody : ∀ chars : List Char, IsTextBody (chars.flatMap writeChar) := by
    intro chars
    induction chars with
    | nil => exact .empty
    | cons c others ih => exact isTextBody_writeChar c ih
  exact .marked (hbody text.toList)

/-- A number is written in digits. -/
theorem isDigits_toDigits (n : Nat) : IsDigits (Nat.toDigits 10 n) :=
  ⟨Nat.toDigits_ne_nil, fun _ hc => Nat.isDigit_of_mem_toDigits (by decide) (by decide) hc⟩

/-- A number is written without a zero in front, unless it is zero. -/
theorem isWhole_toDigits (n : Nat) : IsWhole (Nat.toDigits 10 n) := by
  have hfirst : ∀ n, 0 < n → (Nat.toDigits 10 n).head? ≠ some '0' := by
    intro n
    induction n using Nat.strongRecOn with
    | ind n ih =>
      intro hpos
      obtain hsmall | hlarge := Nat.lt_or_ge n 10
      · have hdigits : ∀ digit, digit < 10 → 0 < digit → Nat.digitChar digit ≠ '0' := by decide
        rw [Nat.toDigits_of_lt_base hsmall]
        simpa using hdigits n hsmall hpos
      · rw [Nat.toDigits_of_base_le (by decide) hlarge,
          List.head?_append_of_ne_nil _ Nat.toDigits_ne_nil]
        exact ih (n / 10) (by omega) (by omega)
  obtain rfl | hpos := Nat.eq_zero_or_pos n
  · exact .zero
  · have hhead := hfirst n hpos
    have hdigits := isDigits_toDigits n
    cases hchars : Nat.toDigits 10 n with
    | nil => exact absurd hchars Nat.toDigits_ne_nil
    | cons first others =>
      rw [hchars] at hhead hdigits
      exact .digits (fun hzero => hhead (congrArg some hzero)) hdigits

/-- An integer in front of a power of ten is a number. -/
theorem isNumber_integerChars_append (n : Int) {power : List Char} (hpower : IsPower power) :
    IsNumber (integerChars n ++ power) := by
  cases n with
  | ofNat n => exact .parts (by decide : [] ∈ _) (isWhole_toDigits n) .absent hpower
  | negSucc n => exact .parts (by decide : ['-'] ∈ _) (isWhole_toDigits (n + 1)) .absent hpower

/-- An integer is written as a number. -/
theorem isNumber_integerChars (n : Int) : IsNumber (integerChars n) := by
  have hnumber := isNumber_integerChars_append n .absent
  rwa [List.append_nil] at hnumber

/-- An integer after a mark is a power of ten. -/
theorem isPower_integerChars (n : Int) : IsPower ('e' :: integerChars n) := by
  cases n with
  | ofNat n => exact .digits (by decide) (by decide : [] ∈ _) (isDigits_toDigits n)
  | negSucc n => exact .digits (by decide) (by decide : ['-'] ∈ _) (isDigits_toDigits (n + 1))

/-! ### Written values -/

mutual

/-- Whether all numbers in a value are finite. -/
def isFinite : Json → Bool
  | .nonFinite _ => false
  | .array items => itemsFinite items
  | .object members => membersFinite members
  | _ => true

/-- Whether all numbers in several values are finite. -/
def itemsFinite : List Json → Bool
  | [] => true
  | item :: items => item.isFinite && itemsFinite items

/-- Whether all numbers in several members are finite. -/
def membersFinite : List (String × Json) → Bool
  | [] => true
  | (_, value) :: members => value.isFinite && membersFinite members

end

/-- The numbers in several values are finite if those in each of them are. -/
theorem itemsFinite_iff {items : List Json} :
    itemsFinite items = true ↔ ∀ item ∈ items, item.isFinite = true := by
  induction items with
  | nil => simp [itemsFinite]
  | cons item items ih => simp [itemsFinite, ih]

/-- The numbers in several members are finite if those in each of them are. -/
theorem membersFinite_iff {members : List (String × Json)} :
    membersFinite members = true ↔ ∀ member ∈ members, member.2.isFinite = true := by
  induction members with
  | nil => simp [membersFinite]
  | cons member members ih => simp [membersFinite, ih]

/-- A value may stand without blanks. -/
theorem IsValue.isElement {text : List Char} (h : IsValue text) : IsElement text := by
  have helement := IsElement.spaced isSpace_nil h isSpace_nil
  rwa [List.append_nil] at helement

/-- A name, a colon and a value make a member. -/
theorem isMember_writeText (name : String) {value : List Char} (h : IsValue value) :
    IsMember (writeText name ++ ':' :: value) :=
  .named isSpace_nil (isText_writeText name) isSpace_nil h.isElement

mutual

/-- A value with finite numbers is written as a value. -/
theorem isValue_writeChars {value : Json} (h : value.isFinite = true) :
    IsValue (writeChars value) := by
  match value with
  | .null => exact .null
  | .bool true => exact .true
  | .bool false => exact .false
  | .integer n => exact .number (isNumber_integerChars n)
  | .decimal mantissa exponent =>
    exact .number (isNumber_integerChars_append mantissa (isPower_integerChars exponent))
  | .nonFinite _ => cases h
  | .string text => exact .text (isText_writeText text)
  | .array [] => exact .emptyArray isSpace_nil
  | .array (item :: items) => exact .array (isItems_writeItems (List.cons_ne_nil _ _) h)
  | .object [] => exact .emptyObject isSpace_nil
  | .object (member :: members) =>
    exact .object (isMembers_writeMembers (List.cons_ne_nil _ _) h)

/-- Values with finite numbers are written as items. -/
theorem isItems_writeItems {items : List Json} (hne : items ≠ []) (h : itemsFinite items = true) :
    IsItems (writeItems items) := by
  match items with
  | [] => exact absurd rfl hne
  | [item] =>
    rw [itemsFinite, Bool.and_eq_true] at h
    exact .last (isValue_writeChars h.1).isElement
  | item :: next :: others =>
    rw [itemsFinite, Bool.and_eq_true] at h
    rw [writeItems_more]
    exact .more (isValue_writeChars h.1).isElement
      (isItems_writeItems (List.cons_ne_nil _ _) h.2)

/-- Members with finite numbers are written as members. -/
theorem isMembers_writeMembers {members : List (String × Json)} (hne : members ≠ [])
    (h : membersFinite members = true) : IsMembers (writeMembers members) := by
  match members with
  | [] => exact absurd rfl hne
  | [(name, value)] =>
    rw [membersFinite, Bool.and_eq_true] at h
    exact .last (isMember_writeText name (isValue_writeChars h.1))
  | (name, value) :: next :: others =>
    rw [membersFinite, Bool.and_eq_true] at h
    have hmore := IsMembers.more (isMember_writeText name (isValue_writeChars h.1))
      (isMembers_writeMembers (List.cons_ne_nil _ _) h.2)
    rw [List.append_assoc, List.cons_append] at hmore
    rwa [writeMembers_more]

end

/-- The compact text of a value with finite numbers is JSON. -/
theorem isJson_write {value : Json} (h : value.isFinite = true) : IsJson value.write := by
  rw [IsJson, write, String.toList_ofList]
  exact (isValue_writeChars h).isElement

end ConferenceBridge.Json
