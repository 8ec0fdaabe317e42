import ConferenceBridge.Proofs.Json.Grammar
import ConferenceBridge.Proofs.Json.Reading

/-!
# Quoted texts

Every character of a quoted text prints, whatever the text holds, so a quoted text stays on one
line. It also ends where it seems to end: reading one character at a time undoes the escapes, so no
text passes for several texts of a list, and a list is known from what is shown of it.
-/

namespace ConferenceBridge.Text

/-! ### Lines and printable texts -/

/-- No character is below the space, so that the text stays on one line. -/
def IsLine (text : List Char) : Prop := ∀ c ∈ text, 0x20 ≤ c.toNat

instance (text : List Char) : Decidable (IsLine text) :=
  List.decidableBAll (fun c : Char => 0x20 ≤ c.toNat) text

/-- Every character prints as itself. -/
def Prints (text : List Char) : Prop := ∀ c ∈ text, isPrintable c = true

instance (text : List Char) : Decidable (Prints text) :=
  List.decidableBAll (fun c => isPrintable c = true) text

/-- A printable character is not below the space. -/
theorem le_toNat_of_isPrintable {c : Char} (h : isPrintable c = true) : 0x20 ≤ c.toNat := by
  by_contra hlow
  have hrange : inRanges unprintable c = true :=
    inRanges_iff.2 ⟨(0x0, 0x1f), List.mem_cons_self, Nat.zero_le _, by omega⟩
  simp [isPrintable, hrange] at h

/-- What prints stays on one line. -/
theorem Prints.isLine {text : List Char} (h : Prints text) : IsLine text :=
  fun c hc => le_toNat_of_isPrintable (h c hc)

/-- The code points from the space to the tilde keep clear of the unprintable ones. -/
theorem plain_clear_of_unprintable : disjointRanges [(0x20, 0x7e)] unprintable = true := by
  decide +kernel

/-- The plain characters from the space to the tilde print. -/
theorem isPrintable_of_plain {c : Char} (hlow : 0x20 ≤ c.toNat) (hhigh : c.toNat ≤ 0x7e) :
    isPrintable c = true := by
  have hplain : inRanges [(0x20, 0x7e)] c = true :=
    inRanges_iff.2 ⟨_, List.mem_singleton.2 rfl, hlow, hhigh⟩
  rw [isPrintable, inRanges_eq_false_of_disjoint plain_clear_of_unprintable hplain, Bool.not_false]

/-! ### Quoted texts print -/

/-- The digits of an escape print. -/
theorem prints_hexDigits (width n : Nat) : Prints (hexDigits width n) := by
  intro c hc
  obtain ⟨hlow, hhigh⟩ | ⟨hlow, hhigh⟩ | ⟨hlow, hhigh⟩ := Json.isHexDigit_of_mem_hexDigits hc
  · exact isPrintable_of_plain (Nat.le_trans (by decide) hlow) (Nat.le_trans hhigh (by decide))
  · exact isPrintable_of_plain (Nat.le_trans (by decide) hlow) (Nat.le_trans hhigh (by decide))
  · exact isPrintable_of_plain (Nat.le_trans (by decide) hlow) (Nat.le_trans hhigh (by decide))

/-- The escape of a code point prints. -/
theorem prints_codeEscape (code : Nat) : Prints (codeEscape code) := by
  have hafter : ∀ (start : List Char) (width : Nat), Prints start →
      Prints (start ++ hexDigits width code) :=
    fun _ width hstart => List.forall_mem_append.2 ⟨hstart, prints_hexDigits width code⟩
  unfold codeEscape
  split_ifs
  · exact hafter ['\\', 'x'] 2 (by decide +kernel)
  · exact hafter ['\\', 'u'] 4 (by decide +kernel)
  · exact hafter ['\\', 'U'] 8 (by decide +kernel)

/-- A quotation mark is one of two. -/
theorem quotationMark_cases (text : List Char) :
    quotationMark text = '"' ∨ quotationMark text = '\'' := by
  unfold quotationMark
  split
  · exact Or.inl rfl
  · exact Or.inr rfl

/-- Quotation marks print. -/
theorem isPrintable_quotationMark (text : List Char) :
    isPrintable (quotationMark text) = true := by
  obtain hmark | hmark := quotationMark_cases text <;> rw [hmark] <;> decide +kernel

/-- A character as it stands between the marks prints. -/
theorem prints_quotedChar {mark : Char} (hmark : isPrintable mark = true) (c : Char) :
    Prints (quotedChar mark c) := by
  unfold quotedChar
  split_ifs with hescaped htab hline hreturn hprints
  · obtain rfl | rfl := hescaped
    · exact List.forall_mem_cons.2 ⟨by decide +kernel, List.forall_mem_singleton.2 hmark⟩
    · decide +kernel
  · decide +kernel
  · decide +kernel
  · decide +kernel
  · exact List.forall_mem_singleton.2 hprints
  · exact prints_codeEscape c.toNat

/-- A quoted text prints, whatever the text holds. -/
theorem prints_quotedChars (text : List Char) : Prints (quotedChars text) := by
  have hmark := isPrintable_quotationMark text
  have hbody : Prints (text.flatMap (quotedChar (quotationMark text))) := by
    intro c hc
    obtain ⟨quoted, _, hquoted⟩ := List.mem_flatMap.1 hc
    exact prints_quotedChar hmark quoted c hquoted
  exact List.forall_mem_cons.2
    ⟨hmark, List.forall_mem_append.2 ⟨hbody, List.forall_mem_singleton.2 hmark⟩⟩

/-! ### Reading quoted texts -/

/-- The number written by hexadecimal digits, the most significant one first. -/
def valueOfHexDigits? (digits : List Char) : Option Nat :=
  digits.foldlM (fun value digit => (Json.hexDigit? digit).map (16 * value + ·)) 0

/-- The character whose code point is written by as many digits as asked for, and what follows
them. -/
def readCode? (width : Nat) (text : List Char) : Option (Char × List Char) :=
  (valueOfHexDigits? (text.take width)).map fun code => (Char.ofNat code, text.drop width)

/-- The first of the characters between quotation marks, and what follows it. -/
def readQuotedChar? : List Char → Option (Char × List Char)
  | '\\' :: 'x' :: rest => readCode? 2 rest
  | '\\' :: 'u' :: rest => readCode? 4 rest
  | '\\' :: 'U' :: rest => readCode? 8 rest
  | '\\' :: 't' :: rest => some ('\t', rest)
  | '\\' :: 'n' :: rest => some ('\n', rest)
  | '\\' :: 'r' :: rest => some ('\r', rest)
  | '\\' :: c :: rest => some (c, rest)
  | c :: rest => some (c, rest)
  | [] => none

/-- There are as many digits as asked for. -/
theorem length_hexDigits (width n : Nat) : (hexDigits width n).length = width := by
  induction width generalizing n with
  | zero => rfl
  | succ width ih => rw [hexDigits, List.length_append, ih, List.length_singleton]

/-- The lowest digits of a number are read as its remainder. -/
theorem valueOfHexDigits?_hexDigits (width n : Nat) :
    valueOfHexDigits? (hexDigits width n) = some (n % 16 ^ width) := by
  induction width generalizing n with
  | zero => simp [hexDigits, valueOfHexDigits?, Nat.mod_one]
  | succ width ih =>
    have hlast := Json.hexDigit?_digitChar (Nat.mod_lt n (by decide : 0 < 16))
    have hvalue : 16 * (n / 16 % 16 ^ width) + n % 16 = n % 16 ^ (width + 1) := by
      rw [Nat.pow_succ', Nat.mod_mul, Nat.add_comm]
    unfold valueOfHexDigits? at ih ⊢
    rw [hexDigits, List.foldlM_append, ih]
    simp [hlast, hvalue]

/-- A code point is read from its digits if there are enough of them. -/
theorem readCode?_hexDigits {width : Nat} {c : Char} (hc : c.toNat < 16 ^ width)
    (rest : List Char) : readCode? width (hexDigits width c.toNat ++ rest) = some (c, rest) := by
  rw [readCode?, List.take_left' (length_hexDigits _ _), List.drop_left' (length_hexDigits _ _),
    valueOfHexDigits?_hexDigits, Nat.mod_eq_of_lt hc, Option.map_some, Char.ofNat_toNat]

/-- A character is read from its escape. -/
theorem readQuotedChar?_codeEscape (c : Char) (rest : List Char) :
    readQuotedChar? (codeEscape c.toNat ++ rest) = some (c, rest) := by
  unfold codeEscape
  split_ifs with hshort hmiddle
  · exact readCode?_hexDigits hshort rest
  · exact readCode?_hexDigits hmiddle rest
  · exact readCode?_hexDigits c.val.toNat_lt rest

/-- A character is read from what stands for it between the marks. -/
theorem readQuotedChar?_quotedChar {mark : Char} (hmark : mark = '"' ∨ mark = '\'') (c : Char)
    (rest : List Char) : readQuotedChar? (quotedChar mark c ++ rest) = some (c, rest) := by
  unfold quotedChar
  split_ifs with hescaped htab hline hreturn hprints
  · obtain rfl | rfl := hescaped
    · obtain rfl | rfl := hmark <;> rfl
    · rfl
  · rw [htab]
    rfl
  · rw [hline]
    rfl
  · rw [hreturn]
    rfl
  · have hslash : c ≠ '\\' := fun h => hescaped (Or.inr h)
    rw [List.singleton_append, readQuotedChar?]
    all_goals simp [hslash]
  · exact readQuotedChar?_codeEscape c rest

/-- What stands for a character does not start with the mark. -/
theorem quotedChar_append_ne {mark : Char} (hmark : mark = '"' ∨ mark = '\'') (c : Char)
    (rest after : List Char) : quotedChar mark c ++ rest ≠ mark :: after := by
  intro h
  -- A mark in front is read as itself, so it could stand for the mark only, which is escaped.
  have hread := readQuotedChar?_quotedChar hmark c rest
  rw [h] at hread
  have hsame : c = mark := by
    obtain rfl | rfl := hmark <;> exact (Prod.mk.inj (Option.some.inj hread)).1.symm
  rw [quotedChar, if_pos (Or.inl hsame)] at h
  obtain ⟨hslash, _⟩ := List.cons.inj h
  obtain rfl | rfl := hmark <;> cases hslash

/-- Between equal marks stand equal texts. -/
theorem quotedBody_append_inj {mark : Char} (hmark : mark = '"' ∨ mark = '\'')
    {left right rest after : List Char}
    (h : left.flatMap (quotedChar mark) ++ mark :: rest =
      right.flatMap (quotedChar mark) ++ mark :: after) : left = right ∧ rest = after := by
  induction left generalizing right with
  | nil =>
    cases right with
    | nil => exact ⟨rfl, (List.cons.inj h).2⟩
    | cons d right =>
      rw [List.flatMap_cons, List.append_assoc] at h
      exact absurd h.symm (quotedChar_append_ne hmark d _ _)
  | cons c left ih =>
    rw [List.flatMap_cons, List.append_assoc] at h
    cases right with
    | nil => exact absurd h (quotedChar_append_ne hmark c _ _)
    | cons d right =>
      rw [List.flatMap_cons, List.append_assoc] at h
      have hread := congrArg readQuotedChar? h
      rw [readQuotedChar?_quotedChar hmark, readQuotedChar?_quotedChar hmark] at hread
      obtain ⟨rfl, hothers⟩ := Prod.mk.inj (Option.some.inj hread)
      obtain ⟨rfl, hrest⟩ := ih hothers
      exact ⟨rfl, hrest⟩

/-- A quoted text ends at its closing mark, and it is the quoted text of one text only. -/
theorem quotedChars_append_inj {left right rest after : List Char}
    (h : quotedChars left ++ rest = quotedChars right ++ after) : left = right ∧ rest = after := by
  have hparts : ∀ text rest : List Char, quotedChars text ++ rest =
      quotationMark text ::
        (text.flatMap (quotedChar (quotationMark text)) ++ quotationMark text :: rest) := by
    intro text rest
    simp [quotedChars]
  rw [hparts, hparts] at h
  obtain ⟨hmark, hbody⟩ := List.cons.inj h
  rw [← hmark] at hbody
  exact quotedBody_append_inj (quotationMark_cases left) hbody

/-! ### Lists of quoted texts -/

/-- What follows an item of a list. -/
def quotedTail : List String → List Char
  | [] => [']']
  | text :: texts => ',' :: ' ' :: (quotedChars text.toList ++ quotedTail texts)

/-- A list that is not empty is its first item and what follows it. -/
theorem toList_quotedList_cons (text : String) (texts : List String) :
    (quotedList (text :: texts)).toList = '[' :: (quotedChars text.toList ++ quotedTail texts) := by
  have hitems : ∀ (text : String) (texts : List String),
      (String.intercalate ", " ((text :: texts).map quoted)).toList ++ [']'] =
        quotedChars text.toList ++ quotedTail texts := by
    intro text texts
    induction texts generalizing text with
    | nil => simp [quoted, quotedTail]
    | cons next texts ih =>
      rw [List.map_cons, List.map_cons, String.intercalate_cons_cons, ← List.map_cons]
      simp only [String.toList_append, List.append_assoc, ih, quotedTail]
      simp [quoted]
  simp only [quotedList, String.toList_append, List.append_assoc]
  exact congrArg _ (hitems text texts)

/-- A list of quoted texts prints, whatever the texts hold. -/
theorem prints_quotedList (texts : List String) : Prints (quotedList texts).toList := by
  have htail : ∀ texts, Prints (quotedTail texts) := by
    intro texts
    induction texts with
    | nil => decide +kernel
    | cons text texts ih =>
      have hitem : Prints (quotedChars text.toList ++ quotedTail texts) :=
        List.forall_mem_append.2 ⟨prints_quotedChars text.toList, ih⟩
      have hstart : Prints [',', ' '] := by decide +kernel
      have htail : Prints ([',', ' '] ++ (quotedChars text.toList ++ quotedTail texts)) :=
        List.forall_mem_append.2 ⟨hstart, hitem⟩
      exact htail
  cases texts with
  | nil => decide +kernel
  | cons text texts =>
    have hitem : Prints (quotedChars text.toList ++ quotedTail texts) :=
      List.forall_mem_append.2 ⟨prints_quotedChars text.toList, htail texts⟩
    rw [toList_quotedList_cons]
    exact List.forall_mem_cons.2 ⟨by decide +kernel, hitem⟩

/-- The items after the first are known from what is shown of them. -/
theorem quotedTail_inj {left right : List String} (h : quotedTail left = quotedTail right) :
    left = right := by
  induction left generalizing right with
  | nil =>
    cases right with
    | nil => rfl
    | cons text right => cases h
  | cons text left ih =>
    cases right with
    | nil => cases h
    | cons other right =>
      simp only [quotedTail, List.cons.injEq, true_and] at h
      obtain ⟨htext, htail⟩ := quotedChars_append_inj h
      rw [String.toList_inj.1 htext, ih htail]

/-- A list is known from what is shown of it. -/
theorem quotedList_inj {left right : List String} (h : quotedList left = quotedList right) :
    left = right := by
  have hempty : ∀ text texts, quotedList (text :: texts) ≠ quotedList [] := by
    intro text texts hsame
    have hchars := congrArg String.toList hsame
    rw [toList_quotedList_cons] at hchars
    obtain ⟨hmark, _⟩ := List.cons.inj (List.cons.inj hchars).2
    obtain hcase | hcase := quotationMark_cases text.toList <;>
      · rw [hcase] at hmark
        cases hmark
  cases left with
  | nil =>
    cases right with
    | nil => rfl
    | cons text texts => exact absurd h.symm (hempty text texts)
  | cons text texts =>
    cases right with
    | nil => exact absurd h (hempty text texts)
    | cons other others =>
      have hchars := congrArg String.toList h
      rw [toList_quotedList_cons, toList_quotedList_cons] at hchars
      obtain ⟨htext, htail⟩ := quotedChars_append_inj (List.cons.inj hchars).2
      rw [String.toList_inj.1 htext, quotedTail_inj htail]

end ConferenceBridge.Text
