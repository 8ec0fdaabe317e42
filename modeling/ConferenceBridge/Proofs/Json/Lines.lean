import ConferenceBridge.Proofs.Text.Numeral
import ConferenceBridge.Proofs.Text.Quoted

/-!
# Written values on one line

The compact text of a value has no line end and no other character below the space, whatever the
texts inside the value hold and however deep they stand: such a character is escaped wherever it
occurs, and nothing is put between the parts of a value but visible marks.
-/

namespace ConferenceBridge.Json

open Text

/-- A written character stays on one line. -/
theorem isLine_writeChar (c : Char) : IsLine (writeChar c) := by
  unfold writeChar
  split_ifs
  · decide
  · decide
  · decide
  · decide
  · decide
  · decide
  · decide
  · have hdigits := (prints_hexDigits 4 c.toNat).isLine
    exact List.forall_mem_cons.2 ⟨by decide, List.forall_mem_cons.2 ⟨by decide, hdigits⟩⟩
  · exact List.forall_mem_singleton.2 (by omega)

/-- A line between two visible marks is a line. -/
theorem isLine_enclosed {text : List Char} {opening closing : Char}
    (hopening : 0x20 ≤ opening.toNat) (hclosing : 0x20 ≤ closing.toNat) (h : IsLine text) :
    IsLine (opening :: (text ++ [closing])) :=
  List.forall_mem_cons.2
    ⟨hopening, List.forall_mem_append.2 ⟨h, List.forall_mem_singleton.2 hclosing⟩⟩

/-- Lines with a visible mark between them make one line. -/
theorem isLine_joined {left right : List Char} {mark : Char} (hleft : IsLine left)
    (hmark : 0x20 ≤ mark.toNat) (hright : IsLine right) : IsLine (left ++ mark :: right) :=
  List.forall_mem_append.2 ⟨hleft, List.forall_mem_cons.2 ⟨hmark, hright⟩⟩

/-- A written text stays on one line. -/
theorem isLine_writeText (text : String) : IsLine (writeText text) := by
  have hbody : IsLine (text.toList.flatMap writeChar) := by
    intro c hc
    obtain ⟨char, _, hchar⟩ := List.mem_flatMap.1 hc
    exact isLine_writeChar char c hchar
  exact isLine_enclosed (by decide) (by decide) hbody

/-- A written integer stays on one line. -/
theorem isLine_integerChars (n : Int) : IsLine (integerChars n) := by
  have hdigits : ∀ n, IsLine (Nat.toDigits 10 n) := by
    intro n c hc
    have hbounds := toNat_of_isDigit (isDigit_of_mem_toDigits hc)
    omega
  cases n with
  | ofNat n => exact hdigits n
  | negSucc n => exact List.forall_mem_cons.2 ⟨by decide, hdigits (n + 1)⟩

mutual

/-- A written value stays on one line. -/
theorem isLine_writeChars (value : Json) : IsLine (writeChars value) := by
  match value with
  | .null => decide
  | .bool true => decide
  | .bool false => decide
  | .integer n => exact isLine_integerChars n
  | .decimal mantissa exponent =>
    exact isLine_joined (isLine_integerChars mantissa) (by decide) (isLine_integerChars exponent)
  | .nonFinite value => cases value <;> decide +kernel
  | .string text => exact isLine_writeText text
  | .array items => exact isLine_enclosed (by decide) (by decide) (isLine_writeItems items)
  | .object members => exact isLine_enclosed (by decide) (by decide) (isLine_writeMembers members)

/-- Written values stay on one line. -/
theorem isLine_writeItems (items : List Json) : IsLine (writeItems items) := by
  match items with
  | [] => decide
  | [item] => exact isLine_writeChars item
  | item :: next :: others =>
    rw [writeItems_more]
    exact isLine_joined (isLine_writeChars item) (by decide) (isLine_writeItems (next :: others))

/-- Written members stay on one line. -/
theorem isLine_writeMembers (members : List (String × Json)) : IsLine (writeMembers members) := by
  match members with
  | [] => decide
  | [(name, value)] =>
    exact isLine_joined (isLine_writeText name) (by decide) (isLine_writeChars value)
  | (name, value) :: next :: others =>
    rw [writeMembers_more]
    have hvalue := isLine_joined (isLine_writeChars value) (by decide : 0x20 ≤ ','.toNat)
      (isLine_writeMembers (next :: others))
    exact isLine_joined (isLine_writeText name) (by decide) hvalue

end

/-- The compact text of a value stays on one line. -/
theorem isLine_write (value : Json) : IsLine value.write.toList := by
  rw [write, String.toList_ofList]
  exact isLine_writeChars value

end ConferenceBridge.Json
