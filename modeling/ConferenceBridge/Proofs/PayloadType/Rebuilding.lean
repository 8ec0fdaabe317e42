import ConferenceBridge.Proofs.PayloadType.Acceptance
import ConferenceBridge.Proofs.Table

/-!
# Building again

A payload type that was built is a normal form: its own declaration builds it again. What could
change is the spelling of the encoding and that of the integer that a retransmission format names,
and both are canonical by then.
-/

namespace ConferenceBridge

open Text

/-- The names of encodings are ASCII names without blanks. -/
theorem MediaType.all_plainNames (media : MediaType) :
    (media.encodingNames.all fun encoding =>
      encoding.toList.all fun c => !isBlank c && decide (c.toNat < 128)) = true := by
  cases media <;> decide +kernel

/-- A canonical spelling stands for itself. -/
theorem spells_of_mem_encodingNames {media : MediaType} {encoding : String}
    (h : encoding ∈ media.encodingNames) : Spells encoding encoding := by
  have hplain : ∀ c ∈ encoding.toList, isBlank c = false ∧ c.toNat < 128 := by
    intro c hc
    simpa using List.all_eq_true.1 (List.all_eq_true.1 media.all_plainNames encoding h) c hc
  have htrim : trim isBlank encoding.toList = encoding.toList :=
    trim_of_isCore
      { head := fun c hc => (hplain c (List.mem_of_head? hc)).1
        last := fun c hc => (hplain c (List.mem_of_getLast? hc)).1 }
  exact ⟨by rw [htrim]; exact fun c hc => (hplain c hc).2, by rw [htrim]⟩

/-- Parameters that were built are built again without a change. -/
theorem builtParameters?_built {encoding : String} {parameters built : Table String String}
    (h : builtParameters? encoding parameters = some built) :
    builtParameters? encoding built = some built := by
  rw [builtParameters?] at h ⊢
  split at h
  · next hencoding =>
    obtain ⟨number, hnumber, rfl⟩ := canonicalAssociation?_eq_some_iff.1 h
    rw [if_pos hencoding]
    refine canonicalAssociation?_eq_some_iff.2 ⟨number, association_insert hnumber, ?_⟩
    exact (Table.insert_of_get?_eq_some (by rw [Table.get?_insert, if_pos rfl])).symm
  · next hencoding => rw [if_neg hencoding]

/-- The declaration of a payload type that was built builds it again. -/
theorem PayloadDeclaration.build?_declaration {declaration : PayloadDeclaration}
    {media : MediaType} {payload : PayloadType} (h : declaration.build? media = some payload) :
    payload.declaration.build? media = some payload := by
  obtain ⟨encoding, parameters, hencoding, hbounds, hparameters, rfl⟩ :=
    build?_eq_some_iff.1 h
  have hknown := (canonicalEncoding?_eq_some_iff.1 hencoding).1
  exact build?_eq_some_iff.2 ⟨encoding, parameters,
    canonicalEncoding?_eq_some_iff.2 ⟨hknown, spells_of_mem_encodingNames hknown⟩, hbounds,
    builtParameters?_built hparameters, rfl⟩

/-- A payload type that was built is built again from its own declaration. A retransmission format
keeps the integer that its declaration names, however the declaration writes it: it is stored in
plain digits, of which there are no more than can be read, and it is the number of the payload type
whose packets are repeated. Every other format repeats no packets, whatever its parameters are. -/
theorem PayloadDeclaration.built_again {declaration : PayloadDeclaration} {media : MediaType}
    {payload : PayloadType} (h : declaration.build? media = some payload) :
    payload.declaration.build? media = some payload ∧
      (payload.encoding = "rtx" → ∃ text number,
        declaration.parameters.get? "apt" = some text ∧
        IsNumeral text.toList number ∧
        payload.parameters.get? "apt" = some (integerText number) ∧
        (Nat.toDigits 10 number.natAbs).length ≤ 4300 ∧
        payload.associated = .ok (some number)) ∧
      (payload.encoding ≠ "rtx" →
        ∀ parameters, { payload with parameters }.associated = .ok none) := by
  refine ⟨build?_declaration h, fun hencoding => ?_, fun hencoding _ =>
    PayloadType.associated_of_ne hencoding⟩
  obtain ⟨encoding, parameters, _, _, hparameters, rfl⟩ := build?_eq_some_iff.1 h
  have hretransmission : encoding = PayloadType.retransmission := hencoding
  rw [builtParameters?, if_pos hretransmission] at hparameters
  obtain ⟨number, hnumber, rfl⟩ := canonicalAssociation?_eq_some_iff.1 hparameters
  obtain ⟨text, htext, hread⟩ := association_eq_ok_iff.1 hnumber
  have hlength : (Nat.toDigits 10 number.natAbs).length ≤ digitLimit :=
    (Nat.length_toDigits_le_iff (by decide) (by decide)).2 (natAbs_lt_of_readInteger hread)
  refine ⟨text, number, htext, readInteger_eq_ok_iff.1 hread, ?_, hlength,
    PayloadType.associated_of_retransmission hencoding (association_insert hnumber)⟩
  exact (Table.get?_insert ..).trans (if_pos rfl)

/-- A retransmission format whose declaration writes 96 with a sign, a low line and digits of two
scripts between blanks, and a format of sound with the same parameter. -/
theorem PayloadDeclaration.built_again_two_scripts :
    let repeating : PayloadDeclaration :=
      { number := 97, name := "\x1f RTX", clockRate := 90000, channels := 1,
        parameters := .ofList [("apt", "\u3000+\u0660\u0669_6 ")], feedback := [] }
    let sound : PayloadDeclaration := { repeating with name := "Pcmu" }
    let repeated : PayloadType :=
      { number := 97, encoding := "rtx", media := .video, clockRate := 90000, channels := 1,
        parameters := .ofList [("apt", "96")], feedback := [] }
    let heard : PayloadType :=
      { repeated with encoding := "PCMU", media := .audio, parameters := sound.parameters }
    repeating.build? .video = some repeated ∧
      sound.build? .audio = some heard ∧
      repeated.declaration.build? .video = some repeated ∧
      heard.declaration.build? .audio = some heard ∧
      (∃ text number, repeating.parameters.get? "apt" = some text ∧
        IsNumeral text.toList number ∧ repeated.associated = .ok (some number)) ∧
      repeated.associated = .ok (some 96) ∧
      heard.associated = .ok none := by
  intro repeating sound repeated heard
  have hrepeating : repeating.build? .video = some repeated := by decide +kernel
  have hsound : sound.build? .audio = some heard := by decide +kernel
  obtain ⟨hrepeated, hassociated, _⟩ := PayloadDeclaration.built_again hrepeating
  obtain ⟨hheard, _, hnone⟩ := PayloadDeclaration.built_again hsound
  obtain ⟨text, number, htext, hnumeral, _, _, hnumber⟩ := hassociated rfl
  exact ⟨hrepeating, hsound, hrepeated, hheard, ⟨text, number, htext, hnumeral, hnumber⟩,
    by decide +kernel, hnone (by decide) heard.parameters⟩

end ConferenceBridge
