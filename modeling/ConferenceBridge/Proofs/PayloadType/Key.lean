import ConferenceBridge.Proofs.PayloadType.Building

/-!
# Keys and what is built

A key has the name of the encoding in small letters, blanks included, while building takes away the
blanks around a name before it is put in small letters. The two agree on every text: the name that
is looked up is the one of the key without its blanks. So declarations of one key are never told
apart by what is built from them.
-/

namespace ConferenceBridge

open Text

/-- Keys are equal just if the declarations agree in all but the letter case of their names. Of the
parameters it matters which value each one has, and of the kinds of feedback also their order. -/
theorem PayloadDeclaration.key_eq_iff {declaration other : PayloadDeclaration} :
    declaration.key = other.key ↔
      declaration.number = other.number ∧
      lowercase declaration.name.toList = lowercase other.name.toList ∧
      declaration.clockRate = other.clockRate ∧
      declaration.channels = other.channels ∧
      (∀ parameter, declaration.parameters.get? parameter = other.parameters.get? parameter) ∧
      declaration.feedback = other.feedback := by
  have hparameters : declaration.parameters = other.parameters ↔
      ∀ parameter, declaration.parameters.get? parameter = other.parameters.get? parameter :=
    ⟨fun h parameter => by rw [h], Table.ext_get?⟩
  simp only [PayloadDeclaration.key, PayloadKey.mk.injEq, hparameters]

/-- The key of a declaration stands for what is built from it. Its name without blanks is the one
that the encoding is looked up under, and two declarations of the same key, which may be in
different letters, are both unusable or build the same payload type. -/
theorem PayloadDeclaration.built_alike (declaration other : PayloadDeclaration)
    (media : MediaType) :
    canonicalEncoding? declaration.name media =
        Entries.find? (String.ofList (trim isBlank declaration.key.name)) media.encodings ∧
      (declaration.key = other.key ↔
        declaration.number = other.number ∧
        lowercase declaration.name.toList = lowercase other.name.toList ∧
        declaration.clockRate = other.clockRate ∧
        declaration.channels = other.channels ∧
        (∀ parameter, declaration.parameters.get? parameter = other.parameters.get? parameter) ∧
        declaration.feedback = other.feedback) ∧
      (declaration.key = other.key →
        (declaration.build? media = none ∧ other.build? media = none) ∨
          ∃ payload, declaration.build? media = some payload ∧
            other.build? media = some payload) := by
  refine ⟨canonicalEncoding?_eq_find? declaration.name media, key_eq_iff, fun hkey => ?_⟩
  have hsame : declaration.build? media = other.build? media := build?_congr hkey media
  cases hbuild : declaration.build? media with
  | none => exact Or.inl ⟨rfl, hsame ▸ hbuild⟩
  | some payload => exact Or.inr ⟨payload, rfl, hsame ▸ hbuild⟩

/-- Names with blanks around them that are recognised, and names that are not: a final sigma, a
Kelvin sign and a dotted capital I have small letters of their own. -/
theorem PayloadDeclaration.built_alike_in_capitals :
    let opus : PayloadDeclaration :=
      { number := 111, name := "\u3000opus\x1f", clockRate := 48000, channels := 2,
        parameters := .ofList [("useinbandfec", "1"), ("minptime", "10")],
        feedback := [⟨"transport-cc", none⟩] }
    let capitals : PayloadDeclaration :=
      { opus with
        name := "\u3000OPUS\x1f"
        parameters := .ofList [("minptime", "10"), ("useinbandfec", "1")] }
    let odd : PayloadDeclaration := { opus with name := "\u03bf\u03c0\u03c5\u03c2 ki\u0307" }
    let oddCapitals : PayloadDeclaration :=
      { opus with name := "\u039f\u03a0\u03a5\u03a3 \u212a\u0130" }
    opus.key = capitals.key ∧ odd.key = oddCapitals.key ∧
      (∃ payload, opus.build? .audio = some payload ∧ capitals.build? .audio = some payload) ∧
      odd.build? .audio = none ∧ oddCapitals.build? .audio = none := by
  intro opus capitals odd oddCapitals
  have hkey : opus.key = capitals.key := by decide +kernel
  have hoddKey : odd.key = oddCapitals.key := by decide +kernel
  have hopus : opus.build? .audio ≠ none := by decide +kernel
  have hodd : odd.build? .audio = none := by decide +kernel
  refine ⟨hkey, hoddKey, ?_, ?_⟩
  · have halike := (PayloadDeclaration.built_alike opus capitals .audio).2.2 hkey
    exact halike.resolve_left fun hnone => hopus hnone.1
  · refine ((PayloadDeclaration.built_alike odd oddCapitals .audio).2.2 hoddKey).resolve_right ?_
    rintro ⟨payload, hbuild, _⟩
    rw [hodd] at hbuild
    cases hbuild

end ConferenceBridge
