import ConferenceBridge.Proofs.PayloadType.Building
import ConferenceBridge.Proofs.Text.Ascii
import ConferenceBridge.Proofs.Text.NumeralGrammar

/-!
# Which declarations are usable

The encodings that are known are listed here as they are spelled. A name stands for one of them if
it has the same ASCII letters in either case, with any blanks around them, so no letter from outside
ASCII is ever taken for one inside. The theorems show that a declaration is built just if its name
stands for an encoding of the media type, its numbers are in bounds, and it names an integer where
one is needed.
-/

namespace ConferenceBridge

open Text

/-! ### Names -/

/-- The encodings that go with every media type. -/
def genericNames : List String := ["rtx", "red", "ulpfec", "flexfec-03"]

/-- The encodings that go with a media type. -/
def MediaType.encodingNames : MediaType → List String
  | .audio => genericNames ++ ["opus", "telephone-event", "PCMU", "PCMA", "G722", "ISAC"]
  | .video => genericNames ++ ["VP8", "VP9", "H264", "AV1"]
  | .data => genericNames

/-- A name that stands for an encoding. -/
structure Spells (name encoding : String) : Prop where
  /-- All characters between the blanks are ASCII characters. -/
  ascii : ∀ c ∈ trim isBlank name.toList, c.toNat < 128
  /-- They are those of the encoding, apart from the case of letters. -/
  letters : (trim isBlank name.toList).map Char.toLower = encoding.toList.map Char.toLower

/-- An encoding is found under its small letters. -/
theorem MediaType.encodings_eq (media : MediaType) :
    media.encodings = media.encodingNames.map fun encoding =>
      (String.ofList (encoding.toList.map Char.toLower), encoding) := by
  cases media <;> decide +kernel

/-- No two encodings of a media type are found under one name. -/
theorem MediaType.nodup_encodings (media : MediaType) :
    (media.encodings.map Prod.fst).Nodup := by
  cases media <;> decide +kernel

/-- No encoding has a `k` in its name. -/
theorem MediaType.all_nameCodes (media : MediaType) :
    (media.encodingNames.all fun encoding =>
      (encoding.toList.map Char.toLower).all (inRanges nameCodes)) = true := by
  cases media <;> decide +kernel

/-- The texts that have the small letters of an encoding are those that spell it. -/
theorem lowercase_eq_encoding_iff {media : MediaType} {text : List Char} {encoding : String}
    (h : encoding ∈ media.encodingNames) :
    lowercase text = encoding.toList.map Char.toLower ↔
      (∀ c ∈ text, c.toNat < 128) ∧
        text.map Char.toLower = encoding.toList.map Char.toLower :=
  lowercase_eq_iff (List.all_eq_true.1 (List.all_eq_true.1 media.all_nameCodes encoding h))

/-- The canonical spelling of a name is that of the encoding that it stands for. -/
theorem canonicalEncoding?_eq_some_iff {name encoding : String} {media : MediaType} :
    canonicalEncoding? name media = some encoding ↔
      encoding ∈ media.encodingNames ∧ Spells name encoding := by
  rw [canonicalEncoding?, Entries.find?_eq_some_iff media.nodup_encodings, media.encodings_eq,
    List.mem_map]
  constructor
  · rintro ⟨known, hknown, hentry⟩
    obtain ⟨hsmall, rfl⟩ := Prod.mk.inj hentry
    obtain ⟨hascii, hletters⟩ :=
      (lowercase_eq_encoding_iff hknown).1 (String.ofList_injective hsmall).symm
    exact ⟨hknown, hascii, hletters⟩
  · rintro ⟨hknown, hascii, hletters⟩
    have hsmall := (lowercase_eq_encoding_iff hknown).2 ⟨hascii, hletters⟩
    exact ⟨encoding, hknown, by rw [hsmall]⟩

/-! ### Parameters -/

/-- Parameters are built unless an integer is needed and there is none. -/
theorem isSome_builtParameters?_iff {encoding : String} {parameters : Table String String} :
    (builtParameters? encoding parameters).isSome ↔
      (encoding = PayloadType.retransmission → ∃ text number,
        parameters.get? PayloadType.associationKey = some text ∧
          IsNumeral text.toList number) := by
  rw [builtParameters?]
  split
  · next hencoding =>
    rw [Option.isSome_iff_exists]
    constructor
    · rintro ⟨built, hbuilt⟩ _
      obtain ⟨number, hnumber, _⟩ := canonicalAssociation?_eq_some_iff.1 hbuilt
      obtain ⟨text, htext, hread⟩ := association_eq_ok_iff.1 hnumber
      exact ⟨text, number, htext, readInteger_eq_ok_iff.1 hread⟩
    · intro h
      obtain ⟨text, number, htext, hnumeral⟩ := h hencoding
      have hnumber := association_eq_ok_iff.2 ⟨text, htext, readInteger_eq_ok_iff.2 hnumeral⟩
      exact ⟨_, canonicalAssociation?_eq_some_iff.2 ⟨number, hnumber, rfl⟩⟩
  · next hencoding => simp [hencoding]

/-- All parameters are kept but the integer that a retransmission format names. -/
theorem get?_builtParameters? {encoding : String} {parameters built : Table String String}
    (h : builtParameters? encoding parameters = some built) {key : String}
    (hkey : ¬ (encoding = PayloadType.retransmission ∧ key = PayloadType.associationKey)) :
    built.get? key = parameters.get? key := by
  rw [builtParameters?] at h
  split at h
  · next hencoding =>
    obtain ⟨number, _, rfl⟩ := canonicalAssociation?_eq_some_iff.1 h
    rw [Table.get?_insert, if_neg fun hsame => hkey ⟨hencoding, hsame.symm⟩]
  · cases h
    rfl

/-! ### Declarations -/

/-- A declaration that is usable as one of an encoding. -/
structure PayloadDeclaration.UsableAs (declaration : PayloadDeclaration) (media : MediaType)
    (encoding : String) : Prop where
  /-- The encoding goes with the media type. -/
  known : encoding ∈ media.encodingNames
  /-- The name stands for the encoding. -/
  name : Spells declaration.name encoding
  /-- The number takes seven bits. -/
  number : 0 ≤ declaration.number ∧ declaration.number ≤ 127
  /-- There is a clock. -/
  clockRate : 0 < declaration.clockRate
  /-- A retransmission format names an integer. -/
  association : encoding = "rtx" → ∃ text number,
    declaration.parameters.get? "apt" = some text ∧ IsNumeral text.toList number

/-- A declaration is usable as one of an encoding just if it is built with that encoding. -/
theorem PayloadDeclaration.usableAs_iff {declaration : PayloadDeclaration} {media : MediaType}
    {encoding : String} :
    declaration.UsableAs media encoding ↔
      ∃ payload, declaration.build? media = some payload ∧ payload.encoding = encoding := by
  constructor
  · rintro ⟨hknown, hname, hnumber, hclockRate, hassociation⟩
    obtain ⟨parameters, hparameters⟩ :=
      Option.isSome_iff_exists.1 (isSome_builtParameters?_iff.2 hassociation)
    refine ⟨_, build?_eq_some_iff.2 ⟨encoding, parameters,
      canonicalEncoding?_eq_some_iff.2 ⟨hknown, hname⟩, ⟨hnumber.1, hnumber.2, hclockRate⟩,
      hparameters, rfl⟩, rfl⟩
  · rintro ⟨payload, hbuild, rfl⟩
    obtain ⟨encoding, parameters, hencoding, hbounds, hparameters, rfl⟩ :=
      build?_eq_some_iff.1 hbuild
    obtain ⟨hknown, hname⟩ := canonicalEncoding?_eq_some_iff.1 hencoding
    exact {
      known := hknown
      name := hname
      number := ⟨hbounds.1, hbounds.2.1⟩
      clockRate := hbounds.2.2
      association := isSome_builtParameters?_iff.1 (by rw [hparameters]; rfl) }

/-- A declaration is built for a media type just if it is usable as one of an encoding of that media
type. A name with a character from outside ASCII between its blanks is never recognised. What is
built has the one encoding that the declaration is usable as, in its canonical spelling, and all
else as it was declared, apart from the integer that a retransmission format names. -/
theorem PayloadDeclaration.built_exactly (declaration : PayloadDeclaration) (media : MediaType) :
    ((declaration.build? media).isSome ↔
      ∃ encoding, declaration.UsableAs media encoding) ∧
    (∀ c ∈ trim isBlank declaration.name.toList, 128 ≤ c.toNat →
      declaration.build? media = none) ∧
    ∀ payload, declaration.build? media = some payload →
      (∀ encoding, declaration.UsableAs media encoding ↔ encoding = payload.encoding) ∧
      payload.media = media ∧
      payload.number = declaration.number ∧
      payload.clockRate = declaration.clockRate ∧
      payload.channels = declaration.channels ∧
      payload.feedback = declaration.feedback ∧
      ∀ key, ¬ (payload.encoding = "rtx" ∧ key = "apt") →
        payload.parameters.get? key = declaration.parameters.get? key := by
  refine ⟨?_, fun c hc hlarge => ?_, fun payload hbuild => ?_⟩
  · simp only [usableAs_iff, Option.isSome_iff_exists]
    exact ⟨fun ⟨payload, hbuild⟩ => ⟨payload.encoding, payload, hbuild, rfl⟩,
      fun ⟨_, payload, hbuild, _⟩ => ⟨payload, hbuild⟩⟩
  · refine Option.eq_none_iff_forall_ne_some.2 fun payload hbuild => ?_
    have husable := usableAs_iff.2 ⟨payload, hbuild, rfl⟩
    exact Nat.not_lt.2 hlarge (husable.name.ascii c hc)
  · have hencoding : ∀ encoding, declaration.UsableAs media encoding ↔
        encoding = payload.encoding := by
      intro encoding
      rw [usableAs_iff, hbuild]
      simp [eq_comm]
    obtain ⟨_, _, _, _, hparameters, rfl⟩ := build?_eq_some_iff.1 hbuild
    exact ⟨hencoding, rfl, rfl, rfl, rfl, rfl, fun _ hkey => get?_builtParameters? hparameters hkey⟩

end ConferenceBridge
