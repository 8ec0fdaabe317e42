import ConferenceBridge.PayloadType.Building
import ConferenceBridge.PayloadType.Key
import ConferenceBridge.Proofs.Registry
import ConferenceBridge.Proofs.Text.Casing
import ConferenceBridge.Proofs.Text.NumeralGrammar

/-!
# What is built from a declaration

A built payload type satisfies all bounds of its kind, and a retransmission format among them names
a payload type that can be read back. What is built depends on the key of the declaration alone.
-/

namespace ConferenceBridge

open Text

/-- Blanks around a name may be taken away after it was put in small letters. -/
theorem canonicalEncoding?_eq_find? (name : String) (media : MediaType) :
    canonicalEncoding? name media =
      Entries.find? (String.ofList (trim isBlank (lowercase name.toList))) media.encodings := by
  rw [canonicalEncoding?, lowercase_trim]

/-- Names that agree in small letters have the same canonical spelling. -/
theorem canonicalEncoding?_congr {name other : String}
    (h : lowercase name.toList = lowercase other.toList) (media : MediaType) :
    canonicalEncoding? name media = canonicalEncoding? other media := by
  rw [canonicalEncoding?_eq_find?, canonicalEncoding?_eq_find?, h]

/-- Declarations of one key are built alike for every media type. -/
theorem PayloadDeclaration.build?_congr {declaration other : PayloadDeclaration}
    (h : declaration.key = other.key) (media : MediaType) :
    declaration.build? media = other.build? media := by
  simp only [PayloadDeclaration.key, PayloadKey.mk.injEq] at h
  obtain ⟨hnumber, hname, hclockRate, hchannels, hparameters, hfeedback⟩ := h
  simp only [PayloadDeclaration.build?, canonicalEncoding?_congr hname, hnumber, hclockRate,
    hchannels, hparameters, hfeedback]

/-- All that a built payload type tells about its declaration. -/
theorem PayloadDeclaration.build?_eq_some_iff {declaration : PayloadDeclaration}
    {media : MediaType} {payload : PayloadType} :
    declaration.build? media = some payload ↔
      ∃ encoding parameters,
        canonicalEncoding? declaration.name media = some encoding ∧
        (0 ≤ declaration.number ∧ declaration.number ≤ 127 ∧ 0 < declaration.clockRate) ∧
        builtParameters? encoding declaration.parameters = some parameters ∧
        payload =
          { number := declaration.number, encoding, media, clockRate := declaration.clockRate,
            channels := declaration.channels, parameters, feedback := declaration.feedback } := by
  unfold PayloadDeclaration.build?
  cases hencoding : canonicalEncoding? declaration.name media with
  | none => simp
  | some encoding =>
    by_cases hbounds : 0 ≤ declaration.number ∧ declaration.number ≤ 127 ∧
        0 < declaration.clockRate
    · cases hparameters : builtParameters? encoding declaration.parameters with
      | none => simp [hbounds, hparameters]
      | some parameters =>
        simp [hbounds, hparameters, eq_comm]
    · simp [hbounds]

/-- A payload type has the media type that it was built for. -/
theorem PayloadDeclaration.media_of_build? {declaration : PayloadDeclaration}
    {media : MediaType} {payload : PayloadType} (h : declaration.build? media = some payload) :
    payload.media = media := by
  obtain ⟨_, _, _, _, _, rfl⟩ := build?_eq_some_iff.1 h
  rfl

/-- A payload type has the number that was declared. -/
theorem PayloadDeclaration.number_of_build? {declaration : PayloadDeclaration}
    {media : MediaType} {payload : PayloadType} (h : declaration.build? media = some payload) :
    payload.number = declaration.number := by
  obtain ⟨_, _, _, _, _, rfl⟩ := build?_eq_some_iff.1 h
  rfl

/-- The canonical spelling of an encoding is one of those for its media type. -/
theorem canonicalEncoding?_mem {name encoding : String} {media : MediaType}
    (h : canonicalEncoding? name media = some encoding) :
    encoding ∈ media.encodings.map Prod.snd :=
  List.mem_map.2 ⟨_, Entries.mem_of_find? h, rfl⟩

/-- What a payload type in use has to satisfy. -/
structure PayloadType.WellFormed (payload : PayloadType) : Prop where
  /-- The number takes seven bits. -/
  number : 0 ≤ payload.number ∧ payload.number ≤ 127
  /-- There is a clock. -/
  clockRate : 0 < payload.clockRate
  /-- There is at least one channel. -/
  channels : 1 ≤ payload.channels
  /-- The encoding is spelled as one that is known for the media type. -/
  encoding : payload.encoding ∈ payload.media.encodings.map Prod.snd
  /-- A retransmission format names an integer in plain digits, which is read back. -/
  association : payload.encoding = PayloadType.retransmission →
    ∃ number, payload.parameters.get? PayloadType.associationKey = some (integerText number) ∧
      payload.associated = .ok (some number)
  /-- Every other format names nothing. -/
  noAssociation : payload.encoding ≠ PayloadType.retransmission → payload.associated = .ok none

/-- A retransmission format repeats what its parameters name. -/
theorem PayloadType.associated_of_retransmission {payload : PayloadType} {number : Int}
    (hencoding : payload.encoding = PayloadType.retransmission)
    (hnumber : PayloadType.association payload.parameters = .ok number) :
    payload.associated = .ok (some number) := by
  simp [PayloadType.associated, PayloadType.isRetransmission, hencoding, hnumber, Except.map]

/-- Every other format repeats nothing, whatever its parameters are. -/
theorem PayloadType.associated_of_ne {payload : PayloadType}
    (hencoding : payload.encoding ≠ PayloadType.retransmission) :
    payload.associated = .ok none := by
  have hother : (payload.encoding == PayloadType.retransmission) = false := by simpa using hencoding
  simp [PayloadType.associated, PayloadType.isRetransmission, hother]

/-- Parameters name the integer that is read from them. -/
theorem association_eq_ok_iff {parameters : Table String String} {number : Int} :
    PayloadType.association parameters = .ok number ↔
      ∃ text, parameters.get? PayloadType.associationKey = some text ∧
        readInteger text = .ok number := by
  rw [PayloadType.association]
  cases parameters.get? PayloadType.associationKey with
  | none => simp
  | some text => cases hread : readInteger text <;> simp [hread]

/-- Parameters become canonical just if they name an integer. -/
theorem canonicalAssociation?_eq_some_iff {parameters canonical : Table String String} :
    canonicalAssociation? parameters = some canonical ↔
      ∃ number, PayloadType.association parameters = .ok number ∧
        canonical = parameters.insert PayloadType.associationKey (integerText number) := by
  rw [canonicalAssociation?]
  cases PayloadType.association parameters <;> simp [eq_comm]

/-- An integer that was read is short enough to be read again from its plain digits. -/
theorem association_insert {parameters : Table String String} {number : Int}
    (h : PayloadType.association parameters = .ok number) :
    PayloadType.association
      (parameters.insert PayloadType.associationKey (integerText number)) = .ok number := by
  obtain ⟨text, _, hread⟩ := association_eq_ok_iff.1 h
  refine association_eq_ok_iff.2 ⟨integerText number, ?_, ?_⟩
  · rw [Table.get?_insert, if_pos rfl]
  · exact readInteger_integerText (natAbs_lt_of_readInteger hread)

/-- Parameters that name an integer do so in plain digits once they are canonical. -/
theorem association_canonical {parameters canonical : Table String String}
    (h : canonicalAssociation? parameters = some canonical) :
    ∃ number, canonical.get? PayloadType.associationKey = some (integerText number) ∧
      PayloadType.association canonical = .ok number := by
  obtain ⟨number, hnumber, rfl⟩ := canonicalAssociation?_eq_some_iff.1 h
  exact ⟨number, by rw [Table.get?_insert, if_pos rfl], association_insert hnumber⟩

/-- What is built from a declaration of at least one channel is well-formed. -/
theorem PayloadDeclaration.wellFormed_of_build? {declaration : PayloadDeclaration}
    {media : MediaType} {payload : PayloadType} (hchannels : 1 ≤ declaration.channels)
    (h : declaration.build? media = some payload) : payload.WellFormed := by
  obtain ⟨encoding, parameters, hencoding, hbounds, hparameters, rfl⟩ :=
    build?_eq_some_iff.1 h
  exact {
    number := ⟨hbounds.1, hbounds.2.1⟩
    clockRate := hbounds.2.2
    channels := hchannels
    encoding := canonicalEncoding?_mem hencoding
    association := by
      rintro rfl
      rw [builtParameters?, if_pos rfl] at hparameters
      obtain ⟨number, hstored, hread⟩ := association_canonical hparameters
      exact ⟨number, hstored, PayloadType.associated_of_retransmission rfl hread⟩
    noAssociation := PayloadType.associated_of_ne }

end ConferenceBridge
