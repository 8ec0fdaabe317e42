import ConferenceBridge.Proofs.Octo.Locality
import ConferenceBridge.Proofs.Octo.Teardown
import ConferenceBridge.Proofs.Table

/-!
# Numbers in use

A step brings numbers of its own, whatever the tentacle holds: each extension that it declares has
one, and so has each payload type that it builds. The numbers in use after a history are those from
before and those that its steps bring, so they do not depend on the order of the steps. What stands
under a number does depend on it, since the first value stays.
-/

namespace ConferenceBridge.Octo

/-- A step that brings a header extension of a number. -/
def Operation.BringsExtension (number : Int) : Operation → Prop
  | .reconcile audio video => Octo.tearsDown audio video = false ∧
    ∃ extension ∈ audio.extensions ++ video.extensions, extension.number = number
  | .call (.addExtension added _) => added = number
  | .call _ => False

/-- A step that brings a payload type of a number. A declaration brings one only if it is built. -/
def Operation.BringsPayloadType (number : Int) : Operation → Prop
  | .reconcile audio video => Octo.tearsDown audio video = false ∧
    ∃ declaration ∈ audio.payloadTypes ++ video.payloadTypes, declaration.number = number ∧
      (declaration.build? (mergedMedia video declaration.key)).isSome
  | .call (.addPayloadType payload) => payload.number = number
  | .call _ => False

/-! ### Steps -/

/-- A declaration builds a payload type of its own number only. -/
theorem isSome_builtUnder {number : Int} {declaration : PayloadDeclaration} {media : MediaType} :
    (builtUnder number (declaration, media)).isSome ↔
      declaration.number = number ∧ (declaration.build? media).isSome := by
  by_cases hnumber : declaration.number = number
  · rw [builtUnder]
    cases hbuild : declaration.build? media with
    | none => simp
    | some payload =>
      have hsame : payload.number = number :=
        (PayloadDeclaration.number_of_build? hbuild).trans hnumber
      simp [hnumber, hsame]
  · have hother : builtUnder number (declaration, media) = none := builtUnder_eq_none hnumber
    simp [hother, hnumber]

/-- A step uses the numbers of header extensions from before and those that it brings. -/
theorem Operation.mem_extensions_run_iff {conference : String} {tentacle : Tentacle}
    {operation : Operation} {number : Int} :
    number ∈ (operation.run conference tentacle).tentacle.extensions.keys ↔
      number ∈ tentacle.extensions.keys ∨ operation.BringsExtension number := by
  cases operation with
  | call made =>
    have hrun : ((Operation.call made).run conference tentacle).tentacle =
        tentacle.apply made := rfl
    rw [hrun, Table.mem_keys_iff, Tentacle.extensions_apply, Option.isSome_or, Bool.or_eq_true,
      ← Table.mem_keys_iff]
    cases made <;> simp [Call.extension?, BringsExtension]
  | reconcile audio video =>
    cases hdown : Octo.tearsDown audio video with
    | true =>
      have hrun : ((Operation.reconcile audio video).run conference tentacle).tentacle =
          tentacle.apply .expire := run_of_tearsDown conference tentacle hdown
      rw [hrun]
      simp [Tentacle.apply, BringsExtension, hdown]
    | false =>
      have hdeclared :
          (Entries.find? number
            ((audio.extensions ++ video.extensions).map fun e => (e.number, e.uri))).isSome ↔
          ∃ extension ∈ audio.extensions ++ video.extensions, extension.number = number := by
        rw [Entries.isSome_find?_iff, List.map_map, List.mem_map]
        rfl
      have hrun : ((Operation.reconcile audio video).run conference tentacle).tentacle =
          (Octo.reconcile conference tentacle audio video).tentacle := rfl
      rw [hrun, Table.mem_keys_iff, get?_extensions_reconcile_of_lasting conference tentacle hdown,
        Option.isSome_or, Bool.or_eq_true, hdeclared, ← Table.mem_keys_iff]
      simp [BringsExtension, hdown]

/-- A step uses the numbers of payload types from before and those that it brings. -/
theorem Operation.mem_payloadTypes_run_iff {conference : String} {tentacle : Tentacle}
    {operation : Operation} {number : Int} :
    number ∈ (operation.run conference tentacle).tentacle.payloadTypes.keys ↔
      number ∈ tentacle.payloadTypes.keys ∨ operation.BringsPayloadType number := by
  cases operation with
  | call made =>
    have hrun : ((Operation.call made).run conference tentacle).tentacle =
        tentacle.apply made := rfl
    rw [hrun, Table.mem_keys_iff, Tentacle.payloadTypes_apply, Option.isSome_or, Bool.or_eq_true,
      ← Table.mem_keys_iff]
    cases made <;> simp [Call.payloadType?, BringsPayloadType]
  | reconcile audio video =>
    cases hdown : Octo.tearsDown audio video with
    | true =>
      have hrun : ((Operation.reconcile audio video).run conference tentacle).tentacle =
          tentacle.apply .expire := run_of_tearsDown conference tentacle hdown
      rw [hrun]
      simp [Tentacle.apply, BringsPayloadType, hdown]
    | false =>
      have hrun : ((Operation.reconcile audio video).run conference tentacle).tentacle =
          (Octo.reconcile conference tentacle audio video).tentacle := rfl
      rw [hrun, Table.mem_keys_iff,
        get?_payloadTypes_reconcile_of_lasting conference tentacle hdown, Option.isSome_or,
        Bool.or_eq_true, ← Table.mem_keys_iff, List.findSome?_isSome_iff]
      simp only [isSome_builtUnder, BringsPayloadType, hdown, true_and]

/-! ### Histories -/

/-- What each step keeps and adds to in its own way holds after a history if it held before or if a
step has added to it. -/
theorem history_iff_of_run {conference : String} (uses : Tentacle → Prop)
    {brings : Operation → Prop}
    (hrun : ∀ tentacle operation,
      uses (operation.run conference tentacle).tentacle ↔ uses tentacle ∨ brings operation)
    (tentacle : Tentacle) (operations : List Operation) :
    uses (history conference tentacle operations).tentacle ↔
      uses tentacle ∨ ∃ operation ∈ operations, brings operation := by
  induction operations generalizing tentacle with
  | nil => simp [history]
  | cons operation rest ih =>
    have hrest : uses (history conference tentacle (operation :: rest)).tentacle ↔
        uses (operation.run conference tentacle).tentacle ∨ ∃ later ∈ rest, brings later :=
      ih _
    rw [hrest, hrun, or_assoc, List.exists_mem_cons_iff]

/-- The numbers of header extensions after a history are those from before and those brought. -/
theorem mem_extensions_history_iff {conference : String} {tentacle : Tentacle}
    {operations : List Operation} {number : Int} :
    number ∈ (history conference tentacle operations).tentacle.extensions.keys ↔
      number ∈ tentacle.extensions.keys ∨
        ∃ operation ∈ operations, operation.BringsExtension number :=
  history_iff_of_run (fun tentacle => number ∈ tentacle.extensions.keys)
    (fun _ _ => Operation.mem_extensions_run_iff) tentacle operations

/-- The numbers of payload types after a history are those from before and those brought. -/
theorem mem_payloadTypes_history_iff {conference : String} {tentacle : Tentacle}
    {operations : List Operation} {number : Int} :
    number ∈ (history conference tentacle operations).tentacle.payloadTypes.keys ↔
      number ∈ tentacle.payloadTypes.keys ∨
        ∃ operation ∈ operations, operation.BringsPayloadType number :=
  history_iff_of_run (fun tentacle => number ∈ tentacle.payloadTypes.keys)
    (fun _ _ => Operation.mem_payloadTypes_run_iff) tentacle operations

/-- Steps in any order leave the same numbers in use. No number is given up along the way, and each
reconciliation that tears nothing down adds the numbers of the extensions that it declares and of
the payload types that it builds, and no others. -/
theorem history_numbers_of_perm (conference : String) (tentacle : Tentacle)
    {operations reordered : List Operation} (h : operations.Perm reordered) :
    (history conference tentacle operations).tentacle.extensions.keys =
        (history conference tentacle reordered).tentacle.extensions.keys ∧
      (history conference tentacle operations).tentacle.payloadTypes.keys =
        (history conference tentacle reordered).tentacle.payloadTypes.keys ∧
      (∀ earlier later, operations = earlier ++ later →
        (history conference tentacle earlier).tentacle.extensions.keys ⊆
            (history conference tentacle operations).tentacle.extensions.keys ∧
          (history conference tentacle earlier).tentacle.payloadTypes.keys ⊆
            (history conference tentacle operations).tentacle.payloadTypes.keys) ∧
      ∀ earlier audio video later, operations = earlier ++ .reconcile audio video :: later →
        let before := (history conference tentacle earlier).tentacle
        let after := (reconcile conference before audio video).tentacle
        ∀ number,
          (number ∈ after.extensions.keys ↔ number ∈ before.extensions.keys ∨
            tearsDown audio video = false ∧
              ∃ extension ∈ audio.extensions ++ video.extensions, extension.number = number) ∧
          (number ∈ after.payloadTypes.keys ↔ number ∈ before.payloadTypes.keys ∨
            tearsDown audio video = false ∧
              ∃ declaration ∈ audio.payloadTypes ++ video.payloadTypes,
                declaration.number = number ∧
                  (declaration.build? (mergedMedia video declaration.key)).isSome) := by
  refine ⟨Table.keys_eq_of_mem_iff fun number => ?_, Table.keys_eq_of_mem_iff fun number => ?_,
    fun earlier later hsplit => ⟨fun number hnumber => ?_, fun number hnumber => ?_⟩, ?_⟩
  · rw [mem_extensions_history_iff, mem_extensions_history_iff]
    simp only [h.mem_iff]
  · rw [mem_payloadTypes_history_iff, mem_payloadTypes_history_iff]
    simp only [h.mem_iff]
  · rw [hsplit, history_append_tentacle]
    exact mem_extensions_history_iff.2 (Or.inl hnumber)
  · rw [hsplit, history_append_tentacle]
    exact mem_payloadTypes_history_iff.2 (Or.inl hnumber)
  · intro earlier audio video later _ before after number
    have hrun : after = ((Operation.reconcile audio video).run conference before).tentacle := rfl
    rw [hrun]
    exact ⟨Operation.mem_extensions_run_iff, Operation.mem_payloadTypes_run_iff⟩

/-- Two channels contend for the numbers 1 and 111, and a teardown comes between them or after
them. -/
theorem history_numbers_of_perm_contended :
    let opus : PayloadDeclaration :=
      { number := 111, name := "opus", clockRate := 48000, channels := 2, parameters := .empty,
        feedback := [] }
    let audio : OctoChannel :=
      { id := none, expire := 60, relays := .empty, extensions := [⟨1, "urn:level"⟩],
        payloadTypes := [opus, { opus with number := 0, name := "?" }], sources := [],
        groups := [] }
    let video : OctoChannel :=
      { audio with
        extensions := [⟨1, "urn:time"⟩, ⟨3, "urn:time"⟩]
        payloadTypes := [{ opus with name := "VP8" }, { opus with number := 100, name := "VP9" }] }
    let idle : OctoChannel := { audio with extensions := [], payloadTypes := [] }
    let torn : OctoChannel := { video with expire := 0 }
    let operations : List Operation :=
      [.reconcile audio idle, .reconcile idle torn, .reconcile idle video]
    let reordered : List Operation :=
      [.reconcile idle video, .reconcile audio idle, .reconcile idle torn]
    let tentacle := (history "meeting" .fresh operations).tentacle
    let other := (history "meeting" .fresh reordered).tentacle
    operations.Perm reordered ∧
      tentacle.extensions.keys = [1, 3] ∧ other.extensions.keys = [1, 3] ∧
      tentacle.payloadTypes.keys = [100, 111] ∧ other.payloadTypes.keys = [100, 111] ∧
      tentacle.extensions.get? 1 ≠ other.extensions.get? 1 ∧
      tentacle.payloadTypes.get? 111 ≠ other.payloadTypes.get? 111 := by
  intro opus audio video idle torn operations reordered tentacle other
  have hperm : operations.Perm reordered := by decide +kernel
  obtain ⟨hextensions, hpayloadTypes, _⟩ := history_numbers_of_perm "meeting" .fresh hperm
  have hnamed : tentacle.extensions.keys = [1, 3] := by decide +kernel
  have hbuilt : tentacle.payloadTypes.keys = [100, 111] := by decide +kernel
  exact ⟨hperm, hnamed, hextensions.symm.trans hnamed, hbuilt, hpayloadTypes.symm.trans hbuilt,
    by decide +kernel, by decide +kernel⟩

end ConferenceBridge.Octo
