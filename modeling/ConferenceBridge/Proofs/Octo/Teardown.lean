import ConferenceBridge.Proofs.Octo.Merging
import Mathlib.Data.List.DropRight

/-!
# Tearing down leaves nothing behind

A relay that was torn down and is set up again stands as if it had never been torn down: the tables
are not touched by a teardown, and the next reconciliation replaces everything else. Only if no
relay is set since the last teardown does the expiry itself remain.
-/

namespace ConferenceBridge

/-- Whether a call adds to one of the tables. -/
def Call.adds : Call → Bool
  | .addExtension .. | .addPayloadType .. => true
  | _ => false

namespace Tentacle

/-- A tentacle with another expiry. -/
def withExpired (tentacle : Tentacle) (expired : Bool) : Tentacle := { tentacle with expired }

/-- Two tentacles with the same header extensions and payload types. -/
structure SameTables (left right : Tentacle) : Prop where
  /-- The header extensions are the same. -/
  extensions : left.extensions = right.extensions
  /-- The payload types are the same. -/
  payloadTypes : left.payloadTypes = right.payloadTypes

/-- A tentacle has the same tables as itself. -/
theorem SameTables.refl (tentacle : Tentacle) : tentacle.SameTables tentacle := ⟨rfl, rfl⟩

/-- Tentacles that differ in their expiry at most have the same tables. -/
theorem SameTables.of_eq_withExpired {left right : Tentacle} {expired : Bool}
    (h : left = right.withExpired expired) : left.SameTables right := by
  rw [h]
  exact ⟨rfl, rfl⟩

/-- The same call keeps the tables the same. -/
theorem SameTables.apply {left right : Tentacle} (h : left.SameTables right) (call : Call) :
    (left.apply call).SameTables (right.apply call) := by
  obtain ⟨hextensions, hpayloadTypes⟩ := h
  cases call with
  | addExtension number uri =>
    exact ⟨congrArg (·.insertIfNew number uri) hextensions, hpayloadTypes⟩
  | addPayloadType payload =>
    exact ⟨hextensions, congrArg (·.insertIfNew payload.number payload) hpayloadTypes⟩
  | expire | setRelays | setSources => exact ⟨hextensions, hpayloadTypes⟩

/-- The same calls keep the tables the same. -/
theorem SameTables.applyAll {left right : Tentacle} (h : left.SameTables right)
    (calls : List Call) : (left.applyAll calls).SameTables (right.applyAll calls) := by
  induction calls generalizing left right with
  | nil => exact h
  | cons call rest ih => exact ih (h.apply call)

/-- Calls that add to the tables change nothing else. -/
theorem applyAll_of_adds (tentacle : Tentacle) {calls : List Call}
    (h : ∀ call ∈ calls, call.adds = true) :
    tentacle.applyAll calls =
      { tentacle with
        extensions := (tentacle.applyAll calls).extensions
        payloadTypes := (tentacle.applyAll calls).payloadTypes } := by
  induction calls generalizing tentacle with
  | nil => rfl
  | cons call rest ih =>
    obtain ⟨hcall, hrest⟩ := List.forall_mem_cons.1 h
    have hlater := ih (tentacle.apply call) hrest
    rw [applyAll, List.foldl_cons, ← applyAll, hlater]
    cases call with
    | addExtension | addPayloadType => rfl
    | expire | setRelays | setSources => cases hcall

end Tentacle

namespace Octo

/-! ### Steps -/

/-- Whether a step tears the relay down. -/
def Operation.tearsDown : Operation → Bool
  | .reconcile audio video => Octo.tearsDown audio video
  | .call made => made == .expire

/-- Whether a step sets at least one relay for channels that last. -/
def Operation.revives : Operation → Bool
  | .reconcile audio video =>
    !Octo.tearsDown audio video && !(mergedRelays audio video).isEmpty
  | .call _ => false

/-- A step that is a reconciliation or an explicit expiry. -/
def Operation.ReconcilesOrExpires : Operation → Prop
  | .reconcile _ _ => True
  | .call made => made = .expire

/-- The steps that do not tear the relay down. -/
def withoutTearDowns (operations : List Operation) : List Operation :=
  operations.filter fun operation => !operation.tearsDown

/-- The steps after the last one that tears the relay down, or all steps if there is none. -/
def sinceTearDown (operations : List Operation) : List Operation :=
  operations.rtakeWhile fun operation => !operation.tearsDown

/-- The calls of each step of a history. -/
def callLog (conference : String) (tentacle : Tentacle) :
    List Operation → List (Operation × List Call)
  | [] => []
  | operation :: rest =>
    let trace := operation.run conference tentacle
    (operation, trace.calls) :: callLog conference trace.tentacle rest

/-- A step that does not tear the relay down is a reconciliation of channels that last. -/
theorem exists_reconcile_of_lasting {operation : Operation}
    (hkind : operation.ReconcilesOrExpires) (hlasting : operation.tearsDown = false) :
    ∃ audio video, operation = .reconcile audio video ∧ Octo.tearsDown audio video = false := by
  cases operation with
  | reconcile audio video => exact ⟨audio, video, rfl, hlasting⟩
  | call made =>
    have hmade : made = .expire := hkind
    simp [Operation.tearsDown, hmade] at hlasting

/-- A step that tears the relay down does nothing but an expiry. -/
theorem run_of_tearsDown (conference : String) (tentacle : Tentacle) {operation : Operation}
    (h : operation.tearsDown = true) :
    (operation.run conference tentacle).tentacle = tentacle.apply .expire := by
  have hcalls : callsOf (operation.events tentacle) = [.expire] := by
    cases operation with
    | reconcile audio video =>
      have hdown : Octo.tearsDown audio video = true := h
      simp [Operation.events, events, hdown]
    | call made =>
      have hmade : made = .expire := by simpa [Operation.tearsDown] using h
      simp [Operation.events, hmade]
  rw [Operation.run, trace_tentacle, hcalls]
  rfl

/-- The calls by which a reconciliation adds to the tables. -/
def addingCalls (configured : Table Int String) (audio video : OctoChannel) : List Call :=
  callsOf (extensionEvents configured audio video) ++ callsOf (payloadEvents audio video)

/-- These calls do nothing else. -/
theorem adds_of_mem_addingCalls (configured : Table Int String) (audio video : OctoChannel) :
    ∀ call ∈ addingCalls configured audio video, call.adds = true := by
  intro call hcall
  rcases List.mem_append.1 hcall with hextension | hpayload
  · obtain ⟨_, _, rfl⟩ := exists_of_mem_extensionEvents (mem_callsOf.1 hextension)
    rfl
  · obtain ⟨_, rfl⟩ := exists_of_mem_payloadEvents (mem_callsOf.1 hpayload)
    rfl

/-- A reconciliation of channels that last adds to the tables and replaces all else, apart from an
expiry if it sets no relay. -/
theorem reconcile_tentacle_of_lasting (conference : String) (tentacle : Tentacle)
    {audio video : OctoChannel} (hlasting : Octo.tearsDown audio video = false) :
    (reconcile conference tentacle audio video).tentacle =
      { expired := tentacle.expired && (mergedRelays audio video).isEmpty
        relays := mergedRelays audio video
        extensions :=
          (tentacle.applyAll (addingCalls tentacle.extensions audio video)).extensions
        payloadTypes :=
          (tentacle.applyAll (addingCalls tentacle.extensions audio video)).payloadTypes
        audioSources := audio.sources
        videoSources := video.sources
        videoGroups := video.groups } := by
  have hcalls := reconcile_calls_of_lasting conference tentacle hlasting
  rw [reconcile, trace_calls, ← addingCalls] at hcalls
  have hadds := Tentacle.applyAll_of_adds
    (tentacle.apply (.setRelays (mergedRelays audio video)))
    (adds_of_mem_addingCalls tentacle.extensions audio video)
  have hrelays : (tentacle.apply (.setRelays (mergedRelays audio video))).SameTables tentacle :=
    ⟨rfl, rfl⟩
  obtain ⟨hextensions, hpayloadTypes⟩ :=
    hrelays.applyAll (addingCalls tentacle.extensions audio video)
  rw [reconcile, trace_tentacle, hcalls, Tentacle.applyAll, List.foldl_cons, ← Tentacle.applyAll,
    Tentacle.applyAll_append, hadds, hextensions, hpayloadTypes]
  rfl

/-- Whatever the relays were, a step that does not tear them down makes the same calls on the same
tables, and leaves the same behind, apart from an expiry if it sets no relay. -/
theorem run_of_sameTables (conference : String) {left right : Tentacle}
    (h : left.SameTables right) {operation : Operation}
    (hkind : operation.ReconcilesOrExpires) (hlasting : operation.tearsDown = false) :
    (operation.run conference left).calls = (operation.run conference right).calls ∧
      (operation.run conference left).tentacle =
        (operation.run conference right).tentacle.withExpired
          (left.expired && !operation.revives) := by
  obtain ⟨audio, video, rfl, hchannels⟩ := exists_reconcile_of_lasting hkind hlasting
  have hcalls := reconcile_calls_of_lasting conference left hchannels
  rw [h.extensions, ← reconcile_calls_of_lasting conference right hchannels] at hcalls
  refine ⟨hcalls, ?_⟩
  have hleft := reconcile_tentacle_of_lasting conference left hchannels
  have hright := reconcile_tentacle_of_lasting conference right hchannels
  obtain ⟨hextensions, hpayloadTypes⟩ := h.applyAll (addingCalls right.extensions audio video)
  have hrevives : (!(Operation.reconcile audio video).revives) =
      (mergedRelays audio video).isEmpty := by
    simp [Operation.revives, hchannels]
  rw [h.extensions, hextensions, hpayloadTypes] at hleft
  calc (reconcile conference left audio video).tentacle
      = (reconcile conference right audio video).tentacle.withExpired
          (left.expired && (mergedRelays audio video).isEmpty) := by
        rw [hleft, hright]
        rfl
    _ = _ := by rw [hrevives]; rfl

/-! ### Histories -/

/-- A history goes on from the state that its first part leaves. -/
theorem history_append_tentacle (conference : String) (tentacle : Tentacle)
    (first later : List Operation) :
    (history conference tentacle (first ++ later)).tentacle =
      (history conference (history conference tentacle first).tentacle later).tentacle := by
  induction first generalizing tentacle with
  | nil => rfl
  | cons operation rest ih => exact ih _

/-- After steps that tear nothing down, an expiry is left of one before them unless a relay was
set. -/
theorem history_expired_of_lasting (conference : String) (tentacle : Tentacle)
    {operations : List Operation}
    (hkind : ∀ operation ∈ operations, operation.ReconcilesOrExpires)
    (hlasting : ∀ operation ∈ operations, operation.tearsDown = false) :
    (history conference tentacle operations).tentacle.expired =
      (tentacle.expired && !operations.any Operation.revives) := by
  induction operations generalizing tentacle with
  | nil => simp [history]
  | cons operation rest ih =>
    obtain ⟨hfirst, hrest⟩ := List.forall_mem_cons.1 hkind
    obtain ⟨hlast, hlater⟩ := List.forall_mem_cons.1 hlasting
    have hrun := (run_of_sameTables conference (.refl tentacle) hfirst hlast).2
    have hexpired : (operation.run conference tentacle).tentacle.expired =
        (tentacle.expired && !operation.revives) := congrArg Tentacle.expired hrun
    rw [history, ih _ hrest hlater, hexpired, List.any_cons]
    simp [Bool.and_assoc]

/-- Once channels that last are reconciled, tentacles with the same tables agree on all but an
expiry. -/
theorem history_of_sameTables (conference : String) {left right : Tentacle}
    (h : left.SameTables right) {operations : List Operation} (hsome : operations ≠ [])
    (hkind : ∀ operation ∈ operations, operation.ReconcilesOrExpires)
    (hlasting : ∀ operation ∈ operations, operation.tearsDown = false) :
    (history conference left operations).tentacle =
      (history conference right operations).tentacle.withExpired
        (history conference left operations).tentacle.expired := by
  induction operations generalizing left right with
  | nil => exact absurd rfl hsome
  | cons operation rest ih =>
    obtain ⟨hfirst, hrest⟩ := List.forall_mem_cons.1 hkind
    obtain ⟨hlast, hlater⟩ := List.forall_mem_cons.1 hlasting
    have hrun := (run_of_sameTables conference h hfirst hlast).2
    cases rest with
    | nil =>
      simp only [history]
      rw [hrun]
      rfl
    | cons next others => exact ih (.of_eq_withExpired hrun) (List.cons_ne_nil _ _) hrest hlater

/-- Leaving the teardowns out of a history keeps the tables and the calls of all other steps. -/
theorem sameTables_withoutTearDowns (conference : String) {left right : Tentacle}
    (h : left.SameTables right) {operations : List Operation}
    (hkind : ∀ operation ∈ operations, operation.ReconcilesOrExpires) :
    (history conference left operations).tentacle.SameTables
        (history conference right (withoutTearDowns operations)).tentacle ∧
      (callLog conference left operations).filter (fun entry => !entry.1.tearsDown) =
        callLog conference right (withoutTearDowns operations) := by
  induction operations generalizing left right with
  | nil => exact ⟨h, rfl⟩
  | cons operation rest ih =>
    obtain ⟨hfirst, hrest⟩ := List.forall_mem_cons.1 hkind
    cases hdown : operation.tearsDown with
    | true =>
      have hafter : (operation.run conference left).tentacle.SameTables right := by
        rw [run_of_tearsDown conference left hdown]
        exact ⟨h.extensions, h.payloadTypes⟩
      have hleft : withoutTearDowns (operation :: rest) = withoutTearDowns rest :=
        List.filter_cons_of_neg (by simp [hdown])
      rw [hleft, callLog, List.filter_cons_of_neg (by simp [hdown])]
      exact ih hafter hrest
    | false =>
      obtain ⟨hcalls, hrun⟩ := run_of_sameTables conference h hfirst hdown
      have hkept : withoutTearDowns (operation :: rest) = operation :: withoutTearDowns rest :=
        List.filter_cons_of_pos (by simp [hdown])
      obtain ⟨htables, hlog⟩ := ih (.of_eq_withExpired hrun) hrest
      rw [hkept, callLog, callLog, List.filter_cons_of_pos (by simp [hdown]), hlog, hcalls]
      exact ⟨htables, rfl⟩

/-- A history in which the relay is torn down ends in a last teardown and what follows it. -/
theorem exists_last_tearDown {operations : List Operation}
    (h : operations.any Operation.tearsDown = true) :
    ∃ before down, operations = before ++ down :: sinceTearDown operations ∧
      down.tearsDown = true := by
  induction operations using List.reverseRecOn with
  | nil => cases h
  | append_singleton earlier operation ih =>
    cases hdown : operation.tearsDown with
    | true =>
      have hnone : sinceTearDown (earlier ++ [operation]) = [] :=
        List.rtakeWhile_concat_neg _ _ _ (by simp [hdown])
      exact ⟨earlier, operation, by rw [hnone], hdown⟩
    | false =>
      have hearlier : earlier.any Operation.tearsDown = true := by simpa [hdown] using h
      have hmore : sinceTearDown (earlier ++ [operation]) = sinceTearDown earlier ++ [operation] :=
        List.rtakeWhile_concat_pos _ _ _ (by simp [hdown])
      obtain ⟨before, down, hsplit, htears⟩ := ih hearlier
      refine ⟨before, down, ?_, htears⟩
      rw [hmore]
      nth_rewrite 1 [hsplit]
      simp

/-- If something follows the last teardown, the history ends as it does without teardowns, apart
from an expiry that is left just if nothing that follows sets a relay. -/
theorem history_of_exists_tearDown (conference : String) (tentacle : Tentacle)
    {operations : List Operation}
    (hkind : ∀ operation ∈ operations, operation.ReconcilesOrExpires)
    (hany : operations.any Operation.tearsDown = true) (hsome : sinceTearDown operations ≠ []) :
    (history conference tentacle operations).tentacle =
        (history conference tentacle (withoutTearDowns operations)).tentacle.withExpired
          (!(sinceTearDown operations).any Operation.revives) ∧
      ((sinceTearDown operations).any Operation.revives = true →
        (history conference tentacle (withoutTearDowns operations)).tentacle.expired = false) := by
  obtain ⟨before, down, hsplit, htears⟩ := exists_last_tearDown hany
  have hlasting : ∀ operation ∈ sinceTearDown operations, operation.tearsDown = false := by
    intro operation hmem
    simpa using List.mem_rtakeWhile_imp hmem
  generalize sinceTearDown operations = since at hsplit hlasting hsome ⊢
  subst hsplit
  have hbefore : ∀ operation ∈ before ++ [down], operation.ReconcilesOrExpires := by
    intro operation hmem
    exact hkind operation (by simp at hmem ⊢; tauto)
  have hsince : ∀ operation ∈ since, operation.ReconcilesOrExpires := by
    intro operation hmem
    exact hkind operation (by simp [hmem])
  have hkept : withoutTearDowns (before ++ [down]) = withoutTearDowns before := by
    simp [withoutTearDowns, htears]
  have hlive : withoutTearDowns (before ++ down :: since) = withoutTearDowns before ++ since := by
    have hall : since.filter (fun operation => !operation.tearsDown) = since :=
      List.filter_eq_self.2 fun operation hmem => by simp [hlasting operation hmem]
    simp [withoutTearDowns, htears, hall]
  -- The teardown leaves an expired tentacle with the tables that stand without it.
  have hexpired : (history conference tentacle (before ++ [down])).tentacle.expired = true := by
    rw [history_append_tentacle]
    exact congrArg Tentacle.expired (run_of_tearsDown conference _ htears)
  have htables := (sameTables_withoutTearDowns conference (.refl tentacle) hbefore).1
  rw [hkept] at htables
  have hfinal := history_of_sameTables conference htables hsome hsince hlasting
  rw [history_expired_of_lasting conference _ hsince hlasting, hexpired, Bool.true_and] at hfinal
  rw [hlive, List.append_cons, history_append_tentacle conference tentacle (before ++ [down]),
    history_append_tentacle conference tentacle (withoutTearDowns before)]
  refine ⟨hfinal, fun hrevives => ?_⟩
  rw [history_expired_of_lasting conference _ hsince hlasting, hrevives]
  simp

/-- Teardowns may be left out of a run of reconciliations and expiries. The other steps make the
same calls. If the last teardown is followed by a reconciliation that sets a relay, the run ends in
the same state; if it is followed by others alone, the state differs in the expiry that is left. -/
theorem history_withoutTearDowns (conference : String) (tentacle : Tentacle)
    {operations : List Operation}
    (hkind : ∀ operation ∈ operations, operation.ReconcilesOrExpires) :
    (callLog conference tentacle operations).filter (fun entry => !entry.1.tearsDown) =
        callLog conference tentacle (withoutTearDowns operations) ∧
      ((operations.any Operation.tearsDown = true →
          (sinceTearDown operations).any Operation.revives = true) →
        (history conference tentacle operations).tentacle =
          (history conference tentacle (withoutTearDowns operations)).tentacle) ∧
      (operations.any Operation.tearsDown = true → sinceTearDown operations ≠ [] →
        (sinceTearDown operations).any Operation.revives = false →
        (history conference tentacle operations).tentacle =
          (history conference tentacle
            (withoutTearDowns operations)).tentacle.withExpired true) := by
  refine ⟨(sameTables_withoutTearDowns conference (.refl tentacle) hkind).2,
    fun hlive => ?_, fun hany hsome hidle => ?_⟩
  · cases hany : operations.any Operation.tearsDown with
    | false =>
      have hall : withoutTearDowns operations = operations :=
        List.filter_eq_self.2 fun operation hmem => by
          simp [List.any_eq_false.1 hany operation hmem]
      rw [hall]
    | true =>
      have hrevives := hlive hany
      have hsome : sinceTearDown operations ≠ [] := by
        intro hnil
        simp [hnil] at hrevives
      obtain ⟨hstate, hexpired⟩ :=
        history_of_exists_tearDown conference tentacle hkind hany hsome
      rw [hstate, hrevives, Bool.not_true, ← hexpired hrevives]
      rfl
  · have hstate := (history_of_exists_tearDown conference tentacle hkind hany hsome).1
    rwa [hidle, Bool.not_false] at hstate

/-- A relay that was torn down twice, set again and then left without peers, and one that was left
without peers after its teardown. -/
theorem history_withoutTearDowns_twice :
    let audio : OctoChannel :=
      { id := none, expire := 60, relays := .ofList ["10.0.0.1:4096"],
        extensions := [⟨1, "urn:level"⟩], payloadTypes := [],
        sources := [{ ssrc := 7, name := none, parameters := .empty }], groups := [] }
    let idle : OctoChannel :=
      { audio with relays := .empty, extensions := [⟨1, "urn:other"⟩, ⟨2, "urn:time"⟩] }
    let torn : OctoChannel := { audio with expire := 0 }
    let revived : List Operation :=
      [.reconcile audio idle, .call .expire, .reconcile torn idle, .reconcile idle audio,
        .reconcile idle idle]
    let unrevived : List Operation := [.reconcile audio idle, .call .expire, .reconcile idle idle]
    (∀ operation ∈ revived, operation.ReconcilesOrExpires) ∧
      (∀ operation ∈ unrevived, operation.ReconcilesOrExpires) ∧
      (history "meeting" .fresh revived).tentacle =
        (history "meeting" .fresh
          [.reconcile audio idle, .reconcile idle audio, .reconcile idle idle]).tentacle ∧
      (history "meeting" .fresh unrevived).tentacle =
        (history "meeting" .fresh
          [.reconcile audio idle, .reconcile idle idle]).tentacle.withExpired true := by
  intro audio idle torn revived unrevived
  have hrevived : ∀ operation ∈ revived, operation.ReconcilesOrExpires := by
    simp [revived, Operation.ReconcilesOrExpires]
  have hunrevived : ∀ operation ∈ unrevived, operation.ReconcilesOrExpires := by
    simp [unrevived, Operation.ReconcilesOrExpires]
  exact ⟨hrevived, hunrevived,
    (history_withoutTearDowns "meeting" .fresh hrevived).2.1 fun _ => by decide +kernel,
    (history_withoutTearDowns "meeting" .fresh hunrevived).2.2 (by decide +kernel)
      (by decide +kernel) (by decide +kernel)⟩

end Octo

end ConferenceBridge
