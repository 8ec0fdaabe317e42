import ConferenceBridge.Proofs.Octo.Locality
import ConferenceBridge.Proofs.Octo.Sequence
import ConferenceBridge.Proofs.Octo.Teardown

/-!
# Reconciling again

Reconciling the same channels a second time finds everything in place. The tables take nothing more,
since each number that the channels could add has its first value by then; relays and sources are
replaced by themselves; and a relay that is torn down already is not torn down again. What remains
of the second reconciliation are its calls, without those that add header extensions.
-/

namespace ConferenceBridge

/-- Whether a call adds a header extension. -/
def Call.addsExtension : Call → Bool
  | .addExtension .. => true
  | _ => false

namespace Octo

/-! ### Channels that last -/

section Lasting

variable (conference : String) (tentacle : Tentacle) {audio video : OctoChannel}
  (hlasting : tearsDown audio video = false)
include hlasting

/-- The header extensions are the same after the second reconciliation: the first one has stored a
name for each number that is declared. -/
theorem extensions_reconcile_again :
    (reconcile conference (reconcile conference tentacle audio video).tentacle audio
        video).tentacle.extensions =
      (reconcile conference tentacle audio video).tentacle.extensions := by
  refine Table.ext_get? fun number => ?_
  rw [get?_extensions_reconcile_of_lasting conference _ hlasting,
    get?_extensions_reconcile_of_lasting conference tentacle hlasting, Option.or_assoc,
    Option.or_self]

/-- The payload types are the same after the second reconciliation, whatever older entries the table
held. -/
theorem payloadTypes_reconcile_again :
    (reconcile conference (reconcile conference tentacle audio video).tentacle audio
        video).tentacle.payloadTypes =
      (reconcile conference tentacle audio video).tentacle.payloadTypes := by
  refine Table.ext_get? fun number => ?_
  rw [get?_payloadTypes_reconcile_of_lasting conference _ hlasting,
    get?_payloadTypes_reconcile_of_lasting conference tentacle hlasting, Option.or_assoc,
    Option.or_self]

/-- All but the tables is known after a reconciliation. -/
theorem reconcile_tentacle_eq :
    (reconcile conference tentacle audio video).tentacle =
      { expired := tentacle.expired && (mergedRelays audio video).isEmpty
        relays := mergedRelays audio video
        extensions := (reconcile conference tentacle audio video).tentacle.extensions
        payloadTypes := (reconcile conference tentacle audio video).tentacle.payloadTypes
        audioSources := audio.sources
        videoSources := video.sources
        videoGroups := video.groups } := by
  rw [reconcile_tentacle_of_lasting conference tentacle hlasting]

/-- The second reconciliation leaves the state that the first one left. An expiry that the first one
did not end, for want of relays, is not ended by the second one either. -/
theorem reconcile_tentacle_again :
    (reconcile conference (reconcile conference tentacle audio video).tentacle audio
        video).tentacle =
      (reconcile conference tentacle audio video).tentacle := by
  have hfirst := reconcile_tentacle_eq conference tentacle hlasting
  have hexpired : (reconcile conference tentacle audio video).tentacle.expired =
      (tentacle.expired && (mergedRelays audio video).isEmpty) :=
    congrArg Tentacle.expired hfirst
  rw [reconcile_tentacle_eq conference _ hlasting,
    extensions_reconcile_again conference tentacle hlasting,
    payloadTypes_reconcile_again conference tentacle hlasting, hexpired, Bool.and_assoc,
    Bool.and_self]
  exact hfirst.symm

/-- Every number that is declared is configured after a reconciliation. -/
theorem newExtensions_reconcile :
    newExtensions (reconcile conference tentacle audio video).tentacle audio video = [] := by
  rw [← List.map_eq_nil_iff (f := HeaderExtension.number), numbers_newExtensions,
    List.filter_eq_nil_iff]
  intro number hnumber
  have hdeclared : (Entries.find? number
      ((audio.extensions ++ video.extensions).map fun e => (e.number, e.uri))).isSome := by
    rw [Entries.isSome_find?_iff, List.map_map]
    exact List.mem_eraseDups.1 hnumber
  have hconfigured : (reconcile conference tentacle audio video).tentacle.hasExtension number =
      true := by
    rw [Tentacle.hasExtension, Table.contains,
      get?_extensions_reconcile_of_lasting conference tentacle hlasting, Option.isSome_or,
      hdeclared, Bool.or_true]
  simp [hconfigured]

/-- The second reconciliation makes the calls of the first one, without those that add header
extensions. -/
theorem reconcile_calls_again :
    (reconcile conference (reconcile conference tentacle audio video).tentacle audio video).calls =
      (reconcile conference tentacle audio video).calls.filter fun call => !call.addsExtension := by
  rw [reconcile_calls_eq_picked conference _ hlasting,
    reconcile_calls_eq_picked conference tentacle hlasting,
    newExtensions_reconcile conference tentacle hlasting]
  simp [List.filter_append, List.filter_map, Function.comp_def, Call.addsExtension]

/-- Both reconciliations report the same, and neither reports a teardown. -/
theorem reconcile_notices_again :
    (reconcile conference (reconcile conference tentacle audio video).tentacle audio
        video).notices =
      (reconcile conference tentacle audio video).notices.filter
        fun notice => !notice.isExpiry := by
  rw [reconcile_notices_eq_picked conference _ hlasting,
    reconcile_notices_eq_picked conference tentacle hlasting]
  simp [List.filter_map, Function.comp_def, Notice.isExpiry]

end Lasting

/-! ### Teardowns -/

/-- A reconciliation that tears the relay down makes one call, and says that it does so. -/
theorem reconcile_of_tearsDown (conference : String) (tentacle : Tentacle)
    {audio video : OctoChannel} (hdown : tearsDown audio video = true) :
    reconcile conference tentacle audio video =
      { tentacle := tentacle.apply .expire
        calls := [.expire]
        notices := .tearingDown :: tentacle.noticesOf conference .expire } := by
  simp [reconcile, events, hdown, trace, Trace.extend]

/-- A relay that is torn down already is torn down once more without a report. -/
theorem noticesOf_expire_again (conference : String) (tentacle : Tentacle) :
    (tentacle.apply .expire).noticesOf conference .expire =
      (tentacle.noticesOf conference .expire).filter fun notice => !notice.isExpiry := by
  have hreported : (tentacle.noticesOf conference .expire).filter
      (fun notice => !notice.isExpiry) = [] := by
    refine List.filter_eq_nil_iff.2 fun notice hnotice => ?_
    simp [Tentacle.isExpiry_of_mem_noticesOf hnotice]
  rw [hreported]
  rfl

/-- Reconciling the same channels again changes nothing, whether they last or not, and whatever the
tentacle held before the first time. The second time no header extension is added; all other calls
are made again in the same order. The same is reported as the first time, apart from a teardown of
the relay, which is not reported again. -/
theorem reconcile_again (conference : String) (tentacle : Tentacle) (audio video : OctoChannel) :
    let first := reconcile conference tentacle audio video
    let second := reconcile conference first.tentacle audio video
    second.tentacle = first.tentacle ∧
      (∀ number uri, .addExtension number uri ∉ second.calls) ∧
      second.calls = first.calls.filter (fun call => !call.addsExtension) ∧
      (∀ torn, .tentacleExpired torn ∉ second.notices) ∧
      second.notices = first.notices.filter (fun notice => !notice.isExpiry) := by
  intro first second
  have hsame : second.tentacle = first.tentacle ∧
      second.calls = first.calls.filter (fun call => !call.addsExtension) ∧
      second.notices = first.notices.filter fun notice => !notice.isExpiry := by
    cases hdown : tearsDown audio video with
    | true =>
      have hfirst : first = _ := reconcile_of_tearsDown conference tentacle hdown
      have hsecond : second = _ := reconcile_of_tearsDown conference first.tentacle hdown
      rw [hsecond, hfirst]
      refine ⟨rfl, rfl, ?_⟩
      rw [noticesOf_expire_again]
      rfl
    | false =>
      exact ⟨reconcile_tentacle_again conference tentacle hdown,
        reconcile_calls_again conference tentacle hdown,
        reconcile_notices_again conference tentacle hdown⟩
  obtain ⟨htentacle, hcalls, hnotices⟩ := hsame
  refine ⟨htentacle, fun number uri hmem => ?_, hcalls, fun torn hmem => ?_, hnotices⟩
  · rw [hcalls] at hmem
    simpa [Call.addsExtension] using (List.mem_filter.1 hmem).2
  · rw [hnotices] at hmem
    simpa [Notice.isExpiry] using (List.mem_filter.1 hmem).2

end Octo

end ConferenceBridge
