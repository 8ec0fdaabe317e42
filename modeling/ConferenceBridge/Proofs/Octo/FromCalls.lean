import ConferenceBridge.Proofs.Octo.Trace

/-!
# A tentacle read off its calls

What calls leave of a new tentacle is known from the calls alone. Relays and sources are what the
last call of their kind set, unless an expiry follows it; an expiry stands until relays are set
again; and the tables keep what was added first. The definitions below say so about a list of calls
without making them, and the theorems show that this is the state.
-/

namespace ConferenceBridge

namespace Call

/-- The relays that a call sets. -/
def relays? : Call → Option RelaySet
  | .setRelays relays => some relays
  | _ => none

/-- The sources of sound, the sources of pictures and the groups that a call sets. -/
def sources? : Call → Option (List Source × List Source × List SourceGroup)
  | .setSources audio video groups => some (audio, video, groups)
  | _ => none

/-- The name that a call adds for a header extension of a number. -/
def extension? (number : Int) : Call → Option String
  | .addExtension added uri => if added = number then some uri else none
  | _ => none

/-- The payload type that a call adds under a number. -/
def payloadType? (number : Int) : Call → Option PayloadType
  | .addPayloadType payload => if payload.number = number then some payload else none
  | _ => none

/-- Whether a call ends an expiry, by setting at least one relay. -/
def revives : Call → Bool
  | .setRelays relays => !relays.isEmpty
  | _ => false

end Call

namespace Octo

section Views

variable {α : Type}

/-- The last value that is read off a call, and the calls after that one. -/
def lastRead? (read? : Call → Option α) : List Call → Option (α × List Call)
  | [] => none
  | call :: rest => (lastRead? read? rest).or ((read? call).map fun value => (value, rest))

/-- The last value that is read off a call, or `idle` if there is none or an expiry follows it. -/
def standing (read? : Call → Option α) (idle : α) (calls : List Call) : α :=
  match lastRead? read? calls with
  | some (value, after) => if .expire ∈ after then idle else value
  | none => idle

/-- Whether there is an expiry after which no call sets a relay. -/
def standsExpired : List Call → Bool
  | [] => false
  | call :: rest => (decide (call = .expire) && !rest.any Call.revives) || standsExpired rest

/-- The number of expiries among calls, not counting those at which an earlier one still stands.
The calls come after those made before. -/
def expiryCount (before : List Call) : List Call → Nat
  | [] => 0
  | call :: rest =>
    (if call = .expire ∧ standsExpired before = false then 1 else 0)
      + expiryCount (before ++ [call]) rest

/-- A further call is the last one that is read if anything is read off it. -/
theorem lastRead?_append_singleton (read? : Call → Option α) (calls : List Call) (call : Call) :
    lastRead? read? (calls ++ [call]) =
      match read? call with
      | some value => some (value, [])
      | none => (lastRead? read? calls).map fun (value, after) => (value, after ++ [call]) := by
  induction calls with
  | nil => cases h : read? call <;> simp [lastRead?, h]
  | cons first rest ih =>
    rw [List.cons_append, lastRead?, ih, lastRead?]
    cases read? call with
    | some value => simp
    | none => cases lastRead? read? rest <;> cases read? first <;> simp

/-- After a further call its value stands, or what stood before if nothing is read off it. An expiry
leaves nothing standing. -/
theorem standing_append_singleton {read? : Call → Option α} (hexpire : read? .expire = none)
    (idle : α) (calls : List Call) (call : Call) :
    standing read? idle (calls ++ [call]) =
      if call = .expire then idle else (read? call).getD (standing read? idle calls) := by
  rw [standing, lastRead?_append_singleton, standing]
  by_cases hcall : call = .expire
  · subst hcall
    rw [hexpire]
    cases lastRead? read? calls <;> simp
  · have hother : ¬ Call.expire = call := fun h => hcall h.symm
    cases read? call with
    | some value => simp [hcall]
    | none => cases lastRead? read? calls <;> simp [hcall, hother]

/-- An expiry stands after a further call if the call is one, or if one stood before that the call
does not end. -/
theorem standsExpired_append_singleton (calls : List Call) (call : Call) :
    standsExpired (calls ++ [call]) =
      (decide (call = .expire) || (standsExpired calls && !call.revives)) := by
  induction calls with
  | nil => simp [standsExpired]
  | cons first rest ih =>
    rw [List.cons_append, standsExpired, ih, standsExpired, List.any_append]
    cases decide (call = .expire) <;> cases decide (first = .expire) <;>
      cases rest.any Call.revives <;> cases standsExpired rest <;> simp

example : standsExpired [.expire, .setRelays .empty] = true := by decide

end Views

end Octo

/-- What is stored if it is new is found where nothing was stored before. -/
theorem Table.get?_insertIfNew_eq_or {ν : Type} (table : Table Int ν) (key other : Int)
    (value : ν) :
    (table.insertIfNew key value).get? other =
      (table.get? other).or (if key = other then some value else none) := by
  rw [Table.get?_insertIfNew]
  by_cases h : key = other
  · subst h
    cases table.get? key <;> simp
  · simp [h]

/-- A set that has no member is the empty one. -/
theorem RelaySet.eq_empty_of_isEmpty {set : RelaySet} (h : set.isEmpty = true) :
    set = .empty :=
  RelaySet.ext (Table.ext (List.isEmpty_iff.1 h))

namespace Tentacle

open Octo

/-- After a call the relays are those that it sets, none if it is an expiry, and those from before
otherwise. -/
theorem relays_apply (tentacle : Tentacle) (call : Call) :
    (tentacle.apply call).relays =
      if call = .expire then .empty else call.relays?.getD tentacle.relays := by
  cases call <;> simp [apply, Call.relays?]

/-- After a call the sources and groups are those that it sets, none if it is an expiry, and those
from before otherwise. -/
theorem sources_apply (tentacle : Tentacle) (call : Call) :
    ((tentacle.apply call).audioSources, (tentacle.apply call).videoSources,
        (tentacle.apply call).videoGroups) =
      if call = .expire then ([], [], [])
      else call.sources?.getD
        (tentacle.audioSources, tentacle.videoSources, tentacle.videoGroups) := by
  cases call <;> simp [apply, Call.sources?]

/-- A tentacle is expired after an expiry, and stays expired until a call revives it. -/
theorem expired_apply (tentacle : Tentacle) (call : Call) :
    (tentacle.apply call).expired =
      (decide (call = .expire) || (tentacle.expired && !call.revives)) := by
  cases call <;> simp [apply, Call.revives]

/-- A torn down relay still goes nowhere after any call. -/
theorem relays_apply_eq_empty {tentacle : Tentacle}
    (h : tentacle.expired = true → tentacle.relays = .empty) (call : Call)
    (hexpired : (tentacle.apply call).expired = true) : (tentacle.apply call).relays = .empty := by
  cases call with
  | expire => rfl
  | setRelays relays => exact RelaySet.eq_empty_of_isEmpty (Bool.and_eq_true_iff.1 hexpired).2
  | addExtension | addPayloadType | setSources => exact h hexpired

/-- A header extension is named by the call only if it was not named before. -/
theorem extensions_apply (tentacle : Tentacle) (call : Call) (number : Int) :
    (tentacle.apply call).extensions.get? number =
      (tentacle.extensions.get? number).or (call.extension? number) := by
  cases call with
  | addExtension added uri =>
    exact Table.get?_insertIfNew_eq_or tentacle.extensions added number uri
  | expire | setRelays | addPayloadType | setSources => simp [apply, Call.extension?]

/-- A payload type is taken from the call only if its number had none before. -/
theorem payloadTypes_apply (tentacle : Tentacle) (call : Call) (number : Int) :
    (tentacle.apply call).payloadTypes.get? number =
      (tentacle.payloadTypes.get? number).or (call.payloadType? number) := by
  cases call with
  | addPayloadType payload =>
    exact Table.get?_insertIfNew_eq_or tentacle.payloadTypes payload.number number payload
  | expire | setRelays | addExtension | setSources => simp [apply, Call.payloadType?]

/-- What no call replaces once it is there is taken from the first call that brings it. -/
theorem applyAll_first {α : Type} (stored : Tentacle → Option α) {read? : Call → Option α}
    (hstored : ∀ tentacle call, stored (tentacle.apply call) = (stored tentacle).or (read? call))
    (tentacle : Tentacle) (calls : List Call) :
    stored (tentacle.applyAll calls) = (stored tentacle).or (calls.findSome? read?) := by
  induction calls generalizing tentacle with
  | nil => simp [applyAll]
  | cons call rest ih =>
    rw [applyAll, List.foldl_cons, ← applyAll, ih, hstored, Option.or_assoc, List.findSome?_cons]
    cases read? call <;> simp

/-- Of several calls, the first one that names a header extension of a number counts. -/
theorem extensions_applyAll (tentacle : Tentacle) (calls : List Call) (number : Int) :
    (tentacle.applyAll calls).extensions.get? number =
      (tentacle.extensions.get? number).or (calls.findSome? (Call.extension? number)) :=
  applyAll_first (fun tentacle => tentacle.extensions.get? number)
    (fun tentacle call => extensions_apply tentacle call number) tentacle calls

/-- Of several calls, the first one that adds a payload type under a number counts. -/
theorem payloadTypes_applyAll (tentacle : Tentacle) (calls : List Call) (number : Int) :
    (tentacle.applyAll calls).payloadTypes.get? number =
      (tentacle.payloadTypes.get? number).or (calls.findSome? (Call.payloadType? number)) :=
  applyAll_first (fun tentacle => tentacle.payloadTypes.get? number)
    (fun tentacle call => payloadTypes_apply tentacle call number) tentacle calls

/-- A tentacle holds what calls to a new one leave, as read off the calls. -/
structure HoldsAfter (tentacle : Tentacle) (calls : List Call) : Prop where
  /-- The relays are those that were set last, or none after an expiry. -/
  relays : tentacle.relays = standing Call.relays? .empty calls
  /-- The sources and groups are those that were set last, or none after an expiry. -/
  sources : (tentacle.audioSources, tentacle.videoSources, tentacle.videoGroups) =
    standing Call.sources? ([], [], []) calls
  /-- The relay is torn down just if no relay was set since an expiry. -/
  expired : tentacle.expired = standsExpired calls
  /-- A torn down relay goes nowhere. -/
  relays_eq_empty : tentacle.expired = true → tentacle.relays = .empty
  /-- Each number has the name of the extension that was added first. -/
  extensions : ∀ number, tentacle.extensions.get? number = calls.findSome? (Call.extension? number)
  /-- Each number has the payload type that was added first. -/
  payloadTypes : ∀ number,
    tentacle.payloadTypes.get? number = calls.findSome? (Call.payloadType? number)

/-- A new tentacle holds what no calls leave. -/
theorem holdsAfter_fresh : fresh.HoldsAfter [] where
  relays := rfl
  sources := rfl
  expired := rfl
  relays_eq_empty _ := rfl
  extensions _ := rfl
  payloadTypes _ := rfl

/-- One call keeps the tentacle as it is read off the calls. -/
theorem HoldsAfter.apply {tentacle : Tentacle} {calls : List Call}
    (h : tentacle.HoldsAfter calls) (call : Call) :
    (tentacle.apply call).HoldsAfter (calls ++ [call]) where
  relays := by rw [relays_apply, standing_append_singleton rfl, h.relays]
  sources := by
    rw [sources_apply, standing_append_singleton rfl, ← h.sources]
  expired := by rw [expired_apply, standsExpired_append_singleton, h.expired]
  relays_eq_empty := relays_apply_eq_empty h.relays_eq_empty call
  extensions number := by
    rw [extensions_apply, List.findSome?_append, List.findSome?_singleton, h.extensions]
  payloadTypes number := by
    rw [payloadTypes_apply, List.findSome?_append, List.findSome?_singleton, h.payloadTypes]

/-- Any number of calls keep the tentacle as it is read off the calls. -/
theorem HoldsAfter.applyAll {tentacle : Tentacle} {before : List Call}
    (h : tentacle.HoldsAfter before) (calls : List Call) :
    (tentacle.applyAll calls).HoldsAfter (before ++ calls) := by
  induction calls generalizing tentacle before with
  | nil => simpa [Tentacle.applyAll] using h
  | cons call rest ih => simpa [Tentacle.applyAll] using ih (h.apply call)

/-- The tentacle reports each expiry at which no earlier one stands, and nothing else. -/
theorem HoldsAfter.noticesAlong_eq (conference : String) {tentacle : Tentacle}
    {before : List Call} (h : tentacle.HoldsAfter before) (calls : List Call) :
    tentacle.noticesAlong conference calls =
      List.replicate (expiryCount before calls) (.tentacleExpired conference) := by
  induction calls generalizing tentacle before with
  | nil => rfl
  | cons call rest ih =>
    rw [noticesAlong, ih (h.apply call), expiryCount, ← List.replicate_append_replicate]
    congr 1
    cases call with
    | expire => cases hbefore : standsExpired before <;> simp [noticesOf, h.expired, hbefore]
    | setRelays | addExtension | addPayloadType | setSources => simp [noticesOf]

end Tentacle

namespace Octo

/-- Whatever happens to a new tentacle, its state is the one that is read off the calls made, and it
has reported one teardown for each expiry at which no earlier one stood. -/
theorem history_holdsAfter_calls (conference : String) (operations : List Operation) :
    (history conference .fresh operations).tentacle.HoldsAfter
        (history conference .fresh operations).calls ∧
      (history conference .fresh operations).notices.filter Notice.isExpiry =
        List.replicate (expiryCount [] (history conference .fresh operations).calls)
          (.tentacleExpired conference) := by
  constructor
  · rw [history_tentacle]
    exact Tentacle.holdsAfter_fresh.applyAll _
  · rw [history_expiryNotices]
    exact Tentacle.holdsAfter_fresh.noticesAlong_eq conference _

end Octo

end ConferenceBridge
