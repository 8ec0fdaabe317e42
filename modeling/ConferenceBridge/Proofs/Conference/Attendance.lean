import ConferenceBridge.Proofs.Conference.Attachment

/-!
# Who takes part

Endpoints join under their ids and leave. An id attends from the first time that an endpoint joins
under it until it leaves, so attending ids are in the order in which their attendance began, and
joining once more makes no difference to it. The endpoint that takes part under an id is the one
that joined under it last.
-/

namespace ConferenceBridge

/-- What changes who takes part. -/
inductive Attendance where
  /-- An endpoint joins under an id. -/
  | joins (id : String) (number : Nat)
  /-- Whoever joined under an id leaves. -/
  | leaves (id : String)
  deriving DecidableEq

/-- The endpoint that joins under an id. -/
def Attendance.joinedUnder? (id : String) : Attendance → Option Nat
  | .joins other number => if other = id then some number else none
  | .leaves _ => none

/-- The endpoints that join under an id, in order. -/
def joinedUnder (id : String) (events : List Attendance) : List Nat :=
  events.filterMap (Attendance.joinedUnder? id)

/-- The ids that attend after several events, in the order in which their attendance began: a join
counts if the id does not leave any more, and only the first of several such joins. -/
def attending : List Attendance → List String
  | [] => []
  | .joins id _ :: later =>
    if .leaves id ∈ later then attending later
    else id :: (attending later).filter fun other => other != id
  | .leaves _ :: later => attending later

/-- Who is registered after an event. -/
def Attendance.apply (members : Registry String Nat) : Attendance → Registry String Nat
  | .joins id number => members.put id number
  | .leaves id => members.erase id

/-- Who is registered after several events. -/
def membersAfter (events : List Attendance) : Registry String Nat :=
  events.foldl Attendance.apply .empty

/-! ### Registration and attendance -/

/-- An id that joins attends from now on if it does not already. -/
theorem attending_concat_joins (events : List Attendance) (id : String) (number : Nat) :
    attending (events ++ [.joins id number]) =
      if id ∈ attending events then attending events else attending events ++ [id] := by
  induction events with
  | nil => rfl
  | cons event later ih =>
    cases event with
    | leaves other => rw [List.cons_append, attending, ih, attending]
    | joins other first =>
      have hleaves : Attendance.leaves other ∈ later ++ [.joins id number] ↔
          .leaves other ∈ later := by
        simp
      rw [List.cons_append, attending, attending, ih]
      simp only [hleaves]
      by_cases hleft : Attendance.leaves other ∈ later
      · simp only [if_pos hleft]
      · simp only [if_neg hleft]
        by_cases hsame : id = other
        · subst hsame
          by_cases hmem : id ∈ attending later <;> simp [hmem]
        · by_cases hmem : id ∈ attending later <;> simp [hmem, hsame]

/-- An id that leaves does not attend any more. -/
theorem attending_concat_leaves (events : List Attendance) (id : String) :
    attending (events ++ [.leaves id]) = (attending events).filter fun other => other != id := by
  induction events with
  | nil => rfl
  | cons event later ih =>
    cases event with
    | leaves other => rw [List.cons_append, attending, ih, attending]
    | joins other first =>
      rw [List.cons_append, attending, attending, ih]
      by_cases hleft : Attendance.leaves other ∈ later
      · simp [hleft]
      · by_cases hsame : id = other
        · subst hsame
          simp [hleft, List.filter_filter]
        · have hboth : ∀ name : String,
              (name != id && name != other) = (name != other && name != id) :=
            fun name => Bool.and_comm _ _
          simp [hleft, Ne.symm hsame, List.filter_filter, hboth]

/-- The ids that are registered are those that attend. -/
theorem keys_membersAfter (events : List Attendance) :
    (membersAfter events).keys = attending events := by
  induction events using List.reverseRecOn with
  | nil => rfl
  | append_singleton events event ih =>
    rw [membersAfter, List.foldl_append, ← membersAfter]
    cases event with
    | joins id number =>
      rw [attending_concat_joins, ← ih]
      exact Registry.keys_put _ _ _
    | leaves id =>
      rw [attending_concat_leaves, ← ih]
      exact Registry.keys_erase _ _

/-- Registered under an attending id is the endpoint that joined last. -/
theorem get?_membersAfter (events : List Attendance) (id : String) :
    (membersAfter events).get? id =
      if id ∈ attending events then (joinedUnder id events).getLast? else none := by
  induction events using List.reverseRecOn with
  | nil => rfl
  | append_singleton events event ih =>
    rw [membersAfter, List.foldl_append, ← membersAfter, joinedUnder, filterMap_concat,
      ← joinedUnder]
    cases event with
    | joins other number =>
      rw [List.foldl_cons, List.foldl_nil, Attendance.apply, Registry.get?_put, ih,
        attending_concat_joins]
      by_cases hsame : other = id
      · subst hsame
        by_cases hmem : other ∈ attending events <;> simp [hmem, Attendance.joinedUnder?]
      · by_cases hmem : other ∈ attending events <;>
          simp [hmem, hsame, Ne.symm hsame, Attendance.joinedUnder?]
    | leaves other =>
      rw [List.foldl_cons, List.foldl_nil, Attendance.apply, Registry.get?_erase, ih,
        attending_concat_leaves]
      by_cases hsame : other = id
      · simp [hsame]
      · simp [hsame, Ne.symm hsame, Attendance.joinedUnder?]

/-! ### Attendance along a run -/

/-- Who joins or leaves in a turn. -/
def Turn.attendance? : Turn → Option Attendance
  | ⟨before, .addParticipant id _ _⟩ | ⟨before, .addIndependent id _ _ _ _ _⟩ =>
    some (.joins id before.conference.endpoints.length)
  | ⟨before, .rejoinEndpoint number⟩ =>
    before.conference.endpoints[number]?.map fun endpoint => .joins endpoint.id number
  | ⟨_, .removeEndpoint id⟩ => some (.leaves id)
  | _ => none

/-- Who joins and leaves in several turns. -/
def attendances (past : List Turn) : List Attendance := past.filterMap Turn.attendance?

/-- A command that leaves each endpoint its id, and each channel its id, its media type and its
endpoint. -/
def Command.KeepsIds : Command → Prop
  | .changeEndpoint _ change => change.id = none
  | .changeChannel _ _ change => change.id = none ∧ change.media = none ∧ change.endpoint = none
  | _ => True

/-- A command that leaves each endpoint its id. -/
def Command.KeepsEndpointIds : Command → Prop
  | .changeEndpoint _ change => change.id = none
  | _ => True

/-- A command that keeps all ids keeps those of endpoints. -/
theorem Command.KeepsIds.keepsEndpointIds {command : Command} (h : command.KeepsIds) :
    command.KeepsEndpointIds := by
  cases command with
  | changeEndpoint => exact h
  | _ => trivial

namespace Bridge

/-- A command changes who is registered as far as somebody joins or leaves. -/
theorem members_run (bridge : Bridge) (command : Command) :
    (bridge.run command).bridge.conference.members =
      (Turn.attendance? ⟨bridge, command⟩).toList.foldl Attendance.apply
        bridge.conference.members := by
  cases command with
  | rejoinEndpoint number =>
    simp only [run, replyWith, reply, Conference.rejoinEndpoint, Turn.attendance?]
    cases bridge.conference.endpoints[number]? <;> rfl
  | createChannel ref id options => exact Conference.members_attach _ _ _
  | changeChannel ref id change =>
    simp only [run, replyWith, reply, Conference.changeChannel]
    split <;> rfl
  | updateEndpoint description =>
    obtain ⟨_, _, _, hupdated⟩ := bridge.bridge_updateEndpoint description
    rw [run, hupdated]
    rfl
  | reconcile view audio video =>
    obtain ⟨_, hrelayed⟩ := bridge.bridge_reconcile view audio video
    rw [run, hrelayed]
    rfl
  | describeBundles number ids =>
    rw [run, bridge_describeBundles]
    rfl
  | _ => rfl

/-- The ids of the endpoints that a command makes. -/
def madeUnder : Command → List String
  | .addParticipant id _ _ | .addIndependent id _ _ _ _ _ => [id]
  | _ => []

end Bridge

namespace Conference

/-- The ids of all endpoints ever made, by number. -/
def endpointIds (conference : Conference) : List String := conference.endpoints.map Endpoint.id

/-- A change of an endpoint that is not one of its id leaves all ids as they are. -/
theorem endpointIds_modifyEndpoint (conference : Conference) (number : Nat)
    {change : Endpoint → Endpoint} (hid : ∀ endpoint, (change endpoint).id = endpoint.id) :
    (conference.modifyEndpoint number change).endpointIds = conference.endpointIds := by
  refine List.ext_getElem? fun other => ?_
  rw [endpointIds, endpointIds, modifyEndpoint, List.getElem?_map, List.getElem?_map,
    List.getElem?_modify, Option.map_eq_map, Option.map_map]
  refine Option.map_congr fun endpoint _ => ?_
  simp only [Function.comp_apply]
  split
  · exact hid endpoint
  · rfl

/-- Attaching leaves all ids as they are. -/
theorem endpointIds_attach (conference : Conference) (owner : Option String) (ref : ContentRef) :
    (conference.attach owner ref).endpointIds = conference.endpointIds := by
  have hid : ∀ endpoint : Endpoint, (endpoint.attach ref).id = endpoint.id := by
    intro endpoint
    unfold Endpoint.attach
    split
    · split <;> rfl
    · rfl
  unfold attach
  split
  · exact conference.endpointIds_modifyEndpoint _ hid
  · rfl

end Conference

namespace Bridge

/-- A command that leaves each endpoint its id adds those of the endpoints that it makes. -/
theorem endpointIds_run (bridge : Bridge) {command : Command}
    (hcommand : command.KeepsEndpointIds) :
    (bridge.run command).bridge.conference.endpointIds =
      bridge.conference.endpointIds ++ madeUnder command := by
  have hsame (hids : (bridge.run command).bridge.conference.endpointIds =
      bridge.conference.endpointIds) (hnone : madeUnder command = []) :
      (bridge.run command).bridge.conference.endpointIds =
        bridge.conference.endpointIds ++ madeUnder command := by
    rw [hids, hnone, List.append_nil]
  cases command with
  | addParticipant | addIndependent => exact List.map_append
  | rejoinEndpoint number =>
    refine hsame ?_ rfl
    simp only [run, replyWith, reply, Conference.rejoinEndpoint]
    split <;> rfl
  | changeEndpoint number change =>
    refine hsame (bridge.conference.endpointIds_modifyEndpoint number fun endpoint => ?_) rfl
    rw [Endpoint.change, hcommand, Option.getD_none]
  | createChannel ref id options => exact hsame (Conference.endpointIds_attach _ _ _) rfl
  | changeChannel ref id change =>
    refine hsame ?_ rfl
    simp only [run, replyWith, reply, Conference.changeChannel]
    split <;> rfl
  | updateEndpoint description =>
    obtain ⟨number, change, hkept, hupdated⟩ := bridge.bridge_updateEndpoint description
    refine hsame ?_ rfl
    rw [run, hupdated]
    exact bridge.conference.endpointIds_modifyEndpoint number fun endpoint => (hkept endpoint).1
  | reconcile view audio video =>
    obtain ⟨_, hrelayed⟩ := bridge.bridge_reconcile view audio video
    exact hsame (by rw [run, hrelayed, Conference.endpointIds, Conference.endpointIds]) rfl
  | describeBundles number ids =>
    exact hsame (by rw [run, bridge_describeBundles, withRecord]) rfl
  | _ => exact hsame rfl rfl

/-- Whoever joins has the id that it joins under. -/
theorem endpointIds_of_joins {bridge : Bridge} {command : Command}
    (hcommand : command.KeepsEndpointIds) {id : String} {number : Nat}
    (hjoins : Turn.attendance? ⟨bridge, command⟩ = some (.joins id number)) :
    (bridge.run command).bridge.conference.endpointIds[number]? = some id := by
  rw [endpointIds_run bridge hcommand]
  have hlength : bridge.conference.endpointIds.length = bridge.conference.endpoints.length :=
    List.length_map _
  cases command with
  | addParticipant other | addIndependent other =>
    cases hjoins
    rw [← hlength]
    exact List.getElem?_concat_length ..
  | rejoinEndpoint other =>
    obtain ⟨endpoint, hendpoint, hsame⟩ := Option.map_eq_some_iff.1 hjoins
    cases hsame
    have hnone : madeUnder (.rejoinEndpoint number) = [] := rfl
    rw [hnone, List.append_nil, Conference.endpointIds, List.getElem?_map, hendpoint]
    rfl
  | _ => cases hjoins

end Bridge

namespace Conference

/-- A conference in which those take part who joined and did not leave, each under its own id. -/
structure AttendedBy (conference : Conference) (events : List Attendance) : Prop where
  /-- Registered is who joined and did not leave. -/
  members : conference.members = membersAfter events
  /-- Registered endpoints have the id that they are registered under. -/
  own : ∀ id number, conference.members.get? id = some number →
    conference.endpointIds[number]? = some id

variable {conference : Conference} {events : List Attendance}

/-- The endpoints of several entries, in order. -/
theorem present_eq (conference : Conference) :
    conference.present = conference.members.entries.filterMap fun entry =>
      conference.endpoints[entry.2]?.map fun endpoint => (entry.2, endpoint) := by
  rw [present, Registry.values, List.filterMap_map]
  rfl

/-- Every entry stands for an endpoint of its id. -/
theorem AttendedBy.exists_endpoint (h : conference.AttendedBy events) {entry : String × Nat}
    (hentry : entry ∈ conference.members.entries) :
    ∃ endpoint, conference.endpoints[entry.2]? = some endpoint ∧ endpoint.id = entry.1 := by
  have hown := h.own entry.1 entry.2 ((Registry.mem_entries_iff _).1 hentry)
  rw [endpointIds, List.getElem?_map] at hown
  exact Option.map_eq_some_iff.1 hown

/-- Who takes part is listed in the order in which the attendance of the ids began. -/
theorem AttendedBy.present_ids (h : conference.AttendedBy events) :
    (conference.present.map fun entry => entry.2.id) = attending events := by
  have hentries : ∀ entries : List (String × Nat),
      (∀ entry ∈ entries, entry ∈ conference.members.entries) →
      ((entries.filterMap fun entry =>
        conference.endpoints[entry.2]?.map fun endpoint => (entry.2, endpoint)).map
          fun entry => entry.2.id) = entries.map Prod.fst := by
    intro entries
    induction entries with
    | nil => exact fun _ => rfl
    | cons entry rest ih =>
      intro hmem
      obtain ⟨hentry, hrest⟩ := List.forall_mem_cons.1 hmem
      obtain ⟨endpoint, hendpoint, hid⟩ := h.exists_endpoint hentry
      simp [hendpoint, hid, ih hrest]
  rw [present_eq, hentries _ fun _ hmem => hmem, ← keys_membersAfter, ← h.members]
  rfl

/-- Whoever takes part is registered under its id. -/
theorem AttendedBy.get?_of_mem_present (h : conference.AttendedBy events)
    {entry : Nat × Endpoint} (hentry : entry ∈ conference.present) :
    conference.members.get? entry.2.id = some entry.1 ∧
      conference.endpoints[entry.1]? = some entry.2 := by
  rw [present_eq] at hentry
  obtain ⟨member, hmember, hfound⟩ := List.mem_filterMap.1 hentry
  obtain ⟨endpoint, hendpoint, rfl⟩ := Option.map_eq_some_iff.1 hfound
  obtain ⟨other, hother, hid⟩ := h.exists_endpoint hmember
  rw [hendpoint] at hother
  cases hother
  rw [hid]
  exact ⟨(Registry.mem_entries_iff _).1 hmember, hendpoint⟩

/-- Whoever takes part joined last under its id. -/
theorem AttendedBy.joined_of_mem_present (h : conference.AttendedBy events)
    {entry : Nat × Endpoint} (hentry : entry ∈ conference.present) :
    (joinedUnder entry.2.id events).getLast? = some entry.1 := by
  have hregistered := (h.get?_of_mem_present hentry).1
  rw [h.members, get?_membersAfter] at hregistered
  split at hregistered
  · exact hregistered
  · cases hregistered

/-- An endpoint is found under an id if it is listed with the id. -/
theorem AttendedBy.endpoint?_eq (h : conference.AttendedBy events) (id : String) :
    conference.endpoint? id = conference.present.find? fun entry => entry.2.id == id := by
  have hentries : ∀ entries : List (String × Nat),
      (∀ entry ∈ entries, entry ∈ conference.members.entries) →
      ((Entries.find? id entries).bind fun number =>
        conference.endpoints[number]?.map fun endpoint => (number, endpoint)) =
      (entries.filterMap fun entry =>
        conference.endpoints[entry.2]?.map fun endpoint => (entry.2, endpoint)).find?
          fun entry => entry.2.id == id := by
    intro entries
    induction entries with
    | nil => exact fun _ => rfl
    | cons entry rest ih =>
      intro hmem
      obtain ⟨hentry, hrest⟩ := List.forall_mem_cons.1 hmem
      obtain ⟨endpoint, hendpoint, hid⟩ := h.exists_endpoint hentry
      rw [Entries.find?_cons]
      by_cases hsame : entry.1 = id
      · simp [hendpoint, hid, hsame]
      · simp [hendpoint, hid, hsame, ih hrest]
  have hfound : conference.endpoint? id = (conference.members.get? id).bind fun number =>
      conference.endpoints[number]?.map fun endpoint => (number, endpoint) := by
    unfold endpoint?
    cases conference.members.get? id with
    | none => rfl
    | some number => cases hendpoint : conference.endpoints[number]? <;> simp [hendpoint]
  rw [hfound, present_eq, ← hentries _ fun _ hmem => hmem]
  rfl

end Conference

namespace Bridge

/-- A command that leaves each endpoint its id keeps track of who takes part. -/
theorem attendedBy_run {past : List Turn} {bridge : Bridge} (command : Command)
    (hcommand : command.KeepsEndpointIds) (h : bridge.conference.AttendedBy (attendances past)) :
    (bridge.run command).bridge.conference.AttendedBy
      (attendances (past ++ [⟨bridge, command⟩])) where
  members := by
    have hpast : attendances (past ++ [⟨bridge, command⟩]) =
        attendances past ++ (Turn.attendance? ⟨bridge, command⟩).toList := filterMap_concat _ _ _
    rw [members_run, h.members, hpast, membersAfter, membersAfter, List.foldl_append]
  own id number hnumber := by
    have hkept : ∀ number, bridge.conference.members.get? id = some number →
        (bridge.run command).bridge.conference.endpointIds[number]? = some id := by
      intro number hnumber
      have hown := h.own id number hnumber
      rw [bridge.endpointIds_run hcommand,
        List.getElem?_append_left (List.getElem?_eq_some_iff.1 hown).1, hown]
    rw [members_run] at hnumber
    cases hturn : Turn.attendance? ⟨bridge, command⟩ with
    | none =>
      rw [hturn] at hnumber
      exact hkept number hnumber
    | some event =>
      rw [hturn, Option.toList_some, List.foldl_cons, List.foldl_nil] at hnumber
      cases event with
      | joins other joined =>
        rw [Attendance.apply, Registry.get?_put] at hnumber
        split at hnumber
        · next hsame =>
          cases hnumber
          exact hsame ▸ endpointIds_of_joins hcommand hturn
        · exact hkept number hnumber
      | leaves other =>
        rw [Attendance.apply, Registry.get?_erase] at hnumber
        split at hnumber
        · cases hnumber
        · exact hkept number hnumber

end Bridge

/-- Along a run in which endpoints keep their ids, those take part who joined and did not leave. -/
theorem attendedBy_along (id : String) (name : Option String) (octoEnabled : Bool)
    {commands : List Command} (hcommands : ∀ command ∈ commands, command.KeepsEndpointIds) :
    ((Bridge.fresh id name octoEnabled).after commands).conference.AttendedBy
      (attendances ((Bridge.fresh id name octoEnabled).turns commands)) := by
  have hstart : (Bridge.fresh id name octoEnabled).conference.AttendedBy (attendances []) :=
    ⟨rfl, fun _ _ h => by cases h⟩
  exact Bridge.holdsAlong
    (fun past bridge => bridge.conference.AttendedBy (attendances past))
    Bridge.attendedBy_run hcommands hstart

/-- Along a run in which all ids are kept, those take part who joined and did not leave. -/
theorem attendedBy_after (id : String) (name : Option String) (octoEnabled : Bool)
    {commands : List Command} (hcommands : ∀ command ∈ commands, command.KeepsIds) :
    ((Bridge.fresh id name octoEnabled).after commands).conference.AttendedBy
      (attendances ((Bridge.fresh id name octoEnabled).turns commands)) :=
  attendedBy_along id name octoEnabled fun command hcommand =>
    (hcommands command hcommand).keepsEndpointIds

end ConferenceBridge
