import ConferenceBridge.Proofs.Conference.Attendance

/-!
# Updates of endpoints

An update takes over the names from a description of an endpoint, and describing the endpoints gives
such descriptions. The two belong together: what was put in is described afterwards, putting in what
is described changes nothing, and the last update counts. An update reaches the endpoint that takes
part under the id. Endpoints that have left, or that another one has replaced, keep their names.
-/

namespace ConferenceBridge

/-- The endpoint with the names of a description. -/
def Endpoint.withNames (endpoint : Endpoint) (description : Description.Endpoint) : Endpoint :=
  { endpoint with displayName := description.displayName, statsId := description.statsId }

/-- An endpoint with new names is described by them, if they come from a description of its id. -/
theorem Endpoint.describe_withNames {endpoint : Endpoint} {description : Description.Endpoint}
    (hid : description.id = some endpoint.id) :
    (endpoint.withNames description).describe = description := by
  rw [describe, withNames, ← hid]

/-- An endpoint with the names of its own description is the same. -/
theorem Endpoint.withNames_describe (endpoint : Endpoint) :
    endpoint.withNames endpoint.describe = endpoint := rfl

/-- New names make no difference to the bundle of an endpoint. -/
theorem Endpoint.bundle_withNames (endpoint : Endpoint) (description : Description.Endpoint) :
    (endpoint.withNames description).bundle = endpoint.bundle := rfl

/-- Attaching an endpoint makes no difference to its description. -/
theorem Endpoint.describe_attach (endpoint : Endpoint) (ref : ContentRef) :
    (endpoint.attach ref).describe = endpoint.describe := by
  unfold attach
  split
  · split <;> rfl
  · rfl

namespace Conference

variable {conference : Conference}

/-- Found under an id is the endpoint that is registered under it. -/
theorem endpoint?_eq_some_iff {id : String} {number : Nat} {endpoint : Endpoint} :
    conference.endpoint? id = some (number, endpoint) ↔
      conference.members.get? id = some number ∧
        conference.endpoints[number]? = some endpoint := by
  unfold endpoint?
  cases hmember : conference.members.get? id with
  | none => simp
  | some other => cases hother : conference.endpoints[other]? <;> grind

/-- A change of one endpoint leaves the others as they are. -/
theorem getElem?_modifyEndpoint (conference : Conference) (number other : Nat)
    (change : Endpoint → Endpoint) :
    (conference.modifyEndpoint number change).endpoints[other]? =
      if number = other then conference.endpoints[other]?.map change
      else conference.endpoints[other]? := by
  rw [modifyEndpoint, List.getElem?_modify]
  split <;> simp

/-- A change that makes no difference to an endpoint leaves the conference as it is. -/
theorem modifyEndpoint_eq_self {number : Nat} {endpoint : Endpoint} {change : Endpoint → Endpoint}
    (hendpoint : conference.endpoints[number]? = some endpoint)
    (hchange : change endpoint = endpoint) :
    conference.modifyEndpoint number change = conference := by
  have hendpoints : conference.endpoints.modify number change = conference.endpoints := by
    refine List.ext_getElem? fun other => ?_
    refine (getElem?_modifyEndpoint conference number other change).trans ?_
    split
    · next hsame => rw [← hsame, hendpoint, Option.map_some, hchange]
    · rfl
  rw [modifyEndpoint, hendpoints]

/-- An endpoint that is changed keeps its place among those that take part. -/
theorem present_modifyEndpoint (conference : Conference) (number : Nat)
    (change : Endpoint → Endpoint) :
    (conference.modifyEndpoint number change).present =
      conference.present.map fun entry =>
        if entry.1 = number then (entry.1, change entry.2) else entry := by
  rw [present, present, List.map_filterMap]
  refine List.filterMap_congr fun other _ => ?_
  rw [getElem?_modifyEndpoint]
  cases conference.endpoints[other]? with
  | none => simp
  | some endpoint => by_cases hsame : number = other <;> simp [hsame, Ne.symm]

/-- Whoever takes part under an id stands in one place, and all others have other ids and
numbers. -/
theorem AttendedBy.exists_split {events : List Attendance} (h : conference.AttendedBy events)
    {id : String} {number : Nat} {endpoint : Endpoint}
    (hfound : conference.endpoint? id = some (number, endpoint)) :
    ∃ front back, conference.present = front ++ (number, endpoint) :: back ∧ endpoint.id = id ∧
      ∀ entry ∈ front ++ back, entry.2.id ≠ id ∧ entry.1 ≠ number := by
  have hdistinct : (conference.present.map fun entry => entry.2.id).Nodup := by
    rw [h.present_ids, ← keys_membersAfter]
    exact (membersAfter events).distinct
  rw [h.endpoint?_eq] at hfound
  obtain ⟨hid, front, back, hpresent, _⟩ := List.find?_eq_some_iff_append.1 hfound
  have hsame : endpoint.id = id := by simpa using hid
  refine ⟨front, back, hpresent, hsame, fun entry hentry => ?_⟩
  have hother : entry.2.id ≠ id := by
    rw [hpresent, List.map_append, List.map_cons, List.nodup_middle, List.nodup_cons,
      ← List.map_append] at hdistinct
    intro heq
    exact hdistinct.1 (List.mem_map.2 ⟨entry, hentry, heq.trans hsame.symm⟩)
  refine ⟨hother, fun hnumber => hother ?_⟩
  have hin : entry ∈ conference.present := by
    rw [hpresent]
    rcases List.mem_append.1 hentry with hfront | hback
    · exact List.mem_append_left _ hfront
    · exact List.mem_append_right _ (List.mem_cons_of_mem _ hback)
  have hlisted : (number, endpoint) ∈ conference.present := by simp [hpresent]
  have hentryAt := (h.get?_of_mem_present hin).2
  have hendpointAt := (h.get?_of_mem_present hlisted).2
  rw [hnumber, hendpointAt] at hentryAt
  rw [← Option.some.inj hentryAt, hsame]

/-- How the endpoint of a number is described. -/
def description? (conference : Conference) (number : Nat) : Option Description.Endpoint :=
  conference.endpoints[number]?.map Endpoint.describe

end Conference

namespace Bridge

/-- An update of an id under which nobody takes part changes nothing. -/
theorem bridge_updateEndpoint_of_none {bridge : Bridge} {description : Description.Endpoint}
    (hnone : description.id.bind bridge.conference.endpoint? = none) :
    (bridge.updateEndpoint description).bridge = bridge := by
  unfold updateEndpoint
  cases hid : description.id with
  | none => rfl
  | some id =>
    rw [hid, Option.bind_some] at hnone
    simp only [hnone]
    rfl

/-- An update of an id changes the names of the endpoint that takes part under it, and nothing
else. -/
theorem bridge_updateEndpoint_of_some {bridge : Bridge} {description : Description.Endpoint}
    {number : Nat} {endpoint : Endpoint}
    (hsome : description.id.bind bridge.conference.endpoint? = some (number, endpoint)) :
    (bridge.updateEndpoint description).bridge =
      { bridge with
        conference := bridge.conference.modifyEndpoint number (·.withNames description) } := by
  unfold updateEndpoint
  cases hid : description.id with
  | none => simp [hid] at hsome
  | some id =>
    rw [hid, Option.bind_some] at hsome
    simp only [hsome]
    rfl

/-- How the endpoints that take part are described into an empty record. -/
def described (bridge : Bridge) : List Description.Endpoint :=
  (bridge.conference.describeEndpoints .empty).endpoints

/-- Described are the endpoints that take part, in order. -/
theorem described_eq (bridge : Bridge) :
    bridge.described = bridge.conference.present.map fun entry => entry.2.describe :=
  List.nil_append _

/-- Whoever takes part under an id is described in one place, and an update puts its description
there. -/
theorem described_updateEndpoint {bridge : Bridge} {events : List Attendance}
    (h : bridge.conference.AttendedBy events) {description : Description.Endpoint} {id : String}
    (hid : description.id = some id) {number : Nat} {endpoint : Endpoint}
    (hfound : bridge.conference.endpoint? id = some (number, endpoint)) :
    ∃ front back,
      bridge.described = front ++ ⟨some id, endpoint.statsId, endpoint.displayName⟩ :: back ∧
      (bridge.updateEndpoint description).bridge.described = front ++ description :: back ∧
      ∀ entry ∈ front ++ back, entry.id ≠ some id := by
  obtain ⟨front, back, hpresent, hsame, hothers⟩ := h.exists_split hfound
  have hkept : ∀ part : List (Nat × Endpoint), (∀ entry ∈ part, entry ∈ front ++ back) →
      (part.map fun entry =>
        if entry.1 = number then (entry.1, entry.2.withNames description) else entry) = part := by
    intro part hpart
    refine (List.map_congr_left fun entry hentry => ?_).trans (List.map_id part)
    exact if_neg (hothers entry (hpart entry hentry)).2
  refine ⟨front.map fun entry => entry.2.describe, back.map fun entry => entry.2.describe,
    ?_, ?_, ?_⟩
  · rw [described_eq, hpresent, List.map_append, List.map_cons, Endpoint.describe, hsame]
  · have hbind : description.id.bind bridge.conference.endpoint? = some (number, endpoint) := by
      rw [hid, Option.bind_some, hfound]
    have hnames := Endpoint.describe_withNames (hid.trans (congrArg some hsame.symm))
    rw [bridge_updateEndpoint_of_some hbind, described_eq, Conference.present_modifyEndpoint,
      hpresent, List.map_append, List.map_cons, if_pos rfl,
      hkept front fun _ hentry => List.mem_append_left _ hentry,
      hkept back fun _ hentry => List.mem_append_right _ hentry, List.map_append, List.map_cons,
      hnames]
  · intro entry hentry
    rw [← List.map_append] at hentry
    obtain ⟨other, hother, rfl⟩ := List.mem_map.1 hentry
    exact fun heq => (hothers other hother).1 (Option.some.inj heq)

/-- Whoever takes part under an id is described. -/
theorem describe_mem_described {bridge : Bridge} {events : List Attendance}
    (h : bridge.conference.AttendedBy events) {id : String} {number : Nat} {endpoint : Endpoint}
    (hfound : bridge.conference.endpoint? id = some (number, endpoint)) :
    endpoint.describe ∈ bridge.described := by
  obtain ⟨front, back, hpresent, _⟩ := h.exists_split hfound
  simp [described_eq, hpresent]

/-- Whoever is described takes part under its id. -/
theorem exists_of_mem_described {bridge : Bridge} {events : List Attendance}
    (h : bridge.conference.AttendedBy events) {description : Description.Endpoint}
    (hmem : description ∈ bridge.described) :
    ∃ number endpoint, description = endpoint.describe ∧
      description.id.bind bridge.conference.endpoint? = some (number, endpoint) := by
  rw [described_eq] at hmem
  obtain ⟨⟨number, endpoint⟩, hentry, rfl⟩ := List.mem_map.1 hmem
  exact ⟨number, endpoint, rfl,
    Conference.endpoint?_eq_some_iff.2 (h.get?_of_mem_present hentry)⟩

/-- Putting in what is described changes nothing, in any order and however often. -/
theorem after_updates_of_described {bridge : Bridge} {events : List Attendance}
    (h : bridge.conference.AttendedBy events) {descriptions : List Description.Endpoint}
    (hmem : ∀ description ∈ descriptions, description ∈ bridge.described) :
    bridge.after (descriptions.map .updateEndpoint) = bridge := by
  induction descriptions with
  | nil => rfl
  | cons description rest ih =>
    obtain ⟨hfirst, hrest⟩ := List.forall_mem_cons.1 hmem
    obtain ⟨number, endpoint, rfl, hfound⟩ := exists_of_mem_described h hfirst
    have hnumber := (Conference.endpoint?_eq_some_iff.1 hfound).2
    have hstep : (bridge.run (.updateEndpoint endpoint.describe)).bridge = bridge := by
      rw [run, bridge_updateEndpoint_of_some hfound,
        Conference.modifyEndpoint_eq_self hnumber endpoint.withNames_describe]
    rw [List.map_cons, after, List.foldl_cons, hstep]
    exact ih hrest

/-- An update changes nothing but the endpoint of its id, and leaves the bundle of each endpoint as
it is. -/
theorem frame_updateEndpoint (bridge : Bridge) (description : Description.Endpoint) :
    let updated := (bridge.updateEndpoint description).bridge
    (∀ number : Nat, description.id.bind bridge.conference.members.get? ≠ some number →
        updated.conference.endpoints[number]? = bridge.conference.endpoints[number]?) ∧
      updated = { bridge with
        conference := { bridge.conference with endpoints := updated.conference.endpoints } } ∧
      ∀ number : Nat, updated.conference.endpoints[number]?.map updated.conference.bundle =
        bridge.conference.endpoints[number]?.map bridge.conference.bundle := by
  intro updated
  cases hfound : description.id.bind bridge.conference.endpoint? with
  | none =>
    have hsame : updated = bridge := bridge_updateEndpoint_of_none hfound
    rw [hsame]
    exact ⟨fun _ _ => rfl, rfl, fun _ => rfl⟩
  | some found =>
    obtain ⟨target, endpoint⟩ := found
    have hchanged : updated = _ := bridge_updateEndpoint_of_some hfound
    rw [hchanged]
    refine ⟨fun number hother => ?_, rfl, fun number => ?_⟩
    · rw [Conference.getElem?_modifyEndpoint, if_neg]
      rintro rfl
      obtain ⟨id, hid, hmember⟩ := Option.bind_eq_some_iff.1 hfound
      rw [hid, Option.bind_some] at hother
      exact hother (Conference.endpoint?_eq_some_iff.1 hmember).1
    rw [Conference.getElem?_modifyEndpoint]
    split
    · rw [Option.map_map]
      refine Option.map_congr fun before _ => ?_
      -- The contents, and so their channels, are those from before.
      exact congrFun (before.bundle_withNames description) bridge.conference.channels
    · rfl

end Bridge

/-! ### Updates along a run -/

/-- The id that somebody joins under or leaves. -/
def Attendance.id : Attendance → String
  | .joins id _ | .leaves id => id

/-- What a command puts in for an id. -/
def Command.updateFor? (id : String) : Command → Option Description.Endpoint
  | .updateEndpoint description => if description.id = some id then some description else none
  | _ => none

/-- What several commands put in for an id, in order. -/
def updatesFor (id : String) (commands : List Command) : List Description.Endpoint :=
  commands.filterMap (Command.updateFor? id)

namespace Bridge

/-- An update reaches the endpoint that takes part under its id and no other one that takes part. -/
theorem description?_updateEndpoint {bridge : Bridge} {events : List Attendance}
    (h : bridge.conference.AttendedBy events) {id : String} {number : Nat}
    (hmember : bridge.conference.members.get? id = some number)
    (description : Description.Endpoint) :
    (bridge.updateEndpoint description).bridge.conference.description? number =
      ((Command.updateEndpoint description).updateFor? id).or
        (bridge.conference.description? number) := by
  have hown := h.own id number hmember
  rw [Conference.endpointIds, List.getElem?_map] at hown
  obtain ⟨endpoint, hendpoint, hid⟩ := Option.map_eq_some_iff.1 hown
  cases hfound : description.id.bind bridge.conference.endpoint? with
  | none =>
    have hother : description.id ≠ some id := by
      intro hsame
      have hsome := Conference.endpoint?_eq_some_iff.2 ⟨hmember, hendpoint⟩
      rw [hsame, Option.bind_some, hsome] at hfound
      cases hfound
    rw [bridge_updateEndpoint_of_none hfound, Command.updateFor?, if_neg hother, Option.none_or]
  | some found =>
    obtain ⟨target, before⟩ := found
    obtain ⟨other, hother, htarget⟩ := Option.bind_eq_some_iff.1 hfound
    obtain ⟨hregistered, hbefore⟩ := Conference.endpoint?_eq_some_iff.1 htarget
    rw [bridge_updateEndpoint_of_some hfound, Command.updateFor?, hother,
      Conference.description?, Conference.getElem?_modifyEndpoint, Conference.description?,
      hendpoint]
    by_cases hsame : other = id
    · subst hsame
      rw [hmember] at hregistered
      obtain rfl := Option.some.inj hregistered
      rw [if_pos rfl, if_pos rfl, Option.map_some, Option.map_some, Option.some_or,
        Endpoint.describe_withNames (hother.trans (congrArg some hid.symm))]
    · have hne : target ≠ number := by
        rintro rfl
        have htaken := h.own other target hregistered
        have hmine := h.own id target hmember
        rw [hmine] at htaken
        exact hsame (Option.some.inj htaken).symm
      rw [if_neg hne, if_neg (fun heq => hsame (Option.some.inj heq)), Option.none_or]

/-- A command changes how a registered endpoint is described as far as it is an update for the
endpoint's id, unless it changes the endpoint directly. -/
theorem description?_run {bridge : Bridge} {events : List Attendance}
    (h : bridge.conference.AttendedBy events) {id : String} {number : Nat}
    (hmember : bridge.conference.members.get? id = some number) {command : Command}
    (hcommand : ∀ change, command ≠ .changeEndpoint number change) :
    (bridge.run command).bridge.conference.description? number =
      (command.updateFor? id).or (bridge.conference.description? number) := by
  have hadded : ∀ endpoint, (bridge.conference.addEndpoint endpoint).description? number =
      bridge.conference.description? number := by
    intro endpoint
    have hown := h.own id number hmember
    rw [Conference.endpointIds, List.getElem?_map] at hown
    obtain ⟨_, hknown, _⟩ := Option.map_eq_some_iff.1 hown
    have hlt := (List.getElem?_eq_some_iff.1 hknown).1
    rw [Conference.description?, Conference.addEndpoint, List.getElem?_append_left hlt]
    rfl
  cases command with
  | addParticipant | addIndependent => exact hadded _
  | updateEndpoint description => exact description?_updateEndpoint h hmember description
  | changeEndpoint other change =>
    have hne : other ≠ number := fun heq => hcommand change (heq ▸ rfl)
    rw [run, replyWith, reply, Conference.description?, Conference.getElem?_modifyEndpoint,
      if_neg hne]
    rfl
  | rejoinEndpoint other =>
    simp only [run, replyWith, reply, Conference.rejoinEndpoint]
    split <;> rfl
  | createChannel ref channelId options =>
    rw [run, replyWith, reply, Conference.createChannel, Conference.description?,
      Conference.getElem?_endpoints_attach, Option.map_map]
    refine Option.map_congr fun endpoint _ => ?_
    rw [Function.comp_apply]
    split
    · exact endpoint.describe_attach ref
    · rfl
  | changeChannel ref channelId change =>
    simp only [run, replyWith, reply, Conference.changeChannel]
    split <;> rfl
  | reconcile view audio video =>
    obtain ⟨_, hrelayed⟩ := bridge.bridge_reconcile view audio video
    rw [run, hrelayed]
    rfl
  | describeBundles target ids =>
    rw [run, bridge_describeBundles]
    rfl
  | _ => rfl

/-- A command with which nobody joins or leaves under an id makes no difference to who is registered
under it. -/
theorem member_run_of_other {bridge : Bridge} {command : Command} {id : String}
    (hother : ∀ event ∈ (Turn.attendance? ⟨bridge, command⟩).toList, event.id ≠ id) :
    (bridge.run command).bridge.conference.members.get? id =
      bridge.conference.members.get? id := by
  rw [members_run]
  cases hturn : Turn.attendance? ⟨bridge, command⟩ with
  | none => rfl
  | some event =>
    rw [hturn] at hother
    have hne : event.id ≠ id := hother event (List.mem_singleton_self event)
    cases event with
    | joins other number => exact (Registry.get?_put _ _ _ _).trans (if_neg hne)
    | leaves other => exact (Registry.get?_erase _ _ _).trans (if_neg hne)

/-- Whoever joins under an id is registered under it. -/
theorem member_of_joins {bridge : Bridge} {command : Command} {id : String} {number : Nat}
    (hjoins : Turn.attendance? ⟨bridge, command⟩ = some (.joins id number)) :
    (bridge.run command).bridge.conference.members.get? id = some number := by
  rw [members_run, hjoins]
  exact (Registry.get?_put _ _ _ _).trans (if_pos rfl)

/-- The endpoint that is registered under an id is described by the last of several updates for the
id, as long as nobody joins or leaves under it and the endpoint is not changed directly. -/
theorem description?_after {past : List Turn} {bridge : Bridge}
    (h : bridge.conference.AttendedBy (attendances past)) {id : String} {number : Nat}
    (hmember : bridge.conference.members.get? id = some number) {commands : List Command}
    (hcommands : ∀ command ∈ commands, command.KeepsEndpointIds)
    (hother : ∀ event ∈ attendances (bridge.turns commands), event.id ≠ id)
    (hdirect : ∀ change, .changeEndpoint number change ∉ commands) :
    (bridge.after commands).conference.description? number =
      (updatesFor id commands).getLast?.or (bridge.conference.description? number) := by
  induction commands generalizing past bridge with
  | nil => rfl
  | cons command rest ih =>
    obtain ⟨hcommand, hrest⟩ := List.forall_mem_cons.1 hcommands
    have hevents : attendances (bridge.turns (command :: rest)) =
        (Turn.attendance? ⟨bridge, command⟩).toList ++
          attendances ((bridge.run command).bridge.turns rest) := filterMap_cons_toList _ _ _
    rw [hevents, List.forall_mem_append] at hother
    have hupdates : updatesFor id (command :: rest) =
        (command.updateFor? id).toList ++ updatesFor id rest := filterMap_cons_toList _ _ _
    -- The endpoint is described anew by this command, and stays registered for those that follow.
    have hnow := description?_run h hmember fun change heq =>
      hdirect change (heq ▸ List.mem_cons_self)
    have hlater := ih (attendedBy_run command hcommand h)
      ((member_run_of_other hother.1).trans hmember) hrest hother.2
      fun change hmem => hdirect change (List.mem_cons_of_mem _ hmem)
    have hafter : bridge.after (command :: rest) = (bridge.run command).bridge.after rest := rfl
    rw [hafter, hlater, hnow, hupdates, List.getLast?_append, Option.or_assoc]
    cases command.updateFor? id <;> rfl

/-- Whoever is registered under an id joined under it at some point, and nobody has joined or left
under it since. -/
theorem exists_joining {start : Bridge} {id : String}
    (hstart : start.conference.members.get? id = none) {commands : List Command} {number : Nat}
    (hmember : (start.after commands).conference.members.get? id = some number) :
    ∃ earlier joining later, commands = earlier ++ joining :: later ∧
      Turn.attendance? ⟨start.after earlier, joining⟩ = some (.joins id number) ∧
      ∀ event ∈ attendances ((start.after (earlier ++ [joining])).turns later), event.id ≠ id := by
  induction commands using List.reverseRecOn with
  | nil =>
    have hnone : start.conference.members.get? id = some number := hmember
    rw [hstart] at hnone
    cases hnone
  | append_singleton commands command ih =>
    have hafter : start.after (commands ++ [command]) =
        ((start.after commands).run command).bridge := after_append _ _ _
    rw [hafter] at hmember
    by_cases hother : ∀ event ∈ (Turn.attendance? ⟨start.after commands, command⟩).toList,
        event.id ≠ id
    · -- The earlier joining still counts.
      rw [member_run_of_other hother] at hmember
      obtain ⟨earlier, joining, later, rfl, hjoins, hsince⟩ := ih hmember
      refine ⟨earlier, joining, later ++ [command], by simp, hjoins, fun event hmem => ?_⟩
      rw [turns_append, ← after_append_cons, attendances, turns, turns, filterMap_concat] at hmem
      rcases List.mem_append.1 hmem with hpast | hnow
      · exact hsince event hpast
      · exact hother event hnow
    · -- Somebody joins under the id right now, since it is registered afterwards.
      push Not at hother
      obtain ⟨event, hevent, hid⟩ := hother
      have hturn : Turn.attendance? ⟨start.after commands, command⟩ = some event :=
        Option.mem_toList.1 hevent
      rw [members_run, hturn, Option.toList_some, List.foldl_cons, List.foldl_nil] at hmember
      subst hid
      cases event with
      | joins other joined =>
        have hnumber : joined = number := by
          rw [Attendance.apply, Registry.get?_put, Attendance.id, if_pos rfl] at hmember
          exact Option.some.inj hmember
        subst hnumber
        exact ⟨commands, command, [], rfl, hturn, fun _ hmem => by cases hmem⟩
      | leaves other =>
        rw [Attendance.apply, Registry.get?_erase, Attendance.id, if_pos rfl] at hmember
        cases hmember

end Bridge

/-- Updates of endpoints and descriptions of endpoints belong together. Whatever happened to a
conference, as long as endpoints keep their ids:

* An update for an id under which an endpoint takes part replaces the description of that id, where
  it stands, by the one that was put in. The endpoint takes over the names and keeps all else.
* Any other update changes nothing.
* No update changes anything but the endpoint that it is for, also not another one of the same id
  that has left or was replaced, and no bundle.
* Putting in what is described changes nothing, in any order and however often.
* Whoever takes part under an id is described by the last update for the id since it joined, and as
  it was then if there was none, unless it was changed directly. -/
theorem updates_and_descriptions (id : String) (name : Option String) (octoEnabled : Bool)
    {commands : List Command} (hcommands : ∀ command ∈ commands, command.KeepsEndpointIds) :
    let start := Bridge.fresh id name octoEnabled
    let bridge := start.after commands
    (∀ description : Description.Endpoint,
      let updated := (bridge.run (.updateEndpoint description)).bridge
      (∀ owner number endpoint, description.id = some owner →
        bridge.conference.endpoint? owner = some (number, endpoint) →
        updated.conference.endpoints[number]? = some { endpoint with
            displayName := description.displayName, statsId := description.statsId } ∧
          ∃ front back,
            bridge.described =
              front ++ ⟨some owner, endpoint.statsId, endpoint.displayName⟩ :: back ∧
            updated.described = front ++ description :: back ∧
            ∀ entry ∈ front ++ back, entry.id ≠ some owner) ∧
      (description.id.bind bridge.conference.endpoint? = none → updated = bridge) ∧
      (∀ number : Nat, description.id.bind bridge.conference.members.get? ≠ some number →
        updated.conference.endpoints[number]? = bridge.conference.endpoints[number]?) ∧
      updated = { bridge with
        conference := { bridge.conference with endpoints := updated.conference.endpoints } } ∧
      ∀ number : Nat, updated.conference.endpoints[number]?.map updated.conference.bundle =
        bridge.conference.endpoints[number]?.map bridge.conference.bundle) ∧
    (∀ descriptions : List Description.Endpoint,
      (∀ description ∈ descriptions, description ∈ bridge.described) →
      bridge.after (descriptions.map .updateEndpoint) = bridge) ∧
    ∀ owner number endpoint, bridge.conference.endpoint? owner = some (number, endpoint) →
      endpoint.describe ∈ bridge.described ∧
      ∃ earlier joining later, commands = earlier ++ joining :: later ∧
        let joined := start.after (earlier ++ [joining])
        Turn.attendance? ⟨start.after earlier, joining⟩ = some (.joins owner number) ∧
        (∀ event ∈ attendances (joined.turns later), event.id ≠ owner) ∧
        ((∀ change, .changeEndpoint number change ∉ later) →
          some endpoint.describe = (updatesFor owner later).getLast?.or
            (joined.conference.endpoints[number]?.map Endpoint.describe)) := by
  intro start bridge
  have hattended : bridge.conference.AttendedBy (attendances (start.turns commands)) :=
    attendedBy_along id name octoEnabled hcommands
  refine ⟨fun description => ⟨?_, Bridge.bridge_updateEndpoint_of_none,
      bridge.frame_updateEndpoint description⟩,
    fun _ => Bridge.after_updates_of_described hattended, fun owner number endpoint hfound => ?_⟩
  · intro owner number endpoint hid hfound
    refine ⟨?_, Bridge.described_updateEndpoint hattended hid hfound⟩
    have hbind : description.id.bind bridge.conference.endpoint? = some (number, endpoint) := by
      rw [hid, Option.bind_some, hfound]
    rw [Bridge.run, Bridge.bridge_updateEndpoint_of_some hbind, Conference.getElem?_modifyEndpoint,
      if_pos rfl, (Conference.endpoint?_eq_some_iff.1 hfound).2]
    rfl
  · obtain ⟨hmember, hendpoint⟩ := Conference.endpoint?_eq_some_iff.1 hfound
    have hfresh : start.conference.members.get? owner = none := rfl
    obtain ⟨earlier, joining, later, rfl, hjoins, hsince⟩ := Bridge.exists_joining hfresh hmember
    refine ⟨Bridge.describe_mem_described hattended hfound, earlier, joining, later, rfl, hjoins,
      hsince, fun hdirect => ?_⟩
    obtain ⟨hbefore, hlater⟩ := List.forall_mem_append.1
      (List.append_cons earlier joining later ▸ hcommands)
    have hreached : bridge = (start.after (earlier ++ [joining])).after later :=
      start.after_append_cons earlier later joining
    have hjoined : (start.after (earlier ++ [joining])).conference.members.get? owner =
        some number := by
      rw [Bridge.after_append]
      exact Bridge.member_of_joins hjoins
    rw [← Option.map_some, ← hendpoint, hreached]
    exact Bridge.description?_after (attendedBy_along id name octoEnabled hbefore) hjoined hlater
      hsince hdirect

/-- One endpoint is replaced and another one leaves and joins again. The names of the replaced one
stay, and an update while the other one is away is lost. -/
theorem updates_and_descriptions_after_replacing :
    let commands : List Command :=
      [.addParticipant "alice" (some "Alice") none, .addParticipant "bob" (some "Bob") none,
        .updateEndpoint ⟨some "alice", some "first", none⟩, .addParticipant "alice" none none,
        .removeEndpoint "bob", .updateEndpoint ⟨some "bob", none, none⟩, .rejoinEndpoint 1,
        .updateEndpoint ⟨some "alice", some "second", none⟩, .updateEndpoint ⟨none, none, none⟩,
        .updateEndpoint ⟨some "alice", none, some "Alice"⟩]
    let bridge := (Bridge.fresh "meeting" none true).after commands
    let updated := (bridge.run (.updateEndpoint ⟨some "alice", some "third", none⟩)).bridge
    (∀ command ∈ commands, command.KeepsEndpointIds) ∧
      bridge.described = [⟨some "alice", none, some "Alice"⟩, ⟨some "bob", none, some "Bob"⟩] ∧
      updated.described = [⟨some "alice", some "third", none⟩, ⟨some "bob", none, some "Bob"⟩] ∧
      updated.conference.endpoints[0]? = some
        { id := "alice", displayName := none, statsId := some "first", kind := .participant [] } ∧
      bridge.after ((bridge.described.reverse ++ bridge.described).map .updateEndpoint) =
        bridge := by
  intro commands bridge updated
  have hcommands : ∀ command ∈ commands, command.KeepsEndpointIds := by
    simp [commands, Command.KeepsEndpointIds]
  obtain ⟨hupdate, hputback, _⟩ := updates_and_descriptions "meeting" none true hcommands
  refine ⟨hcommands, by decide +kernel, by decide +kernel, ?_, hputback _ fun _ hmem => ?_⟩
  · have hkept := (hupdate ⟨some "alice", some "third", none⟩).2.2.1 0 (by decide +kernel)
    exact hkept.trans (by decide +kernel)
  · rcases List.mem_append.1 hmem with hreverse | hforward
    · exact List.mem_reverse.1 hreverse
    · exact hforward

end ConferenceBridge
