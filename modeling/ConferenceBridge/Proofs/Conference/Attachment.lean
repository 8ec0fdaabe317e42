import ConferenceBridge.Proofs.Conference.Contents
import ConferenceBridge.Proofs.Conference.Run
import ConferenceBridge.Proofs.Searching

/-!
# Attached contents

A participant is attached to the contents in which channels were made for it while it took part, in
the order in which the first of them was made. Its bundle lists the channels that stand in these
contents and belong to its id. The bundle is complete if all channels for the id were made while
this participant had joined under it.
-/

namespace ConferenceBridge

/-- That a channel was made. -/
structure Creation where
  /-- The content that the channel was made in. -/
  ref : ContentRef
  /-- The id of the endpoint that the channel was made for. -/
  owner : Option String
  /-- The number of the endpoint that had joined under that id. -/
  member : Option Nat
  deriving DecidableEq

/-- The channel that a turn makes. -/
def Turn.creation? : Turn → Option Creation
  | ⟨before, .createChannel ref _ options⟩ =>
    some {
      ref
      owner := options.endpoint
      member := options.endpoint.bind before.conference.members.get? }
  | _ => none

/-- The channels that are made in several turns. -/
def creations (past : List Turn) : List Creation := past.filterMap Turn.creation?

/-- The contents in which channels were made for an endpoint that took part, each where it comes
first. -/
def attachedContents (number : Nat) (made : List Creation) : List ContentRef :=
  ((made.filter fun creation => creation.member == some number).map Creation.ref).eraseDups

/-- A command that leaves each channel its id and its endpoint. -/
def Command.KeepsOwners : Command → Prop
  | .changeChannel _ _ change => change.id = none ∧ change.endpoint = none
  | _ => True

/-- An endpoint is attached to a content if a channel was made there for it. -/
theorem mem_attachedContents {number : Nat} {made : List Creation} {ref : ContentRef} :
    ref ∈ attachedContents number made ↔
      ∃ creation ∈ made, creation.member = some number ∧ creation.ref = ref := by
  simp [attachedContents, List.mem_eraseDups, and_assoc]

/-- A further channel attaches its endpoint, if that took part, unless it is attached already. -/
theorem attachedContents_concat (number : Nat) (made : List Creation) (creation : Creation) :
    attachedContents number (made ++ [creation]) =
      if creation.member = some number ∧ creation.ref ∉ attachedContents number made then
        attachedContents number made ++ [creation.ref]
      else attachedContents number made := by
  by_cases hmember : creation.member = some number
  · have hkept : [creation].filter (fun creation => creation.member == some number) =
        [creation] := by
      simp [hmember]
    have hmem : creation.ref ∈ attachedContents number made ↔
        creation.ref ∈
          (made.filter fun creation => creation.member == some number).map Creation.ref :=
      List.mem_eraseDups
    rw [attachedContents, List.filter_append, List.map_append, hkept, List.map_singleton,
      eraseDups_concat]
    split
    · next hold => rw [if_neg fun hnew => hnew.2 (hmem.2 hold), attachedContents]
    · next hnew => rw [if_pos ⟨hmember, fun hold => hnew (hmem.1 hold)⟩, attachedContents]
  · simp [attachedContents, hmember]

namespace Conference

/-- A channel of a content is registered there. -/
theorem mem_channels_iff {conference : Conference} {ref : ContentRef} {channel : Channel} :
    channel ∈ conference.channels ref ↔
      ∃ id, (conference.content ref).get? id = some channel := by
  simp only [channels, Registry.values, List.mem_map, Prod.exists, exists_eq_right,
    Registry.mem_entries_iff]

/-- A conference whose channels and attachments come from the channels that were made. -/
structure MadeBy (conference : Conference) (made : List Creation) : Prop where
  /-- Only endpoints that were made take part. -/
  members : ∀ id number, conference.members.get? id = some number →
    number < conference.endpoints.length
  /-- Only endpoints that were made took part when a channel was made. -/
  known : ∀ creation ∈ made, ∀ number, creation.member = some number →
    number < conference.endpoints.length
  /-- A participant is attached to the contents with channels that were made for it. -/
  attached : ∀ number endpoint contents, conference.endpoints[number]? = some endpoint →
    endpoint.kind = .participant contents → contents = attachedContents number made
  /-- A channel stands under its id, and was made in its content for its endpoint. -/
  channels : ∀ ref id channel, (conference.content ref).get? id = some channel →
    channel.id = id ∧ ∃ creation ∈ made, creation.ref = ref ∧ creation.owner = channel.endpoint

variable {conference : Conference} {made : List Creation}

/-- A new conference has neither channels nor endpoints. -/
theorem madeBy_fresh (id : String) (name : Option String) : (fresh id name).MadeBy [] where
  members _ _ h := by cases h
  known _ h := by cases h
  attached _ _ _ h := by cases h
  channels _ _ _ h := by cases h

/-- Conferences with the same endpoints and contents have the same channels and attachments. -/
theorem MadeBy.of_eq (h : conference.MadeBy made) {other : Conference}
    (hendpoints : other.endpoints = conference.endpoints)
    (hmembers : other.members = conference.members)
    (hcontent : ∀ ref, other.content ref = conference.content ref) : other.MadeBy made where
  members := by
    rw [hmembers, hendpoints]
    exact h.members
  known := by
    rw [hendpoints]
    exact h.known
  attached := by
    rw [hendpoints]
    exact h.attached
  channels ref := by
    rw [hcontent]
    exact h.channels ref

/-- A new endpoint is not attached yet. -/
theorem MadeBy.addEndpoint (h : conference.MadeBy made) {endpoint : Endpoint}
    (hkind : ∀ contents, endpoint.kind = .participant contents → contents = []) :
    (conference.addEndpoint endpoint).MadeBy made where
  members id number hmember := by
    have hlength : (conference.addEndpoint endpoint).endpoints.length =
        conference.endpoints.length + 1 := by
      simp [Conference.addEndpoint]
    rw [Conference.addEndpoint, Registry.get?_put] at hmember
    split at hmember
    · cases hmember
      omega
    · have hlt := h.members id number hmember
      omega
  known creation hmade number hmember := by
    have hlt := h.known creation hmade number hmember
    simp only [Conference.addEndpoint, List.length_append, List.length_singleton]
    omega
  attached number other contents hother hcontents := by
    rw [Conference.addEndpoint, List.getElem?_append] at hother
    split at hother
    · exact h.attached number other contents hother hcontents
    · next hnew =>
      -- No channel was made for an endpoint that did not exist.
      have hnone : made.filter (fun creation => creation.member == some number) = [] := by
        refine List.filter_eq_nil_iff.2 fun creation hmade hmember => ?_
        have hlt := h.known creation hmade number (by simpa using hmember)
        omega
      obtain rfl := List.mem_singleton.1 (List.mem_of_getElem? hother)
      rw [hkind contents hcontents, attachedContents, hnone]
      rfl
  channels := h.channels

/-- It does not matter for channels and attachments which endpoints take part now. -/
theorem MadeBy.withMembers (h : conference.MadeBy made) {members : Registry String Nat}
    (hmembers : ∀ id number, members.get? id = some number →
      number < conference.endpoints.length) :
    { conference with members }.MadeBy made :=
  { h with members := hmembers }

/-- A change of an endpoint that is not an attachment keeps channels and attachments. -/
theorem MadeBy.modifyEndpoint (h : conference.MadeBy made) (number : Nat)
    {change : Endpoint → Endpoint} (hkind : ∀ endpoint, (change endpoint).kind = endpoint.kind) :
    (conference.modifyEndpoint number change).MadeBy made where
  members := by
    simp only [Conference.modifyEndpoint, List.length_modify]
    exact h.members
  known := by
    simp only [Conference.modifyEndpoint, List.length_modify]
    exact h.known
  attached other endpoint contents hendpoint hcontents := by
    rw [Conference.modifyEndpoint, List.getElem?_modify] at hendpoint
    obtain ⟨before, hbefore, rfl⟩ := Option.map_eq_some_iff.1 hendpoint
    refine h.attached other before contents hbefore ?_
    split at hcontents
    · rwa [hkind] at hcontents
    · exact hcontents
  channels := h.channels

/-- A channel may be put into a content under its id if one was made there for its endpoint. -/
theorem MadeBy.putChannel (h : conference.MadeBy made) {ref : ContentRef} {channel : Channel}
    (hmade : ∃ creation ∈ made, creation.ref = ref ∧ creation.owner = channel.endpoint) :
    (conference.modifyContent ref fun content => content.put channel.id channel).MadeBy made :=
  { h with
    channels := by
      intro other id found hfound
      rw [content_modifyContent] at hfound
      split at hfound
      · next hsame =>
        obtain ⟨rfl, _⟩ := hsame
        rw [Registry.get?_put] at hfound
        split at hfound
        · next hid =>
          cases hfound
          exact ⟨hid, hmade⟩
        · exact h.channels ref id found hfound
      · exact h.channels other id found hfound }

/-- What attaching does to one endpoint. -/
theorem getElem?_endpoints_attach (conference : Conference) (owner : Option String)
    (ref : ContentRef) (number : Nat) :
    (conference.attach owner ref).endpoints[number]? =
      conference.endpoints[number]?.map fun endpoint =>
        if owner.bind conference.members.get? = some number then endpoint.attach ref
        else endpoint := by
  unfold attach
  split
  · next member hmember =>
    rw [Conference.modifyEndpoint, List.getElem?_modify]
    simp [hmember]
  · next hmember => simp [hmember]

/-- Attaching makes no endpoint. -/
theorem length_endpoints_attach (conference : Conference) (owner : Option String)
    (ref : ContentRef) :
    (conference.attach owner ref).endpoints.length = conference.endpoints.length := by
  unfold attach
  split
  · exact List.length_modify ..
  · rfl

/-- Attaching lets no endpoint join or leave. -/
theorem members_attach (conference : Conference) (owner : Option String) (ref : ContentRef) :
    (conference.attach owner ref).members = conference.members := by
  unfold attach
  split <;> rfl

/-- A participant that was attached to a content had its other contents before. -/
theorem exists_kind_of_attach {endpoint : Endpoint} {ref : ContentRef} {contents : List ContentRef}
    (h : (endpoint.attach ref).kind = .participant contents) :
    ∃ earlier, endpoint.kind = .participant earlier ∧
      contents = if ref ∈ earlier then earlier else earlier ++ [ref] := by
  unfold Endpoint.attach at h
  cases hkind : endpoint.kind with
  | independent bundle channelIds failure => simp [hkind] at h
  | participant earlier =>
    refine ⟨earlier, rfl, ?_⟩
    by_cases hmem : ref ∈ earlier
    · have hsame : earlier = contents := by simpa [hkind, hmem] using h
      rw [if_pos hmem, hsame]
    · have hmore : earlier ++ [ref] = contents := by simpa [hkind, hmem] using h
      rw [if_neg hmem, hmore]

/-- Making a channel attaches the endpoint that it is made for. -/
theorem MadeBy.attach (h : conference.MadeBy made) (owner : Option String) (ref : ContentRef) :
    (conference.attach owner ref).MadeBy
      (made ++ [{ ref, owner, member := owner.bind conference.members.get? }]) where
  members := by
    rw [members_attach, length_endpoints_attach]
    exact h.members
  known creation hcreation number hmember := by
    rw [length_endpoints_attach]
    rcases List.mem_append.1 hcreation with hmade | hnew
    · exact h.known creation hmade number hmember
    · rw [List.mem_singleton.1 hnew] at hmember
      obtain ⟨id, _, hid⟩ := Option.bind_eq_some_iff.1 hmember
      exact h.members id number hid
  attached number endpoint contents hendpoint hcontents := by
    rw [getElem?_endpoints_attach] at hendpoint
    obtain ⟨before, hbefore, rfl⟩ := Option.map_eq_some_iff.1 hendpoint
    rw [attachedContents_concat]
    split at hcontents
    · next hmember =>
      obtain ⟨earlier, hkind, hmore⟩ := exists_kind_of_attach hcontents
      have hearlier := h.attached number before earlier hbefore hkind
      rw [hmore, hearlier]
      by_cases hmem : ref ∈ attachedContents number made <;> simp [hmember, hmem]
    · next hmember =>
      have hsame := h.attached number before contents hbefore hcontents
      simp [hmember, hsame]
  channels other id channel hchannel := by
    rw [content_congr (views_attach conference owner ref)] at hchannel
    obtain ⟨hid, creation, hmade, hcreation⟩ := h.channels other id channel hchannel
    exact ⟨hid, creation, List.mem_append_left _ hmade, hcreation⟩

/-- A new channel is made for its endpoint, which is attached if it takes part. -/
theorem MadeBy.createChannel (h : conference.MadeBy made) (ref : ContentRef) (channel : Channel) :
    (conference.createChannel ref channel).MadeBy
      (made ++ [{
        ref
        owner := channel.endpoint
        member := channel.endpoint.bind conference.members.get? }]) := by
  -- It does not matter whether the channel or the attachment comes first.
  have hcommute : conference.createChannel ref channel =
      (conference.attach channel.endpoint ref).modifyContent ref fun content =>
        content.put channel.id channel := by
    unfold Conference.createChannel Conference.attach
    simp only [Conference.modifyContent]
    split <;> rfl
  rw [hcommute]
  exact (h.attach channel.endpoint ref).putChannel
    ⟨_, List.mem_append_right _ (List.mem_singleton_self _), rfl, rfl⟩

/-- Putting a content to use keeps channels and attachments. -/
theorem MadeBy.openContent (h : conference.MadeBy made) (ref : ContentRef) :
    (conference.openContent ref).MadeBy made :=
  h.of_eq rfl rfl (conference.content_openContent ref)

/-- A channel may be changed in all but its id and its endpoint. -/
theorem MadeBy.changeChannel (h : conference.MadeBy made) (ref : ContentRef) (id : String)
    {change : ChannelChange} (hid : change.id = none) (howner : change.endpoint = none) :
    (conference.changeChannel ref id change).MadeBy made := by
  unfold Conference.changeChannel
  split
  · next channel hchannel =>
    obtain ⟨rfl, hmade⟩ := h.channels ref id channel hchannel
    have hkept : (channel.change change).id = channel.id := by simp [Channel.change, hid]
    have hsame : (channel.change change).endpoint = channel.endpoint := by
      simp [Channel.change, howner]
    rw [← hkept]
    rw [← hsame] at hmade
    exact h.putChannel hmade
  · exact h.openContent ref

/-- An endpoint that was made may join again. -/
theorem MadeBy.rejoinEndpoint (h : conference.MadeBy made) (number : Nat) :
    (conference.rejoinEndpoint number).MadeBy made := by
  unfold Conference.rejoinEndpoint
  split
  · next endpoint hendpoint =>
    refine h.withMembers fun id other hother => ?_
    rw [Registry.get?_put] at hother
    split at hother
    · cases hother
      exact (List.getElem?_eq_some_iff.1 hendpoint).1
    · exact h.members id other hother
  · exact h

/-- An endpoint may leave. -/
theorem MadeBy.removeEndpoint (h : conference.MadeBy made) (id : String) :
    (conference.removeEndpoint id).MadeBy made := by
  refine h.withMembers fun other number hnumber => ?_
  have hentry := (Registry.mem_entries_iff _).2 hnumber
  exact h.members other number ((Registry.mem_entries_iff _).1 (List.mem_filter.1 hentry).1)

end Conference

namespace Bridge

open Conference

/-- A command that makes no channel, and leaves each one its id and its endpoint, keeps channels and
attachments. -/
theorem madeBy_run_of_none {bridge : Bridge} {made : List Creation} {command : Command}
    (hcommand : command.KeepsOwners) (hnone : Turn.creation? ⟨bridge, command⟩ = none)
    (h : bridge.conference.MadeBy made) :
    (bridge.run command).bridge.conference.MadeBy made := by
  cases command with
  | createChannel => cases hnone
  | addView octoEnabled => exact h.of_eq rfl rfl (content_addView bridge.conference octoEnabled)
  | addParticipant =>
    refine h.addEndpoint fun contents hkind => ?_
    cases hkind
    rfl
  | addIndependent =>
    refine h.addEndpoint fun contents hkind => ?_
    cases hkind
  | rejoinEndpoint number => exact h.rejoinEndpoint number
  | removeEndpoint id => exact h.removeEndpoint id
  | changeEndpoint number => exact h.modifyEndpoint number fun _ => rfl
  | updateEndpoint description =>
    obtain ⟨number, _, hkept, hupdated⟩ := bridge.bridge_updateEndpoint description
    rw [run, hupdated]
    exact h.modifyEndpoint number fun endpoint => (hkept endpoint).2
  | openContent ref | findChannel ref | listChannels ref => exact h.openContent ref
  | changeChannel ref id change => exact h.changeChannel ref id hcommand.1 hcommand.2
  | reconcile view audio video =>
    obtain ⟨_, hrelayed⟩ := bridge.bridge_reconcile view audio video
    rw [run, hrelayed]
    exact h.of_eq rfl rfl fun _ => rfl
  | openTentacle => exact h.of_eq rfl rfl fun _ => rfl
  | describeBundles number ids =>
    rw [run, bridge_describeBundles]
    exact h
  | findEndpoint | listEndpoints | listContents | addRecord | storeRecord | showRecord
  | findRecordContent | openRecordContent | describeShallow | describeDeep | describeEndpoints =>
    exact h

/-- A command that leaves each channel its id and its endpoint keeps track of the channels that are
made. -/
theorem madeBy_run {past : List Turn} {bridge : Bridge} (command : Command)
    (hcommand : command.KeepsOwners) (h : bridge.conference.MadeBy (creations past)) :
    (bridge.run command).bridge.conference.MadeBy (creations (past ++ [⟨bridge, command⟩])) := by
  rw [creations, filterMap_concat, ← creations]
  cases hturn : Turn.creation? ⟨bridge, command⟩ with
  | none => simpa using madeBy_run_of_none hcommand hturn h
  | some creation =>
    cases command with
    | createChannel ref id options =>
      cases hturn
      exact h.createChannel ref (.make id ref.media options)
    | _ => cases hturn

end Bridge

/-- Along a run channels and attachments come from the channels that were made. -/
theorem madeBy_after (id : String) (name : Option String) (octoEnabled : Bool)
    {commands : List Command} (hcommands : ∀ command ∈ commands, command.KeepsOwners) :
    ((Bridge.fresh id name octoEnabled).after commands).conference.MadeBy
      (creations ((Bridge.fresh id name octoEnabled).turns commands)) := by
  have hstart : (Bridge.fresh id name octoEnabled).conference.MadeBy (creations []) :=
    (Conference.madeBy_fresh id name).of_eq rfl rfl
      (Conference.content_addView (Conference.fresh id name) octoEnabled)
  exact Bridge.holdsAlong (fun past bridge => bridge.conference.MadeBy (creations past))
    Bridge.madeBy_run hcommands hstart

/-! ### Bundles -/

/-- The channels of several contents that belong to an endpoint, each with its content. -/
def Conference.ownedChannels (conference : Conference) (owner : String)
    (contents : List ContentRef) : List (ContentRef × Channel) :=
  contents.flatMap fun ref =>
    ((conference.channels ref).filter fun channel => channel.endpoint == some owner).map
      fun channel => (ref, channel)

/-- A participant lists the channels of its id in the contents that channels were made in for it. -/
theorem Conference.mem_ownedChannels_iff (conference : Conference) {number : Nat}
    {made : List Creation} {owner channelId : String} :
    channelId ∈ (conference.ownedChannels owner (attachedContents number made)).map
        (fun entry => entry.2.id) ↔
      ∃ creation ∈ made, creation.member = some number ∧
        ∃ channel ∈ conference.channels creation.ref,
          channel.endpoint = some owner ∧ channel.id = channelId := by
  rw [ownedChannels, List.map_flatMap, List.mem_flatMap]
  constructor
  · rintro ⟨ref, href, hid⟩
    obtain ⟨creation, hcreation, hmember, rfl⟩ := mem_attachedContents.1 href
    rw [List.map_map] at hid
    obtain ⟨channel, hchannel, rfl⟩ := List.mem_map.1 hid
    obtain ⟨hin, howner⟩ := List.mem_filter.1 hchannel
    exact ⟨creation, hcreation, hmember, channel, hin, eq_of_beq howner, rfl⟩
  · rintro ⟨creation, hcreation, hmember, channel, hin, howner, rfl⟩
    refine ⟨creation.ref, mem_attachedContents.2 ⟨creation, hcreation, hmember, rfl⟩, ?_⟩
    rw [List.map_map]
    exact List.mem_map.2 ⟨channel, List.mem_filter.2 ⟨hin, beq_iff_eq.2 howner⟩, rfl⟩

/-- What a participant lists are the channels that belong to it in its contents. -/
theorem Conference.bundle_participant (conference : Conference) {endpoint : Endpoint}
    {contents : List ContentRef} (hkind : endpoint.kind = .participant contents) :
    conference.bundle endpoint =
      .ok ⟨endpoint.id, (conference.ownedChannels endpoint.id contents).map
        fun entry => entry.2.id⟩ := by
  rw [Conference.bundle, Endpoint.bundle, hkind, ownedChannels, List.map_flatMap]
  simp only [List.map_map]
  rfl

/-- The channels of a content have different ids. -/
theorem Conference.MadeBy.nodup_channelIds {conference : Conference} {made : List Creation}
    (h : conference.MadeBy made) (ref : ContentRef) :
    ((conference.channels ref).map Channel.id).Nodup := by
  have hkeys : (conference.channels ref).map Channel.id = (conference.content ref).keys :=
    Registry.map_values fun id channel hchannel => (h.channels ref id channel hchannel).1
  rw [hkeys]
  exact (conference.content ref).distinct

/-- No channel is listed twice for different contents. -/
theorem Conference.MadeBy.nodup_ownedChannels {conference : Conference} {made : List Creation}
    (h : conference.MadeBy made) (owner : String) {contents : List ContentRef}
    (hcontents : contents.Nodup) :
    ((conference.ownedChannels owner contents).map fun entry =>
      (entry.1, entry.2.id)).Nodup := by
  rw [ownedChannels, List.map_flatMap, List.nodup_flatMap]
  constructor
  · intro ref _
    have hids : (((conference.channels ref).filter fun channel =>
        channel.endpoint == some owner).map Channel.id).Nodup :=
      (h.nodup_channelIds ref).sublist (List.filter_sublist.map _)
    have hpairs := hids.map (f := fun id => (ref, id)) fun _ _ hpair => congrArg Prod.snd hpair
    simpa [List.map_map, Function.comp_def] using hpairs
  · refine hcontents.imp fun hne => ?_
    simp only [Function.onFun, List.disjoint_left, List.mem_map]
    rintro pair ⟨_, ⟨_, _, rfl⟩, rfl⟩ ⟨_, ⟨_, _, rfl⟩, hpair⟩
    exact hne (congrArg Prod.fst hpair).symm

/-- Whatever happens to a conference, as long as channels keep their ids and endpoints: the bundle
of a participant lists, under its id, the channels of that id in the contents that channels were
made in for the participant, content by content in the order of the first of them, and none twice.
It lists all channels of that id if each one was made while this participant had joined under it. -/
theorem bundle_participant_after (id : String) (name : Option String) (octoEnabled : Bool)
    {commands : List Command} (hcommands : ∀ command ∈ commands, command.KeepsOwners)
    {number : Nat} {endpoint : Endpoint} {contents : List ContentRef}
    (hendpoint : ((Bridge.fresh id name octoEnabled).after commands).conference.endpoints[number]? =
      some endpoint)
    (hkind : endpoint.kind = .participant contents) :
    let conference := ((Bridge.fresh id name octoEnabled).after commands).conference
    let made := creations ((Bridge.fresh id name octoEnabled).turns commands)
    let listed := conference.ownedChannels endpoint.id (attachedContents number made)
    conference.bundle endpoint = .ok ⟨endpoint.id, listed.map fun entry => entry.2.id⟩ ∧
      (listed.map fun entry => (entry.1, entry.2.id)).Nodup ∧
      ((∀ creation ∈ made, creation.owner = some endpoint.id →
          creation.member = some number) →
        ∀ ref, ∀ channel ∈ conference.channels ref, channel.endpoint = some endpoint.id →
          (ref, channel) ∈ listed) := by
  intro conference made listed
  have hmade : conference.MadeBy made := madeBy_after id name octoEnabled hcommands
  have hattached := hmade.attached number endpoint contents hendpoint hkind
  refine ⟨?_, hmade.nodup_ownedChannels endpoint.id (nodup_eraseDups _), ?_⟩
  · rw [conference.bundle_participant hkind, hattached]
  · intro hjoined ref channel hchannel howner
    obtain ⟨key, hkey⟩ := Conference.mem_channels_iff.1 hchannel
    obtain ⟨_, creation, hcreation, rfl, hfor⟩ := hmade.channels ref key channel hkey
    have hmember := hjoined creation hcreation (hfor.trans howner)
    have hcontent : creation.ref ∈ attachedContents number made := by
      refine List.mem_eraseDups.2
        (List.mem_map.2 ⟨creation, List.mem_filter.2 ⟨hcreation, ?_⟩, rfl⟩)
      simpa using hmember
    refine List.mem_flatMap.2 ⟨creation.ref, hcontent, List.mem_map.2 ⟨channel, ?_, rfl⟩⟩
    exact List.mem_filter.2 ⟨hchannel, by simpa using howner⟩

/-- A participant with channels in two views, which left and joined again and whose first channel
was replaced. -/
theorem bundle_participant_after_rejoining :
    let commands : List Command :=
      [.addParticipant "alice" none none, .addView false,
        .createChannel ⟨1, .video⟩ "c1" { endpoint := some "alice" },
        .createChannel ⟨0, .audio⟩ "c2" { endpoint := some "alice" },
        .removeEndpoint "alice", .rejoinEndpoint 0,
        .createChannel ⟨1, .video⟩ "c3" { endpoint := some "bob" },
        .createChannel ⟨1, .video⟩ "c1" { endpoint := some "alice" },
        .changeChannel ⟨0, .audio⟩ "c2" { expire := some 30 }]
    let bridge := (Bridge.fresh "meeting" none true).after commands
    (∀ command ∈ commands, command.KeepsOwners) ∧
      ∃ endpoint, bridge.conference.endpoints[0]? = some endpoint ∧
        bridge.conference.bundle endpoint = .ok ⟨"alice", ["c1", "c2"]⟩ ∧
        (∀ creation ∈ creations ((Bridge.fresh "meeting" none true).turns commands),
          creation.owner = some "alice" → creation.member = some 0) := by
  intro commands bridge
  have hcommands : ∀ command ∈ commands, command.KeepsOwners := by
    simp [commands, Command.KeepsOwners]
  let endpoint : Endpoint :=
    { id := "alice", displayName := none, statsId := none,
      kind := .participant [⟨1, .video⟩, ⟨0, .audio⟩] }
  have hendpoint : bridge.conference.endpoints[0]? = some endpoint := by decide +kernel
  obtain ⟨hbundle, _, _⟩ :=
    bundle_participant_after "meeting" none true hcommands hendpoint rfl
  refine ⟨hcommands, endpoint, hendpoint, hbundle.trans ?_, ?_⟩
  · rfl
  · decide +kernel

end ConferenceBridge
