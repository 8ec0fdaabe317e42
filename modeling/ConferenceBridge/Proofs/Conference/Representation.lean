import ConferenceBridge.Proofs.Conference.Attendance
import ConferenceBridge.Proofs.Conference.Requests

/-!
# What the maps of a conference hold

A conference keeps its contents, channels and endpoints in maps that refer to each other. Whatever
happens to it, each map holds what was put into it last under each key, in the order in which the
keys came in, and a look-up agrees with the list.
-/

namespace ConferenceBridge

/-- A command that keeps all ids keeps those of channels and their endpoints. -/
theorem Command.KeepsIds.keepsOwners {command : Command} (h : command.KeepsIds) :
    command.KeepsOwners := by
  cases command with
  | changeChannel => exact ⟨h.1, h.2.2⟩
  | _ => trivial

/-- The requests of commands that keep all ids keep those of channels. -/
theorem keepsIds_of_mem_requestsTo {bridge : Bridge} {commands : List Command}
    (hcommands : ∀ command ∈ commands, command.KeepsIds) {ref : ContentRef}
    {request : ContentRequest}
    (hrequest : request ∈ requestsTo ref (requests (bridge.turns commands))) :
    request.KeepsIds := by
  obtain ⟨asked, hasked, rfl⟩ := List.mem_map.1 hrequest
  obtain ⟨turn, hturn, hfrom⟩ := List.mem_filterMap.1 (List.mem_filter.1 hasked).1
  have hcommand : turn.command ∈ commands := by
    rw [← bridge.map_command_turns commands]
    exact List.mem_map_of_mem hturn
  have hkeeps := hcommands turn.command hcommand
  obtain ⟨hmade, _⟩ := Option.filter_eq_some_iff.1 hfrom
  cases hname : turn.command with
  | changeChannel =>
    rw [hname] at hmade hkeeps
    cases hmade
    exact ⟨hkeeps.1, hkeeps.2.1⟩
  | openContent | createChannel | findChannel | listChannels =>
    rw [hname] at hmade
    cases hmade
    trivial
  | _ =>
    rw [hname] at hmade
    cases hmade

namespace Conference

/-- A view lists each of its contents under its media type. -/
theorem contents_eq_map (conference : Conference) (view : Nat) :
    conference.contents view = ((conference.contents view).map Prod.fst).map fun media =>
      (media, conference.content ⟨view, media⟩) := by
  rw [List.map_map]
  refine (List.map_id _).symm.trans (List.map_congr_left fun entry hentry => ?_)
  have hcontent : conference.content ⟨view, entry.1⟩ = entry.2 := by
    rw [contents_eq] at hentry
    rw [content_eq]
    cases hfound : conference.views[view]? with
    | none => simp [hfound] at hentry
    | some found =>
      rw [hfound] at hentry
      rw [Option.bind_some, (Registry.mem_entries_iff found.contents).1 hentry, Option.getD_some]
  rw [Function.comp_apply, hcontent]
  rfl

end Conference

/-- Whatever happens to a conference, as long as endpoints and channels keep their ids, channels
their media types and their endpoints:

* A view has one content for each media type, which all requests for it go to and no others, and
  lists its contents in the order in which they were asked for first.
* The channels of a content have different ids, in the order in which these were made first, and the
  media type of the content. Found under an id is the channel that was made last with it, and
  nothing if no channel with the id is listed.
* The endpoints that take part have different ids, in the order in which the attendance of the ids
  began, and each one joined last under its id. Found under an id is who is listed with it.
* A participant is attached to different contents, those with channels that were made for it, in the
  order of the first of these. -/
theorem representation_after (id : String) (name : Option String) (octoEnabled : Bool)
    {commands : List Command} (hcommands : ∀ command ∈ commands, command.KeepsIds) :
    let bridge := (Bridge.fresh id name octoEnabled).after commands
    let past := (Bridge.fresh id name octoEnabled).turns commands
    (∀ ref, (bridge.run (.openContent ref)).answer =
      .ok (.content ref (contentAfter ref.media (requestsTo ref (requests past))))) ∧
    (∀ view, ∃ types, types = (mediaAskedFor view (requests past)).eraseDups ∧ types.Nodup ∧
      (bridge.run (.listContents view)).answer = .ok (.contents view (types.map fun media =>
        (media, contentAfter media (requestsTo ⟨view, media⟩ (requests past)))))) ∧
    (∀ ref, ∃ channels, (bridge.run (.listChannels ref)).answer = .ok (.channels channels) ∧
      channels.map Channel.id = (madeIds (requestsTo ref (requests past))).eraseDups ∧
      (channels.map Channel.id).Nodup ∧
      (∀ channel ∈ channels, channel.media = ref.media) ∧
      ∀ id, (bridge.run (.findChannel ref id)).answer =
          .ok (.channel (channelAfter ref.media id (requestsTo ref (requests past)))) ∧
        channelAfter ref.media id (requestsTo ref (requests past)) =
          channels.find? fun channel => channel.id == id) ∧
    (∃ present, (bridge.run .listEndpoints).answer = .ok (.endpoints present) ∧
      (present.map fun entry => entry.2.id) = attending (attendances past) ∧
      (present.map fun entry => entry.2.id).Nodup ∧
      (∀ entry ∈ present, bridge.conference.endpoints[entry.1]? = some entry.2 ∧
        (joinedUnder entry.2.id (attendances past)).getLast? = some entry.1) ∧
      ∀ id, (bridge.run (.findEndpoint id)).answer =
        .ok (.endpoint (present.find? fun entry => entry.2.id == id))) ∧
    (∀ number endpoint contents, bridge.conference.endpoints[number]? = some endpoint →
      endpoint.kind = .participant contents →
      contents = attachedContents number (creations past) ∧ contents.Nodup) := by
  intro bridge past
  have hrequested : bridge.conference.RequestedBy (requests past) :=
    requestedBy_after id name octoEnabled commands
  have hattended : bridge.conference.AttendedBy (attendances past) :=
    attendedBy_after id name octoEnabled hcommands
  have hmade : bridge.conference.MadeBy (creations past) :=
    madeBy_after id name octoEnabled fun command hcommand =>
      (hcommands command hcommand).keepsOwners
  refine ⟨fun ref => ?_, fun view => ?_, fun ref => ?_, ?_, ?_⟩
  · rw [← hrequested.content, ← bridge.conference.content_openContent ref]
    rfl
  · have hlisted := bridge.conference.contents_eq_map view
    have hcontent : ∀ media, contentAfter media (requestsTo ⟨view, media⟩ (requests past)) =
        bridge.conference.content ⟨view, media⟩ :=
      fun media => (hrequested.content ⟨view, media⟩).symm
    rw [hrequested.media] at hlisted
    refine ⟨_, rfl, nodup_eraseDups _, ?_⟩
    simp only [hcontent, ← hlisted]
    rfl
  · have hfound : ∀ id, (bridge.conference.content ref).get? id =
        channelAfter ref.media id (requestsTo ref (requests past)) := by
      intro id
      rw [hrequested.content, get?_contentAfter]
    have hkept : ∀ id channel, (bridge.conference.content ref).get? id = some channel →
        channel.id = id ∧ channel.media = ref.media := by
      intro id channel hchannel
      rw [hfound] at hchannel
      exact id_media_of_channelAfter (fun _ => keepsIds_of_mem_requestsTo hcommands) hchannel
    have hids : (bridge.conference.channels ref).map Channel.id =
        (madeIds (requestsTo ref (requests past))).eraseDups := by
      rw [← keys_contentAfter ref.media, ← hrequested.content]
      exact Registry.map_values fun id channel hchannel => (hkept id channel hchannel).1
    have hopened := bridge.conference.content_openContent ref ref
    refine ⟨bridge.conference.channels ref, ?_, hids, hids ▸ nodup_eraseDups _, ?_, fun id => ?_⟩
    · have hanswer : (bridge.run (.listChannels ref)).answer =
          .ok (.channels ((bridge.conference.openContent ref).content ref).values) := rfl
      rw [hanswer, hopened]
      rfl
    · intro channel hchannel
      obtain ⟨id, hid⟩ := Conference.mem_channels_iff.1 hchannel
      exact (hkept id channel hid).2
    · have hanswer : (bridge.run (.findChannel ref id)).answer =
          .ok (.channel (((bridge.conference.openContent ref).content ref).get? id)) := rfl
      have hlisted := Registry.find?_values
        (fun key channel hchannel => (hkept key channel hchannel).1) id
      rw [hanswer, hopened, ← hfound id]
      exact ⟨rfl, hlisted.symm⟩
  · have hids := hattended.present_ids
    have hdistinct : (attending (attendances past)).Nodup := by
      rw [← keys_membersAfter]
      exact (membersAfter (attendances past)).distinct
    refine ⟨bridge.conference.present, rfl, hids, hids ▸ hdistinct, fun entry hentry => ?_,
      fun id => ?_⟩
    · exact ⟨(hattended.get?_of_mem_present hentry).2, hattended.joined_of_mem_present hentry⟩
    · rw [← hattended.endpoint?_eq]
      rfl
  · intro number endpoint contents hendpoint hkind
    have hattached := hmade.attached number endpoint contents hendpoint hkind
    exact ⟨hattached, hattached ▸ nodup_eraseDups _⟩

/-- Two views, a channel whose id is made again, an endpoint that joins once more and one that
leaves and joins again. -/
theorem representation_after_rejoining :
    let commands : List Command :=
      [.addParticipant "alice" none none, .addParticipant "bob" none none, .addView false,
        .openContent ⟨1, .video⟩, .createChannel ⟨0, .audio⟩ "c1" { endpoint := some "alice" },
        .createChannel ⟨0, .audio⟩ "c2" {}, .createChannel ⟨1, .audio⟩ "c1" {},
        .createChannel ⟨0, .audio⟩ "c1" { endpoint := some "bob" },
        .changeChannel ⟨0, .audio⟩ "c1" { expire := some 30 },
        .addParticipant "alice" none none, .removeEndpoint "bob", .rejoinEndpoint 1]
    let bridge := (Bridge.fresh "meeting" none true).after commands
    (∀ command ∈ commands, command.KeepsIds) ∧
      (bridge.run (.findEndpoint "alice")).answer = .ok (.endpoint (some
        (2, { id := "alice", displayName := none, statsId := none, kind := .participant [] }))) ∧
      (bridge.run (.findChannel ⟨0, .audio⟩ "c1")).answer = .ok (.channel (some
        { id := "c1", media := .audio, endpoint := some "bob", expire := 30
          direction := "sendrecv", lastN := none })) := by
  intro commands bridge
  have hcommands : ∀ command ∈ commands, command.KeepsIds := by
    simp [commands, Command.KeepsIds]
  obtain ⟨_, _, hchannels, ⟨present, hpresent, _, _, _, hfound⟩, _⟩ :=
    representation_after "meeting" none true hcommands
  obtain ⟨_, _, _, _, _, hchannel⟩ := hchannels ⟨0, .audio⟩
  refine ⟨hcommands, ?_, (hchannel "c1").1.trans ?_⟩
  · cases hpresent
    exact (hfound "alice").trans (by decide +kernel)
  · decide +kernel

end ConferenceBridge
