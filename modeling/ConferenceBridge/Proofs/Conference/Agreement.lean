import ConferenceBridge.Proofs.Conference.Records
import ConferenceBridge.Proofs.Conference.Representation

/-!
# Deep descriptions and bundles

A deep description reports each channel with the endpoint that it belongs to, and the bundle of an
endpoint lists channels from the contents that the endpoint is attached to. The two agree on the
contents in which a channel was made for the endpoint that takes part now. An endpoint that takes
the place of another one under the same id is not attached to the other one's contents.
-/

namespace ConferenceBridge

namespace Description

/-- Under a name that was described once stands what was described. -/
theorem channelsUnder_of_mem {described : List (String × List Channel)}
    (hnames : (described.map Prod.fst).Nodup) {entry : String × List Channel}
    (hentry : entry ∈ described) : channelsUnder entry.1 described = entry.2 := by
  induction described with
  | nil => cases hentry
  | cons first rest ih =>
    rw [List.map_cons, List.nodup_cons] at hnames
    have hcons : channelsUnder entry.1 (first :: rest) =
        (if first.1 = entry.1 then first.2 else []) ++ channelsUnder entry.1 rest := by
      by_cases h : first.1 = entry.1 <;> simp [channelsUnder, h]
    rw [hcons]
    obtain rfl | hlater := List.mem_cons.1 hentry
    · rw [if_pos rfl, channelsUnder_of_not_mem hnames.1, List.append_nil]
    · have hother : first.1 ≠ entry.1 := fun h =>
        hnames.1 (h ▸ List.mem_map_of_mem hlater)
      rw [if_neg hother, ih hnames.2 hlater, List.nil_append]

/-- Contents of different names are not grouped. -/
theorem grouped_of_nodup {described : List (String × List Channel)}
    (hnames : (described.map Prod.fst).Nodup) :
    grouped described = described.map fun entry => { name := entry.1, channels := entry.2 } := by
  rw [grouped, eraseDups_of_nodup hnames, List.map_map]
  refine List.map_congr_left fun entry hentry => ?_
  rw [Function.comp_apply, channelsUnder_of_mem hnames hentry]

end Description

/-- Media types have different names. -/
theorem MediaType.name_injective : Function.Injective MediaType.name := by
  intro media other h
  have hread := ofName?_name media
  rw [h, ofName?_name] at hread
  exact (Option.some.inj hread).symm

namespace Conference

/-- The contents of a view have different media types. -/
theorem nodup_media (conference : Conference) (view : Nat) :
    ((conference.contents view).map Prod.fst).Nodup := by
  unfold contents
  split
  · next found _ => exact found.contents.distinct
  · exact List.nodup_nil

/-- A deep description reports the channels of each content of a view. -/
theorem contents_describeDeep (conference : Conference) (view : Nat) :
    (conference.describeDeep view .empty).contents =
      (conference.contents view).map fun entry =>
        { name := entry.1.name, channels := entry.2.values.map Channel.describe } := by
  let described := (conference.contents view).map fun entry =>
    (entry.1.name, entry.2.values.map Channel.describe)
  have hnames : (described.map Prod.fst).Nodup := by
    have hmapped := (conference.nodup_media view).map MediaType.name_injective
    rwa [List.map_map] at hmapped ⊢
  have hgrouped := Description.extend_grouped [] described
  rw [List.nil_append, Description.grouped_of_nodup hnames, List.map_map] at hgrouped
  rw [describeDeep, foldl_describeContent]
  exact hgrouped

/-- A content with channels is listed in its view. -/
theorem mem_contents_of_mem_channels {conference : Conference} {ref : ContentRef}
    {channel : Channel} (h : channel ∈ conference.channels ref) :
    (ref.media, conference.content ref) ∈ conference.contents ref.view := by
  rw [contents_eq, content_eq]
  rw [channels, content_eq] at h
  cases hview : conference.views[ref.view]? with
  | none => simp [hview, Registry.values, Registry.empty] at h
  | some view =>
    rw [hview, Option.bind_some] at h
    cases hcontent : view.contents.get? ref.media with
    | none => simp [hcontent, Registry.values, Registry.empty] at h
    | some content => exact (Registry.mem_entries_iff view.contents).2 (by simp [hcontent])

/-- What a deep description reports under the name of a media type are the channels of the
content. -/
theorem mem_describeDeep_iff (conference : Conference) (ref : ContentRef)
    (channel : Description.Channel) :
    (∃ content ∈ (conference.describeDeep ref.view .empty).contents,
      content.name = ref.media.name ∧ channel ∈ content.channels) ↔
      ∃ described ∈ conference.channels ref, described.describe = channel := by
  rw [contents_describeDeep]
  constructor
  · rintro ⟨content, hcontent, hname, hchannel⟩
    obtain ⟨entry, hentry, rfl⟩ := List.mem_map.1 hcontent
    rw [contents_eq_map] at hentry
    obtain ⟨media, _, rfl⟩ := List.mem_map.1 hentry
    obtain rfl := MediaType.name_injective hname
    exact List.mem_map.1 hchannel
  · rintro ⟨described, hdescribed, rfl⟩
    have hlisted := mem_contents_of_mem_channels hdescribed
    exact ⟨_, List.mem_map.2 ⟨_, hlisted, rfl⟩, rfl, List.mem_map.2 ⟨described, hdescribed, rfl⟩⟩

/-- Selected by an id is who takes part under it. -/
theorem AttendedBy.selected_singleton {conference : Conference} {events : List Attendance}
    (h : conference.AttendedBy events) {owner : String} {number : Nat} {endpoint : Endpoint}
    (hfound : conference.endpoint? owner = some (number, endpoint)) :
    conference.selected [owner] = [endpoint] := by
  have hdistinct : (conference.present.map fun entry => entry.2.id).Nodup := by
    rw [h.present_ids, ← keys_membersAfter]
    exact (membersAfter events).distinct
  rw [h.endpoint?_eq] at hfound
  have hsame : (fun entry : Nat × Endpoint => [owner].contains entry.2.id) =
      fun entry => entry.2.id == owner := by
    funext entry
    rw [List.contains_cons, List.contains_nil, Bool.or_false]
  have hfilter := filter_eq_singleton hdistinct hfound
  rw [selected, List.filter_map, Function.comp_def, hsame, hfilter]
  rfl

end Conference

/-- The channels of an endpoint in a content are those that a deep description reports for it
there. -/
theorem Conference.exists_described_iff (conference : Conference) (ref : ContentRef)
    (owner channelId : String) :
    (∃ channel ∈ conference.channels ref, channel.endpoint = some owner ∧ channel.id = channelId) ↔
      ∃ content ∈ (conference.describeDeep ref.view .empty).contents,
        content.name = ref.media.name ∧
          ∃ channel ∈ content.channels,
            channel.bundle = some owner ∧ channel.id = some channelId := by
  constructor
  · rintro ⟨channel, hin, howner, rfl⟩
    obtain ⟨content, hcontent, hname, hdescribed⟩ :=
      (conference.mem_describeDeep_iff ref channel.describe).2 ⟨channel, hin, rfl⟩
    exact ⟨content, hcontent, hname, channel.describe, hdescribed, howner, rfl⟩
  · rintro ⟨content, hcontent, hname, described, hdescribed, howner, hid⟩
    obtain ⟨channel, hin, rfl⟩ :=
      (conference.mem_describeDeep_iff ref described).1 ⟨content, hcontent, hname, hdescribed⟩
    exact ⟨channel, hin, howner, Option.some.inj hid⟩

/-- Every channel that a deep description reports stands in a content of the view. -/
theorem Conference.exists_content_of_described {conference : Conference} {view : Nat}
    {content : Description.Content}
    (hcontent : content ∈ (conference.describeDeep view .empty).contents)
    {described : Description.Channel} (hdescribed : described ∈ content.channels) :
    ∃ ref : ContentRef, ref.view = view ∧ content.name = ref.media.name ∧
      ∃ channel ∈ conference.channels ref, channel.describe = described := by
  have hnamed := hcontent
  rw [contents_describeDeep] at hnamed
  obtain ⟨entry, _, hentry⟩ := List.mem_map.1 hnamed
  have hname : content.name = entry.1.name := by rw [← hentry]
  exact ⟨⟨view, entry.1⟩, rfl, hname,
    (conference.mem_describeDeep_iff ⟨view, entry.1⟩ described).1
      ⟨content, hcontent, hname, hdescribed⟩⟩

/-- If one endpoint is asked for its bundle and has one, the record gets it. -/
theorem Bridge.answer_describeBundles {bridge : Bridge} {ids : List String} {endpoint : Endpoint}
    {bundle : Description.Bundle} (hselected : bridge.conference.selected ids = [endpoint])
    (hbundle : bridge.conference.bundle endpoint = .ok bundle) (target : Nat) :
    (bridge.run (.describeBundles target ids)).answer =
      .ok (.record { bridge.record target with
        bundles := (bridge.record target).bundles ++ [bundle] }) := by
  have hbatch : bridge.conference.bundles ids =
      { bundles := [bundle], asked := [endpoint], failed := none } := by
    rw [Conference.bundles, hselected]
    simp [BundleBatch.collect, hbundle]
  rw [run, describeBundles, hbatch]
  rfl

/-- Whatever happens to a conference, as long as endpoints and channels keep their ids, channels
their media types and their endpoints: describing the bundle of an id under which a participant
takes part adds one bundle of that id. It lists the channels that deep descriptions report for the
id in the contents in which a channel was made for this participant. It lists all that any deep
description reports for the id if every channel for the id was made while this participant had
joined under it. -/
theorem bundle_agrees_with_deep_description (id : String) (name : Option String)
    (octoEnabled : Bool) {commands : List Command}
    (hcommands : ∀ command ∈ commands, command.KeepsIds) {owner : String} {number : Nat}
    {endpoint : Endpoint} {contents : List ContentRef}
    (hpresent : ((Bridge.fresh id name octoEnabled).after commands).conference.endpoint? owner =
      some (number, endpoint))
    (hkind : endpoint.kind = .participant contents) :
    let bridge := (Bridge.fresh id name octoEnabled).after commands
    let made := creations ((Bridge.fresh id name octoEnabled).turns commands)
    ∃ listed : List String,
      (∀ target, (bridge.run (.describeBundles target [owner])).answer =
        .ok (.record { bridge.record target with
          bundles := (bridge.record target).bundles ++ [⟨owner, listed⟩] })) ∧
      (∀ channelId, channelId ∈ listed ↔
        ∃ creation ∈ made, creation.member = some number ∧
          ∃ content ∈ (bridge.conference.describeDeep creation.ref.view .empty).contents,
            content.name = creation.ref.media.name ∧
              ∃ channel ∈ content.channels,
                channel.bundle = some owner ∧ channel.id = some channelId) ∧
      ((∀ creation ∈ made, creation.owner = some owner → creation.member = some number) →
        ∀ view, ∀ content ∈ (bridge.conference.describeDeep view .empty).contents,
          ∀ channel ∈ content.channels, channel.bundle = some owner →
            ∃ channelId ∈ listed, channel.id = some channelId) := by
  intro bridge made
  have hattended : bridge.conference.AttendedBy (attendances _) :=
    attendedBy_after id name octoEnabled hcommands
  have hmade : bridge.conference.MadeBy made :=
    madeBy_after id name octoEnabled fun command hcommand =>
      (hcommands command hcommand).keepsOwners
  let listed := (bridge.conference.ownedChannels owner (attachedContents number made)).map
    fun entry => entry.2.id
  have hlisted : ∀ channelId, channelId ∈ listed ↔
      ∃ creation ∈ made, creation.member = some number ∧
        ∃ channel ∈ bridge.conference.channels creation.ref,
          channel.endpoint = some owner ∧ channel.id = channelId := fun channelId =>
    bridge.conference.mem_ownedChannels_iff
  refine ⟨listed, fun target => ?_, fun channelId => ?_, ?_⟩
  · have hfound := hattended.endpoint?_eq owner
    rw [hpresent] at hfound
    have hin : (number, endpoint) ∈ bridge.conference.present :=
      List.mem_of_find?_eq_some hfound.symm
    have hsame : (endpoint.id == owner) = true := by
      simpa using List.find?_some hfound.symm
    have hid : endpoint.id = owner := eq_of_beq hsame
    have hnumber := (hattended.get?_of_mem_present hin).2
    have hattached := hmade.attached number endpoint contents hnumber hkind
    have hbundle := bridge.conference.bundle_participant hkind
    rw [hid, hattached] at hbundle
    exact Bridge.answer_describeBundles (hattended.selected_singleton hpresent) hbundle target
  · rw [hlisted]
    simp only [Conference.exists_described_iff]
  · intro hjoined view content hcontent described hdescribed howner
    obtain ⟨ref, _, _, channel, hchannel, rfl⟩ :=
      Conference.exists_content_of_described hcontent hdescribed
    obtain ⟨key, hkey⟩ := Conference.mem_channels_iff.1 hchannel
    obtain ⟨_, creation, hcreation, rfl, hfor⟩ := hmade.channels ref key channel hkey
    have hmember := hjoined creation hcreation (hfor.trans howner)
    exact ⟨channel.id, (hlisted channel.id).2
      ⟨creation, hcreation, hmember, channel, hchannel, howner, rfl⟩, rfl⟩

/-- A participant joined in the place of another one. A channel was made for it in a content in
which one was made for the other, but none in the other content of that one. -/
theorem bundle_agrees_with_deep_description_rejoining :
    let commands : List Command :=
      [.addView true, .addParticipant "alice" none none,
        .createChannel ⟨0, .audio⟩ "c1" { endpoint := some "alice" },
        .createChannel ⟨1, .video⟩ "v1" { endpoint := some "alice" },
        .addParticipant "alice" none none,
        .createChannel ⟨0, .audio⟩ "c2" { endpoint := some "alice" },
        .addRecord .empty]
    let bridge := (Bridge.fresh "meeting" none true).after commands
    (∀ command ∈ commands, command.KeepsIds) ∧
      ∃ endpoint, bridge.conference.endpoint? "alice" = some (1, endpoint) ∧
        endpoint.kind = .participant [⟨0, .audio⟩] ∧
        ∃ listed : List String,
          (bridge.run (.describeBundles 0 ["alice"])).answer =
            .ok (.record { Description.Conference.empty with bundles := [⟨"alice", listed⟩] }) ∧
          "c1" ∈ listed ∧ "c2" ∈ listed ∧ "v1" ∉ listed := by
  intro commands bridge
  have hcommands : ∀ command ∈ commands, command.KeepsIds := by
    simp [commands, Command.KeepsIds]
  let endpoint : Endpoint :=
    { id := "alice", displayName := none, statsId := none, kind := .participant [⟨0, .audio⟩] }
  have hpresent : bridge.conference.endpoint? "alice" = some (1, endpoint) := by decide +kernel
  obtain ⟨listed, hanswer, hlisted, _⟩ :=
    bundle_agrees_with_deep_description "meeting" none true hcommands hpresent rfl
  have hrecord : bridge.record 0 = .empty := by decide +kernel
  have hgiven := hanswer 0
  rw [hrecord] at hgiven
  refine ⟨hcommands, endpoint, hpresent, rfl, listed, hgiven, ?_, ?_, ?_⟩
  · exact (hlisted "c1").2 (by decide +kernel)
  · exact (hlisted "c2").2 (by decide +kernel)
  · exact fun h => absurd ((hlisted "v1").1 h) (by decide +kernel)

/-- Every channel for an id was made while a participant took part under it, and one does now. But
it joined in the place of the other one, so its bundle lacks a channel that a deep description
reports for the id. -/
theorem bundle_of_replaced_participant_lacks_channel :
    let commands : List Command :=
      [.addParticipant "alice" none none,
        .createChannel ⟨0, .audio⟩ "c1" { endpoint := some "alice" },
        .addParticipant "alice" none none,
        .addRecord .empty]
    let bridge := (Bridge.fresh "meeting" none true).after commands
    (∀ creation ∈ creations ((Bridge.fresh "meeting" none true).turns commands),
      creation.owner = some "alice" → creation.member = some 0) ∧
    bridge.conference.endpoint? "alice" = some (1,
      { id := "alice", displayName := none, statsId := none, kind := .participant [] }) ∧
    (∃ content ∈ (bridge.conference.describeDeep 0 .empty).contents,
      ∃ channel ∈ content.channels, channel.bundle = some "alice" ∧ channel.id = some "c1") ∧
    (bridge.run (.describeBundles 0 ["alice"])).answer =
      .ok (.record { Description.Conference.empty with bundles := [⟨"alice", []⟩] }) := by
  decide +kernel

end ConferenceBridge
