import ConferenceBridge.Proofs.Conference.Run
import ConferenceBridge.Proofs.Searching

/-!
# What a record collects

A record that was empty at first is the summary of what was described into it since. It has one
content for each name, in order of the first description, and the content gathers the channels of
all descriptions under its name. Endpoints and bundles follow each other in order of description.
-/

namespace ConferenceBridge

namespace Description

/-- The channels that were described under a name. -/
def channelsUnder (name : String) (described : List (String × List Channel)) : List Channel :=
  (described.filter fun entry => entry.1 == name).flatMap Prod.snd

/-- One content for each name that was described, in order of the first description. -/
def grouped (described : List (String × List Channel)) : List Content :=
  (described.map Prod.fst).eraseDups.map fun name =>
    { name, channels := channelsUnder name described }

/-- Adds channels to contents under their names. -/
def extend (contents : List Content) (described : List (String × List Channel)) : List Content :=
  described.foldl
    (fun contents entry => Conference.updateFirst entry.1
      (fun content => { content with channels := content.channels ++ entry.2 }) contents)
    contents

/-- A further description adds its channels under its own name. -/
theorem channelsUnder_concat (name : String) (described : List (String × List Channel))
    (entry : String × List Channel) :
    channelsUnder name (described ++ [entry]) =
      channelsUnder name described ++ if entry.1 = name then entry.2 else [] := by
  rw [channelsUnder, List.filter_append, List.flatMap_append, ← channelsUnder]
  by_cases h : entry.1 = name <;> simp [h]

/-- Nothing is gathered under a name that was not described. -/
theorem channelsUnder_of_not_mem {name : String} {described : List (String × List Channel)}
    (h : name ∉ described.map Prod.fst) : channelsUnder name described = [] := by
  have hnone : described.filter (fun entry => entry.1 == name) = [] := by
    refine List.filter_eq_nil_iff.2 fun entry hentry hname => h ?_
    exact List.mem_map.2 ⟨entry, hentry, by simpa using hname⟩
  rw [channelsUnder, hnone, List.flatMap_nil]

/-- Among contents of different names, the one of a name is changed or comes last. -/
theorem Conference.updateFirst_map (name : String) (change : Content → Content)
    {make : String → Content} (hmake : ∀ other, (make other).name = other) {names : List String}
    (hnames : names.Nodup) :
    updateFirst name change (names.map make) =
      if name ∈ names then
        names.map fun other => if other = name then change (make other) else make other
      else names.map make ++ [change { name, channels := [] }] := by
  induction names with
  | nil => simp [updateFirst]
  | cons first rest ih =>
    obtain ⟨hfirst, hrest⟩ := List.nodup_cons.1 hnames
    by_cases hname : first = name
    · subst hname
      have hothers : rest.map (fun other => if other = first then change (make other)
          else make other) = rest.map make := by
        refine List.map_congr_left fun other hother => if_neg ?_
        rintro rfl
        exact hfirst hother
      simp [updateFirst, hmake, hothers]
    · have hlater := ih hrest
      rw [List.map_cons, updateFirst, hmake, if_neg hname, hlater]
      by_cases hmem : name ∈ rest <;> simp [hmem, hname, Ne.symm hname]

/-- Adding channels under a name to grouped contents groups them with the others. -/
theorem updateFirst_grouped (described : List (String × List Channel))
    (entry : String × List Channel) :
    Conference.updateFirst entry.1
        (fun content => { content with channels := content.channels ++ entry.2 })
        (grouped described) =
      grouped (described ++ [entry]) := by
  have hmem : entry.1 ∈ (described.map Prod.fst).eraseDups ↔ entry.1 ∈ described.map Prod.fst :=
    List.mem_eraseDups
  rw [grouped, Conference.updateFirst_map entry.1 _ (fun _ => rfl) (nodup_eraseDups _), grouped,
    List.map_append, List.map_singleton, eraseDups_concat]
  by_cases hold : entry.1 ∈ described.map Prod.fst
  · rw [if_pos (hmem.2 hold), if_pos hold]
    refine List.map_congr_left fun name _ => ?_
    by_cases hname : name = entry.1
    · simp [hname, channelsUnder_concat]
    · simp [hname, Ne.symm hname, channelsUnder_concat]
  · rw [if_neg (fun h => hold (hmem.1 h)), if_neg hold, List.map_append, List.map_singleton]
    have hothers : ∀ name ∈ (described.map Prod.fst).eraseDups,
        channelsUnder name described = channelsUnder name (described ++ [entry]) := by
      intro name hname
      have hne : entry.1 ≠ name := by
        rintro rfl
        exact hold (hmem.1 hname)
      rw [channelsUnder_concat, if_neg hne, List.append_nil]
    have hlast : channelsUnder entry.1 (described ++ [entry]) = entry.2 := by
      rw [channelsUnder_concat, channelsUnder_of_not_mem hold, if_pos rfl, List.nil_append]
    rw [hlast, List.map_congr_left fun name hname => by rw [hothers name hname]]
    rfl

/-- Adding to grouped contents one after the other groups the additions with them. -/
theorem extend_grouped (earlier later : List (String × List Channel)) :
    extend (grouped earlier) later = grouped (earlier ++ later) := by
  induction later generalizing earlier with
  | nil => rw [extend, List.foldl_nil, List.append_nil]
  | cons entry rest ih =>
    have hrest := ih (earlier ++ [entry])
    rw [List.append_assoc, List.singleton_append] at hrest
    rw [extend, List.foldl_cons, updateFirst_grouped, ← extend, hrest]

end Description

/-! ### Portions -/

/-- What is described into a record at once. -/
structure Portion where
  /-- Whether the id and the name of the conference are given. -/
  heading : Bool := false
  /-- Channels under the names of their contents. -/
  contents : List (String × List Description.Channel) := []
  /-- Endpoints. -/
  endpoints : List Description.Endpoint := []
  /-- Bundles. -/
  bundles : List Description.Bundle := []

/-- What has been answered before the first failure. -/
def untilFailure {ε α : Type} (answers : List (Except ε α)) : List α :=
  (answers.takeWhile Except.isOk).filterMap Except.toOption

/-- The record that a turn describes into, and what it describes. -/
def Turn.portion? : Turn → Option (Nat × Portion)
  | ⟨_, .describeShallow number⟩ => some (number, { heading := true })
  | ⟨before, .describeDeep view number⟩ =>
    some (number, {
      heading := true
      contents := (before.conference.contents view).map fun entry =>
        (entry.1.name, entry.2.values.map fun channel => {
          id := some channel.id
          endpoint := channel.endpoint
          expire := some channel.expire
          direction := some channel.direction
          lastN := channel.lastN
          bundle := channel.endpoint }) })
  | ⟨before, .describeEndpoints number⟩ =>
    some (number, {
      endpoints := before.conference.present.map fun entry => {
        id := some entry.2.id
        statsId := entry.2.statsId
        displayName := entry.2.displayName } })
  | ⟨before, .describeBundles number ids⟩ =>
    some (number, {
      bundles := untilFailure ((before.conference.selected ids).map before.conference.bundle) })
  | _ => none

/-- What a turn describes into a record. -/
def Turn.portionFor? (number : Nat) (turn : Turn) : Option Portion :=
  turn.portion?.bind fun (target, portion) => if target = number then some portion else none

/-- What several turns describe into a record. -/
def portions (number : Nat) (past : List Turn) : List Portion :=
  past.filterMap (Turn.portionFor? number)

/-- Adds a portion to a record of the conference with an id and a name. -/
def Portion.addTo (id : String) (name : Option String) (portion : Portion)
    (record : Description.Conference) : Description.Conference where
  id := if portion.heading then some id else record.id
  name := if portion.heading then name else record.name
  contents := Description.extend record.contents portion.contents
  endpoints := record.endpoints ++ portion.endpoints
  bundles := record.bundles ++ portion.bundles

/-- The record that several portions make up, of the conference with an id and a name. -/
def summary (id : String) (name : Option String) (parts : List Portion) :
    Description.Conference where
  id := if parts.any Portion.heading then some id else none
  name := if parts.any Portion.heading then name else none
  contents := Description.grouped (parts.flatMap Portion.contents)
  endpoints := parts.flatMap Portion.endpoints
  bundles := parts.flatMap Portion.bundles

/-- A further portion is added to the summary of the others. -/
theorem summary_concat (id : String) (name : Option String) (parts : List Portion)
    (portion : Portion) :
    summary id name (parts ++ [portion]) = portion.addTo id name (summary id name parts) := by
  have hcontents :=
    Description.extend_grouped (parts.flatMap Portion.contents) portion.contents
  rw [Portion.addTo]
  simp only [summary, hcontents, List.flatMap_append, List.flatMap_singleton, List.any_append,
    List.any_cons, List.any_nil, Bool.or_false]
  cases portion.heading <;> simp

/-- Describing contents adds their channels under their names. -/
theorem Conference.foldl_describeContent (entries : List (MediaType × Content))
    (record : Description.Conference) :
    entries.foldl describeContent record =
      { record with
        contents := Description.extend record.contents
          (entries.map fun entry => (entry.1.name, entry.2.values.map Channel.describe)) } := by
  induction entries generalizing record with
  | nil => rfl
  | cons entry rest ih =>
    rw [List.foldl_cons, ih]
    rfl

/-- Asking stops at the first failure. -/
theorem bundles_collect (ask : Endpoint → Except Failure Description.Bundle)
    (endpoints : List Endpoint) :
    (BundleBatch.collect ask endpoints).bundles = untilFailure (endpoints.map ask) := by
  induction endpoints with
  | nil => rfl
  | cons endpoint rest ih =>
    unfold BundleBatch.collect
    rw [List.map_cons]
    cases ask endpoint with
    | error failure => rfl
    | ok bundle =>
      dsimp only
      rw [ih]
      rfl

/-! ### Commands -/

/-- A command that replaces a record otherwise than by describing into it. -/
def Command.Overwrites (number : Nat) : Command → Prop
  | .storeRecord target _ | .openRecordContent target _ => target = number
  | _ => False

namespace Bridge

variable {bridge : Bridge}

/-- What a describing command does is to add its portion to its record. -/
theorem bridge_run_of_portion {command : Command} {target : Nat} {portion : Portion}
    (h : Turn.portion? ⟨bridge, command⟩ = some (target, portion)) :
    (bridge.run command).bridge =
      bridge.withRecord target
        (portion.addTo bridge.conference.id bridge.conference.name (bridge.record target)) := by
  cases command with
  | describeShallow number =>
    cases h
    simp only [Portion.addTo, List.append_nil, if_true]
    rfl
  | describeDeep view number =>
    cases h
    rw [run, replyRecord, reply, Conference.describeDeep, Conference.foldl_describeContent]
    simp only [Portion.addTo, List.append_nil, if_true]
    rfl
  | describeEndpoints number =>
    cases h
    simp only [Portion.addTo, List.append_nil, Bool.false_eq_true, if_false]
    rfl
  | describeBundles number ids =>
    cases h
    rw [run, bridge_describeBundles, Conference.bundles, bundles_collect]
    simp only [Portion.addTo, List.append_nil, Bool.false_eq_true, if_false]
    rfl
  | _ => cases h

/-- A describing command leaves the conference as it is. -/
theorem conference_run_of_portion {turn : Turn} (h : turn.portion?.isSome) :
    (turn.before.run turn.command).bridge.conference = turn.before.conference := by
  obtain ⟨⟨target, portion⟩, hportion⟩ := Option.isSome_iff_exists.1 h
  rw [bridge_run_of_portion hportion]
  rfl

/-- Replacing a record leaves the others as they are. -/
theorem getElem?_withRecord (target number : Nat) (record : Description.Conference) :
    (bridge.withRecord target record).records[number]? =
      if target = number then bridge.records[number]?.map fun _ => record
      else bridge.records[number]? := by
  rw [withRecord, List.getElem?_set]
  split
  · next hsame =>
    subst hsame
    by_cases hlt : target < bridge.records.length <;> simp [hlt]
  · rfl

/-- A command that does not describe leaves a record as it is unless it overwrites it. -/
theorem getElem?_run_of_none {command : Command} {number : Nat} {record : Description.Conference}
    (hnone : Turn.portion? ⟨bridge, command⟩ = none) (hcommand : ¬command.Overwrites number)
    (hrecord : bridge.records[number]? = some record) :
    (bridge.run command).bridge.records[number]? = some record := by
  cases command with
  | describeShallow | describeDeep | describeEndpoints | describeBundles => cases hnone
  | storeRecord target other =>
    have hother : target ≠ number := hcommand
    rw [run, replyRecord, reply, getElem?_withRecord, if_neg hother]
    exact hrecord
  | openRecordContent target name =>
    have hother : target ≠ number := hcommand
    rw [run, reply, getElem?_withRecord, if_neg hother]
    exact hrecord
  | addRecord other =>
    have hlt : number < bridge.records.length := (List.getElem?_eq_some_iff.1 hrecord).1
    exact (List.getElem?_append_left hlt).trans hrecord
  | updateEndpoint description =>
    obtain ⟨_, _, _, hupdated⟩ := bridge.bridge_updateEndpoint description
    rwa [run, hupdated]
  | reconcile view audio video =>
    obtain ⟨_, hrelayed⟩ := bridge.bridge_reconcile view audio video
    rwa [run, hrelayed]
  | _ => exact hrecord

/-- No command renames the conference. -/
theorem identity_run (bridge : Bridge) (command : Command) :
    (bridge.run command).bridge.conference.id = bridge.conference.id ∧
      (bridge.run command).bridge.conference.name = bridge.conference.name := by
  cases command with
  | rejoinEndpoint number =>
    unfold run Conference.rejoinEndpoint
    dsimp only
    split <;> exact ⟨rfl, rfl⟩
  | createChannel ref id options =>
    unfold run Conference.createChannel Conference.attach
    dsimp only
    split <;> exact ⟨rfl, rfl⟩
  | changeChannel ref id change =>
    unfold run Conference.changeChannel
    dsimp only
    split <;> exact ⟨rfl, rfl⟩
  | updateEndpoint description =>
    obtain ⟨_, _, _, hupdated⟩ := bridge.bridge_updateEndpoint description
    rw [run, hupdated]
    exact ⟨rfl, rfl⟩
  | reconcile view audio video =>
    obtain ⟨_, hrelayed⟩ := bridge.bridge_reconcile view audio video
    rw [run, hrelayed]
    exact ⟨rfl, rfl⟩
  | describeBundles number ids =>
    rw [run, bridge_describeBundles]
    exact ⟨rfl, rfl⟩
  | _ => exact ⟨rfl, rfl⟩

/-- A bridge whose conference has an id and a name, and whose record of a number is the summary of
what was described into it. -/
structure Collects (id : String) (name : Option String) (number : Nat) (past : List Turn)
    (bridge : Bridge) : Prop where
  /-- The conference has the id. -/
  id_eq : bridge.conference.id = id
  /-- The conference has the name. -/
  name_eq : bridge.conference.name = name
  /-- The record is the summary. -/
  record_eq : bridge.records[number]? = some (summary id name (portions number past))

/-- A command that does not overwrite the record keeps it the summary. -/
theorem Collects.run {id : String} {name : Option String} {number : Nat} {past : List Turn}
    {bridge : Bridge} (command : Command) (hcommand : ¬command.Overwrites number)
    (h : bridge.Collects id name number past) :
    (bridge.run command).bridge.Collects id name number (past ++ [⟨bridge, command⟩]) := by
  obtain ⟨hid, hname⟩ := identity_run bridge command
  refine ⟨hid.trans h.id_eq, hname.trans h.name_eq, ?_⟩
  rw [portions, filterMap_concat, ← portions, Turn.portionFor?]
  cases hturn : Turn.portion? ⟨bridge, command⟩ with
  | none =>
    have hrecord := getElem?_run_of_none hturn hcommand h.record_eq
    simpa using hrecord
  | some described =>
    obtain ⟨target, portion⟩ := described
    rw [bridge_run_of_portion hturn, getElem?_withRecord, h.record_eq]
    by_cases htarget : target = number
    · subst htarget
      have hold : bridge.record target = summary id name (portions target past) := by
        rw [record, h.record_eq, Option.getD_some]
      rw [hold, h.id_eq, h.name_eq]
      simp [summary_concat]
    · simp [htarget]

end Bridge

/-- Whatever happens to a bridge, a record that was empty collects exactly what is described into
it. Its contents have different names, in order of the first description, and each one holds the
channels of all descriptions under its name. Endpoints and bundles stand in order of description,
and the id and the name are given as soon as the conference has been described. Describing leaves
the conference as it is. -/
theorem record_after_describing (bridge : Bridge) {number : Nat}
    (hempty : bridge.records[number]? = some .empty) {commands : List Command}
    (hcommands : ∀ command ∈ commands, ¬command.Overwrites number) :
    let parts := portions number (bridge.turns commands)
    let described := parts.flatMap Portion.contents
    ∃ record, (bridge.after commands).records[number]? = some record ∧
      (record.contents.map Description.Content.name).Nodup ∧
      record.contents.map Description.Content.name = (described.map Prod.fst).eraseDups ∧
      (∀ content ∈ record.contents,
        content.channels = Description.channelsUnder content.name described) ∧
      record.endpoints = parts.flatMap Portion.endpoints ∧
      record.bundles = parts.flatMap Portion.bundles ∧
      record.id = (if parts.any Portion.heading then some bridge.conference.id else none) ∧
      record.name = (if parts.any Portion.heading then bridge.conference.name else none) ∧
      ∀ turn ∈ bridge.turns commands, turn.portion?.isSome →
        (turn.before.run turn.command).bridge.conference = turn.before.conference := by
  intro parts described
  have hstart : bridge.Collects bridge.conference.id bridge.conference.name number [] :=
    ⟨rfl, rfl, hempty⟩
  have hend := Bridge.holdsAlong
    (fun past after => after.Collects bridge.conference.id bridge.conference.name number past)
    Bridge.Collects.run hcommands hstart
  have hnames : (Description.grouped described).map Description.Content.name =
      (described.map Prod.fst).eraseDups := by
    rw [Description.grouped, List.map_map]
    exact List.map_id _
  refine ⟨_, hend.record_eq, ?_, hnames, ?_, rfl, rfl, rfl, rfl,
    fun _ _ => Bridge.conference_run_of_portion⟩
  · have hdistinct := nodup_eraseDups (described.map Prod.fst)
    rwa [← hnames] at hdistinct
  · intro content hcontent
    obtain ⟨name, _, rfl⟩ := List.mem_map.1 hcontent
    rfl

/-- A record into which two views are described, one of them twice, and bundles up to an endpoint
that fails. -/
theorem record_after_describing_views :
    let bridge := (Bridge.fresh "meeting" (some "Weekly") true).after
      [.addView false, .addRecord .empty]
    let commands : List Command :=
      [.addParticipant "alice" none none,
        .addIndependent "relay" none none none none (some (.transport .timedOut "timed out")),
        .createChannel ⟨0, .audio⟩ "a1" { endpoint := some "alice" },
        .createChannel ⟨1, .video⟩ "v1" {},
        .describeDeep 1 0,
        .createChannel ⟨1, .audio⟩ "a2" { endpoint := some "alice" },
        .describeDeep 0 0, .describeEndpoints 0, .describeBundles 0 ["relay", "alice"],
        .removeEndpoint "alice", .describeDeep 1 0]
    bridge.records[0]? = some .empty ∧ (∀ command ∈ commands, ¬command.Overwrites 0) ∧
      ∃ record, (bridge.after commands).records[0]? = some record ∧
        record.contents.map Description.Content.name = ["video", "audio"] ∧
        record.endpoints.map Description.Endpoint.id = [some "alice", some "relay"] ∧
        record.bundles = [⟨"alice", ["a1", "a2"]⟩] ∧ record.id = some "meeting" := by
  intro bridge commands
  have hempty : bridge.records[0]? = some .empty := by decide +kernel
  have hcommands : ∀ command ∈ commands, ¬command.Overwrites 0 := by
    simp [commands, Command.Overwrites]
  obtain ⟨record, hrecord, _, hnames, _, hendpoints, hbundles, hid, _⟩ :=
    record_after_describing bridge hempty hcommands
  refine ⟨hempty, hcommands, record, hrecord, hnames.trans ?_, ?_, hbundles.trans ?_, hid.trans ?_⟩
  · decide +kernel
  · rw [hendpoints]
    decide +kernel
  · decide +kernel
  · decide +kernel

end ConferenceBridge
