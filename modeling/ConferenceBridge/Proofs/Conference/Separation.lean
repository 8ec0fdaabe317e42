import ConferenceBridge.Proofs.Conference.Contents
import ConferenceBridge.Proofs.Conference.Records
import ConferenceBridge.Proofs.Octo.Teardown

/-!
# The relay apart from the rest

Commands on the relay configuration and all other commands work on different parts of a bridge. Only
the id of the conference and the views' switches are looked at by both, and these stay as they are
unless a view is made. A run is therefore two runs side by side, and it does not matter how the
commands of the two are interleaved.
-/

namespace ConferenceBridge

/-- Whether a command is about the relay configuration. -/
def Command.isRelaying : Command → Bool
  | .reconcile .. | .openTentacle => true
  | _ => false

/-- Whether a command makes a view. -/
def Command.addsView : Command → Bool
  | .addView _ => true
  | _ => false

/-- The reconciliation that a turn carries out, if its view accepts Octo channels. -/
def Turn.reconciliation? : Turn → Option Octo.Operation
  | ⟨before, .reconcile view audio video⟩ =>
    if before.acceptsOcto view then some (.reconcile audio video) else none
  | _ => none

/-- The reconciliations that several turns carry out. -/
def reconciliations (past : List Turn) : List Octo.Operation := past.filterMap Turn.reconciliation?

/-- What is to be seen of a command: its answer and what was reported. -/
structure Outcome where
  /-- The command. -/
  command : Command
  /-- The answer, or why there is none. -/
  answer : Except Error Answer
  /-- What was reported. -/
  notices : List Notice

/-- The outcome of a turn. -/
def Turn.outcome (turn : Turn) : Outcome where
  command := turn.command
  answer := (turn.before.run turn.command).answer
  notices := (turn.before.run turn.command).notices

namespace Bridge

/-- The bridge with another relay configuration, or none. -/
def withTentacle (bridge : Bridge) (tentacle : Option Tentacle) : Bridge :=
  { bridge with conference := { bridge.conference with tentacle } }

/-- The switches of all views. -/
def gates (bridge : Bridge) : List Bool := bridge.conference.views.map View.octoEnabled

/-- The outcomes of several commands in order. -/
def outcomes (bridge : Bridge) (commands : List Command) : List Outcome :=
  (bridge.turns commands).map Turn.outcome

/-- A view accepts Octo channels as its switch says. -/
theorem acceptsOcto_eq (bridge : Bridge) (view : Nat) :
    bridge.acceptsOcto view = bridge.gates[view]?.getD false := by
  rw [acceptsOcto, gates, List.getElem?_map]
  cases bridge.conference.views[view]? <;> rfl

/-! ### Commands on the rest -/

/-- A command on the rest does the same whatever the relay configuration is, and leaves it as it
is. -/
theorem run_withTentacle (bridge : Bridge) (tentacle : Option Tentacle) {command : Command}
    (hcommand : command.isRelaying = false) :
    (bridge.withTentacle tentacle).run command =
      { bridge.run command with bridge := (bridge.run command).bridge.withTentacle tentacle } := by
  cases command with
  | reconcile | openTentacle => cases hcommand
  | rejoinEndpoint number =>
    unfold run Conference.rejoinEndpoint withTentacle
    dsimp only
    split <;> rfl
  | createChannel ref id options =>
    unfold run Conference.createChannel Conference.attach withTentacle
    dsimp only [Conference.modifyContent]
    split <;> rfl
  | changeChannel ref id change =>
    have hcontent : (bridge.withTentacle tentacle).conference.content ref =
        bridge.conference.content ref := rfl
    simp only [run, Conference.changeChannel, hcontent]
    cases (bridge.conference.content ref).get? id <;> rfl
  | updateEndpoint description =>
    have hendpoint : ∀ id, (bridge.withTentacle tentacle).conference.endpoint? id =
        bridge.conference.endpoint? id := fun _ => rfl
    simp only [run, updateEndpoint, hendpoint]
    cases description.id with
    | none => rfl
    | some id =>
      dsimp only
      cases bridge.conference.endpoint? id <;> rfl
  | describeBundles number ids =>
    have hbundles : (bridge.withTentacle tentacle).conference.bundles ids =
        bridge.conference.bundles ids := rfl
    simp only [run, describeBundles, hbundles]
    cases (bridge.conference.bundles ids).failed <;> rfl
  | _ => rfl

/-- A command on the rest leaves the relay configuration as it is. -/
theorem tentacle_run (bridge : Bridge) {command : Command} (hcommand : command.isRelaying = false) :
    (bridge.run command).bridge.conference.tentacle = bridge.conference.tentacle :=
  congrArg (fun reply => reply.bridge.conference.tentacle)
    (bridge.run_withTentacle bridge.conference.tentacle hcommand)

/-- A change of a content leaves the switches as they are. -/
theorem switches_modifyContent (conference : Conference) (ref : ContentRef)
    (change : Content → Content) :
    (conference.modifyContent ref change).views.map View.octoEnabled =
      conference.views.map View.octoEnabled := by
  refine List.ext_getElem? fun view => ?_
  rw [Conference.modifyContent, List.getElem?_map, List.getElem?_map, List.getElem?_modify,
    Option.map_eq_map, Option.map_map]
  refine Option.map_congr fun found _ => ?_
  simp only [Function.comp_apply]
  split <;> rfl

/-- Only a command that makes a view adds a switch, and none changes one. -/
theorem gates_run (bridge : Bridge) {command : Command} (hcommand : command.addsView = false) :
    (bridge.run command).bridge.gates = bridge.gates := by
  cases command with
  | addView => cases hcommand
  | rejoinEndpoint number =>
    unfold run Conference.rejoinEndpoint
    dsimp only
    split <;> rfl
  | openContent ref | findChannel ref | listChannels ref => exact switches_modifyContent _ ref _
  | createChannel ref id options =>
    rw [gates, run, replyWith, reply, Conference.createChannel, Conference.views_attach]
    exact switches_modifyContent _ ref _
  | changeChannel ref id change =>
    rw [gates, run, replyWith, reply, Conference.changeChannel]
    split <;> exact switches_modifyContent _ ref _
  | updateEndpoint description =>
    obtain ⟨_, _, _, hupdated⟩ := bridge.bridge_updateEndpoint description
    rw [run, hupdated]
    rfl
  | reconcile view audio video =>
    obtain ⟨_, hrelayed⟩ := bridge.bridge_reconcile view audio video
    rw [run, hrelayed]
    rfl
  | describeBundles number ids =>
    rw [run, bridge_describeBundles]
    rfl
  | _ => rfl

/-! ### Commands on the relay configuration -/

/-- A command on the relay configuration looks at it, at the conference's id and at the switches,
and changes the relay configuration alone. -/
theorem run_relaying {rest relay : Bridge} (hid : rest.conference.id = relay.conference.id)
    (hgates : rest.gates = relay.gates) {command : Command} (hcommand : command.isRelaying = true) :
    (rest.withTentacle relay.conference.tentacle).run command =
      { relay.run command with
        bridge := rest.withTentacle (relay.run command).bridge.conference.tentacle } := by
  cases command with
  | reconcile view audio video =>
    have haccepts : (rest.withTentacle relay.conference.tentacle).acceptsOcto view =
        relay.acceptsOcto view := by
      rw [acceptsOcto_eq, acceptsOcto_eq, ← hgates]
      rfl
    have htrace : Octo.reconcile (rest.withTentacle relay.conference.tentacle).conference.id
        (rest.withTentacle relay.conference.tentacle).conference.relayed audio video =
        Octo.reconcile relay.conference.id relay.conference.relayed audio video :=
      congrArg (fun id => Octo.reconcile id relay.conference.relayed audio video) hid
    simp only [run, reconcile, haccepts, htrace]
    cases relay.acceptsOcto view <;> rfl
  | openTentacle => rfl
  | _ => cases hcommand

/-- A command on the relay configuration changes it alone. -/
theorem exists_withTentacle_run (bridge : Bridge) {command : Command}
    (hcommand : command.isRelaying = true) :
    ∃ tentacle, (bridge.run command).bridge = bridge.withTentacle tentacle := by
  have hid : bridge.conference.id = bridge.conference.id := rfl
  have hgates : bridge.gates = bridge.gates := rfl
  exact ⟨_, congrArg Reply.bridge (run_relaying hid hgates hcommand)⟩

/-! ### Runs side by side -/

/-- The first command is run first, and the others from the state that it leaves. -/
theorem after_cons (bridge : Bridge) (command : Command) (commands : List Command) :
    bridge.after (command :: commands) = (bridge.run command).bridge.after commands := rfl

/-- The outcome of the first command comes first, and those of the others follow from the state that
it leaves. -/
theorem outcomes_cons (bridge : Bridge) (command : Command) (commands : List Command) :
    bridge.outcomes (command :: commands) =
      ⟨command, (bridge.run command).answer, (bridge.run command).notices⟩ ::
        (bridge.run command).bridge.outcomes commands := rfl

/-- A run is one on the rest and one on the relay configuration side by side, which end in the state
that has the relay configuration of the one and all else of the other. Each command has the outcome
that it has in its own run. -/
theorem after_side_by_side {rest relay : Bridge} (hid : rest.conference.id = relay.conference.id)
    (hgates : rest.gates = relay.gates) {commands : List Command}
    (hviews : ∀ command ∈ commands, command.addsView = false) :
    let others := commands.filter fun command => !command.isRelaying
    let relaying := commands.filter Command.isRelaying
    let whole := rest.withTentacle relay.conference.tentacle
    whole.after commands =
        (rest.after others).withTentacle (relay.after relaying).conference.tentacle ∧
      (whole.outcomes commands).filter (fun outcome => !outcome.command.isRelaying) =
        rest.outcomes others ∧
      (whole.outcomes commands).filter (fun outcome => outcome.command.isRelaying) =
        relay.outcomes relaying := by
  induction commands generalizing rest relay with
  | nil => exact ⟨rfl, rfl, rfl⟩
  | cons command commands ih =>
    obtain ⟨hview, hlater⟩ := List.forall_mem_cons.1 hviews
    intro others relaying whole
    cases hcommand : command.isRelaying with
    | false =>
      have hrun := rest.run_withTentacle relay.conference.tentacle hcommand
      have hothers : others = command :: commands.filter fun command => !command.isRelaying :=
        List.filter_cons_of_pos (by simp [hcommand])
      have hrelaying : relaying = commands.filter Command.isRelaying :=
        List.filter_cons_of_neg (by simp [hcommand])
      obtain ⟨hstate, hrest, hrelay⟩ := ih
        ((identity_run rest command).1.trans hid) ((rest.gates_run hview).trans hgates) hlater
      rw [hothers, hrelaying]
      simp only [whole, after_cons, outcomes_cons, hrun, List.filter_cons, hcommand, Bool.not_false,
        Bool.false_eq_true, if_true, if_false, hrest]
      exact ⟨hstate, trivial, hrelay⟩
    | true =>
      have hrun := run_relaying hid hgates hcommand
      have hothers : others = commands.filter fun command => !command.isRelaying :=
        List.filter_cons_of_neg (by simp [hcommand])
      have hrelaying : relaying = command :: commands.filter Command.isRelaying :=
        List.filter_cons_of_pos (by simp [hcommand])
      obtain ⟨hstate, hrest, hrelay⟩ := ih
        (hid.trans (identity_run relay command).1.symm)
        (hgates.trans (relay.gates_run hview).symm) hlater
      rw [hothers, hrelaying]
      simp only [whole, after_cons, outcomes_cons, hrun, List.filter_cons, hcommand, Bool.not_true,
        Bool.false_eq_true, if_true, if_false, hrelay]
      exact ⟨hstate, hrest, trivial⟩

/-- It does not matter how commands on the relay configuration are interleaved with the others. -/
theorem interleaved_eq (bridge : Bridge) {first second : List Command}
    (hfirst : ∀ command ∈ first, command.addsView = false)
    (hsecond : ∀ command ∈ second, command.addsView = false)
    (hrelaying : first.filter Command.isRelaying = second.filter Command.isRelaying)
    (hothers : first.filter (fun command => !command.isRelaying) =
      second.filter fun command => !command.isRelaying) :
    bridge.after first = bridge.after second ∧
      (bridge.outcomes first).filter (fun outcome => outcome.command.isRelaying) =
        (bridge.outcomes second).filter (fun outcome => outcome.command.isRelaying) ∧
      (bridge.outcomes first).filter (fun outcome => !outcome.command.isRelaying) =
        (bridge.outcomes second).filter fun outcome => !outcome.command.isRelaying := by
  have hid : bridge.conference.id = bridge.conference.id := rfl
  have hgates : bridge.gates = bridge.gates := rfl
  obtain ⟨hstate₁, hrest₁, hrelay₁⟩ := after_side_by_side hid hgates hfirst
  obtain ⟨hstate₂, hrest₂, hrelay₂⟩ := after_side_by_side hid hgates hsecond
  rw [← hrelaying, ← hothers] at hstate₂
  rw [← hrelaying] at hrelay₂
  rw [← hothers] at hrest₂
  exact ⟨hstate₁.trans hstate₂.symm, hrelay₁.trans hrelay₂.symm, hrest₁.trans hrest₂.symm⟩

/-! ### The relay configuration along a run -/

/-- A bridge whose conference has an id, and whose relay configuration is what the reconciliations
so far have left of a fresh one. There is none before it is put to use. -/
structure Relays (id : String) (past : List Turn) (bridge : Bridge) : Prop where
  /-- The conference has the id. -/
  id_eq : bridge.conference.id = id
  /-- The relay configuration comes from the reconciliations. -/
  relayed_eq : bridge.conference.relayed =
    (Octo.history id .fresh (reconciliations past)).tentacle
  /-- It is there once it was asked for or brought in line with channels. -/
  unused_iff : bridge.conference.tentacle = none ↔
    reconciliations past = [] ∧ .openTentacle ∉ past.map Turn.command

/-- Each command keeps the relay configuration what the reconciliations have left. -/
theorem Relays.run {id : String} {past : List Turn} {bridge : Bridge} (command : Command)
    (h : bridge.Relays id past) :
    (bridge.run command).bridge.Relays id (past ++ [⟨bridge, command⟩]) := by
  have hid := (identity_run bridge command).1.trans h.id_eq
  have hpast : reconciliations (past ++ [⟨bridge, command⟩]) =
      reconciliations past ++ (Turn.reconciliation? ⟨bridge, command⟩).toList :=
    filterMap_concat _ _ _
  cases hcommand : command.isRelaying with
  | false =>
    have htentacle := bridge.tentacle_run hcommand
    have hnone : Turn.reconciliation? ⟨bridge, command⟩ = none := by
      cases command with
      | reconcile => cases hcommand
      | _ => rfl
    have hother : command ≠ .openTentacle := by
      rintro rfl
      cases hcommand
    rw [hnone, Option.toList_none, List.append_nil] at hpast
    refine ⟨hid, ?_, ?_⟩
    · rw [hpast, ← h.relayed_eq, Conference.relayed, htentacle, Conference.relayed]
    · rw [hpast, htentacle, h.unused_iff]
      simp [Ne.symm hother]
  | true =>
    cases command with
    | openTentacle =>
      have hnone : Turn.reconciliation? ⟨bridge, .openTentacle⟩ = none := rfl
      rw [hnone, Option.toList_none, List.append_nil] at hpast
      refine ⟨hid, ?_, ?_⟩
      · rw [hpast, ← h.relayed_eq]
        rfl
      · simp [Bridge.run, replyWith, reply, Conference.openTentacle]
    | reconcile view audio video =>
      cases haccepts : bridge.acceptsOcto view with
      | false =>
        have hrun : (bridge.run (.reconcile view audio video)).bridge = bridge := by
          simp [Bridge.run, reconcile, haccepts]
        have hnone : Turn.reconciliation? ⟨bridge, .reconcile view audio video⟩ = none := by
          simp [Turn.reconciliation?, haccepts]
        rw [hnone, Option.toList_none, List.append_nil] at hpast
        rw [hrun]
        exact ⟨h.id_eq, hpast ▸ h.relayed_eq, by simp [hpast, h.unused_iff]⟩
      | true =>
        have hrun : (bridge.run (.reconcile view audio video)).bridge =
            bridge.withTentacle (Octo.reconcile bridge.conference.id bridge.conference.relayed
              audio video).tentacle := by
          simp [Bridge.run, reconcile, haccepts, replyWith, reply, withTentacle]
        have hsome : Turn.reconciliation? ⟨bridge, .reconcile view audio video⟩ =
            some (.reconcile audio video) := by
          simp [Turn.reconciliation?, haccepts]
        rw [hsome, Option.toList_some] at hpast
        refine ⟨hid, ?_, ?_⟩
        · rw [hpast, hrun, Octo.history_append_tentacle, ← h.relayed_eq, ← h.id_eq]
          rfl
        · simp [hpast, hrun, withTentacle]
    | _ => cases hcommand

end Bridge

/-- The relay configuration and the rest of a conference keep apart, whatever happens to the
conference. The relay configuration is what the reconciliations through views that accept them have
left of a fresh one, and it is there once it was put to use. A view that does not accept Octo
channels refuses them, and nothing happens. No other command changes the relay configuration, and
commands on it change nothing else. How the two kinds of commands are interleaved makes no
difference, neither to the state nor to what any command answers and reports, as long as no view is
made. -/
theorem relay_keeps_apart (id : String) (name : Option String) (octoEnabled : Bool)
    (commands : List Command) :
    let bridge := (Bridge.fresh id name octoEnabled).after commands
    let accepted := reconciliations ((Bridge.fresh id name octoEnabled).turns commands)
    (bridge.conference.relayed = (Octo.history id .fresh accepted).tentacle ∧
      (bridge.run .openTentacle).answer =
        .ok (.tentacle (Octo.history id .fresh accepted).tentacle) ∧
      (bridge.conference.tentacle = none ↔ accepted = [] ∧ .openTentacle ∉ commands)) ∧
    (∀ view audio video, bridge.acceptsOcto view = false →
      bridge.run (.reconcile view audio video) =
        { bridge
          answer := .error <|
            .processing ⟨.featureNotImplemented, some "Octo is not enabled"⟩ none
          notices := [] }) ∧
    (∀ command, command.isRelaying = false →
      (bridge.run command).bridge.conference.tentacle = bridge.conference.tentacle) ∧
    (∀ command, command.isRelaying = true →
      ∃ tentacle, (bridge.run command).bridge = bridge.withTentacle tentacle) ∧
    ∀ first second, (∀ command ∈ first ++ second, command.addsView = false) →
      first.filter Command.isRelaying = second.filter Command.isRelaying →
      (first.filter fun command => !command.isRelaying) =
        (second.filter fun command => !command.isRelaying) →
      bridge.after first = bridge.after second ∧
        (bridge.outcomes first).filter (fun outcome => outcome.command.isRelaying) =
          (bridge.outcomes second).filter (fun outcome => outcome.command.isRelaying) ∧
        (bridge.outcomes first).filter (fun outcome => !outcome.command.isRelaying) =
          (bridge.outcomes second).filter fun outcome => !outcome.command.isRelaying := by
  intro bridge accepted
  have hstart : (Bridge.fresh id name octoEnabled).Relays id [] :=
    ⟨rfl, rfl, by simp [reconciliations, Bridge.fresh, Conference.fresh, Conference.addView]⟩
  have hrelays : bridge.Relays id ((Bridge.fresh id name octoEnabled).turns commands) :=
    Bridge.holdsAlong (fun past bridge => bridge.Relays id past)
      (fun command (_ : True) h => h.run command) (fun _ _ => trivial) hstart
  refine ⟨⟨hrelays.relayed_eq, ?_, ?_⟩, ?_, fun _ => bridge.tentacle_run,
    fun _ => bridge.exists_withTentacle_run, ?_⟩
  · rw [← hrelays.relayed_eq]
    rfl
  · rw [hrelays.unused_iff, Bridge.map_command_turns]
  · intro view audio video hrefuses
    simp [Bridge.run, Bridge.reconcile, hrefuses, Bridge.octoDisabled]
  · intro first second hviews
    obtain ⟨hfirst, hsecond⟩ := List.forall_mem_append.1 hviews
    exact bridge.interleaved_eq hfirst hsecond

/-- Two views, one of which refuses Octo channels, and two ways of interleaving the same
commands. -/
theorem relay_keeps_apart_refusing_view :
    let audio : OctoChannel :=
      { id := none, expire := 60, relays := .ofList ["10.0.0.1:4096"],
        extensions := [⟨1, "urn:level"⟩], payloadTypes := [], sources := [], groups := [] }
    let bridge := (Bridge.fresh "meeting" none true).after [.addView false, .addRecord .empty]
    let relaying : List Command :=
      [.reconcile 1 audio audio, .reconcile 0 audio audio, .openTentacle]
    let others : List Command :=
      [.addParticipant "alice" none none, .createChannel ⟨1, .video⟩ "c1" { endpoint := "alice" },
        .describeDeep 1 0]
    let first := relaying ++ others
    let second : List Command :=
      [.addParticipant "alice" none none, .reconcile 1 audio audio,
        .createChannel ⟨1, .video⟩ "c1" { endpoint := "alice" }, .reconcile 0 audio audio,
        .openTentacle, .describeDeep 1 0]
    bridge.acceptsOcto 1 = false ∧
      (bridge.run (.reconcile 1 audio audio)).bridge = bridge ∧
      (∀ command ∈ first ++ second, command.addsView = false) ∧
      first.filter Command.isRelaying = second.filter Command.isRelaying ∧
      ((first.filter fun command => !command.isRelaying) =
        second.filter fun command => !command.isRelaying) ∧
      bridge.after first = bridge.after second := by
  intro audio bridge relaying others first second
  obtain ⟨_, hrefused, _, _, hinterleaved⟩ :=
    relay_keeps_apart "meeting" none true [.addView false, .addRecord .empty]
  have hrefuses : bridge.acceptsOcto 1 = false := by decide +kernel
  have hviews : ∀ command ∈ first ++ second, command.addsView = false := by decide +kernel
  have hrelaying : first.filter Command.isRelaying = second.filter Command.isRelaying := by
    decide +kernel
  have hothers : (first.filter fun command => !command.isRelaying) =
      second.filter fun command => !command.isRelaying := by
    decide +kernel
  refine ⟨hrefuses, ?_, hviews, hrelaying, hothers,
    (hinterleaved first second hviews hrelaying hothers).1⟩
  rw [hrefused 1 audio audio hrefuses]

end ConferenceBridge
