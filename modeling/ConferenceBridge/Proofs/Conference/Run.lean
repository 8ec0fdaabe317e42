import ConferenceBridge.Conference.Bridge

/-!
# Runs of a bridge

A run is a list of commands that are carried out one after the other. Its turns pair each command
with the state that it met, so that what the run did can be read off them. An invariant that relates
the turns so far to the state is carried along by its step.
-/

namespace ConferenceBridge

/-- A command together with the state in which it is carried out. -/
structure Turn where
  /-- The state that the command meets. -/
  before : Bridge
  /-- The command. -/
  command : Command

namespace Bridge

/-- The state after several commands. -/
def after (bridge : Bridge) (commands : List Command) : Bridge :=
  commands.foldl (fun bridge command => (bridge.run command).bridge) bridge

/-- The turns of several commands. -/
def turns (bridge : Bridge) : List Command → List Turn
  | [] => []
  | command :: rest => ⟨bridge, command⟩ :: (bridge.run command).bridge.turns rest

/-- Later commands meet the state that earlier ones have left. -/
theorem after_append (bridge : Bridge) (earlier later : List Command) :
    bridge.after (earlier ++ later) = (bridge.after earlier).after later :=
  List.foldl_append

/-- A command among others comes before those that follow it. -/
theorem after_append_cons (bridge : Bridge) (earlier later : List Command) (command : Command) :
    bridge.after (earlier ++ command :: later) =
      (bridge.after (earlier ++ [command])).after later := by
  rw [← after_append, List.append_assoc, List.singleton_append]

/-- The turns of later commands follow those of earlier ones. -/
theorem turns_append (bridge : Bridge) (earlier later : List Command) :
    bridge.turns (earlier ++ later) =
      bridge.turns earlier ++ (bridge.after earlier).turns later := by
  induction earlier generalizing bridge with
  | nil => rfl
  | cons command rest ih =>
    rw [List.cons_append, turns, turns, ih, List.cons_append]
    rfl

/-- The turns of several commands carry out these commands. -/
theorem map_command_turns (bridge : Bridge) (commands : List Command) :
    (bridge.turns commands).map Turn.command = commands := by
  induction commands generalizing bridge with
  | nil => rfl
  | cons command rest ih => rw [turns, List.map_cons, ih]

/-- What holds of a state and the turns before it, and is kept by each command, holds along a
run. -/
theorem holdsAlong (holds : List Turn → Bridge → Prop) {allowed : Command → Prop}
    (hstep : ∀ {past bridge} command, allowed command → holds past bridge →
      holds (past ++ [⟨bridge, command⟩]) (bridge.run command).bridge)
    {commands : List Command} (hcommands : ∀ command ∈ commands, allowed command)
    {past : List Turn} {bridge : Bridge} (hstart : holds past bridge) :
    holds (past ++ bridge.turns commands) (bridge.after commands) := by
  induction commands generalizing past bridge with
  | nil => simpa [turns, after] using hstart
  | cons command rest ih =>
    obtain ⟨hcommand, hrest⟩ := List.forall_mem_cons.1 hcommands
    have hnext := ih hrest (hstep command hcommand hstart)
    rwa [List.append_assoc, List.singleton_append] at hnext

/-- An update changes one endpoint at most, and neither its id nor how it describes its channels. -/
theorem bridge_updateEndpoint (bridge : Bridge) (description : Description.Endpoint) :
    ∃ number change,
      (∀ endpoint : Endpoint, (change endpoint).id = endpoint.id ∧
        (change endpoint).kind = endpoint.kind) ∧
      (bridge.updateEndpoint description).bridge =
        { bridge with conference := bridge.conference.modifyEndpoint number change } := by
  have hunchanged : ∃ number change,
      (∀ endpoint : Endpoint, (change endpoint).id = endpoint.id ∧
        (change endpoint).kind = endpoint.kind) ∧
      bridge = { bridge with conference := bridge.conference.modifyEndpoint number change } :=
    ⟨0, id, fun _ => ⟨rfl, rfl⟩, by rw [Conference.modifyEndpoint, List.modify_id]⟩
  unfold updateEndpoint
  split
  · exact hunchanged
  · split
    · exact hunchanged
    · next number _ _ =>
      let change (endpoint : Endpoint) : Endpoint :=
        { endpoint with displayName := description.displayName, statsId := description.statsId }
      exact ⟨number, change, fun _ => ⟨rfl, rfl⟩, rfl⟩

/-- Reconciling changes the relay configuration alone, if anything. -/
theorem bridge_reconcile (bridge : Bridge) (view : Nat) (audio video : OctoChannel) :
    ∃ tentacle, (bridge.reconcile view audio video).bridge =
      { bridge with conference := { bridge.conference with tentacle } } := by
  unfold reconcile
  dsimp only
  split
  · exact ⟨_, rfl⟩
  · exact ⟨bridge.conference.tentacle, rfl⟩

/-- Describing bundles replaces a record, also if it fails. -/
theorem bridge_describeBundles (bridge : Bridge) (number : Nat) (ids : List String) :
    (bridge.describeBundles number ids).bridge =
      bridge.withRecord number
        { bridge.record number with
          bundles :=
            (bridge.record number).bundles ++ (bridge.conference.bundles ids).bundles } := by
  unfold describeBundles
  dsimp only
  split <;> rfl

end Bridge

end ConferenceBridge
