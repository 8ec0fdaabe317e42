import ConferenceBridge.Schema.Fault

/-!
# Checked values

The outcome of checking: a value, or all faults that were found. Two outcomes combine into a value
only if both are values; otherwise the faults of both are kept, the first one's first.
-/

namespace ConferenceBridge

/-- A value, or the faults that stand in its way. -/
inductive Checked (α : Type) where
  /-- Nothing is wrong. -/
  | valid (value : α)
  /-- These faults were found, in order. -/
  | invalid (faults : List Fault)

namespace Checked

variable {α β γ : Type}

/-- The faults found, none for a value. -/
def faults : Checked α → List Fault
  | .valid _ => []
  | .invalid faults => faults

/-- A single fault at the outermost place. -/
def fail (cause : Cause) : Checked α := .invalid [⟨[], cause⟩]

/-- Applies a function to a value. -/
def map (f : α → β) : Checked α → Checked β
  | .valid value => .valid (f value)
  | .invalid faults => .invalid faults

/-- Combines two outcomes and keeps the faults of both. -/
def both : Checked α → Checked β → Checked (α × β)
  | .valid a, .valid b => .valid (a, b)
  | .valid _, .invalid faults => .invalid faults
  | .invalid faults, .valid _ => .invalid faults
  | .invalid first, .invalid second => .invalid (first ++ second)

/-- Sees the faults from one step further outside. -/
def under (step : Step) : Checked α → Checked α
  | .valid value => .valid value
  | .invalid faults => .invalid (faults.map (Fault.under step))

/-- Goes on with a value only. -/
def bind (outcome : Checked α) (next : α → Checked β) : Checked β :=
  match outcome with
  | .valid value => next value
  | .invalid faults => .invalid faults

/-- Applying a function makes no difference to the faults. -/
@[simp] theorem faults_map (f : α → β) (outcome : Checked α) :
    (outcome.map f).faults = outcome.faults := by
  cases outcome <;> rfl

/-- The faults of both outcomes are kept, the first one's first. -/
@[simp] theorem faults_both (first : Checked α) (second : Checked β) :
    (first.both second).faults = first.faults ++ second.faults := by
  cases first <;> cases second <;> simp [both, faults]

/-- Each fault is seen from one step further outside. -/
@[simp] theorem faults_under (step : Step) (outcome : Checked α) :
    (outcome.under step).faults = outcome.faults.map (Fault.under step) := by
  cases outcome <;> rfl

/-- Two outcomes combine into a value only if both are values. -/
theorem both_eq_valid_iff {first : Checked α} {second : Checked β} {a : α} {b : β} :
    first.both second = .valid (a, b) ↔ first = .valid a ∧ second = .valid b := by
  cases first <;> cases second <;> simp [both]

/-- The values after applying a function are its results for the values from before. -/
theorem map_eq_valid_iff {f : α → β} {outcome : Checked α} {b : β} :
    outcome.map f = .valid b ↔ ∃ a, outcome = .valid a ∧ f a = b := by
  cases outcome <;> simp [map]

/-- A value looks the same from one step further outside. -/
theorem under_eq_valid_iff {step : Step} {outcome : Checked α} {a : α} :
    outcome.under step = .valid a ↔ outcome = .valid a := by
  cases outcome <;> simp [under]

end Checked

end ConferenceBridge
