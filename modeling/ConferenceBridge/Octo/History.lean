import ConferenceBridge.Octo.Reconciliation

/-!
# Histories of a tentacle

A tentacle's life as a list of steps, each of which is a reconciliation or a single call.
-/

namespace ConferenceBridge.Octo

/-- One step in the life of a tentacle. -/
inductive Operation where
  /-- Brings the tentacle in line with two channels. -/
  | reconcile (audio video : OctoChannel)
  /-- Makes one call. -/
  | call (call : Call)
  deriving DecidableEq

/-- The events of a step on a tentacle. -/
def Operation.events (tentacle : Tentacle) : Operation → List Event
  | .reconcile audio video => Octo.events tentacle.extensions audio video
  | .call made => [.call made]

/-- The trace of a step. -/
def Operation.run (conference : String) (tentacle : Tentacle) (operation : Operation) : Trace :=
  trace conference tentacle (operation.events tentacle)

/-- The trace of several steps in order. -/
def history (conference : String) (tentacle : Tentacle) : List Operation → Trace
  | [] => { tentacle, calls := [], notices := [] }
  | operation :: rest =>
    let first := operation.run conference tentacle
    let later := history conference first.tentacle rest
    { tentacle := later.tentacle
      calls := first.calls ++ later.calls
      notices := first.notices ++ later.notices }

end ConferenceBridge.Octo
