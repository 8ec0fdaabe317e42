import ConferenceBridge.Error
import ConferenceBridge.RecordKind

/-!
# Validation

Reading a record of a kind, with its faults as an error under the title of the record.
-/

namespace ConferenceBridge

/-- The value of an outcome, or its faults under a title. -/
def Checked.orError {α : Type} (title : String) : Checked α → Except Error α
  | .valid value => .ok value
  | .invalid faults => .error (.invalid title faults)

/-- Reads a record of a kind. -/
def RecordKind.validate (kind : RecordKind) (value : Json) : Except Error kind.Carrier :=
  (kind.schema.check value).orError kind.title

/-- Reads the declarations of both Octo channels. The faults of the first are met first. -/
def OctoChannel.validateBoth (audio video : Json) : Except Error (OctoChannel × OctoChannel) := do
  return (← RecordKind.octoChannel.validate audio, ← RecordKind.octoChannel.validate video)

end ConferenceBridge
