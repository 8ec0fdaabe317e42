import ConferenceBridge.Declaration.Summary
import ConferenceBridge.Logging.Level
import ConferenceBridge.Text.Quoted

/-!
# Notices

What the bridge reports while it works. A notice is a value; its level, its source and its wording
are functions of it.
-/

namespace ConferenceBridge

/-- Something that is reported. -/
inductive Notice where
  /-- Octo channels have expired, and the relay is torn down. -/
  | tearingDown
  /-- The relays are set. -/
  | settingRelays (relays : RelaySet)
  /-- A declaration is not usable. -/
  | unrecognized (declaration : PayloadDeclaration)
  /-- The relay of a conference was torn down. -/
  | tentacleExpired (conference : String)
  /-- An endpoint failed to describe its channels. -/
  | descriptionFailed (endpoint reason : String)
  /-- An update names no endpoint of the conference. -/
  | unknownEndpoint (endpoint : String)
  deriving DecidableEq

namespace Notice

/-- The level of a notice. -/
def level : Notice → Logging.Level
  | .tearingDown | .settingRelays _ | .unknownEndpoint _ => 10
  | .tentacleExpired _ => 20
  | .unrecognized _ | .descriptionFailed .. => 30

/-- The part of the bridge that reports a notice. -/
def source : Notice → String
  | .tearingDown | .settingRelays _ | .unrecognized _ => "videobridge.services.octo"
  | .tentacleExpired _ => "videobridge.models.tentacle"
  | .descriptionFailed .. | .unknownEndpoint _ => "videobridge.services.conference"

/-- The wording of a notice. -/
def message : Notice → String
  | .tearingDown => "Octo channels expired, tearing down relay"
  | .settingRelays relays => "Setting octo relays: " ++ Text.quotedList relays.toList
  | .unrecognized declaration => "Unrecognized payload type " ++ declaration.summaryText
  | .tentacleExpired conference => "Expired octo tentacle for conference " ++ conference
  | .descriptionFailed endpoint reason =>
    "Failed to describe channel bundle for endpoint " ++ endpoint ++ ": " ++ reason
  | .unknownEndpoint endpoint => "Ignoring update for unknown endpoint " ++ endpoint

end Notice

end ConferenceBridge
