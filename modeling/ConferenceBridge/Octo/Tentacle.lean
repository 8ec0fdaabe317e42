import ConferenceBridge.Notice
import ConferenceBridge.PayloadType

/-!
# Tentacles

The relay configuration of a conference. Relays and sources are replaced as a whole; header
extensions and payload types are only ever added, and the first value of a number stays. All changes
are made by calls, which are data, so a state is what the calls made so far have left.
-/

namespace ConferenceBridge

/-- The relay configuration of a conference. -/
structure Tentacle where
  /-- Whether the relay is torn down. -/
  expired : Bool
  /-- The relays that media go to. -/
  relays : RelaySet
  /-- The names of the header extensions by number. -/
  extensions : Table Int String
  /-- The payload types by number. -/
  payloadTypes : Table Int PayloadType
  /-- The sources of sound. -/
  audioSources : List Source
  /-- The sources of pictures. -/
  videoSources : List Source
  /-- The groups of the sources of pictures. -/
  videoGroups : List SourceGroup
  deriving DecidableEq

/-- A change of a tentacle. -/
inductive Call where
  /-- Tears the relay down. -/
  | expire
  /-- Replaces the relays. -/
  | setRelays (relays : RelaySet)
  /-- Adds a header extension. -/
  | addExtension (number : Int) (uri : String)
  /-- Adds a payload type under its number. -/
  | addPayloadType (payload : PayloadType)
  /-- Replaces the sources. -/
  | setSources (audio video : List Source) (groups : List SourceGroup)
  deriving DecidableEq

namespace Tentacle

/-- The configuration of a new conference. -/
def fresh : Tentacle where
  expired := false
  relays := .empty
  extensions := .empty
  payloadTypes := .empty
  audioSources := []
  videoSources := []
  videoGroups := []

/-- The effect of a call. Setting relays revives a torn down relay only if there are any. -/
def apply (tentacle : Tentacle) : Call → Tentacle
  | .expire =>
    { tentacle with
      expired := true, relays := .empty, audioSources := [], videoSources := [], videoGroups := [] }
  | .setRelays relays =>
    { tentacle with relays, expired := tentacle.expired && relays.isEmpty }
  | .addExtension number uri =>
    { tentacle with extensions := tentacle.extensions.insertIfNew number uri }
  | .addPayloadType payload =>
    { tentacle with payloadTypes := tentacle.payloadTypes.insertIfNew payload.number payload }
  | .setSources audio video groups =>
    { tentacle with audioSources := audio, videoSources := video, videoGroups := groups }

/-- The effect of several calls in order. -/
def applyAll (tentacle : Tentacle) (calls : List Call) : Tentacle := calls.foldl apply tentacle

/-- Whether a header extension of a number is configured. -/
def hasExtension (tentacle : Tentacle) (number : Int) : Bool := tentacle.extensions.contains number

/-- What is reported when the tentacle of a conference gets a call: tearing down what is not torn
down yet. -/
def noticesOf (conference : String) (tentacle : Tentacle) : Call → List Notice
  | .expire => if tentacle.expired then [] else [.tentacleExpired conference]
  | _ => []

end Tentacle

end ConferenceBridge
