import ConferenceBridge.Octo.Tentacle
import ConferenceBridge.PayloadType.Building
import ConferenceBridge.PayloadType.Key
import ConferenceBridge.Registry

/-!
# Reconciliation

How the declarations of a conference's audio and video channels become calls to its tentacle. The
events of a reconciliation are planned from the declarations and from the extensions that are
configured already; the calls among them are then applied in order.
-/

namespace ConferenceBridge.Octo

/-- What happens during a reconciliation. -/
inductive Event where
  /-- The tentacle gets a call. -/
  | call (call : Call)
  /-- Something is reported. -/
  | notice (notice : Notice)
  deriving DecidableEq

/-- The extensions of both channels: the first name of each number, in order of declaration. -/
def mergedExtensions (audio video : OctoChannel) : Registry Int String :=
  .ofFirsts ((audio.extensions ++ video.extensions).map fun e => (e.number, e.uri))

/-- A call for each extension whose number is not configured yet. -/
def extensionEvents (configured : Table Int String) (audio video : OctoChannel) : List Event :=
  ((mergedExtensions audio video).entries.filter fun entry => !configured.contains entry.1).map
    fun entry => .call (.addExtension entry.1 entry.2)

/-- The declarations of a channel under their keys, with the media type of the channel. -/
def keyedDeclarations (channel : OctoChannel) (media : MediaType) :
    List (PayloadKey × PayloadDeclaration × MediaType) :=
  channel.payloadTypes.map fun declaration => (declaration.key, declaration, media)

/-- The declarations of both channels. A key stands where it was declared first, and its last
declaration counts, so a declaration of both channels counts as one for pictures. -/
def mergedDeclarations (audio video : OctoChannel) :
    Registry PayloadKey (PayloadDeclaration × MediaType) :=
  .ofList (keyedDeclarations audio .audio ++ keyedDeclarations video .video)

/-- A call if a declaration is usable for a media type, and a notice otherwise. -/
def declarationEvent (declaration : PayloadDeclaration) (media : MediaType) : Event :=
  match declaration.build? media with
  | some payload => .call (.addPayloadType payload)
  | none => .notice (.unrecognized declaration)

/-- One event for each key that is declared. -/
def payloadEvents (audio video : OctoChannel) : List Event :=
  (mergedDeclarations audio video).values.map fun entry => declarationEvent entry.1 entry.2

/-- Whether one of the channels has expired. -/
def tearsDown (audio video : OctoChannel) : Bool := min audio.expire video.expire == 0

/-- The relays of both channels. -/
def mergedRelays (audio video : OctoChannel) : RelaySet := audio.relays.union video.relays

/-- The events of a reconciliation in order. The groups of the video channel alone are used. -/
def events (configured : Table Int String) (audio video : OctoChannel) : List Event :=
  if tearsDown audio video then [.notice .tearingDown, .call .expire]
  else
    [.notice (.settingRelays (mergedRelays audio video)),
      .call (.setRelays (mergedRelays audio video))]
      ++ extensionEvents configured audio video
      ++ payloadEvents audio video
      ++ [.call (.setSources audio.sources video.sources video.groups)]

/-- What events do to a tentacle, and what is to be seen of them. -/
structure Trace where
  /-- The tentacle after the events. -/
  tentacle : Tentacle
  /-- The calls in order. -/
  calls : List Call
  /-- The notices in order, those of the tentacle included. -/
  notices : List Notice
  deriving DecidableEq

/-- Goes on with one event. -/
def Trace.extend (conference : String) (trace : Trace) : Event → Trace
  | .call call =>
    { tentacle := trace.tentacle.apply call
      calls := trace.calls ++ [call]
      notices := trace.notices ++ trace.tentacle.noticesOf conference call }
  | .notice notice => { trace with notices := trace.notices ++ [notice] }

/-- The trace of events in order, for the tentacle of a conference. -/
def trace (conference : String) (tentacle : Tentacle) (events : List Event) : Trace :=
  events.foldl (Trace.extend conference) { tentacle, calls := [], notices := [] }

/-- Brings a tentacle in line with the declarations of both channels. -/
def reconcile (conference : String) (tentacle : Tentacle) (audio video : OctoChannel) : Trace :=
  trace conference tentacle (events tentacle.extensions audio video)

end ConferenceBridge.Octo
