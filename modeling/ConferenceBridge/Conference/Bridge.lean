import ConferenceBridge.Conference.Describing
import ConferenceBridge.Octo.History

/-!
# The bridge

A conference together with the records that it is described into, and the commands that it carries
out. A command leads to a new state, an answer or an error, and notices.
-/

namespace ConferenceBridge

/-- A conference and the records that it is described into. -/
structure Bridge where
  /-- The conference. -/
  conference : Conference
  /-- The records, by number. -/
  records : List Description.Conference
  deriving DecidableEq

/-- What the bridge is told to do. -/
inductive Command where
  /-- Makes a view. -/
  | addView (octoEnabled : Bool)
  /-- Makes a participant, which joins. -/
  | addParticipant (id : String) (displayName statsId : Option String)
  /-- Makes an endpoint that answers for itself, which joins. -/
  | addIndependent (id : String) (displayName statsId : Option String) (bundle : Option String)
    (channelIds : Option (List String)) (failure : Option Failure)
  /-- Lets an endpoint join again. -/
  | rejoinEndpoint (number : Nat)
  /-- Lets the endpoint of an id leave. -/
  | removeEndpoint (id : String)
  /-- Changes an endpoint in place. -/
  | changeEndpoint (number : Nat) (change : EndpointChange)
  /-- Takes over the names from a description of an endpoint. -/
  | updateEndpoint (description : Description.Endpoint)
  /-- Asks for the endpoint of an id. -/
  | findEndpoint (id : String)
  /-- Asks for the endpoints that take part. -/
  | listEndpoints
  /-- Asks for a content. -/
  | openContent (ref : ContentRef)
  /-- Asks for the contents of a view. -/
  | listContents (view : Nat)
  /-- Makes a channel with a new id. -/
  | createChannel (ref : ContentRef) (id : String) (options : ChannelOptions)
  /-- Asks for the channel that was made with an id. -/
  | findChannel (ref : ContentRef) (id : String)
  /-- Asks for the channels of a content. -/
  | listChannels (ref : ContentRef)
  /-- Changes a channel in place. -/
  | changeChannel (ref : ContentRef) (id : String) (change : ChannelChange)
  /-- Adds a record. -/
  | addRecord (record : Description.Conference)
  /-- Replaces a record. -/
  | storeRecord (number : Nat) (record : Description.Conference)
  /-- Asks for a record. -/
  | showRecord (number : Nat)
  /-- Asks a record for the content of a name. -/
  | findRecordContent (number : Nat) (name : String)
  /-- Asks a record for the content of a name, which is made if there is none. -/
  | openRecordContent (number : Nat) (name : String)
  /-- Describes the conference into a record. -/
  | describeShallow (number : Nat)
  /-- Describes the conference and the contents of a view into a record. -/
  | describeDeep (view number : Nat)
  /-- Describes the endpoints into a record. -/
  | describeEndpoints (number : Nat)
  /-- Describes the bundles of the endpoints of several ids into a record. -/
  | describeBundles (number : Nat) (ids : List String)
  /-- Brings the tentacle in line with the Octo channels, through a view. -/
  | reconcile (view : Nat) (audio video : OctoChannel)
  /-- Asks for the tentacle. -/
  | openTentacle
  deriving DecidableEq

/-- What the bridge answers. -/
inductive Answer where
  /-- Nothing. -/
  | done
  /-- An endpoint with its number, if there is one. -/
  | endpoint (found : Option (Nat × Endpoint))
  /-- Endpoints with their numbers. -/
  | endpoints (list : List (Nat × Endpoint))
  /-- A content. -/
  | content (ref : ContentRef) (content : Content)
  /-- The contents of a view. -/
  | contents (view : Nat) (list : List (MediaType × Content))
  /-- A channel, if there is one. -/
  | channel (found : Option Channel)
  /-- Channels. -/
  | channels (list : List Channel)
  /-- A record. -/
  | record (record : Description.Conference)
  /-- A content of a record, if there is one. -/
  | recordContent (found : Option Description.Content)
  /-- The tentacle. -/
  | tentacle (tentacle : Tentacle)
  deriving DecidableEq

/-- What came of a command. -/
structure Reply where
  /-- The state afterwards. -/
  bridge : Bridge
  /-- The answer, or why there is none. -/
  answer : Except Error Answer
  /-- What was reported. -/
  notices : List Notice

namespace Bridge

/-- A conference without endpoints, with one view, and no records. -/
def fresh (id : String) (name : Option String) (octoEnabled : Bool) : Bridge :=
  ⟨(Conference.fresh id name).addView octoEnabled, []⟩

/-- A record; it is empty if there is none of that number. -/
def record (bridge : Bridge) (number : Nat) : Description.Conference :=
  bridge.records[number]?.getD .empty

/-- The bridge with a record replaced. -/
def withRecord (bridge : Bridge) (number : Nat) (record : Description.Conference) : Bridge :=
  { bridge with records := bridge.records.set number record }

/-- Answers without a change. -/
def reply (bridge : Bridge) (answer : Answer) : Reply := ⟨bridge, .ok answer, []⟩

/-- Changes the conference and answers. -/
def replyWith (bridge : Bridge) (conference : Conference) (answer : Answer) : Reply :=
  { bridge with conference }.reply answer

/-- Replaces a record and answers with it. -/
def replyRecord (bridge : Bridge) (number : Nat) (record : Description.Conference) : Reply :=
  (bridge.withRecord number record).reply (.record record)

/-- Takes over the names from a description of an endpoint, if one takes part under its id. The
answer lists all endpoints ever made. -/
def updateEndpoint (bridge : Bridge) (description : Description.Endpoint) : Reply :=
  let unchanged := bridge.reply (.endpoints bridge.conference.numberedEndpoints)
  match description.id with
  | none => unchanged
  | some id =>
    match bridge.conference.endpoint? id with
    | none => { unchanged with notices := [.unknownEndpoint id] }
    | some (number, _) =>
      let conference := bridge.conference.modifyEndpoint number fun endpoint =>
        { endpoint with displayName := description.displayName, statsId := description.statsId }
      bridge.replyWith conference (.endpoints conference.numberedEndpoints)

/-- Adds the bundles of the endpoints of several ids to a record. If one of them fails, the bundles
before it are kept. -/
def describeBundles (bridge : Bridge) (number : Nat) (ids : List String) : Reply :=
  let batch := bridge.conference.bundles ids
  let old := bridge.record number
  let record := { old with bundles := old.bundles ++ batch.bundles }
  match batch.failed with
  | none => bridge.replyRecord number record
  | some (endpoint, failure) =>
    ⟨bridge.withRecord number record, .error failure.toError, failure.notices endpoint⟩

/-- The error of a view that does not accept Octo channels. -/
def octoDisabled : Error :=
  .processing ⟨.featureNotImplemented, some "Octo is not enabled"⟩ none

/-- Whether a view accepts Octo channels. -/
def acceptsOcto (bridge : Bridge) (view : Nat) : Bool :=
  match bridge.conference.views[view]? with
  | some view => view.octoEnabled
  | none => false

/-- Brings the tentacle in line with the Octo channels, if the view accepts them. -/
def reconcile (bridge : Bridge) (view : Nat) (audio video : OctoChannel) : Reply :=
  let conference := bridge.conference
  if bridge.acceptsOcto view then
    let trace := Octo.reconcile conference.id conference.relayed audio video
    { bridge.replyWith { conference with tentacle := some trace.tentacle }
        (.tentacle trace.tentacle) with
      notices := trace.notices }
  else ⟨bridge, .error octoDisabled, []⟩

/-- Carries out a command. -/
def run (bridge : Bridge) : Command → Reply
  | .addView octoEnabled => bridge.replyWith (bridge.conference.addView octoEnabled) .done
  | .addParticipant id displayName statsId =>
    let kind := .participant []
    bridge.replyWith (bridge.conference.addEndpoint { id, displayName, statsId, kind }) .done
  | .addIndependent id displayName statsId bundle channelIds failure =>
    let kind := .independent bundle channelIds failure
    bridge.replyWith (bridge.conference.addEndpoint { id, displayName, statsId, kind }) .done
  | .rejoinEndpoint number => bridge.replyWith (bridge.conference.rejoinEndpoint number) .done
  | .removeEndpoint id => bridge.replyWith (bridge.conference.removeEndpoint id) .done
  | .changeEndpoint number change =>
    bridge.replyWith
      (bridge.conference.modifyEndpoint number fun endpoint => endpoint.change change) .done
  | .updateEndpoint description => bridge.updateEndpoint description
  | .findEndpoint id => bridge.reply (.endpoint (bridge.conference.endpoint? id))
  | .listEndpoints => bridge.reply (.endpoints bridge.conference.present)
  | .openContent ref =>
    let conference := bridge.conference.openContent ref
    bridge.replyWith conference (.content ref (conference.content ref))
  | .listContents view => bridge.reply (.contents view (bridge.conference.contents view))
  | .createChannel ref id options =>
    let channel := Channel.make id ref.media options
    bridge.replyWith (bridge.conference.createChannel ref channel) (.channel (some channel))
  | .findChannel ref id =>
    let conference := bridge.conference.openContent ref
    bridge.replyWith conference (.channel ((conference.content ref).get? id))
  | .listChannels ref =>
    let conference := bridge.conference.openContent ref
    bridge.replyWith conference (.channels (conference.channels ref))
  | .changeChannel ref id change =>
    let conference := bridge.conference.changeChannel ref id change
    bridge.replyWith conference (.channel ((conference.content ref).get? id))
  | .addRecord record =>
    { bridge with records := bridge.records ++ [record] }.reply (.record record)
  | .storeRecord number record => bridge.replyRecord number record
  | .showRecord number => bridge.reply (.record (bridge.record number))
  | .findRecordContent number name =>
    bridge.reply (.recordContent ((bridge.record number).content? name))
  | .openRecordContent number name =>
    let record := (bridge.record number).openContent name
    (bridge.withRecord number record).reply (.recordContent (record.content? name))
  | .describeShallow number =>
    bridge.replyRecord number (bridge.conference.describeShallow (bridge.record number))
  | .describeDeep view number =>
    bridge.replyRecord number (bridge.conference.describeDeep view (bridge.record number))
  | .describeEndpoints number =>
    bridge.replyRecord number (bridge.conference.describeEndpoints (bridge.record number))
  | .describeBundles number ids => bridge.describeBundles number ids
  | .reconcile view audio video => bridge.reconcile view audio video
  | .openTentacle =>
    bridge.replyWith bridge.conference.openTentacle (.tentacle bridge.conference.relayed)

end Bridge

end ConferenceBridge
