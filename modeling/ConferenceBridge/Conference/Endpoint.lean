import ConferenceBridge.Conference.Channel
import ConferenceBridge.Conference.Failure

/-!
# Endpoints

Whoever takes part in a conference. A participant lists its channels from the contents that it is
attached to; any other endpoint answers for itself, and may fail.
-/

namespace ConferenceBridge

/-- Which content is meant: that of a media type in one of a conference's views. -/
structure ContentRef where
  /-- The number of the view. -/
  view : Nat
  /-- The media type of the content. -/
  media : MediaType
  deriving DecidableEq

/-- How an endpoint comes by the description of its channels. -/
inductive EndpointKind where
  /-- It looks them up in the contents that it is attached to, in order of attachment. -/
  | participant (contents : List ContentRef)
  /-- It gives an id and channel ids of its own where it has any, or fails. -/
  | independent (bundle : Option String) (channelIds : Option (List String))
    (failure : Option Failure)
  deriving DecidableEq

/-- Someone who takes part in a conference. -/
structure Endpoint where
  /-- The endpoint's id. -/
  id : String
  /-- The name that is shown. -/
  displayName : Option String
  /-- The name under which statistics are kept. -/
  statsId : Option String
  /-- How the endpoint describes its channels. -/
  kind : EndpointKind
  deriving DecidableEq

/-- New values for some fields of an endpoint. -/
structure EndpointChange where
  /-- A new id. -/
  id : Option String := none
  /-- A new name to show, or none. -/
  displayName : Option (Option String) := none
  /-- A new name for statistics, or none. -/
  statsId : Option (Option String) := none
  deriving DecidableEq

namespace Endpoint

/-- The endpoint with some fields changed. -/
def change (endpoint : Endpoint) (change : EndpointChange) : Endpoint :=
  { endpoint with
    id := change.id.getD endpoint.id
    displayName := change.displayName.getD endpoint.displayName
    statsId := change.statsId.getD endpoint.statsId }

/-- Attaches a participant to a content unless it is attached to it. Other endpoints are never
attached. -/
def attach (endpoint : Endpoint) (content : ContentRef) : Endpoint :=
  match endpoint.kind with
  | .participant contents =>
    if contents.contains content then endpoint
    else { endpoint with kind := .participant (contents ++ [content]) }
  | .independent .. => endpoint

/-- The description of an endpoint. -/
def describe (endpoint : Endpoint) : Description.Endpoint where
  id := some endpoint.id
  statsId := endpoint.statsId
  displayName := endpoint.displayName

/-- The ids of those channels that belong to an endpoint. -/
def channelIdsAmong (endpoint : Endpoint) (channels : List Channel) : List String :=
  (channels.filter fun channel => channel.endpoint == some endpoint.id).map Channel.id

/-- The bundle of an endpoint's channels, given the channels of each content. -/
def bundle (endpoint : Endpoint) (channelsOf : ContentRef → List Channel) :
    Except Failure Description.Bundle :=
  match endpoint.kind with
  | .participant contents =>
    .ok ⟨endpoint.id, contents.flatMap fun ref => endpoint.channelIdsAmong (channelsOf ref)⟩
  | .independent _ _ (some failure) => .error failure
  | .independent bundle channelIds none =>
    .ok ⟨bundle.getD endpoint.id, channelIds.getD []⟩

/-- The endpoint in a few words. -/
def shown (endpoint : Endpoint) : String := "Endpoint(id=" ++ Text.quoted endpoint.id ++ ")"

end Endpoint

/-- A content in a few words: its media type and the number of its channels. -/
def Content.shown (content : Content) (media : MediaType) : String :=
  "ContentRecord(media_type=" ++ Text.quoted media.name ++ ", channels="
    ++ Text.integerText content.entries.length ++ ")"

end ConferenceBridge
