import ConferenceBridge.Conference.Endpoint
import ConferenceBridge.Octo.Tentacle

/-!
# Conferences

A conference with its endpoints, the views of it with their contents, and the relay configuration
that all views share. Endpoints and views are known by number, so that an endpoint that has left or
was replaced is still known. The endpoints that take part now are registered under the ids that they
joined with.
-/

namespace ConferenceBridge

/-- A view of a conference, with contents of its own. -/
structure View where
  /-- Whether Octo channels are accepted. -/
  octoEnabled : Bool
  /-- The contents in order of their first use. -/
  contents : Registry MediaType Content
  deriving DecidableEq

/-- A conference and all that belongs to it. -/
structure Conference where
  /-- The conference's id. -/
  id : String
  /-- The conference's name. -/
  name : Option String
  /-- All endpoints ever made, by number. -/
  endpoints : List Endpoint
  /-- The numbers of the endpoints that take part, under the ids that they joined with. -/
  members : Registry String Nat
  /-- All views, by number. -/
  views : List View
  /-- The relay configuration, once there is one. -/
  tentacle : Option Tentacle
  deriving DecidableEq

namespace Conference

/-- A conference without endpoints and views. -/
def fresh (id : String) (name : Option String) : Conference where
  id
  name
  endpoints := []
  members := .empty
  views := []
  tentacle := none

/-! ### Endpoints -/

/-- Makes an endpoint, which joins under its id. -/
def addEndpoint (conference : Conference) (endpoint : Endpoint) : Conference :=
  { conference with
    endpoints := conference.endpoints ++ [endpoint]
    members := conference.members.put endpoint.id conference.endpoints.length }

/-- Lets an endpoint join again, under the id that it has now. -/
def rejoinEndpoint (conference : Conference) (number : Nat) : Conference :=
  match conference.endpoints[number]? with
  | some endpoint => { conference with members := conference.members.put endpoint.id number }
  | none => conference

/-- Lets the endpoint leave that joined under an id. -/
def removeEndpoint (conference : Conference) (id : String) : Conference :=
  { conference with members := conference.members.erase id }

/-- Changes an endpoint in place, whether or not it takes part. -/
def modifyEndpoint (conference : Conference) (number : Nat) (change : Endpoint → Endpoint) :
    Conference :=
  { conference with endpoints := conference.endpoints.modify number change }

/-- The number and the state of the endpoint that joined under an id. -/
def endpoint? (conference : Conference) (id : String) : Option (Nat × Endpoint) := do
  let number ← conference.members.get? id
  let endpoint ← conference.endpoints[number]?
  return (number, endpoint)

/-- The endpoints that take part, in order of joining. -/
def present (conference : Conference) : List (Nat × Endpoint) :=
  conference.members.values.filterMap fun number =>
    conference.endpoints[number]?.map fun endpoint => (number, endpoint)

/-- All endpoints ever made. -/
def numberedEndpoints (conference : Conference) : List (Nat × Endpoint) :=
  conference.endpoints.mapIdx fun number endpoint => (number, endpoint)

/-! ### Views and contents -/

/-- Makes a view without contents. -/
def addView (conference : Conference) (octoEnabled : Bool) : Conference :=
  { conference with views := conference.views ++ [{ octoEnabled, contents := .empty }] }

/-- The contents of a view in order of their first use. -/
def contents (conference : Conference) (view : Nat) : List (MediaType × Content) :=
  match conference.views[view]? with
  | some view => view.contents.entries
  | none => []

/-- A content, which is empty before its first use. -/
def content (conference : Conference) (ref : ContentRef) : Content :=
  match conference.views[ref.view]? with
  | some view => (view.contents.get? ref.media).getD .empty
  | none => .empty

/-- Changes a content in place; a content that was not in use comes last in its view. -/
def modifyContent (conference : Conference) (ref : ContentRef) (change : Content → Content) :
    Conference :=
  { conference with
    views := conference.views.modify ref.view fun view =>
      { view with
        contents := view.contents.put ref.media
          (change ((view.contents.get? ref.media).getD .empty)) } }

/-- Puts a content to use. -/
def openContent (conference : Conference) (ref : ContentRef) : Conference :=
  conference.modifyContent ref fun content => content

/-- The channels of a content in order. -/
def channels (conference : Conference) (ref : ContentRef) : List Channel :=
  (conference.content ref).values

/-- Attaches the endpoint that joined under an id to a content. -/
def attach (conference : Conference) (id : Option String) (ref : ContentRef) : Conference :=
  match id.bind conference.members.get? with
  | some number => conference.modifyEndpoint number fun endpoint => endpoint.attach ref
  | none => conference

/-- Makes a channel in a content and attaches its endpoint, if that takes part, to the content. -/
def createChannel (conference : Conference) (ref : ContentRef) (channel : Channel) : Conference :=
  (conference.modifyContent ref fun content => content.put channel.id channel).attach
    channel.endpoint ref

/-- Changes the channel that was made with an id. It keeps its place. -/
def changeChannel (conference : Conference) (ref : ContentRef) (id : String)
    (change : ChannelChange) : Conference :=
  match (conference.content ref).get? id with
  | some channel =>
    conference.modifyContent ref fun content => content.put id (channel.change change)
  | none => conference.openContent ref

/-! ### The relay configuration -/

/-- The relay configuration, which is fresh before its first use. -/
def relayed (conference : Conference) : Tentacle := conference.tentacle.getD .fresh

/-- Puts the relay configuration to use. -/
def openTentacle (conference : Conference) : Conference :=
  { conference with tentacle := some conference.relayed }

end Conference

end ConferenceBridge
