import ConferenceBridge.Schema.Record

/-!
# Descriptions of a conference

The records in which a conference describes itself: its contents with their channels, its
endpoints, and the channels that each endpoint bundles. A record of a conference collects what is
described into it and never loses anything.
-/

namespace ConferenceBridge.Description

/-- One channel of a content. -/
structure Channel where
  /-- The channel's id. -/
  id : Option String
  /-- The id of the endpoint that the channel belongs to. -/
  endpoint : Option String
  /-- The seconds that the channel lasts. -/
  expire : Option Int
  /-- Which way media flow. -/
  direction : Option String
  /-- How many of the last speakers are forwarded. -/
  lastN : Option Int
  /-- The id of the bundle that the channel belongs to. -/
  bundle : Option String
  deriving DecidableEq

/-- The channels of one media type. -/
structure Content where
  /-- The name of the media type. -/
  name : String
  /-- The channels in order of their description. -/
  channels : List Channel
  deriving DecidableEq

/-- One endpoint. -/
structure Endpoint where
  /-- The endpoint's id. -/
  id : Option String
  /-- The name under which statistics are kept. -/
  statsId : Option String
  /-- The name that is shown. -/
  displayName : Option String
  deriving DecidableEq

/-- The channels of one endpoint. -/
structure Bundle where
  /-- The bundle's id. -/
  id : String
  /-- The ids of the bundled channels. -/
  channelIds : List String
  deriving DecidableEq

/-- What has been described of a conference. -/
structure Conference where
  /-- The conference's id. -/
  id : Option String
  /-- The conference's name. -/
  name : Option String
  /-- The contents in order of their first description. -/
  contents : List Content
  /-- The endpoints in order of their description. -/
  endpoints : List Endpoint
  /-- The bundles in order of their description. -/
  bundles : List Bundle
  deriving DecidableEq, Inhabited

/-- Every field may be absent; a time to last is not negative. -/
def Channel.fields : Fields Channel :=
  (Fields.cons (.optional "id" .text) <|
    .cons (.optional "endpoint" .text) <|
    .cons (.optional "expire" (.integerFrom 0)) <|
    .cons (.optional "direction" .text) <|
    .cons (.optional "last_n" .integer) <|
    .one (.optional "channel_bundle_id" .text)).as
    (fun (id, endpoint, expire, direction, lastN, bundle) =>
      { id, endpoint, expire, direction, lastN, bundle })
    (fun c => (c.id, c.endpoint, c.expire, c.direction, c.lastN, c.bundle))

/-- A channel as a record of its fields. -/
def Channel.schema : Schema Channel := .record "ChannelDescription" Channel.fields

/-- A content has a name. -/
def Content.fields : Fields Content :=
  (Fields.cons (.required "name" .text) <|
    .one (.withDefault "channels" (.list Channel.schema) [])).as
    (fun (name, channels) => { name, channels })
    (fun content => (content.name, content.channels))

/-- A content as a record of its fields. -/
def Content.schema : Schema Content := .record "ContentDescription" Content.fields

/-- Every field may be absent. -/
def Endpoint.fields : Fields Endpoint :=
  (Fields.cons (.optional "id" .text) <|
    .cons (.optional "stats_id" .text) <|
    .one (.optional "display_name" .text)).as
    (fun (id, statsId, displayName) => { id, statsId, displayName })
    (fun endpoint => (endpoint.id, endpoint.statsId, endpoint.displayName))

/-- An endpoint as a record of its fields. -/
def Endpoint.schema : Schema Endpoint := .record "EndpointDescription" Endpoint.fields

/-- A bundle has an id. -/
def Bundle.fields : Fields Bundle :=
  (Fields.cons (.required "id" .text) <|
    .one (.withDefault "channel_ids" (.list .text) [])).as
    (fun (id, channelIds) => { id, channelIds })
    (fun bundle => (bundle.id, bundle.channelIds))

/-- A bundle as a record of its fields. -/
def Bundle.schema : Schema Bundle := .record "ChannelBundleDescription" Bundle.fields

/-- Every field may be absent. -/
def Conference.fields : Fields Conference :=
  (Fields.cons (.optional "id" .text) <|
    .cons (.optional "name" .text) <|
    .cons (.withDefault "contents" (.list Content.schema) []) <|
    .cons (.withDefault "endpoints" (.list Endpoint.schema) []) <|
    .one (.withDefault "channel_bundles" (.list Bundle.schema) [])).as
    (fun (id, name, contents, endpoints, bundles) => { id, name, contents, endpoints, bundles })
    (fun c => (c.id, c.name, c.contents, c.endpoints, c.bundles))

/-- A conference as a record of its fields. -/
def Conference.schema : Schema Conference := .record "ConferenceDescription" Conference.fields

namespace Conference

/-- Nothing has been described. -/
def empty : Conference :=
  { id := none, name := none, contents := [], endpoints := [], bundles := [] }

/-- The first content of a name. -/
def content? (record : Conference) (name : String) : Option Content :=
  record.contents.find? fun content => content.name == name

/-- Changes the first content of a name, or adds a changed empty content at the end. -/
def updateFirst (name : String) (change : Content → Content) : List Content → List Content
  | [] => [change { name, channels := [] }]
  | content :: rest =>
    if content.name = name then change content :: rest
    else content :: updateFirst name change rest

/-- Adds channels to the content of a name, which is made if there is none. -/
def addChannels (record : Conference) (name : String) (channels : List Channel) : Conference :=
  { record with
    contents := updateFirst name
      (fun content => { content with channels := content.channels ++ channels }) record.contents }

/-- Makes the content of a name unless there is one. -/
def openContent (record : Conference) (name : String) : Conference :=
  record.addChannels name []

end Conference

end ConferenceBridge.Description
