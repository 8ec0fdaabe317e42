import ConferenceBridge.Description
import ConferenceBridge.MediaType
import ConferenceBridge.Registry

/-!
# Channels and contents

A content holds the channels of one media type. Each channel stands under the id that it was made
with; a new channel of an id that is taken replaces the old one in its place.
-/

namespace ConferenceBridge

/-- A channel of a content. -/
structure Channel where
  /-- The channel's id. -/
  id : String
  /-- The media type of the channel's content. -/
  media : MediaType
  /-- The id of the endpoint that the channel belongs to. -/
  endpoint : Option String
  /-- The seconds that the channel lasts. -/
  expire : Int
  /-- Which way media flow. -/
  direction : String
  /-- How many of the last speakers are forwarded. -/
  lastN : Option Int
  deriving DecidableEq

/-- What a channel is made with. -/
structure ChannelOptions where
  /-- The id of the endpoint that the channel belongs to. -/
  endpoint : Option String := none
  /-- The seconds that the channel lasts. -/
  expire : Int := 60
  /-- Which way media flow. -/
  direction : String := "sendrecv"
  /-- How many of the last speakers are forwarded. -/
  lastN : Option Int := none
  deriving DecidableEq

/-- New values for some fields of a channel. -/
structure ChannelChange where
  /-- A new id. -/
  id : Option String := none
  /-- A new media type. -/
  media : Option MediaType := none
  /-- A new endpoint, or none. -/
  endpoint : Option (Option String) := none
  /-- A new time to last. -/
  expire : Option Int := none
  /-- A new direction. -/
  direction : Option String := none
  /-- A new number of last speakers, or none. -/
  lastN : Option (Option Int) := none
  deriving DecidableEq

/-- The channels of one media type under the ids that they were made with. -/
abbrev Content := Registry String Channel

namespace Channel

/-- A channel of a media type. -/
def make (id : String) (media : MediaType) (options : ChannelOptions) : Channel where
  id
  media
  endpoint := options.endpoint
  expire := options.expire
  direction := options.direction
  lastN := options.lastN

/-- The channel with some fields changed. -/
def change (channel : Channel) (change : ChannelChange) : Channel where
  id := change.id.getD channel.id
  media := change.media.getD channel.media
  endpoint := change.endpoint.getD channel.endpoint
  expire := change.expire.getD channel.expire
  direction := change.direction.getD channel.direction
  lastN := change.lastN.getD channel.lastN

/-- The description of a channel. A channel is bundled with the others of its endpoint. -/
def describe (channel : Channel) : Description.Channel where
  id := some channel.id
  endpoint := channel.endpoint
  expire := some channel.expire
  direction := some channel.direction
  lastN := channel.lastN
  bundle := channel.endpoint

end Channel

end ConferenceBridge
