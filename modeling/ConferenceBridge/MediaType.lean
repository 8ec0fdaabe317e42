/-!
# Media types

What a content or a payload type carries.
-/

namespace ConferenceBridge

/-- The kind of media that is carried. -/
inductive MediaType where
  /-- Sound. -/
  | audio
  /-- Pictures. -/
  | video
  /-- Anything else. -/
  | data
  deriving DecidableEq, Inhabited

namespace MediaType

/-- All media types. -/
def all : List MediaType := [.audio, .video, .data]

/-- The name of a media type in descriptions. -/
def name : MediaType → String
  | .audio => "audio"
  | .video => "video"
  | .data => "data"

/-- The media type of a name, which has to be spelled exactly. -/
def ofName? (name : String) : Option MediaType := all.find? fun media => media.name == name

/-- Every media type is found under its name. -/
theorem ofName?_name (media : MediaType) : ofName? media.name = some media := by
  cases media <;> rfl

end MediaType

end ConferenceBridge
