import ConferenceBridge.PayloadType
import ConferenceBridge.Text.Casing

/-!
# Payload types from declarations

A declaration is usable if its encoding is known for the media type, its number fits into seven
bits, its clock rate is positive, and a retransmission format names an integer. What is built has
the canonical spelling of the encoding and of that integer, and all else as it was declared.
-/

namespace ConferenceBridge

open Text

/-- The encodings that go with sound and pictures, in small letters and as they are spelled. -/
def genericEncodings : List (String × String) :=
  [("rtx", "rtx"), ("red", "red"), ("ulpfec", "ulpfec"), ("flexfec-03", "flexfec-03")]

/-- The encodings of sound, in small letters and as they are spelled. -/
def audioEncodings : List (String × String) :=
  [("opus", "opus"), ("telephone-event", "telephone-event"), ("pcmu", "PCMU"), ("pcma", "PCMA"),
    ("g722", "G722"), ("isac", "ISAC")]

/-- The encodings of pictures, in small letters and as they are spelled. -/
def videoEncodings : List (String × String) :=
  [("vp8", "VP8"), ("vp9", "VP9"), ("h264", "H264"), ("av1", "AV1")]

/-- The encodings that are known for a media type. Generic ones are known for every media type. -/
def MediaType.encodings : MediaType → List (String × String)
  | .audio => genericEncodings ++ audioEncodings
  | .video => genericEncodings ++ videoEncodings
  | .data => genericEncodings

/-- The canonical spelling of an encoding. Blanks around the name and letter case do not matter. -/
def canonicalEncoding? (name : String) (media : MediaType) : Option String :=
  Entries.find? (String.ofList (lowercase (trim isBlank name.toList))) media.encodings

/-- The parameters of a retransmission format with the canonical spelling of the number that they
name. -/
def canonicalAssociation? (parameters : Table String String) : Option (Table String String) :=
  match PayloadType.association parameters with
  | .ok number => some (parameters.insert PayloadType.associationKey (integerText number))
  | .error _ => none

/-- The parameters that a payload type of an encoding gets. -/
def builtParameters? (encoding : String) (parameters : Table String String) :
    Option (Table String String) :=
  if encoding = PayloadType.retransmission then canonicalAssociation? parameters
  else some parameters

/-- The payload type that a declaration describes for a media type, if it is usable. -/
def PayloadDeclaration.build? (declaration : PayloadDeclaration) (media : MediaType) :
    Option PayloadType := do
  let encoding ← canonicalEncoding? declaration.name media
  if 0 ≤ declaration.number ∧ declaration.number ≤ 127 ∧ 0 < declaration.clockRate then
    let parameters ← builtParameters? encoding declaration.parameters
    return {
      number := declaration.number
      encoding
      media
      clockRate := declaration.clockRate
      channels := declaration.channels
      parameters
      feedback := declaration.feedback }
  else none

/-- The declaration of a payload type. -/
def PayloadType.declaration (payload : PayloadType) : PayloadDeclaration where
  number := payload.number
  name := payload.encoding
  clockRate := payload.clockRate
  channels := payload.channels
  parameters := payload.parameters
  feedback := payload.feedback

end ConferenceBridge
