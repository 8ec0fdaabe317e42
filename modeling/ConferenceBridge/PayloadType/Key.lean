import ConferenceBridge.Declaration
import ConferenceBridge.Text.Casing

/-!
# Keys of declarations

Declarations with equal keys declare the same payload type; they may differ in the letter case of
their names only.
-/

namespace ConferenceBridge

/-- What two declarations of the same payload type have in common. -/
structure PayloadKey where
  /-- The number on the wire. -/
  number : Int
  /-- The name of the encoding in small letters. -/
  name : List Char
  /-- The clock rate. -/
  clockRate : Int
  /-- The number of channels. -/
  channels : Int
  /-- The parameters, whatever their order. -/
  parameters : Table String String
  /-- The kinds of feedback in order. -/
  feedback : List RtcpFeedback
  deriving DecidableEq

/-- The key of a declaration. -/
def PayloadDeclaration.key (declaration : PayloadDeclaration) : PayloadKey where
  number := declaration.number
  name := Text.lowercase declaration.name.toList
  clockRate := declaration.clockRate
  channels := declaration.channels
  parameters := declaration.parameters
  feedback := declaration.feedback

end ConferenceBridge
