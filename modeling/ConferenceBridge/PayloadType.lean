import ConferenceBridge.Declaration
import ConferenceBridge.MediaType
import ConferenceBridge.Text.Numeral

/-!
# Payload types

A payload type as relays use it. A retransmission format names the payload type whose packets it
repeats; for every other encoding that parameter has no meaning.
-/

namespace ConferenceBridge

/-- What packets of one payload type number carry. -/
structure PayloadType where
  /-- The number on the wire. -/
  number : Int
  /-- The encoding. -/
  encoding : String
  /-- The media type. -/
  media : MediaType
  /-- The clock rate. -/
  clockRate : Int
  /-- The number of channels. -/
  channels : Int
  /-- The parameters of the encoding. -/
  parameters : Table String String
  /-- The kinds of feedback that are allowed. -/
  feedback : List RtcpFeedback
  deriving DecidableEq

/-- Why the payload type that is retransmitted is not known. -/
inductive AssociationFault where
  /-- The parameter is absent. -/
  | absent
  /-- The parameter is no integer. -/
  | unreadable (text : String) (fault : Text.NumeralFault)
  deriving DecidableEq

namespace PayloadType

/-- The encoding of retransmissions. -/
def retransmission : String := "rtx"

/-- The parameter that names the payload type whose packets are repeated. -/
def associationKey : String := "apt"

/-- Whether this is a retransmission format. -/
def isRetransmission (payload : PayloadType) : Bool := payload.encoding == retransmission

/-- The number that the parameters of a retransmission format name. -/
def association (parameters : Table String String) : Except AssociationFault Int :=
  match parameters.get? associationKey with
  | none => .error .absent
  | some text =>
    match Text.readInteger text with
    | .ok number => .ok number
    | .error fault => .error (.unreadable text fault)

/-- The number of the payload type whose packets are repeated, if this is a retransmission
format. -/
def associated (payload : PayloadType) : Except AssociationFault (Option Int) :=
  if payload.isRetransmission then (association payload.parameters).map some else .ok none

end PayloadType

/-- What is said about a missing association. -/
def AssociationFault.message : AssociationFault → String
  | .absent => Text.quoted PayloadType.associationKey
  | .unreadable text fault => fault.message text

end ConferenceBridge
