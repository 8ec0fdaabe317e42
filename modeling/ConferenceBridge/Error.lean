import ConferenceBridge.Conference.Failure
import ConferenceBridge.PayloadType
import ConferenceBridge.Schema.Fault

/-!
# Errors

Everything that a request can fail with. Errors are values; what is said about one is a function of
it.
-/

namespace ConferenceBridge

/-- Why a request was not carried out. -/
inductive ErrorCondition where
  /-- The request makes no sense. -/
  | badRequest
  /-- The feature is absent or turned off. -/
  | featureNotImplemented
  /-- Something failed on this side. -/
  | internalServerError
  /-- What the request is about does not exist. -/
  | itemNotFound
  deriving DecidableEq

namespace ErrorCondition

/-- All conditions. -/
def all : List ErrorCondition :=
  [.badRequest, .featureNotImplemented, .internalServerError, .itemNotFound]

/-- The name of a condition in answers. -/
def name : ErrorCondition → String
  | .badRequest => "bad_request"
  | .featureNotImplemented => "feature_not_implemented"
  | .internalServerError => "internal_server_error"
  | .itemNotFound => "item_not_found"

/-- The condition of a name, which has to be spelled exactly. -/
def ofName? (name : String) : Option ErrorCondition :=
  all.find? fun condition => condition.name == name

end ErrorCondition

/-- A request that was not carried out. -/
structure ProcessingError where
  /-- Why it was not. -/
  condition : ErrorCondition
  /-- What else is known. -/
  message : Option String
  deriving DecidableEq

namespace ProcessingError

/-- What is said about the error: its message unless that is absent or empty. -/
def text (error : ProcessingError) : String :=
  match error.message with
  | some message => if message.isEmpty then error.condition.name else message
  | none => error.condition.name

/-- The error with all its parts. -/
def shown (error : ProcessingError) : String :=
  let message := match error.message with
    | some message => Text.quoted message
    | none => "None"
  "ProcessingError(condition=" ++ Text.quoted error.condition.name ++ ", message=" ++ message ++ ")"

end ProcessingError

/-- Why a request failed. -/
inductive Error where
  /-- A record of this title has faults. -/
  | invalid (title : String) (faults : List Fault)
  /-- The request was not carried out, possibly because of an endpoint's failure. -/
  | processing (error : ProcessingError) (cause : Option Failure)
  /-- An endpoint failed. -/
  | endpoint (failure : Failure)
  /-- No media type has this name. -/
  | unknownMediaType (name : String)
  /-- No condition has this name. -/
  | unknownCondition (name : String)
  /-- A retransmission format does not name a payload type. -/
  | association (fault : AssociationFault)
  /-- No level has this name. -/
  | unknownLevel (name : String)
  /-- A format holds no directive. -/
  | invalidFormat (format : String)
  deriving DecidableEq

/-- What is said about an error. -/
def Error.message : Error → String
  | .invalid title _ => title
  | .processing error _ => error.text
  | .endpoint failure => failure.text
  | .unknownMediaType name => Text.quoted name ++ " is not a valid MediaType"
  | .unknownCondition name => Text.quoted name ++ " is not a valid ErrorCondition"
  | .association fault => fault.message
  | .unknownLevel name => "Unknown level: " ++ Text.quoted name
  | .invalidFormat format => "Invalid format '" ++ format ++ "' for '%' style"

/-- The media type of a name. -/
def MediaType.ofName (name : String) : Except Error MediaType :=
  match MediaType.ofName? name with
  | some media => .ok media
  | none => .error (.unknownMediaType name)

/-- The condition of a name. -/
def ErrorCondition.ofName (name : String) : Except Error ErrorCondition :=
  match ErrorCondition.ofName? name with
  | some condition => .ok condition
  | none => .error (.unknownCondition name)

end ConferenceBridge
