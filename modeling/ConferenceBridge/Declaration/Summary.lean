import ConferenceBridge.Declaration
import ConferenceBridge.Json.Writer

/-!
# Summaries of payload declarations

A declaration in short, for messages: what has its default value is left out, also inside the
feedback, and nothing else is.
-/

namespace ConferenceBridge

/-- The kind of feedback without an absent subtype. -/
def RtcpFeedback.summary (feedback : RtcpFeedback) : Json :=
  .object <| ("type", .string feedback.type) ::
    match feedback.subtype with
    | some subtype => [("subtype", .string subtype)]
    | none => []

namespace PayloadDeclaration

/-- The named values of a declaration that differ from their defaults; number and name have none. -/
def summaryMembers (declaration : PayloadDeclaration) : List (String × Json) :=
  [("id", .integer declaration.number), ("name", .string declaration.name)]
    ++ (if declaration.clockRate = 0 then []
      else [("clockrate", .integer declaration.clockRate)])
    ++ (if declaration.channels = 1 then []
      else [("channels", .integer declaration.channels)])
    ++ (if declaration.parameters.isEmpty then []
      else [("parameters", Schema.textTable.dump declaration.parameters)])
    ++ (if declaration.feedback.isEmpty then []
      else [("rtcp_feedback", .array (declaration.feedback.map RtcpFeedback.summary))])

/-- A declaration in short. -/
def summary (declaration : PayloadDeclaration) : Json := .object declaration.summaryMembers

/-- The text of a declaration in short. -/
def summaryText (declaration : PayloadDeclaration) : String := declaration.summary.write

end PayloadDeclaration

end ConferenceBridge
