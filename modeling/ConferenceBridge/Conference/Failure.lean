import ConferenceBridge.MachineWord
import ConferenceBridge.Text.Numeral
import ConferenceBridge.Text.Quoted

/-!
# Failures of endpoints

An endpoint that is asked for its channels may fail. A failure of its transport is told apart from
any other failure, because only the former is turned into an answer to the request.
-/

namespace ConferenceBridge

/-- A detail that a failure was raised with. -/
inductive Detail where
  /-- Nothing. -/
  | nothing
  /-- A truth value. -/
  | truth (value : Bool)
  /-- A number. -/
  | number (value : Int)
  /-- A text. -/
  | text (value : String)
  deriving DecidableEq

/-- What went wrong with a transport. -/
inductive TransportFault where
  /-- Nothing more is known. -/
  | unspecified
  /-- The operation is not permitted. -/
  | notPermitted
  /-- There is no such file. -/
  | notFound
  /-- There is no such process. -/
  | noProcess
  /-- The operation was interrupted. -/
  | interrupted
  /-- There is no child process. -/
  | noChild
  /-- The operation would block. -/
  | wouldBlock
  /-- The file exists. -/
  | alreadyExists
  /-- Not a directory. -/
  | notDirectory
  /-- A directory. -/
  | isDirectory
  /-- The other end was closed. -/
  | brokenPipe
  /-- The connection was aborted. -/
  | connectionAborted
  /-- The connection was reset. -/
  | connectionReset
  /-- The connection was refused. -/
  | connectionRefused
  /-- The connection failed in some other way. -/
  | connectionFailed
  /-- The time was up. -/
  | timedOut
  deriving DecidableEq

/-- A failure of an endpoint. -/
inductive Failure where
  /-- A failure of the endpoint's transport. -/
  | transport (fault : TransportFault) (text : String)
  /-- What the endpoint counts is out of range. -/
  | uncountable
  /-- Any other failure, under the name that the endpoint gives it. -/
  | unexpected (name text : String)
  deriving DecidableEq

namespace Detail

/-- A detail as it stands among others: texts are quoted. -/
def shown : Detail → String
  | .nothing => "None"
  | .truth value => if value then "True" else "False"
  | .number value => Text.integerText value
  | .text value => Text.quoted value

/-- A detail as it is. -/
def plain : Detail → String
  | .text value => value
  | detail => detail.shown

/-- The number that a detail is. A truth value counts as one or zero. -/
def number? : Detail → Option Int
  | .truth value => some (if value then 1 else 0)
  | .number value => some value
  | _ => none

end Detail

namespace Failure

/-- What is said about a failure: its only detail, or all details in parentheses. -/
def detailText : List Detail → String
  | [] => ""
  | [detail] => detail.plain
  | details => "(" ++ String.intercalate ", " (details.map Detail.shown) ++ ")"

/-- What was written before the operation would block, if the details that follow the meaning count
it in the place of a file. -/
def countOf? (fault : TransportFault) (others : List Detail) : Option Int :=
  if fault = .wouldBlock then others.head?.bind Detail.number? else none

/-- The files that the details after the meaning name: a first one, a detail that is passed over,
and a second one. -/
def filesOf (fault : TransportFault) (others : List Detail) : List Detail :=
  match others with
  | [] | .nothing :: _ => []
  | file :: rest =>
    if (countOf? fault others).isSome then []
    else file :: (rest.drop 1).filter fun second => second != .nothing

/-- What is said about a failure of a transport. From two to five details are a number, its meaning
and the files that are concerned. -/
def transportText (fault : TransportFault) (details : List Detail) : String :=
  match details with
  | number :: meaning :: others =>
    if 3 < others.length then detailText details
    else
      "[Errno " ++ number.plain ++ "] " ++ meaning.plain ++
        match filesOf fault others with
        | [] => ""
        | files => ": " ++ String.intercalate " -> " (files.map Detail.shown)
  | _ => detailText details

/-- The fault that a number stands for. -/
def faultOfNumber : Int → TransportFault
  | 1 | 13 => .notPermitted
  | 2 => .notFound
  | 3 => .noProcess
  | 4 => .interrupted
  | 10 => .noChild
  | 11 | 114 | 115 => .wouldBlock
  | 17 => .alreadyExists
  | 20 => .notDirectory
  | 21 => .isDirectory
  | 32 | 108 => .brokenPipe
  | 103 => .connectionAborted
  | 104 => .connectionReset
  | 110 => .timedOut
  | 111 => .connectionRefused
  | _ => .unspecified

/-- The fault that the details of a transport's failure name: that of their number, if its meaning
follows. -/
def faultOfDetails : List Detail → TransportFault
  | number :: _ :: others =>
    match number.number? with
    | some value => if others.length ≤ 3 then faultOfNumber value else .unspecified
    | none => .unspecified
  | _ => .unspecified

/-- A failure of a transport with its details. A count has to fit into a machine word. -/
def ofFault (fault : TransportFault) (details : List Detail) : Failure :=
  if ((countOf? fault (details.drop 2)).all fitsMachineWord) || 5 < details.length then
    .transport fault (transportText fault details)
  else .uncountable

/-- The failure of a transport that is known by its details only. -/
def ofDetails (details : List Detail) : Failure := ofFault (faultOfDetails details) details

/-- The text of a failure. -/
def text : Failure → String
  | .transport _ text | .unexpected _ text => text
  | .uncountable => "cannot fit 'int' into an index-sized integer"

end Failure

end ConferenceBridge
