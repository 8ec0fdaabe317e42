import ConferenceBridge.Error
import ConferenceBridge.Logging.Line
import ConferenceBridge.Settings

/-!
# The bridge's logger

All parts of the bridge log through one logger with a level and handlers. Configuring it sets the
level first and the formats last, so a format that is not accepted leaves the new level and one
handler.
-/

namespace ConferenceBridge.Logging

/-- A logger with its level and the formats of its handlers, which may have none. -/
structure Logger where
  /-- The lowest level that is logged, zero if it was not set. -/
  level : Level
  /-- The format of each handler. -/
  handlers : List (Option String)
  deriving DecidableEq

namespace Logger

/-- The logger before it is configured. -/
def fresh : Logger := ⟨0, []⟩

/-- The name of the logger. -/
def name : String := "videobridge"

/-- The lowest level that is logged where none was set. -/
def fallbackLevel : Level := 30

/-- The lowest level that is logged. -/
def effectiveLevel (logger : Logger) : Level :=
  if logger.level = 0 then fallbackLevel else logger.level

/-- Adds a handler without a format. -/
def addHandler (logger : Logger) : Logger := { logger with handlers := logger.handlers ++ [none] }

/-- Sets the level, and adds a handler if there is none. -/
def prepare (logger : Logger) (level : Level) : Logger :=
  let leveled := { logger with level }
  if leveled.handlers.isEmpty then leveled.addHandler else leveled

/-- Gives all handlers a format. -/
def setFormat (logger : Logger) (format : String) : Logger :=
  { logger with handlers := logger.handlers.map fun _ => some format }

/-- Configures the logger as the settings say. The logger is given back also if that fails. -/
def configure (logger : Logger) (settings : Settings) : Logger × Except Error Unit :=
  match levelOfName? settings.logLevel with
  | none => (logger, .error (.unknownLevel settings.logLevel))
  | some level =>
    let prepared := logger.prepare level
    match acceptedFormat? settings.logFormat with
    | none => (prepared, .error (.invalidFormat settings.logFormat))
    | some format => (prepared.setFormat format, .ok ())

/-- Whether a name is that of the logger or of a part of the bridge. -/
def covers (part : String) : Bool := part == name || (name ++ ".").toList.isPrefixOf part.toList

/-- What the handlers write for an entry: a line each, or nothing for a format that cannot be
carried out. -/
def emit (logger : Logger) (entry : Entry) : String :=
  if covers entry.logger && logger.effectiveLevel ≤ entry.level then
    String.join (logger.handlers.map fun format =>
      match render? (format.getD messageFormat) entry with
      | some line => line ++ "\n"
      | none => "")
  else ""

end Logger

end ConferenceBridge.Logging
