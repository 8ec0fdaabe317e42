import ConferenceBridge.Text.Numeral

/-!
# Levels of messages

A level is a number; some numbers have names, and two of those have a second name.
-/

namespace ConferenceBridge.Logging

/-- How important a message is. Greater levels are more important. -/
abbrev Level := Int

/-- The names of levels. -/
def levelNames : List (String × Level) :=
  [("CRITICAL", 50), ("FATAL", 50), ("ERROR", 40), ("WARNING", 30), ("WARN", 30), ("INFO", 20),
    ("DEBUG", 10), ("NOTSET", 0)]

/-- The level of a name, which has to be spelled exactly. -/
def levelOfName? (name : String) : Option Level :=
  (levelNames.find? fun entry => entry.1 == name).map Prod.snd

/-- The name of a level: the first that it has, or its number in words. -/
def levelName (level : Level) : String :=
  match levelNames.find? fun entry => entry.2 == level with
  | some entry => entry.1
  | none => "Level " ++ Text.integerText level

end ConferenceBridge.Logging
