import ConferenceBridge.Registry
import ConferenceBridge.Schema.Record
import ConferenceBridge.Text.Casing
import ConferenceBridge.Validation

/-!
# Settings

What the bridge is configured with. Every setting is looked for in three places, the arguments
first, then the environment, then a file, and takes its default if it is in none of them. Names may
be spelled in any case.
-/

namespace ConferenceBridge

/-- What the bridge is configured with. -/
structure Settings where
  /-- The kind of deployment. -/
  environment : String := "development"
  /-- The name of the lowest level that is logged. -/
  logLevel : String := "INFO"
  /-- The format of a logged line. -/
  logFormat : String := "%(asctime)s %(levelname)s %(name)s: %(message)s"
  /-- Whether Octo channels are accepted. -/
  octoEnabled : Bool := true
  deriving DecidableEq

namespace Settings

/-- A text without blanks around it, in capital letters. -/
def normalizedText (text : String) : String :=
  String.ofList (Text.uppercase (Text.trim Text.isBlank text.toList))

/-- A text that is brought into its normal form before it is used. -/
def normalized : Schema String where
  check value := (Schema.text.check value).map normalizedText
  dump := .string

/-- The settings in order of declaration. -/
def fields : Fields Settings :=
  let defaults : Settings := {}
  (Fields.cons (.withDefault "app_env" .text defaults.environment) <|
    .cons (.withDefault "log_level" normalized defaults.logLevel) <|
    .cons (.withDefault "log_format" .text defaults.logFormat) <|
    .one (.withDefault "octo_enabled" .truth defaults.octoEnabled)).as
    (fun (environment, logLevel, logFormat, octoEnabled) =>
      { environment, logLevel, logFormat, octoEnabled })
    (fun s => (s.environment, s.logLevel, s.logFormat, s.octoEnabled))

/-- The title under which faults are reported. -/
def title : String := "Settings"

/-- The places where settings are looked for. -/
structure Sources where
  /-- The arguments, with values of any kind. -/
  arguments : List (String × Json)
  /-- The variables of the environment in order. -/
  environment : List (String × String)
  /-- The bindings of the file in order. -/
  file : List (String × Option String)

/-- The last value whose name agrees with a setting's in small letters. -/
def lastNamed? {α : Type} (name : String) (entries : List (String × α)) : Option α :=
  (entries.reverse.find? fun entry => Text.lowercase entry.1.toList == name.toList).map Prod.snd

/-- The argument for a setting. One that is spelled exactly like the setting goes before others. -/
def Sources.argument? (sources : Sources) (name : String) : Option Json :=
  (Json.memberOf? sources.arguments name).or (lastNamed? name sources.arguments)

/-- The value of a setting in the first place that has one. -/
def Sources.find? (sources : Sources) (name : String) : Option Json :=
  let text := (lastNamed? name sources.environment).or (lastNamed? name sources.file).join
  (sources.argument? name).or (text.map .string)

/-- Reads the settings from their places. -/
def load (sources : Sources) : Except Error Settings :=
  (fields.check sources.find?).orError title

/-- The settings with their names. -/
def toJson (settings : Settings) : Json := .object (fields.dump settings)

end Settings

end ConferenceBridge
