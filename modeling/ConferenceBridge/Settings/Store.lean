import ConferenceBridge.Settings
import ConferenceBridge.Settings.Reference

/-!
# Where settings are kept

The environment, the file, the settings that were read once and are kept, and the settings in use.
Reading that fails leaves nothing in use and keeps what was kept.
-/

namespace ConferenceBridge

/-- The places of settings, and what has been read from them. -/
structure SettingsStore where
  /-- The variables of the environment. -/
  environment : Registry String String
  /-- The bindings of the file. -/
  file : List Settings.Binding
  /-- The settings that were read once. -/
  kept : Option Settings
  /-- The settings in use. -/
  current : Option Settings

namespace SettingsStore

/-- Nothing is set and nothing was read. -/
def fresh : SettingsStore := ⟨.empty, [], none, none⟩

/-- Sets a variable of the environment. -/
def setVariable (store : SettingsStore) (name value : String) : SettingsStore :=
  { store with environment := store.environment.put name value }

/-- Removes a variable from the environment. -/
def unsetVariable (store : SettingsStore) (name : String) : SettingsStore :=
  { store with environment := store.environment.erase name }

/-- Replaces the file. -/
def writeFile (store : SettingsStore) (text : String) : SettingsStore :=
  { store with file := Settings.readFile text }

/-- Reads the settings with arguments. They come into use, or none do if reading fails. -/
def load (store : SettingsStore) (arguments : List (String × Json)) :
    SettingsStore × Except Error Settings :=
  let sources : Settings.Sources :=
    { arguments
      environment := store.environment.entries
      file := (Settings.resolve store.environment store.file).entries }
  match Settings.load sources with
  | .ok settings => ({ store with current := some settings }, .ok settings)
  | .error error => ({ store with current := none }, .error error)

/-- Takes the settings that are kept into use; if there are none, reads them and keeps them. -/
def reuse (store : SettingsStore) : SettingsStore × Except Error Settings :=
  match store.kept with
  | some settings => ({ store with current := some settings }, .ok settings)
  | none =>
    match store.load [] with
    | (loaded, .ok settings) => ({ loaded with kept := some settings }, .ok settings)
    | failed => failed

/-- Keeps nothing. -/
def forget (store : SettingsStore) : SettingsStore := { store with kept := none }

/-- The settings in use, the defaults if there are none. -/
def effective (store : SettingsStore) : Settings := store.current.getD {}

end SettingsStore

end ConferenceBridge
