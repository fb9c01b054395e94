import SchemaMigration.Backend.Session
import SchemaMigration.Settings.Reading
import SchemaMigration.Settings.Source

/-!
# Loading settings

Loading `MigratorConfig` (appendix D of the driftwood specification). The settings are layered: the
defaults, then a file, then the environment. A file that is named has to be a TOML document, if it
is there; the default file is skipped with a warning if it is not.
-/

namespace SchemaMigration

open Files

/-- Why settings could not be loaded. -/
inductive SettingsError
  /-- The file is no TOML document. -/
  | badFile (path : Path)
  /-- A value has a type that cannot be converted. -/
  | badValue
  /-- The version table has this name, which is no plain identifier. -/
  | badTable (name : String)
deriving DecidableEq, Repr

/-- What is wrong with a file that is no TOML document. -/
def notTomlText : String := "not a TOML document"

/-- The wording of a failure. -/
def SettingsError.message : SettingsError → String
  | badFile path => "Failed to load configuration file " ++ path.text ++ ": " ++ notTomlText
  | badValue =>
    "Migrator configuration could not be loaded from file or environment: a value has a wrong type"
  | badTable name =>
    "version_table '" ++ name ++
      "' must be a non-empty identifier of letters, digits and underscores"

namespace Settings

/-- The settings of a file layered under the environment. -/
def ofSources (file : Source) (env : Environment) : Except SettingsError Settings :=
  match ofTree? (((Tree.table []).layer file).layer (ofEnvironment env)) with
  | none => .error .badValue
  | some s => (s.check.mapError .badTable).map fun _ => s

/-- The default file. -/
def defaultPath : Path := ⟨"config/driftwood.toml"⟩

/-- The warning that the default file was skipped. -/
def skipWarning (p : Path) : String :=
  "failed to load config file " ++ p.text ++ ", falling back to env: " ++ notTomlText

/-- Loads the settings from a file that is named. -/
def loadFrom (root : Node) (env : Environment) (p : Path) : Except SettingsError Settings :=
  match ofFile root p with
  | .error () => .error (.badFile p)
  | .ok file => ofSources file env

/-- Loads the settings from the default file. -/
def load {σ : Type} (root : Node) (env : Environment) : Session σ SettingsError Settings :=
  match ofFile root defaultPath with
  | .ok file => .ofExcept (ofSources file env)
  | .error () => do
    if root.isThere defaultPath then Session.note .warn (skipWarning defaultPath)
    .ofExcept (ofSources [] env)

end Settings

end SchemaMigration
