import SchemaMigration.Migration.Directory
import SchemaMigration.Migrator
import SchemaMigration.Settings.Load

/-!
# Operations

The commands of `driftwood-migrate` (appendix H of the driftwood specification). An operation works
on a workspace: a server, a tree of files, and the lines that were printed. What was printed and
done before a failure stays.
-/

namespace SchemaMigration

open Files

/-- Why an operation failed. -/
inductive Failure
  | configNotFound (path : Path)
  | settings (error : SettingsError)
  | discovery (error : DiscoveryError)
  | migration (error : MigrationError)
  /-- The migration in this file could not be planned. -/
  | planning (path : Path) (error : MigrationError)
  /-- The migration of this version and name could not be run. -/
  | applying (label : String) (error : MigrationError)
  /-- So many of all the files are invalid. -/
  | invalidFiles (bad total : Nat)
deriving Repr

namespace Failure

/-- The wording of a failure, followed by the wordings of its causes. -/
def chain : Failure → List String
  | configNotFound path => ["Config file not found: " ++ path.text]
  | settings error => ["Failed to load migrator configuration", error.message]
  | discovery error => error.chain
  | migration error => error.chain
  | planning path error => ("Failed to plan " ++ path.text) :: error.chain
  | applying label error => ("Migration " ++ label ++ " failed") :: error.chain
  | invalidFiles bad total =>
    [toString bad ++ " of " ++ toString total ++ " migration file(s) are invalid"]

/-- The whole chain in one text. -/
def text (f : Failure) : String := Text.joinWith ": " f.chain

end Failure

/-- What operations work on. -/
structure Workspace (σ : Type) where
  server : σ
  files : Node
  /-- The lines printed so far. -/
  printed : List String := []

/-- The text of printed lines. -/
def printedText (lines : List String) : String :=
  lines.foldl (fun acc line => acc ++ line ++ "\n") ""

/-- A computation on a workspace. -/
abbrev Operation (σ α : Type) := Session (Workspace σ) Failure α

namespace Operation

variable {σ α : Type}

/-- Prints lines. -/
def print (lines : List String) : Operation σ Unit :=
  Session.change fun w => { w with printed := w.printed ++ lines }

/-- Works on the server. -/
def onServer (wrap : MigrationError → Failure) (m : Session σ MigrationError α) : Operation σ α :=
  Session.mapError wrap (Session.within Workspace.server (fun s w => { w with server := s }) m)

/-- Works on the files. -/
def onFiles (m : Session Node DiscoveryError α) : Operation σ α :=
  Session.mapError .discovery (Session.within Workspace.files (fun f w => { w with files := f }) m)

/-- The migrations of a directory. -/
def discover (dir : Path) : Operation σ (List MigrationFile) := do
  let w ← Session.state
  Session.ofExcept ((discoverIn w.files dir).mapError .discovery)

/-- The settings of a file that is named, or of the default file. -/
def loadSettings (env : Settings.Environment) (config : Option Path) : Operation σ Settings := do
  let w ← Session.state
  match config with
  | some p =>
    if w.files.isThere p then
      Session.ofExcept ((Settings.loadFrom w.files env p).mapError .settings)
    else Session.fail (.configNotFound p)
  | none => Session.mapError .settings (Settings.load w.files env)

/-- The migrator for a server, with its settings loaded. -/
def loadMigrator (server : Server σ) (env : Settings.Environment) (config : Option Path) :
    Operation σ (Migrator σ) := do
  let s ← loadSettings env config
  Session.note .debug ("Using database " ++ s.descriptor.database ++ " on " ++ s.descriptor.host ++
    ":" ++ toString s.descriptor.port.toNat ++ " (version table " ++ s.versionTable ++ ")")
  pure ⟨server, s⟩

end Operation

end SchemaMigration
