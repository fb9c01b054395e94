import SchemaMigration.Run
import SchemaMigration.Server.Basic

/-!
# Migrators

The migrator facade (§4.5 of the driftwood specification). A migrator knows a server and the
settings for it. Each call opens the connection that it needs. What is wrong with the version or
with the commands is found before a connection is opened.
-/

namespace SchemaMigration

open Session

/-- A server, and the settings for it. -/
structure Migrator (σ : Type) where
  server : Server σ
  settings : Settings

namespace Migrator

variable {σ : Type}

/-- Opens a connection with the database selected. -/
def connect (m : Migrator σ) : Session σ MigrationError Unit :=
  m.server.connect m.settings.descriptor true

/-- Makes sure that the database and the version table are there. The database is not selected on
connecting, since it may be missing. -/
def init (m : Migrator σ) : Session σ MigrationError Unit := do
  m.server.connect m.settings.descriptor false
  prepare m.server.backend m.settings

/-- The greatest recorded version, or zero. -/
def version (m : Migrator σ) : Session σ MigrationError String := do
  m.connect
  currentVersion m.server.backend m.settings.versionTable

/-- Runs a migration given as commands, and records it as of `now`. -/
def migrateCommands (m : Migrator σ) (now : Int) (version : String) (commands : List Command) :
    Session σ MigrationError Report := do
  ofExcept (Version.check version)
  m.connect
  runCommands m.server.backend m.settings.versionTable now version commands

/-- Runs a migration given as a command set, and records it as of `now`. -/
def migrate (m : Migrator σ) (now : Int) (version : String) (commands : Json.Value) :
    Session σ MigrationError Report := do
  ofExcept (Version.check version)
  let cs ← ofExcept (Command.readAll commands)
  m.connect
  runCommands m.server.backend m.settings.versionTable now version cs

/-- Plans a command set against the schema of the server. -/
def plan (m : Migrator σ) (commands : Json.Value) : Session σ MigrationError Plan := do
  let cs ← ofExcept (Command.readAll commands)
  m.connect
  SchemaMigration.plan (some (.ofBackend m.server.backend)) cs

end Migrator

end SchemaMigration
