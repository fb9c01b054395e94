import SchemaMigration.Introspect
import SchemaMigration.Settings.Basic
import SchemaMigration.Version.Basic

/-!
# The version table

One row per applied migration. The table and its database are created on demand, and the name of the
table is checked before it is written into a statement. Its columns are those of §4.4 and §6 of the
driftwood specification.
-/

namespace SchemaMigration

open Session

/-- Creates the version table. -/
def createVersionTable (table : String) : String :=
  "CREATE TABLE " ++ table ++ " (version VARCHAR(14) NOT NULL, created BIGINT NOT NULL)"

/-- Creates a database. -/
def createDatabase (name : String) : String := "CREATE DATABASE " ++ Sql.quoteIdentifier name

/-- Selects a database. -/
def useDatabase (name : String) : String := "USE " ++ Sql.quoteIdentifier name

/-- Reads all versions. -/
def selectVersions (table : String) : String := "SELECT version FROM " ++ table

/-- Adds one row. -/
def insertVersion (table : String) : String :=
  "INSERT INTO " ++ table ++ " (version, created) VALUES (?, ?)"

/-- Refuses the name of a version table that is not a plain identifier. -/
def checkTable (table : String) : Except MigrationError Unit :=
  if Sql.isPlainIdentifier table then .ok () else .error (.validation (.versionTable table))

variable {σ : Type}

/-- A statement as a step of a migration. -/
def execute (b : Backend σ) (sql : String) (params : List Param) :
    Session σ MigrationError Nat :=
  mapError .backend (b.run sql params)

/-- Creates the database unless it is there, and selects it. Says whether it was created. -/
def ensureDatabase (b : Backend σ) (name : String) : Session σ MigrationError Bool := do
  let found ← mapError .backend ((Introspector.ofBackend b).databaseExists name)
  match found with
  | true => note .debug ("database " ++ name ++ " already exists")
  | false =>
    note .info ("creating database " ++ name)
    let _ ← execute b (createDatabase name) []
  let _ ← execute b (useDatabase name) []
  pure (!found)

/-- Creates the version table unless it is there. Says whether it was created. -/
def ensureVersionTable (b : Backend σ) (table : String) : Session σ MigrationError Bool := do
  ofExcept (checkTable table)
  let found ← mapError .backend ((Introspector.ofBackend b).tableExists table)
  match found with
  | true => note .debug ("version table " ++ table ++ " already exists")
  | false =>
    note .info ("creating version table " ++ table)
    let _ ← execute b (createVersionTable table) []
  pure (!found)

/-- Makes sure that the database and the version table are there. -/
def prepare (b : Backend σ) (settings : Settings) : Session σ MigrationError Unit := do
  ofExcept (checkTable settings.versionTable)
  let _ ← ensureDatabase b settings.descriptor.database
  let _ ← ensureVersionTable b settings.versionTable
  pure ()

/-- All recorded versions, in the order of the table. -/
def appliedVersions (b : Backend σ) (table : String) : Session σ MigrationError (List String) := do
  ofExcept (checkTable table)
  mapError .backend (b.ask (selectVersions table) [])

/-- The greatest recorded version, or zero. -/
def currentVersion (b : Backend σ) (table : String) : Session σ MigrationError String := do
  let versions ← appliedVersions b table
  pure (Version.latest versions)

/-- Records one applied migration. -/
def recordVersion (b : Backend σ) (table : String) (row : VersionRow) :
    Session σ MigrationError Unit := do
  ofExcept (checkTable table)
  let _ ← execute b (insertVersion table) [.text row.version, .bigInt row.created]
  note .info ("recorded version " ++ row.version ++ " in " ++ table)

end SchemaMigration
