import SchemaMigration.Operation.Basic

/-!
# State of a schema

The commands `init`, `version` and `status`: preparing a server, and showing how far its schema has
come: the current version, and which of the migrations of a directory are applied.
-/

namespace SchemaMigration.Operation

open Files

variable {σ : Type}

/-- Prepares the server. -/
def init (m : Migrator σ) : Operation σ Unit := do
  onServer .migration m.init
  print ["Database " ++ m.settings.descriptor.database ++ " ready (version table " ++
    m.settings.versionTable ++ ")"]

/-- Shows the current version. -/
def version (m : Migrator σ) : Operation σ Unit := do
  let current ← onServer .migration m.version
  print [current]

/-- Does a migration count as applied at the current version? -/
def isApplied (current : String) (f : MigrationFile) : Bool := decide (f.version ≤ current)

/-- The line of one migration. -/
def statusLine (current : String) (f : MigrationFile) : String :=
  if isApplied current f then "  ✓ " ++ f.label else "  ⏳ " ++ f.label ++ " (pending)"

/-- The lines about the migrations of a directory. -/
def statusLines (dir : Path) (ms : List MigrationFile) (current : String) : List String :=
  let applied := ms.countP (isApplied current)
  ["\n📊 Migration Status (current version: " ++ current ++ ")\n"] ++
    ms.map (statusLine current) ++
    (if ms.isEmpty then ["  No migration files in " ++ dir.text] else []) ++
    ["\n📈 Summary: " ++ toString applied ++ " applied, " ++ toString (ms.length - applied) ++
      " pending"]

/-- Shows which migrations of a directory are applied. -/
def status (m : Migrator σ) (dir : Path) : Operation σ Unit := do
  let ms ← discover dir
  let current ← onServer .migration m.version
  print (statusLines dir ms current)

end SchemaMigration.Operation
