import SchemaMigration.Operation.Basic

/-!
# Work on migration files

The commands `check` and `new`: checking every migration file of a directory, and adding a new one.
Neither needs a server.
-/

namespace SchemaMigration.Operation

open Files

variable {σ : Type}

/-- The line of a file that was checked. -/
def checkLine (f : MigrationFile) : String :=
  match f.check with
  | .ok () => "  ✓ " ++ f.label
  | .error e => "  ✗ " ++ f.label ++ ": " ++ e.message

/-- Did a file fail its check? -/
def isInvalid (f : MigrationFile) : Bool :=
  match f.check with
  | .ok () => false
  | .error _ => true

/-- Checks the migration files of a directory. -/
def check (dir : Path) : Operation σ Unit := do
  let ms ← discover dir
  print (ms.map checkLine)
  match ms.countP isInvalid with
  | 0 => print ["All " ++ toString ms.length ++ " migration file(s) valid"]
  | bad => Session.fail (.invalidFiles bad ms.length)

/-- Adds a migration file that is stamped with the present time. -/
def create (dir : Path) (name : String) (now : Calendar.Instant) : Operation σ Unit := do
  let path ← onFiles (createMigration dir name now)
  print ["✅ Generated migration: " ++ path.text,
    "   Add [[up]] and [[down]] command tables to the file"]

end SchemaMigration.Operation
