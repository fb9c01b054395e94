import SchemaMigration.Operation.Basic

/-!
# Going up

The command `up`, with and without `--dry-run`: applying the pending migrations of a directory in
order, up to the first failure, or showing what would be applied. A server that was not prepared yet
counts as version zero when nothing is to be changed on it.
-/

namespace SchemaMigration.Operation

open Files

variable {σ : Type}

/-- The line of a change that was left out. -/
def skipLine (s : Skip) : String :=
  "     skip " ++ s.constraint ++ match s.reason with
    | .alreadyPresent => " already exists"
    | .notPresent => " does not exist"

/-! ## Applying -/

/-- The lines about a migration that was applied. -/
def reportLines (f : MigrationFile) (r : Report) : List String :=
  ("  ✓ " ++ f.label ++ " (" ++ toString r.statements.length ++ " statement(s))") ::
    r.skipped.map skipLine

/-- Applies one migration, and records it as of `now`. -/
def applyOne (m : Migrator σ) (now : Int) (f : MigrationFile) : Operation σ Unit := do
  Session.note .info ("Applying " ++ f.label)
  let report ← onServer (.applying f.label) (m.migrate now f.version f.up)
  print (reportLines f report)

/-- The last line, by the number of migrations applied. -/
def appliedLine (count : Nat) : String :=
  if count = 0 then "✅ No migrations to apply"
  else "✅ Successfully applied " ++ toString count ++ " migration(s)"

/-- Prepares the server, and applies those of the migrations that are pending, up to the target. -/
def applyPending (m : Migrator σ) (now : Int) (ms : List MigrationFile) (target : Option String) :
    Operation σ Unit := do
  onServer .migration m.init
  let current ← onServer .migration m.version
  let todo := pending ms current target
  print ["Applying migrations..."]
  Session.forEach (applyOne m now) todo
  print [appliedLine todo.length]

/-! ## Previewing -/

/-- Where a schema stands: its version, and whether its database is there. -/
structure Standing where
  current : String
  hasDatabase : Bool
deriving DecidableEq, Repr

/-- The standing that the answer to a question for the version shows. -/
def standingOf : Except MigrationError String → Except MigrationError Standing
  | .ok current => .ok ⟨current, true⟩
  | .error e =>
    if e.isUnknownDatabase then .ok ⟨Version.zero, false⟩
    else if e.isMissingTable then .ok ⟨Version.zero, true⟩
    else .error e

/-- Where the schema stands. -/
def standing (m : Migrator σ) : Operation σ Standing :=
  onServer .migration do
    let answer ← Session.attempt m.version
    Session.ofExcept (standingOf answer)

/-- Plans a command set with nobody to ask about the schema. -/
def planBlind (commands : Json.Value) : Session σ MigrationError Plan := do
  let cs ← Session.ofExcept (Command.readAll commands)
  plan none cs

/-- The lines of a plan. -/
def planLines (p : Plan) : List String :=
  p.statements.map ("     " ++ ·) ++ p.skipped.map skipLine

/-- Shows the plan of one migration. Each is planned against the schema as it is, not as the
migrations before it would leave it. -/
def previewOne (m : Migrator σ) (hasDatabase : Bool) (position : Nat) (f : MigrationFile) :
    Operation σ Unit := do
  print ["  " ++ toString position ++ ". " ++ f.label]
  let p ← onServer (.planning f.path) (if hasDatabase then m.plan f.up else planBlind f.up)
  print (planLines p)

/-- Shows the plans of migrations, numbered from `position`. -/
def previewFrom (m : Migrator σ) (hasDatabase : Bool) :
    (position : Nat) → List MigrationFile → Operation σ Unit
  | _, [] => pure ()
  | position, f :: rest => do
    previewOne m hasDatabase position f
    previewFrom m hasDatabase (position + 1) rest

/-- Shows the plans of those of the migrations that are pending, up to the target. -/
def preview (m : Migrator σ) (ms : List MigrationFile) (target : Option String) :
    Operation σ Unit := do
  let here ← standing m
  match here.hasDatabase with
  | true => pure ()
  | false =>
    Session.note .info ("database " ++ m.settings.descriptor.database ++
      " does not exist yet, planning without introspection")
  match pending ms here.current target with
  | [] => print ["No pending migrations to apply"]
  | todo => do
    print ["Would apply " ++ toString todo.length ++ " migration(s):"]
    previewFrom m here.hasDatabase 1 todo

/-- Applies the pending migrations of a directory, or shows what would be applied. -/
def up (m : Migrator σ) (now : Int) (dir : Path) (target : Option String) (dryRun : Bool) :
    Operation σ Unit := do
  let ms ← discover dir
  match dryRun with
  | true => preview m ms target
  | false => applyPending m now ms target

end SchemaMigration.Operation
