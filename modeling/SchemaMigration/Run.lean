import SchemaMigration.Command.Reading
import SchemaMigration.Plan
import SchemaMigration.Version.Table

/-!
# Running a migration

The migration runner (§4.4 of the driftwood specification) and its report (appendix G). A run checks
the version and the command set, plans every statement, executes the statements one by one up to the
first failure, and records the version once all of them succeeded. Schema changes are not
transactional, so a failure leaves the statements before it applied.
-/

namespace SchemaMigration

open Session

/-- What a successful run did. -/
structure Report where
  version : String
  statements : List String
  skipped : List Skip
  created : Int
deriving DecidableEq, Repr

/-- A backend's message without the blanks around it and without a leading severity. -/
def cleanMessage (message : String) : String :=
  let s := Text.trim message.toList
  match Text.after? "FATAL: ".toList s with
  | some rest => String.ofList rest
  | none =>
    match Text.after? "ERROR: ".toList s with
    | some rest => String.ofList rest
    | none => String.ofList s

variable {σ : Type}

/-- What a statement is sent through. -/
abbrev Sender (σ : Type) := String → Session σ MigrationError (Except BackendError Nat)

/-- Sends one statement, the one at `index` of `total`. It is logged before it is sent. -/
def sendStatement (send : Sender σ) (version : String) (total index : Nat) (statement : String) :
    Session σ MigrationError Unit := do
  note .info ("[" ++ version ++ "] " ++ statement)
  match ← send statement with
  | .ok _ => pure ()
  | .error e =>
    let message := cleanMessage e.text
    note .error ("[" ++ version ++ "] statement " ++ toString index ++ " of " ++ toString total ++
      " failed: " ++ message)
    fail (.execution ⟨version, index, total, statement, message⟩)

/-- Sends the statements that start at `index`, up to the first failure. -/
def sendFrom (send : Sender σ) (version : String) (total : Nat) :
    (index : Nat) → List String → Session σ MigrationError Unit
  | _, [] => pure ()
  | index, statement :: rest => do
    sendStatement send version total index statement
    sendFrom send version total (index + 1) rest

/-- What a backend answers to a statement of a migration. -/
def Backend.answer (b : Backend σ) : Sender σ := fun statement => attempt (b.run statement [])

/-- Executes one statement, the one at `index` of `total`. -/
def executeStatement (b : Backend σ) (version : String) (total index : Nat) (statement : String) :
    Session σ MigrationError Unit :=
  sendStatement b.answer version total index statement

/-- Executes the statements that start at `index`, up to the first failure. -/
def executeFrom (b : Backend σ) (version : String) (total index : Nat)
    (statements : List String) : Session σ MigrationError Unit :=
  sendFrom b.answer version total index statements

theorem executeFrom_cons (b : Backend σ) (version : String) (total index : Nat)
    (statement : String) (rest : List String) :
    executeFrom b version total index (statement :: rest) = (do
      executeStatement b version total index statement
      executeFrom b version total (index + 1) rest) := rfl

/-- Executes statements in order, up to the first failure. -/
def executeStatements (b : Backend σ) (version : String) (statements : List String) :
    Session σ MigrationError Unit :=
  executeFrom b version statements.length 1 statements

/-- Runs a migration given as commands, and records it as of `now`. -/
def runCommands (b : Backend σ) (table : String) (now : Int) (version : String)
    (commands : List Command) : Session σ MigrationError Report := do
  ofExcept (Version.check version)
  let p ← plan (some (Introspector.ofBackend b)) commands
  executeStatements b version p.statements
  recordVersion b table ⟨version, now⟩
  note .info ("[" ++ version ++ "] applied " ++ toString p.statements.length ++
    " statement(s), skipped " ++ toString p.skipped.length ++ " constraint change(s)")
  pure ⟨version, p.statements, p.skipped, now⟩

/-- Runs a migration given as a command set. -/
def runMigration (b : Backend σ) (table : String) (now : Int) (version : String)
    (commands : Json.Value) : Session σ MigrationError Report := do
  ofExcept (Version.check version)
  let cs ← ofExcept (Command.readAll commands)
  runCommands b table now version cs

end SchemaMigration
