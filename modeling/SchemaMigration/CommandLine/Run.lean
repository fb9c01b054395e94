import SchemaMigration.CommandLine.Arguments
import SchemaMigration.CommandLine.EnvFile
import SchemaMigration.Operation.Files
import SchemaMigration.Operation.Status
import SchemaMigration.Operation.Up

/-!
# Runs of the program

The run of `driftwood-migrate` (appendix H of the driftwood specification). A run reads its
arguments, adds the environment file of the working directory to the environment, and performs one
operation. It ends with zero, with one after a failure, or with two if the arguments were wrong. If
the environment cannot hold what the file assigns, the run breaks off before it does anything.
-/

namespace SchemaMigration.CommandLine

open Files

/-- What surrounds a run besides its workspace: the environment, and the present time. -/
structure Setting where
  environment : Settings.Environment
  now : Calendar.Instant

/-- What a run leaves behind besides its workspace. -/
structure RunResult where
  code : Nat
  output : String
  failure : Option Failure
  log : List LogRecord

variable {σ : Type}

/-- The environment file. -/
def envFile : Path := ⟨".env"⟩

/-- The environment together with the environment file of a tree, if there is such an
environment. -/
def fullEnvironment? (root : Node) (env : Settings.Environment) : Option Settings.Environment :=
  match root.bytesOf? envFile with
  | some file => extend? env file
  | none => some env

/-- The directory of migrations. -/
def Options.directory (o : Options) : Path := ⟨o.migrationsDir.getD "migrations"⟩

/-- The operation that a run is asked for. -/
def Invocation.operation (i : Invocation) (server : Server σ) (s : Setting) : Operation σ Unit :=
  let dir := i.options.directory
  let load := Operation.loadMigrator server s.environment (i.options.config.map Path.mk)
  match i.action with
  | .check => Operation.check dir
  | .new name => Operation.create dir name s.now
  | .init => do
    let m ← load
    Operation.init m
  | .version => do
    let m ← load
    Operation.version m
  | .status => do
    let m ← load
    Operation.status m dir
  | .up target dryRun => do
    let m ← load
    Operation.up m s.now.millis dir target dryRun

/-- The line that ends a successful run. -/
def successLine : String := "✅ Success"

/-- What a run leaves behind that breaks off: no output, and no failure to tell of. -/
def RunResult.brokenOff : RunResult := ⟨101, "", none, []⟩

/-- Performs the operation that a run is asked for. -/
def perform (server : Server σ) (s : Setting) (i : Invocation) (w : Workspace σ) :
    RunResult × Workspace σ :=
  match fullEnvironment? w.files s.environment with
  | none => (.brokenOff, w)
  | some environment =>
    let o := i.operation server { s with environment } { w with printed := [] }
    match o.result with
    | .error f => (⟨1, printedText o.state.printed, some f, o.log⟩, o.state)
    | .ok () =>
      let lines := if i.options.quiet then [] else [successLine]
      (⟨0, printedText (o.state.printed ++ lines), none, o.log⟩, o.state)

/-- The name and the version of the program. -/
def programLine : String := "driftwood-migrate 0.1.0"

/-- How the program is used. -/
def helpLines : List String :=
  ["Declarative schema migrations for MySQL", "",
    "Usage: driftwood-migrate [--config <CONFIG>] [--migrations-dir <MIGRATIONS_DIR>] [-v] [-q] <COMMAND>",
    "", "Commands: init, version, status, up [--target <TARGET>] [--dry-run], check, new <NAME>"]

/-- Runs the program with its arguments. -/
def run (server : Server σ) (s : Setting) (args : List String) (w : Workspace σ) :
    RunResult × Workspace σ :=
  match parse args with
  | .ok i => perform server s i w
  | .error .usage => (⟨2, "", none, []⟩, w)
  | .error .help => (⟨0, printedText helpLines, none, []⟩, w)
  | .error .programVersion => (⟨0, printedText [programLine], none, []⟩, w)

end SchemaMigration.CommandLine
