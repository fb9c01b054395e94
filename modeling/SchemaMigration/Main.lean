import SchemaMigration.CommandLine.Run
import SchemaMigration.Server.Catalog
import Std.Time.DateTime.Timestamp

/-!
# The program

The outer layer of `driftwood-migrate` (appendix H of the driftwood specification): it reads the
files that a run can look at, the variables that settings come from and the clock, performs the run,
and writes the texts and the files that the run left behind. The server is an in-memory catalog that
starts empty and ends with the run.
-/

namespace SchemaMigration.Program

open Files

/-- The bytes of a file that can be read. -/
def fileAt? (p : Path) : IO (Option ByteArray) := do
  try
    let bytes ← IO.FS.readBinFile p.text
    pure (some bytes)
  catch _ => pure none

/-- The entries of a directory that can be listed. What cannot be read is a directory. -/
def entriesAt? (p : Path) : IO (Option (List (String × Node))) := do
  try
    let dir ← IO.FS.realPath p.text
    let listing ← dir.readDir
    let entries ← listing.toList.mapM fun entry => do
      let content ← fileAt? (p.join entry.fileName)
      match content with
      | some bytes => pure (entry.fileName, Node.file bytes)
      | none => pure (entry.fileName, Node.directory [])
    pure (some entries)
  catch _ => pure none

/-- The parts of a path that lead somewhere. -/
def placeOf (p : Path) : List String := p.parts.filter fun part => !Path.isIdle part

/-- The tree with what is found under a path. -/
def withPath (root : Node) (p : Path) : IO Node := do
  if p.isAbsolute || (placeOf p).contains ".." then pure root
  else
    match ← entriesAt? p with
    | some entries => pure (Node.put (.directory entries) (placeOf p) root)
    | none =>
      match ← fileAt? p with
      | some bytes => pure (Node.put (.file bytes) (placeOf p) root)
      | none => pure root

/-- The tree with what is found under several paths. -/
def withPaths (root : Node) (ps : List Path) : IO Node := ps.foldlM withPath root

/-- The paths that a run can look at. -/
def pathsOf (args : List String) : List Path :=
  match CommandLine.parse args with
  | .error _ => []
  | .ok i =>
    let config := (i.options.config.map Path.mk).getD Settings.defaultPath
    [CommandLine.envFile, config] ++ (Settings.withExtension? "toml" config).toList ++
      [i.options.directory]

/-- The variables that settings come from. -/
def variableNames : List String :=
  ["DATABASE__HOST", "DATABASE__PORT", "DATABASE__USER", "DATABASE__PASSWORD",
    "DATABASE__DATABASE", "VERSION_TABLE"].map ("DRIFTWOOD__" ++ ·)

/-- Those of the variables that are set. -/
def environment : IO Settings.Environment := do
  let values ← variableNames.mapM fun name => do
    let value ← IO.getEnv name
    pure (value.map fun v => (name, v))
  pure (values.filterMap id)

/-- The present time. -/
def now : IO Calendar.Instant := do
  let t ← Std.Time.Timestamp.now
  pure ⟨t.toMillisecondsSinceUnixEpoch.val⟩

/-- Writes the files of a directory that were not there before. -/
def writeNew (before after : Node) (dir : Path) : IO Unit := do
  let old := (before.entriesOf? dir).getD []
  let fresh := ((after.entriesOf? dir).getD []).filter fun e => (Entries.get? old e.1).isNone
  unless fresh.isEmpty do IO.FS.createDirAll dir.text
  for e in fresh do
    match e.2 with
    | .file content => IO.FS.writeBinFile (dir.join e.1).text content
    | .directory _ => pure ()

/-- Is a record of the log shown? -/
def isShown (o : CommandLine.Options) (r : LogRecord) : Bool :=
  match r.level with
  | .error => true
  | .warn | .info => !o.quiet
  | .debug => o.verbose && !o.quiet

/-- Performs one run. -/
def perform (args : List String) : IO UInt32 := do
  let files ← withPaths (.directory []) (pathsOf args)
  let setting : CommandLine.Setting := ⟨← environment, ← now⟩
  let server := Server.ofCatalog ⟨1105, "HY000"⟩ ⟨1105, "HY000"⟩
  let (r, w) := CommandLine.run server setting args ⟨({} : Catalog), files, []⟩
  match CommandLine.parse args with
  | .ok i =>
    for record in r.log do
      if isShown i.options record then
        IO.eprintln ("[" ++ record.level.name ++ "] " ++ record.message)
    writeNew files w.files i.options.directory
  | .error .usage => IO.eprint (printedText CommandLine.helpLines)
  | .error _ => pure ()
  IO.print r.output
  match r.failure with
  | some f => IO.eprintln ("❌ Error: " ++ f.text)
  | none => pure ()
  pure (UInt32.ofNat r.code)

end SchemaMigration.Program

/-- Runs the program. -/
def main (args : List String) : IO UInt32 := SchemaMigration.Program.perform args
