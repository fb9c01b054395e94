import SchemaMigration.Backend.Session
import SchemaMigration.Calendar.Civil
import SchemaMigration.Migration.File

/-!
# Directories of migrations

Discovery of migration files (appendix H of the driftwood specification). The migrations of a
directory are its entries with the extension `toml`, in the order of their versions. Every one of
them has to load, and no two may have the same version.

> `discover`: the migrations of a listing. `pending`: those that are still to be applied.
> `createMigration`: adds an empty migration that is stamped with the present time.
-/

namespace SchemaMigration

open Files

/-! ## Finding migrations -/

/-- Is the entry of a directory a migration? -/
def isMigrationEntry (entry : String × Node) : Bool :=
  Path.extension? entry.1 == some "toml"

/-- Loads the migrations of a listing, up to the first one that fails. -/
def loadEntries (dir : Path) (entries : List (String × Node)) :
    Except DiscoveryError (List MigrationFile) :=
  Reading.each (fun e => MigrationFile.load (dir.join e.1) (.ok e.2))
    (entries.filter isMigrationEntry)

/-- The migrations in ascending order of their versions. -/
def sortByVersion (ms : List MigrationFile) : List MigrationFile :=
  ms.mergeSort fun a b => decide (a.version ≤ b.version)

/-- The first two neighbours with the same version. -/
def duplicate? : List MigrationFile → Option (MigrationFile × MigrationFile)
  | [] => none
  | [_] => none
  | a :: b :: rest => if a.version = b.version then some (a, b) else duplicate? (b :: rest)

/-- The migrations of a listing of a directory. -/
def discover (dir : Path) (entries : List (String × Node)) :
    Except DiscoveryError (List MigrationFile) :=
  match loadEntries dir entries with
  | .error e => .error e
  | .ok ms =>
    let sorted := sortByVersion ms
    match duplicate? sorted with
    | some (a, b) => .error (.duplicateVersion a.version a.path b.path)
    | none => .ok sorted

/-- The migrations of a directory of a tree. -/
def discoverIn (root : Node) (dir : Path) : Except DiscoveryError (List MigrationFile) :=
  match root.entriesOf? dir with
  | some entries => discover dir entries
  | none => .error (.directoryNotFound dir)

/-- Is the version newer than the current one, and not beyond the target? -/
def isPending (current : String) (target : Option String) (version : String) : Bool :=
  decide (current < version) &&
    match target with
    | some t => decide (version ≤ t)
    | none => true

/-- The migrations newer than the current version, up to and including the target if there is
one. -/
def pending (ms : List MigrationFile) (current : String) (target : Option String) :
    List MigrationFile :=
  ms.filter fun m => isPending current target m.version

/-! ## Adding one -/

/-- The file name of a migration that is written now. -/
def newFileName (name : String) (now : Calendar.Instant) : FileName := ⟨now.stamp, name⟩

/-- The content of a new migration: comments that show what belongs there. -/
def emptyMigration (f : FileName) : String :=
  "# " ++ f.version ++ "_" ++ f.name ++ "\n" ++
    "#\n" ++
    "# [[up]]\n" ++
    "# create-table = \"example\"\n" ++
    "# columns = [[\"id\", \"INT\", \"NOT NULL\"]]\n" ++
    "# primary-key = [\"id\"]\n" ++
    "#\n" ++
    "# [[down]]\n" ++
    "# drop-table = \"example\"\n"

/-- Adds an empty migration to a directory, which is made if it is missing. No file is
overwritten. -/
def createMigration (dir : Path) (name : String) (now : Calendar.Instant) :
    Session Node DiscoveryError Path := fun root =>
  if !Sql.isPlainIdentifier name then ⟨.error (.badName name), root, []⟩
  else
    match root.makeDirectory dir with
    | (.error e, root) => ⟨.error (.io dir e), root, []⟩
    | (.ok (), root) =>
      let f := newFileName name now
      let path := dir.join f.text
      match root.createFile path (emptyMigration f).toUTF8 with
      | .error e => ⟨.error (.io path e), root, []⟩
      | .ok root => ⟨.ok path, root, []⟩

end SchemaMigration
