import SchemaMigration.Command.Reading
import SchemaMigration.Migration.Error
import SchemaMigration.Migration.FileName
import SchemaMigration.Toml.Document

/-!
# Migration files

A migration file (appendix H of the driftwood specification) is a TOML document with the commands
that go forward, the commands that go back, and an optional description. Its file name gives the
version and the name.

> `MigrationFile.load_version`: the version and the name of a loaded file are those of its file
> name.
-/

namespace SchemaMigration

open Files

/-- A migration that was read from a file. An absent section is null. -/
structure MigrationFile where
  path : Path
  version : String
  name : String
  description : Option String
  up : Json.Value
  down : Json.Value
deriving Repr

namespace MigrationFile

/-- The keys that a migration file may have. -/
def allowedKeys : List String := ["up", "down", "description"]

/-- The version and the name together. -/
def label (m : MigrationFile) : String := m.version ++ "_" ++ m.name

/-- The description, which is a string if it is there. -/
def descriptionOf (fields : Toml.Fields) : Except ContentFault (Option String) :=
  match fields.find? "description" with
  | none => .ok none
  | some (.string s) => .ok (some s)
  | some v => .error (.badDescription v)

/-- The commands of a section. -/
def sectionOf (fields : Toml.Fields) (key : String) : Json.Value :=
  match fields.find? key with
  | some v => v.toJson
  | none => .null

/-- Reads the fields of a document. -/
def ofFields (path : Path) (name : FileName) (fields : Toml.Fields) :
    Except ContentFault MigrationFile :=
  match List.find? (fun f => !allowedKeys.contains f.1) fields with
  | some f => .error (.unexpectedKey f.1)
  | none =>
    match descriptionOf fields with
    | .error fault => .error fault
    | .ok description =>
      .ok ⟨path, name.version, name.name, description, sectionOf fields "up",
        sectionOf fields "down"⟩

/-- Reads the text of a file. -/
def ofText (path : Path) (name : FileName) (text : String) : Except ContentFault MigrationFile :=
  match Toml.document text.toList with
  | none => .error .notToml
  | some fields => ofFields path name fields

/-- Takes the file name of a path apart. -/
def nameOf (path : Path) : Except DiscoveryError FileName :=
  match path.fileName? with
  | none => .error (.badFileName path.text)
  | some file => FileName.ofString file

/-- Reads what a path leads to. The file name is checked first. -/
def load (path : Path) (found : Except FileError Node) : Except DiscoveryError MigrationFile :=
  match nameOf path with
  | .error e => .error e
  | .ok name =>
    match found.bind Node.readText with
    | .error e => .error (.io path e)
    | .ok text => (ofText path name text).mapError (.badContent path)

/-- Checks both sections as command sets, forward first. -/
def check (m : MigrationFile) : Except MigrationError Unit :=
  match Command.readAll m.up with
  | .error e => .error e
  | .ok _ =>
    match Command.readAll m.down with
    | .error e => .error e
    | .ok _ => .ok ()

/-! ## What loading keeps -/

theorem ofFields_version {path : Path} {name : FileName} {fields : Toml.Fields} {m : MigrationFile}
    (h : ofFields path name fields = .ok m) :
    m.path = path ∧ m.version = name.version ∧ m.name = name.name := by
  rw [ofFields] at h
  split at h
  · cases h
  · split at h
    · cases h
    · cases h
      exact ⟨rfl, rfl, rfl⟩

/-- A loaded file has its path, and the version and the name of its file name. -/
theorem load_version {path : Path} {found : Except FileError Node} {m : MigrationFile}
    (h : load path found = .ok m) :
    ∃ name, nameOf path = .ok name ∧ m.path = path ∧ m.version = name.version ∧
      m.name = name.name := by
  rw [load] at h
  split at h
  · cases h
  · next name hn =>
    refine ⟨name, hn, ?_⟩
    split at h
    · cases h
    · next text _ =>
      rw [ofText] at h
      split at h
      · cases h
      · next fields _ =>
        rcases hf : ofFields path name fields with e | m'
        · rw [hf] at h; cases h
        · rw [hf] at h
          cases h
          exact ofFields_version hf

end MigrationFile

end SchemaMigration
