import SchemaMigration.Files.Tree
import SchemaMigration.Toml.Text

/-!
# Causes of failure with migration files

What can go wrong while a directory of migrations is read (appendix H of the driftwood
specification), or while a new file is added to it.
-/

namespace SchemaMigration

open Files

/-- What can be wrong with the content of a migration file. -/
inductive ContentFault
  | notToml
  | unexpectedKey (key : String)
  | badDescription (got : Toml.Value)
deriving Repr

/-- The wording of a fault in the content. -/
def ContentFault.message : ContentFault → String
  | notToml => "not a TOML document"
  | unexpectedKey key =>
    "unexpected key '" ++ key ++ "', expected up, down or description"
  | badDescription got => "description must be a string, got " ++ got.text

/-- Why migration files could not be found, read or written. -/
inductive DiscoveryError
  | directoryNotFound (dir : Path)
  | io (path : Path) (error : FileError)
  | badFileName (name : String)
  | badContent (path : Path) (fault : ContentFault)
  | duplicateVersion (version : String) (first second : Path)
  /-- The name asked for cannot be a part of a file name. -/
  | badName (name : String)
deriving Repr

/-- The wording of a failure. -/
def DiscoveryError.message : DiscoveryError → String
  | directoryNotFound dir => "Migrations directory not found: " ++ dir.text
  | io path error => "Failed to read " ++ path.text ++ ": " ++ error.message
  | badFileName name =>
    "Migration file name '" ++ name ++
      "' does not match expected pattern: \x7bYYYYMMDDHHMMSS\x7d_\x7bname\x7d.toml"
  | badContent path fault => "Invalid migration file " ++ path.text ++ ": " ++ fault.message
  | duplicateVersion version first second =>
    "Duplicate migration version " ++ version ++ ": " ++ first.text ++ " and " ++ second.text
  | badName name =>
    "Migration name '" ++ name ++ "' must contain only letters, digits and underscores"

/-- The wording of a failure, followed by the wording of its cause. -/
def DiscoveryError.chain (e : DiscoveryError) : List String :=
  e.message :: match e with
    | io _ error => [error.message]
    | _ => []

end SchemaMigration
