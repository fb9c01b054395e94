import SchemaMigration.Files.Tree
import SchemaMigration.Settings.KeyPath
import SchemaMigration.Toml.Document

/-!
# Sources of settings

Settings are loaded from a file and from the environment (appendix D of the driftwood
specification). A source is a list of values under key paths. A file holds a TOML document; a
variable of the environment is a source of one value if its name starts with the name of the
program.

The extension of a file tells in which format it is written. Of all formats only TOML is read here:
where a path finds a file of another one, its settings are left out.
-/

namespace SchemaMigration.Settings

open Files Text

/-- Values, each under the text of a key path. -/
abbrev Source := List (String × Tree)

/-- The environment: variables and their values. -/
abbrev Environment := List (String × String)

/-- A tree with the values of a source put into it, one after the other. The text of a key is taken
as a path in lower case. -/
def Tree.layer (t : Tree) (s : Source) : Tree :=
  s.foldl (fun t e => t.put (.ofString (Tree.normal e.1)) e.2) t

/-! ## The environment -/

/-- What the name of a variable starts with, in lower case. -/
def variableStart : List Char := "driftwood__".toList

/-- The key path that the name of a variable stands for: what follows its start, in lower case and
with a point for each two underscores. -/
def pathOfVariable? (name : String) : Option String :=
  (after? variableStart (lower name.toList)).map fun rest =>
    String.ofList (replaceAll ['_', '_'] ['.'] rest)

/-- The settings in the environment. Their values are texts. -/
def ofEnvironment (env : Environment) : Source :=
  env.filterMap fun e => (pathOfVariable? e.1).map fun path => (path, .text e.2)

/-! ## Files -/

/-- The path with an extension added. -/
def withExtension? (extension : String) (p : Path) : Option Path :=
  match p.fileName? with
  | none => none
  | some _ =>
    let parts := (p.parts.reverse.dropWhile Path.isIdle).reverse
    some ⟨joinWith "/" parts ++ "." ++ extension⟩

/-- The bytes of the file with this extension that a path means: the file itself, which counts only
if it has the extension, and otherwise the one with the extension added. -/
def sourceBytes? (extension : String) (root : Node) (p : Path) : Option ByteArray :=
  match root.bytesOf? p with
  | some bytes => if (p.fileName?.bind Path.extension?) == some extension then some bytes else none
  | none => (withExtension? extension p).bind root.bytesOf?

/-- The settings in the bytes of a file; an error if they are no TOML document with a table for its
value. Without a file there are none, and neither are there in bytes that are no text. -/
def ofBytes (found : Option ByteArray) : Except Unit Source :=
  match found.bind String.fromUTF8? with
  | none => .ok []
  | some text =>
    match Toml.documentValue text.toList with
    | some (.table fields) => .ok (Tree.fieldsOfToml fields)
    | _ => .error ()

/-- The settings of the TOML file that a path means. -/
def ofFile (root : Node) (p : Path) : Except Unit Source := ofBytes (sourceBytes? "toml" root p)

end SchemaMigration.Settings
