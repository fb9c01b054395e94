import SchemaMigration.Entries
import SchemaMigration.Files.Path

/-!
# Trees of files

The directories that migration files are discovered in (appendix H of the driftwood specification).
A file holds bytes, and a directory holds named entries in the order in which they are listed. A
path is followed from the root of the tree part by part; the place that it leads to is the list of
the names on the way.

Only relative paths lead into the tree.
-/

namespace SchemaMigration.Files

/-- A file or a directory. -/
inductive Node
  | file (content : ByteArray)
  | directory (entries : List (String × Node))
deriving Inhabited

/-- Why something cannot be done with a path. -/
inductive FileError
  | notFound
  | alreadyExists
  | notDirectory
  | isDirectory
  | nameTooLong
  | nulInPath
  | notText
deriving DecidableEq, Repr

/-- The wording of a failure, with its number if it has one. -/
def FileError.message : FileError → String
  | notFound => "No such file or directory (os error 2)"
  | alreadyExists => "File exists (os error 17)"
  | notDirectory => "Not a directory (os error 20)"
  | isDirectory => "Is a directory (os error 21)"
  | nameTooLong => "File name too long (os error 36)"
  | nulInPath => "file name contained an unexpected NUL byte"
  | notText => "stream did not contain valid UTF-8"

namespace Node

/-! ## Places -/

/-- The node at a place. -/
def get? (n : Node) : List String → Option Node
  | [] => some n
  | name :: rest =>
    match n with
    | .file _ => none
    | .directory entries =>
      match Entries.get? entries name with
      | some child => child.get? rest
      | none => none

/-- Puts a node at a place. Nothing changes if the way there leads through a file. -/
def put (new : Node) : List String → Node → Node
  | [], _ => new
  | _ :: _, .file content => .file content
  | name :: rest, .directory entries =>
    let child := (Entries.get? entries name).getD (.directory [])
    .directory (Entries.set entries name (put new rest child))

/-! ## Following a path -/

/-- The bytes that a name can have. -/
def nameLimit : Nat := 255

/-- The bytes that a path does not reach. -/
def pathLimit : Nat := 4096

/-- The place that one part of a path leads to. -/
def step (root : Node) (place : List String) (part : String) : Except FileError (List String) :=
  match root.get? place with
  | some (.directory entries) =>
    if Path.isIdle part then .ok place
    else if part = ".." then if place.isEmpty then .error .notFound else .ok place.dropLast
    else if nameLimit < part.utf8ByteSize then .error .nameTooLong
    else if (Entries.get? entries part).isSome then .ok (place ++ [part])
    else .error .notFound
  | _ => .error .notDirectory

/-- The place that the parts of a path lead to. -/
def followFrom (root : Node) (place : List String) : List String → Except FileError (List String)
  | [] => .ok place
  | part :: rest =>
    match step root place part with
    | .ok place => followFrom root place rest
    | .error e => .error e

/-- Refuses a path that no tree has. -/
def checkPath (p : Path) : Except FileError Unit :=
  if p.text.toList.contains '\x00' then .error .nulInPath
  else if pathLimit ≤ p.text.utf8ByteSize then .error .nameTooLong
  else if p.text.isEmpty || p.isAbsolute then .error .notFound
  else .ok ()

/-- The node that a path leads to. -/
def look (root : Node) (p : Path) : Except FileError Node := do
  checkPath p
  let place ← followFrom root [] p.parts
  match root.get? place with
  | some n => .ok n
  | none => .error .notFound

/-- Does the path lead to anything? -/
def isThere (root : Node) (p : Path) : Bool :=
  match root.look p with
  | .ok _ => true
  | .error _ => false

/-- The entries of the directory that a path leads to; none if it leads to no directory. -/
def entriesOf? (root : Node) (p : Path) : Option (List (String × Node)) :=
  match root.look p with
  | .ok (.directory entries) => some entries
  | _ => none

/-- The bytes of the file that a path leads to; none if it leads to no file. -/
def bytesOf? (root : Node) (p : Path) : Option ByteArray :=
  match root.look p with
  | .ok (.file content) => some content
  | _ => none

/-- The text of a file. -/
def readText : Node → Except FileError String
  | .directory _ => .error .isDirectory
  | .file content =>
    match String.fromUTF8? content with
    | some text => .ok text
    | none => .error .notText

/-! ## Adding directories and files -/

/-- Makes one directory. The one above it has to be there, and nothing may be there yet. -/
def makeOne (root : Node) (parts : List String) : Except FileError Node := do
  let place ← followFrom root [] parts.dropLast
  let name := parts.getLast?.getD ""
  match step root place name with
  | .ok _ => .error .alreadyExists
  | .error .notFound =>
    if name = ".." then .error .alreadyExists else .ok (put (.directory []) (place ++ [name]) root)
  | .error e => .error e

/-- Do the parts lead to a directory? -/
def isDirectoryAt (root : Node) (parts : List String) : Bool :=
  match followFrom root [] parts with
  | .error _ => false
  | .ok place =>
    match root.get? place with
    | some (.directory _) => true
    | _ => false

/-- The result of making a directory, which may be there already. -/
def orThere (root : Node) (parts : List String) (e : FileError) : Except FileError Unit × Node :=
  if isDirectoryAt root parts then (.ok (), root) else (.error e, root)

/-- Makes a directory, and those above it if that one is missing. Directories that were made on the
way stay, whatever comes of it. -/
def makeAll (root : Node) (parts : List String) : Except FileError Unit × Node :=
  match parts with
  | [] => (.ok (), root)
  | first :: rest =>
    match makeOne root (first :: rest) with
    | .ok root => (.ok (), root)
    | .error .notFound =>
      match makeAll root (Path.partsAbove (first :: rest)) with
      | (.error e, root) => (.error e, root)
      | (.ok (), root) =>
        match makeOne root (first :: rest) with
        | .ok root => (.ok (), root)
        | .error e => orThere root (first :: rest) e
    | .error e => orThere root (first :: rest) e
termination_by parts.length
decreasing_by exact Path.length_partsAbove first rest

/-- Makes the directory of a path, and those above it that are missing. One that is there already is
kept. The empty path asks for nothing. -/
def makeDirectory (root : Node) (p : Path) : Except FileError Unit × Node :=
  if p.text.isEmpty then (.ok (), root)
  else
    match checkPath p with
    | .error e => (.error e, root)
    | .ok () => makeAll root (Path.dropEmptyEnd p.parts)

/-- Adds a file. Nothing that is there already is overwritten. -/
def createFile (root : Node) (p : Path) (content : ByteArray) : Except FileError Node := do
  checkPath p
  let place ← followFrom root [] p.parts.dropLast
  let name := p.parts.getLast?.getD ""
  match step root place name with
  | .ok _ => .error .alreadyExists
  | .error .notFound => .ok (put (.file content) (place ++ [name]) root)
  | .error e => .error e

end Node

end SchemaMigration.Files
