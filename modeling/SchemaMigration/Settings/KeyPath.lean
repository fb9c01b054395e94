import SchemaMigration.Settings.Tree

/-!
# Key paths

A key path leads into a tree of settings (appendix D of the driftwood specification): names with
points between them, and indices in square brackets. Whatever stands in its way is replaced by a
table or an array.

> `KeyPath.ofString`: a text that is no path is one name.
-/

namespace SchemaMigration.Settings

open Text

/-- One step of a path. A negative index counts from the end. -/
inductive Step
  | child (key : String)
  | item (index : Int)
deriving DecidableEq, Repr

/-- The steps of a path after its first name. -/
structure KeyPath where
  head : String
  rest : List Step
deriving DecidableEq, Repr

namespace KeyPath

/-! ## Reading a path -/

/-- A character of a name. -/
def isNameChar (c : Char) : Bool := c.isAlphanum || c == ' ' || c == '_' || c == '-'

/-- A blank that may stand beside an index. -/
def isPad (c : Char) : Bool := c == ' ' || c == '\t'

/-- A name and the text after it. -/
def name? (s : List Char) : Option (String × List Char) :=
  let name := s.takeWhile isNameChar
  if name.isEmpty then none else some (String.ofList name, s.drop name.length)

/-- An index after its bracket, and the text after the closing one. -/
def index? (s : List Char) : Option (Int × List Char) :=
  let s := s.dropWhile isPad
  let negative := s.head? == some '-'
  let s := if negative then s.drop 1 else s
  let ds := s.takeWhile Char.isDigit
  let n : Int := ofDigits ds
  let i := if negative then -n else n
  match (s.drop ds.length).dropWhile isPad with
  | ']' :: rest =>
    if !ds.isEmpty && Number.fitsSigned i then some (i, rest) else none
  | _ => none

/-- Steps to the end of the text. -/
def steps? : (rounds : Nat) → List Char → Option (List Step)
  | _, [] => some []
  | 0, _ => none
  | rounds + 1, '.' :: r =>
    match name? r with
    | some (key, r) => (steps? rounds r).map (.child key :: ·)
    | none => none
  | rounds + 1, '[' :: r =>
    match index? r with
    | some (i, r) => (steps? rounds r).map (.item i :: ·)
    | none => none
  | _, _ => none

/-- The path of a text, if it is one. -/
def ofString? (s : String) : Option KeyPath :=
  match name? s.toList with
  | some (head, r) => (steps? r.length r).map fun rest => ⟨head, rest⟩
  | none => none

/-- The path of a text. A text that is no path is one name. -/
def ofString (s : String) : KeyPath := (ofString? s).getD ⟨s, []⟩

end KeyPath

/-! ## Putting a value under a path -/

namespace Tree

/-- The position of an index in a list of this length. -/
def position (length : Nat) (index : Int) : Nat :=
  if 0 ≤ index then index.toNat else length - index.natAbs

/-- Changes what a step leads to. -/
def changeStep (f : Tree → Tree) (t : Tree) : Step → Tree
  | .child key =>
    .table (Entries.set t.entries (normal key)
      (f ((Entries.get? t.entries (normal key)).getD .absent)))
  | .item index =>
    let i := position t.items.length index
    .array (setItem t.items i (f (t.items[i]?.getD .absent)))

/-- Puts a value under the last of the steps. -/
def putUnder (v : Tree) : (first : Step) → (rest : List Step) → Tree → Tree
  | .child key, [], t => assign t key v
  | .item index, [], t => .array (setItem t.items (position t.items.length index) v)
  | first, next :: rest, t => changeStep (putUnder v next rest) t first

/-- Puts a value under a path. -/
def put (t : Tree) (path : KeyPath) (v : Tree) : Tree :=
  putUnder v (.child path.head) path.rest t

end Tree

end SchemaMigration.Settings
