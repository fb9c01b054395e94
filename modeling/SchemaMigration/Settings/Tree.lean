import SchemaMigration.Entries
import SchemaMigration.Text.Join
import SchemaMigration.Toml.Value

/-!
# Trees of settings

Settings (appendix D of the driftwood specification) come from several sources, each a list of
values under key paths. A later source overrides an earlier one key by key: tables are merged, and
everything else is replaced. Keys are in lower case.

> `assign_leaf`: a value that is no table replaces what was there.
-/

namespace SchemaMigration.Settings

open Text

/-- A tree of settings. An element that an index jumped over is absent. -/
inductive Tree
  | absent
  | text (value : String)
  | integer (value : Int)
  | float (value : Number.Floating)
  | boolean (value : Bool)
  | array (items : List Tree)
  | table (entries : List (String × Tree))
deriving Repr, Inhabited

namespace Tree

mutual

/-- The settings that a TOML value holds. Dates and times are their text. -/
def ofToml : Toml.Value → Tree
  | .string s => .text s
  | .integer i => .integer i
  | .float x => .float x
  | .boolean b => .boolean b
  | .datetime d => .text d.text
  | .array items => .array (itemsOfToml items)
  | .table fields => .table (fieldsOfToml fields)

/-- The items of an array. -/
def itemsOfToml : List Toml.Value → List Tree
  | [] => []
  | v :: vs => ofToml v :: itemsOfToml vs

/-- The fields of a table. -/
def fieldsOfToml : List (String × Toml.Value) → List (String × Tree)
  | [] => []
  | (k, v) :: rest => (k, ofToml v) :: fieldsOfToml rest

end

/-- The entries of a table; none of anything else. -/
def entries : Tree → List (String × Tree)
  | table es => es
  | _ => []

/-- The items of an array; none of anything else. -/
def items : Tree → List Tree
  | array ts => ts
  | _ => []

/-- Sets an item, with absent ones before it as far as needed. -/
def setItem (ts : List Tree) (i : Nat) (t : Tree) : List Tree :=
  (ts ++ List.replicate (i + 1 - ts.length) absent).set i t

/-- A key in lower case. Every key that is looked for is ASCII, so other letters are left alone. -/
def normal (key : String) : String := String.ofList (lower key.toList)

/-! ## Assigning -/

mutual

/-- Sets a key of a table. A table is merged into what is there, all else replaces it. -/
def assign (t : Tree) (key : String) : Tree → Tree
  | table incoming =>
    let target := (Entries.get? t.entries (normal key)).getD (table [])
    table (Entries.set t.entries (normal key) (assignAll target incoming))
  | absent => table (Entries.set t.entries (normal key) absent)
  | text s => table (Entries.set t.entries (normal key) (text s))
  | integer i => table (Entries.set t.entries (normal key) (integer i))
  | float x => table (Entries.set t.entries (normal key) (float x))
  | boolean b => table (Entries.set t.entries (normal key) (boolean b))
  | array ts => table (Entries.set t.entries (normal key) (array ts))

/-- Sets several keys in order. -/
def assignAll (t : Tree) : List (String × Tree) → Tree
  | [] => t
  | (k, v) :: rest => assignAll (assign t k v) rest

end

/-- Is it a table? -/
def isTable : Tree → Bool
  | table _ => true
  | _ => false

/-- A value that is no table replaces what was there. -/
theorem assign_leaf (t : Tree) (key : String) {v : Tree} (h : v.isTable = false) :
    assign t key v = table (Entries.set t.entries (normal key) v) := by
  cases v with
  | table es => cases h
  | _ => rw [assign]

end Tree

end SchemaMigration.Settings
