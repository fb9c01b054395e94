import SchemaMigration.Entries
import SchemaMigration.Toml.Scan.Datetime

/-!
# Tables under construction

While a document is read, a table remembers how it came to be: *implicit* tables were only passed
through by the path of a header or of a key, and *dotted* ones were made by a dotted key. A header
may define an implicit table once, unless it is dotted; a dotted key may extend dotted tables only.

The entries are kept in the order in which they were made, because the first one decides what a
table stands for: under the key of dates and times it has to be the text of one, and the table is
that date or time. Only the table of a whole document can be taken as a table whatever its first key
is.

> `Table.toFields?`: the fields of a document, sorted by key.
> `Table.toValue?`: the value of a table.
-/

namespace SchemaMigration.Toml

mutual

/-- What stands under a key of a table under construction. -/
inductive Node
  /-- A value without parts. -/
  | leaf (v : Value)
  /-- An array. -/
  | array (items : List Node)
  /-- A table in braces, which is complete. -/
  | inline (t : Table)
  /-- A table that can still grow. -/
  | table (t : Table)
  /-- Tables that headers in double brackets have made; the last one can still grow. -/
  | tables (elements : List Table)

/-- A table under construction: how it came to be, and its entries in the order of their making. -/
inductive Table
  | mk (isImplicit isDotted : Bool) (entries : List (String × Node))

end

namespace Table

/-- Was the table only passed through by a path? -/
def isImplicit : Table → Bool
  | mk i _ _ => i

/-- Was the table made by a dotted key? -/
def isDotted : Table → Bool
  | mk _ d _ => d

/-- The entries in the order of their making. -/
def entries : Table → List (String × Node)
  | mk _ _ es => es

/-- The same table with other entries. -/
def withEntries (t : Table) (es : List (String × Node)) : Table := mk t.isImplicit t.isDotted es

/-- A table that a header, a pair of braces or a document defines. -/
def defined : Table := mk false false []

/-- What stands under a key. -/
def find? (t : Table) (key : String) : Option Node :=
  Entries.get? t.entries key

/-- Sets what stands under a key. A new key comes last. -/
def set (t : Table) (key : String) (n : Node) : Table :=
  t.withEntries (Entries.set t.entries key n)

/-- Sets what stands under a key, which comes last even if it was there. -/
def setLast (t : Table) (key : String) (n : Node) : Table :=
  t.withEntries (t.entries.filter (fun e => e.1 != key) ++ [(key, n)])

/-- Changes the last element of a list; fails on an empty list. -/
def changeLast (f : Table → Option Table) : List Table → Option (List Table)
  | [] => none
  | [t] => (f t).map fun u => [u]
  | t :: ts => (changeLast f ts).map (t :: ·)

/-- Changes the table at the end of a path, making the tables that are missing on the way. A path
goes through tables, and through the last of the tables of an array; a dotted path goes through
implicit tables only. -/
def changeAt (dotted : Bool) (f : Table → Option Table) : List String → Table → Option Table
  | [], t => f t
  | key :: path, t =>
    match t.find? key with
    | none => (changeAt dotted f path (mk true dotted [])).map fun u => t.set key (.table u)
    | some (.tables ts) =>
      (changeLast (changeAt dotted f path) ts).map fun us => t.set key (.tables us)
    | some (.table u) =>
      if dotted && !u.isImplicit then none
      else (changeAt dotted f path u).map fun w => t.set key (.table w)
    | some _ => none

/-- Splits a path into all but its last key, and the last key. -/
def splitPath : List String → List String × String
  | [] => ([], "")
  | [k] => ([], k)
  | k :: l :: rest =>
    let (front, last) := splitPath (l :: rest)
    (k :: front, last)

/-- Puts a node under a dotted key. No key is written twice, and a table is not extended both by
dotted keys and by its own header. -/
def insertDotted (path : List String) (n : Node) (t : Table) : Option Table :=
  let (front, key) := splitPath path
  changeAt true (fun u =>
    if u.isDotted == front.isEmpty then none
    else if (u.find? key).isSome then none
    else some (u.set key n)) front t

/-- Defines the table of a header in single brackets. An implicit table that it defines moves to the
end. -/
def define (path : List String) (t : Table) : Option Table :=
  let (front, key) := splitPath path
  changeAt false (fun u =>
    match u.find? key with
    | none => some (u.set key (.table defined))
    | some (.table w) =>
      if w.isImplicit && !w.isDotted then some (u.setLast key (.table (mk false false w.entries)))
      else none
    | some _ => none) front t

/-- Adds the table of a header in double brackets. -/
def append (path : List String) (t : Table) : Option Table :=
  let (front, key) := splitPath path
  changeAt false (fun u =>
    match u.find? key with
    | none => some (u.set key (.tables [defined]))
    | some (.tables ts) => some (u.set key (.tables (ts ++ [defined])))
    | some _ => none) front t

/-- Puts a node under a dotted key of the table that the last header names. -/
def insertAt (header path : List String) (n : Node) (t : Table) : Option Table :=
  changeAt false (insertDotted path n) header t

/-- Sets a key of a list that is sorted by key. -/
def insertSorted (key : String) (v : Value) : Fields → Fields
  | [] => [(key, v)]
  | (k, w) :: rest =>
    if key < k then (key, v) :: (k, w) :: rest else (k, w) :: insertSorted key v rest

end Table

/-! ## Finished values -/

/-- Do the entries stand for a date or a time? -/
def isDatetimeEntries : List (String × Node) → Bool
  | [] => false
  | (key, _) :: _ => key == datetimeKey

/-- The date or the time that the first of the entries writes; the others do not count. -/
def datetimeOfEntries? : List (String × Node) → Option Datetime
  | (_, .leaf (.string s)) :: _ => Datetime.ofText? s
  | _ => none

mutual

/-- The value of a node, if all its tables have one. -/
def Node.toValue? : Node → Option Value
  | .leaf v => some v
  | .array items => (nodesToValues? items).map .array
  | .inline t => t.toValue?
  | .table t => t.toValue?
  | .tables ts => (tablesToValues? ts).map .array

/-- The values of the items of an array. -/
def nodesToValues? : List Node → Option (List Value)
  | [] => some []
  | n :: ns =>
    match n.toValue?, nodesToValues? ns with
    | some v, some vs => some (v :: vs)
    | _, _ => none

/-- The value of a table: a date or a time, or the entries sorted by key. -/
def Table.toValue? : Table → Option Value
  | .mk _ _ entries =>
    if isDatetimeEntries entries then (datetimeOfEntries? entries).map .datetime
    else (entriesToFields? entries).map .table

/-- The values of the tables of an array. -/
def tablesToValues? : List Table → Option (List Value)
  | [] => some []
  | t :: ts =>
    match t.toValue?, tablesToValues? ts with
    | some v, some vs => some (v :: vs)
    | _, _ => none

/-- The fields of entries, sorted by key. -/
def entriesToFields? : List (String × Node) → Option Fields
  | [] => some []
  | (k, n) :: rest =>
    match n.toValue?, entriesToFields? rest with
    | some v, some fields => some (Table.insertSorted k v fields)
    | _, _ => none

end

/-- The fields of a table, whatever its first key is. -/
def Table.toFields? (t : Table) : Option Fields := entriesToFields? t.entries

end SchemaMigration.Toml
