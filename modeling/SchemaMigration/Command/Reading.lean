import SchemaMigration.Command.Basic
import SchemaMigration.Error
import SchemaMigration.Text.Blank

/-!
# Reading commands

The command validator (§4.1 of the driftwood specification) with the parsing of command maps
(appendix E). A command map becomes a command, or a fault that names the first thing that is wrong
with it. The keys of the map are checked first, then the fields in the order in which the command
lists them.

> `Command.ofFields`: one map. `Command.readAll`: a whole command set.
-/

namespace SchemaMigration

open Json

namespace Reading

/-- A field of a command map, or what is wrong with it. -/
abbrev Read := Except FieldFault

/-- Applies `f` to every element, up to the first fault. -/
def each {ε α β : Type} (f : α → Except ε β) : List α → Except ε (List β)
  | [] => .ok []
  | x :: xs =>
    match f x with
    | .error e => .error e
    | .ok y =>
      match each f xs with
      | .error e => .error e
      | .ok ys => .ok (y :: ys)

/-- A string that is not blank. -/
def name? : Value → Option String
  | .string s => if Text.isBlankText s then none else some s
  | _ => none

/-- Refuses any key that is neither the kind nor one of its fields. -/
def allowOnly (kind : Kind) (fields : Fields) : Read Unit :=
  match List.find? (fun f => f.1 != kind.key && !kind.fieldKeys.contains f.1) fields with
  | some f => .error (.unexpectedKey f.1)
  | none => .ok ()

/-- A required name. -/
def name (fields : Fields) (key : String) : Read String :=
  match fields.find? key with
  | none => .error (.missingKey key)
  | some v =>
    match name? v with
    | some s => .ok s
    | none => .error (.badName key v)

/-- The array under a key. An absent key or a null is a missing field if `required`, and otherwise
an empty array. -/
def array (fields : Fields) (key : String) (required : Bool) : Read (List Value) :=
  match fields.find? key with
  | none | some .null => if required then .error (.missingKey key) else .ok []
  | some (.array items) => .ok items
  | some v => .error (.notAnArray key v)

/-- An entry that must be a name. -/
def entry (key : String) (v : Value) : Read String :=
  match name? v with
  | some s => .ok s
  | none => .error (.badEntry key v)

/-- An array of names. -/
def names (fields : Fields) (key : String) (required : Bool) : Read (List String) := do
  let items ← array fields key required
  each (entry key) items

/-- A required array of at least one name. -/
def columnNames (fields : Fields) (key : String) : Read (List String) := do
  match ← names fields key true with
  | [] => .error (.noColumnNames key)
  | all => .ok all

/-- A part of a definition: text, or a number as it is written. -/
def part (key name : String) : Value → Read String
  | .string s => .ok s
  | .number n => .ok n.text
  | v => .error (.badDefinition key name v)

/-- A name followed by the parts of its definition. -/
def spec (key : String) : Value → Read (String × List String)
  | .array (head :: parts) =>
    match name? head with
    | none => .error (.badSpecName key head)
    | some name =>
      match each (part key name) parts with
      | .error e => .error e
      | .ok definition => .ok (name, definition)
  | v => .error (.badSpec key v)

/-- An array of names with definitions. -/
def specs (fields : Fields) (key : String) (required : Bool) :
    Read (List (String × List String)) := do
  let items ← array fields key required
  each (spec key) items

/-- An array of columns; at least one if `required`. -/
def columns (fields : Fields) (key : String) (required : Bool) : Read (List Column) := do
  match required, ← specs fields key required with
  | true, [] => .error (.noColumns key)
  | _, all => .ok (all.map fun s => ⟨s.1, s.2⟩)

/-- A constraint, which has a definition. -/
def constraint (s : String × List String) : Read Constraint :=
  if s.2.isEmpty then .error (.noDefinition s.1) else .ok ⟨s.1, s.2⟩

/-- An optional array of constraints. -/
def constraints (fields : Fields) (key : String) : Read (List Constraint) := do
  let all ← specs fields key false
  each constraint all

/-- The primary key: one name, or an optional array of names. -/
def primaryKey (fields : Fields) : Read (List String) :=
  match fields.find? "primary-key" with
  | some (.string s) => if Text.isBlankText s then .error .blankPrimaryKey else .ok [s]
  | _ => names fields "primary-key" false

/-- An optional flag. -/
def flag (fields : Fields) (key : String) : Read Bool :=
  match fields.find? key with
  | none | some .null => .ok false
  | some (.bool b) => .ok b
  | some v => .error (.badFlag key v)

/-- Rows that are non-empty arrays, counted from `position`. -/
def rowsFrom : (position : Nat) → List Value → Read (List (List Value))
  | _, [] => .ok []
  | position, .array (v :: vs) :: rest =>
    match rowsFrom (position + 1) rest with
    | .error e => .error e
    | .ok rows => .ok ((v :: vs) :: rows)
  | position, v :: _ => .error (.badRow position v)

/-- The required rows of an insert; at least one. -/
def rows (fields : Fields) : Read (List (List Value)) := do
  match ← array fields "values" true with
  | [] => .error .noRows
  | all => rowsFrom 1 all

/-- The command of a known kind that a map describes. -/
def body (fields : Fields) (kind : Kind) : Read Command := do
  allowOnly kind fields
  let subject ← name fields kind.key
  match kind with
  | .createTable =>
    let cols ← columns fields "columns" true
    let key ← primaryKey fields
    let keys ← constraints fields "constraints"
    pure (.createTable subject cols key keys)
  | .dropTable => pure (.dropTable subject)
  | .alterTable =>
    let addColumns ← columns fields "add-columns" false
    let dropColumns ← names fields "drop-columns" false
    let modifyColumns ← columns fields "modify-columns" false
    let addConstraints ← constraints fields "add-constraints"
    let dropConstraints ← names fields "drop-constraints" false
    pure (.alterTable
      ⟨subject, addColumns, dropColumns, modifyColumns, addConstraints, dropConstraints⟩)
  | .createIndex =>
    let table ← name fields "on"
    let cols ← columnNames fields "columns"
    let unique ← flag fields "unique"
    pure (.createIndex subject table cols unique)
  | .dropIndex =>
    let table ← name fields "on"
    pure (.dropIndex subject table)
  | .insertInto =>
    let values ← rows fields
    pure (.insertInto subject values)

end Reading

/-- The kind of a command map: the first one whose key it holds. -/
def Kind.ofFields? (fields : Fields) : Option Kind :=
  Kind.all.find? fun k => (fields.find? k.key).isSome

/-- Reads one command map. A map of no known kind is named by its first key. -/
def Command.ofFields (fields : Fields) : Except MigrationError Command :=
  match Kind.ofFields? fields with
  | none => .error (.unsupportedCommand ((fields.head?.map (·.1)).getD "\x7b\x7d"))
  | some kind => (Reading.body fields kind).mapError fun fault => .validation (.field kind fault)

/-- The map at a position of a command set. -/
def Command.entriesFrom : (position : Nat) → List Value → Except MigrationError (List Fields)
  | _, [] => .ok []
  | position, .object fields :: rest =>
    match entriesFrom (position + 1) rest with
    | .error e => .error e
    | .ok all => .ok (fields :: all)
  | position, v :: _ => .error (.validation (.notAMap position v))

/-- The maps of a command set: none for null, one for a map, and those of an array. -/
def Command.entries : Value → Except MigrationError (List Fields)
  | .null => .ok []
  | .object fields => .ok [fields]
  | .array items => entriesFrom 1 items
  | v => .error (.validation (.notCommands v))

/-- Reads a command set: all its maps first, then each of them as a command. -/
def Command.readAll (commands : Value) : Except MigrationError (List Command) :=
  match entries commands with
  | .error e => .error e
  | .ok maps => Reading.each Command.ofFields maps

end SchemaMigration
