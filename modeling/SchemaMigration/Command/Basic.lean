import SchemaMigration.Command.Kind
import SchemaMigration.Json.Value

/-!
# Schema commands

A command (§3 and appendix E of the driftwood specification) is one change to a schema, independent
of how it was written down. Names and definition parts are taken over verbatim into SQL text.
-/

namespace SchemaMigration

/-- A column: its name, and the parts of its type and modifiers. -/
structure Column where
  name : String
  definition : List String
deriving DecidableEq, Repr

/-- A named foreign key: its name, and the parts of the text after the words `FOREIGN KEY`. -/
structure Constraint where
  name : String
  definition : List String
deriving DecidableEq, Repr

/-- The changes that one `alter-table` command asks for. -/
structure AlterTable where
  table : String
  addColumns : List Column
  dropColumns : List String
  modifyColumns : List Column
  addConstraints : List Constraint
  dropConstraints : List String
deriving DecidableEq, Repr

/-- One schema change. -/
inductive Command
  | createTable (table : String) (columns : List Column) (primaryKey : List String)
      (constraints : List Constraint)
  | dropTable (table : String)
  | alterTable (change : AlterTable)
  | createIndex (name table : String) (columns : List String) (unique : Bool)
  | dropIndex (name table : String)
  | insertInto (table : String) (rows : List (List Json.Value))
deriving Repr

/-- The kind of a command. -/
def Command.kind : Command → Kind
  | .createTable .. => .createTable
  | .dropTable .. => .dropTable
  | .alterTable .. => .alterTable
  | .createIndex .. => .createIndex
  | .dropIndex .. => .dropIndex
  | .insertInto .. => .insertInto

end SchemaMigration
