import SchemaMigration.Command.Basic
import SchemaMigration.Sql.Literal

/-!
# Statements

The text of every statement that a command can become. Keyword case, clause order and spacing are
fixed: a history that was written once must give the same statements again. The shapes are those of
§4.2 of the driftwood specification.
-/

namespace SchemaMigration

open Text

/-- A column as it stands in a statement: its name, then the parts of its definition. -/
def Column.sql (c : Column) : String := joinWith " " (c.name :: c.definition)

/-- The definition of a constraint: its parts, separated by spaces. -/
def Constraint.definitionSql (c : Constraint) : String := joinWith " " c.definition

namespace Sql

/-- Creates a table: its columns, its primary key if it has one, and its foreign keys. -/
def createTable (table : String) (columns : List Column) (primaryKey : List String)
    (constraints : List Constraint) : String :=
  let key := if primaryKey.isEmpty then []
    else ["PRIMARY KEY (" ++ joinWith ", " primaryKey ++ ")"]
  let keys := constraints.map fun c => "CONSTRAINT " ++ c.name ++ " FOREIGN KEY " ++ c.definitionSql
  "CREATE TABLE " ++ table ++ " (" ++ joinWith ", " (columns.map Column.sql ++ key ++ keys) ++ ")"

/-- Drops a table. -/
def dropTable (table : String) : String := "DROP TABLE " ++ table

/-- Creates an index. -/
def createIndex (name table : String) (columns : List String) (unique : Bool) : String :=
  "CREATE " ++ (if unique then "UNIQUE " else "") ++ "INDEX " ++ name ++ " ON " ++ table ++
    " (" ++ joinWith ", " columns ++ ")"

/-- Drops an index. -/
def dropIndex (name table : String) : String := "DROP INDEX " ++ name ++ " ON " ++ table

/-- Inserts rows. -/
def insertInto (table : String) (rows : List (List Json.Value)) : String :=
  "INSERT INTO " ++ table ++ " VALUES " ++ String.ofList (rowsChars rows)

/-- Drops a foreign key. -/
def dropForeignKey (table name : String) : String :=
  "ALTER TABLE " ++ table ++ " DROP FOREIGN KEY " ++ name

/-- Drops a column. -/
def dropColumn (table column : String) : String :=
  "ALTER TABLE " ++ table ++ " DROP COLUMN " ++ column

/-- Adds a column. -/
def addColumn (table : String) (column : Column) : String :=
  "ALTER TABLE " ++ table ++ " ADD COLUMN " ++ column.sql

/-- Changes the definition of a column. -/
def modifyColumn (table : String) (column : Column) : String :=
  "ALTER TABLE " ++ table ++ " MODIFY COLUMN " ++ column.sql

/-- Adds a foreign key. -/
def addForeignKey (table : String) (c : Constraint) : String :=
  "ALTER TABLE " ++ table ++ " ADD CONSTRAINT " ++ c.name ++ " FOREIGN KEY " ++ c.definitionSql

end Sql

end SchemaMigration
