import SchemaMigration.Sql.Statement

/-!
# The wording of statements

The shapes that the driftwood specification of the SQL generator (§4.2) gives to statements, such as
`ALTER TABLE <table> ADD COLUMN <name> <type/modifiers>`. A statement is a *phrase*: its parts stand
with one blank between each two. Columns and values stand in brackets with commas between them.

The functions that write statements keep to these wordings, and the statements of a plan are stated
by them:

> `Sql.createTable_eq`, `Sql.dropTable_eq`, `Sql.createIndex_eq`, `Sql.dropIndex_eq`,
> `Sql.insertInto_eq`: one statement for each of these commands.
> `Sql.dropForeignKey_eq`, `Sql.dropColumn_eq`, `Sql.addColumn_eq`, `Sql.modifyColumn_eq`,
> `Sql.addForeignKey_eq`: the statements of an `alter-table`.
-/

namespace SchemaMigration

namespace Wording

/-- Parts of a statement, with one blank between each two. -/
def phrase (parts : List String) : String := " ".intercalate parts

/-- Items in brackets, with commas between them. -/
def listed (items : List String) : String := "(" ++ ", ".intercalate items ++ ")"

/-- A row of values in brackets, with no blanks between them. -/
def row (values : List Json.Value) : String :=
  "(" ++ ",".intercalate (values.map Sql.literal) ++ ")"

/-- The definition of a column. -/
def column (c : Column) : String := phrase (c.name :: c.definition)

/-- The definition of a foreign key, behind its keywords. -/
def definition (c : Constraint) : String := phrase c.definition

/-- The clause of a foreign key. -/
def foreignKey (c : Constraint) : String :=
  phrase ["CONSTRAINT", c.name, "FOREIGN KEY", definition c]

/-- The clause of a primary key, if there is one. -/
def primaryKey : List String → List String
  | [] => []
  | name :: names => [phrase ["PRIMARY KEY", listed (name :: names)]]

def createTable (table : String) (columns : List Column) (key : List String)
    (constraints : List Constraint) : String :=
  phrase ["CREATE TABLE", table,
    listed (columns.map column ++ primaryKey key ++ constraints.map foreignKey)]

def dropTable (table : String) : String := phrase ["DROP TABLE", table]

def createIndex (name table : String) (columns : List String) (unique : Bool) : String :=
  phrase [if unique then "CREATE UNIQUE INDEX" else "CREATE INDEX", name, "ON", table,
    listed columns]

def dropIndex (name table : String) : String := phrase ["DROP INDEX", name, "ON", table]

def insertInto (table : String) (rows : List (List Json.Value)) : String :=
  phrase ["INSERT INTO", table, "VALUES", ",".intercalate (rows.map row)]

def dropForeignKey (table name : String) : String :=
  phrase ["ALTER TABLE", table, "DROP FOREIGN KEY", name]

def dropColumn (table name : String) : String := phrase ["ALTER TABLE", table, "DROP COLUMN", name]

def addColumn (table : String) (c : Column) : String :=
  phrase ["ALTER TABLE", table, "ADD COLUMN", column c]

def modifyColumn (table : String) (c : Column) : String :=
  phrase ["ALTER TABLE", table, "MODIFY COLUMN", column c]

def addForeignKey (table : String) (c : Constraint) : String :=
  phrase ["ALTER TABLE", table, "ADD", foreignKey c]

end Wording

/-! ## Joined parts -/

namespace Text

theorem joinWith_eq_intercalate (sep : String) (parts : List String) :
    joinWith sep parts = sep.intercalate parts := by
  induction parts with
  | nil => rw [joinWith_nil, String.intercalate_nil]
  | cons s rest ih =>
    cases rest with
    | nil => rw [joinWith_singleton, String.intercalate_singleton]
    | cons t rest => rw [joinWith_cons_cons, String.intercalate_cons_cons, ih]

end Text

theorem Column.sql_eq : Column.sql = Wording.column := by
  funext c
  exact Text.joinWith_eq_intercalate " " _

theorem Constraint.definitionSql_eq : Constraint.definitionSql = Wording.definition := by
  funext c
  exact Text.joinWith_eq_intercalate " " _

namespace Sql

open Text Wording

/-! ## Values -/

theorem ofList_literalsChars (values : List Json.Value) :
    String.ofList (literalsChars values) = ",".intercalate (values.map literal) := by
  induction values with
  | nil => rfl
  | cons v rest ih =>
    cases rest with
    | nil => rw [literalsChars, List.map_singleton, String.intercalate_singleton, literal]
    | cons w rest =>
      rw [List.map_cons] at ih
      rw [literalsChars, List.map_cons, List.map_cons, String.intercalate_cons_cons, ← ih, literal,
        ← String.toList_inj]
      simp

theorem ofList_rowChars (values : List Json.Value) :
    String.ofList (rowChars values) = row values := by
  rw [row, ← ofList_literalsChars, rowChars, ← String.toList_inj]
  simp

theorem ofList_rowsChars (rows : List (List Json.Value)) :
    String.ofList (rowsChars rows) = ",".intercalate (rows.map row) := by
  induction rows with
  | nil => rfl
  | cons r rest ih =>
    cases rest with
    | nil => rw [rowsChars, List.map_singleton, String.intercalate_singleton, ofList_rowChars]
    | cons t rest =>
      rw [List.map_cons] at ih
      rw [rowsChars, List.map_cons, List.map_cons, String.intercalate_cons_cons, ← ih,
        ← ofList_rowChars, ← String.toList_inj]
      simp

/-! ## Statements -/

theorem createTable_eq : createTable = Wording.createTable := by
  funext table columns key constraints
  have hkey : (if key.isEmpty then [] else ["PRIMARY KEY (" ++ joinWith ", " key ++ ")"]) =
      primaryKey key := by
    cases key with
    | nil => rfl
    | cons name names =>
      rw [List.isEmpty_cons, if_neg Bool.false_ne_true, joinWith_eq_intercalate, primaryKey, phrase,
        listed, List.cons.injEq, ← String.toList_inj]
      simp
  have hkeys : (constraints.map fun c =>
      "CONSTRAINT " ++ c.name ++ " FOREIGN KEY " ++ c.definitionSql) =
        constraints.map foreignKey := by
    refine List.map_congr_left fun c _ => ?_
    unfold foreignKey phrase
    rw [Constraint.definitionSql_eq, ← String.toList_inj]
    simp
  unfold createTable Wording.createTable phrase listed
  simp only [hkey, hkeys]
  rw [Column.sql_eq, joinWith_eq_intercalate, ← String.toList_inj]
  simp

theorem dropTable_eq : dropTable = Wording.dropTable := by
  funext table
  unfold dropTable Wording.dropTable phrase
  rw [← String.toList_inj]
  simp

theorem createIndex_eq : createIndex = Wording.createIndex := by
  funext name table columns unique
  unfold createIndex Wording.createIndex phrase listed
  rw [joinWith_eq_intercalate, ← String.toList_inj]
  cases unique <;> simp

theorem dropIndex_eq : dropIndex = Wording.dropIndex := by
  funext name table
  unfold dropIndex Wording.dropIndex phrase
  rw [← String.toList_inj]
  simp

theorem insertInto_eq : insertInto = Wording.insertInto := by
  funext table rows
  unfold insertInto Wording.insertInto phrase
  rw [ofList_rowsChars, ← String.toList_inj]
  simp

theorem dropForeignKey_eq : dropForeignKey = Wording.dropForeignKey := by
  funext table name
  unfold dropForeignKey Wording.dropForeignKey phrase
  rw [← String.toList_inj]
  simp

theorem dropColumn_eq : dropColumn = Wording.dropColumn := by
  funext table name
  unfold dropColumn Wording.dropColumn phrase
  rw [← String.toList_inj]
  simp

theorem addColumn_eq : addColumn = Wording.addColumn := by
  funext table c
  unfold addColumn Wording.addColumn phrase
  rw [Column.sql_eq, ← String.toList_inj]
  simp

theorem modifyColumn_eq : modifyColumn = Wording.modifyColumn := by
  funext table c
  unfold modifyColumn Wording.modifyColumn phrase
  rw [Column.sql_eq, ← String.toList_inj]
  simp

theorem addForeignKey_eq : addForeignKey = Wording.addForeignKey := by
  funext table c
  unfold addForeignKey Wording.addForeignKey foreignKey phrase
  rw [Constraint.definitionSql_eq, ← String.toList_inj]
  simp

end Sql

end SchemaMigration
