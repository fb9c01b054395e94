import SchemaMigration.Introspect
import SchemaMigration.Text.Blank
import SchemaMigration.Text.Join
import SchemaMigration.Version.Basic

/-!
# The in-memory catalog

The `RecordingExecutor` of the test tooling (appendix I of the driftwood specification): a backend
that keeps the names of databases, tables and foreign keys, the version rows, and every statement
that it executed. It reads a statement as words, and knows no more SQL than that: a name is a word
without the backticks at its ends, cut at its first opening bracket. Of a `CREATE TABLE` it keeps
the name of the table alone.

It can be told to fail every statement that contains a text, and every query.
-/

namespace SchemaMigration

/-- The contents of the in-memory catalog. -/
structure Catalog where
  databases : List String := []
  tables : List String := []
  constraints : List String := []
  versions : List VersionRow := []
  executed : List String := []
  /-- Statements that contain the first text fail with the second one. -/
  failingStatement : Option (String × String) := none
  /-- Queries fail with this text. -/
  failingQueries : Option String := none
deriving Repr

/-- What a statement does to the catalog. -/
inductive CatalogEffect
  | createDatabase (name : String)
  | createTable (name : String)
  | dropTable (name : String)
  | addConstraint (name : String)
  | dropConstraint (name : String)
  /-- The statement is shaped like one that adds a version row. -/
  | insertVersion
  | nothing
deriving DecidableEq, Repr

namespace Catalog

/-- The name that a word of a statement writes. -/
def nameOfWord (word : List Char) : String :=
  String.ofList ((Text.trimChar '\x60' word).takeWhile (· != '('))

/-- The effect that needs the name at the head of the words, if there is one. -/
def named (effect : String → CatalogEffect) : List (List Char) → CatalogEffect
  | [] => .nothing
  | word :: _ => effect (nameOfWord word)

/-- The effect of a statement given as its words. -/
def effectOfWords (words : List (List Char)) : CatalogEffect :=
  match words with
  | first :: second :: rest =>
    let head := (String.ofList first, String.ofList second)
    if head = ("CREATE", "DATABASE") then named .createDatabase rest
    else if head = ("CREATE", "TABLE") then named .createTable rest
    else if head = ("DROP", "TABLE") then named .dropTable rest
    else if head = ("ALTER", "TABLE") then
      match (rest.drop 1).map String.ofList with
      | "ADD" :: "CONSTRAINT" :: _ => named .addConstraint (rest.drop 3)
      | "DROP" :: "FOREIGN" :: "KEY" :: _ => named .dropConstraint (rest.drop 4)
      | _ => .nothing
    else if head = ("INSERT", "INTO") then
      match (rest.drop 1).map String.ofList with
      | "(version," :: "created)" :: _ => .insertVersion
      | _ => .nothing
    else .nothing
  | _ => .nothing

/-- The effect of a statement. -/
def effectOf (sql : String) : CatalogEffect := effectOfWords (Text.words sql.toList)

/-- Adds a name to a list of names that holds each name once. -/
def addName (name : String) (names : List String) : List String :=
  if name ∈ names then names else names ++ [name]

/-- Takes a name out of a list of names. -/
def removeName (name : String) (names : List String) : List String :=
  names.filter (· != name)

@[simp] theorem mem_addName {name n : String} {names : List String} :
    n ∈ addName name names ↔ n = name ∨ n ∈ names := by
  rw [addName]
  split
  · next h =>
    constructor
    · exact .inr
    · rintro (rfl | h')
      · exact h
      · exact h'
  · simp [or_comm]

@[simp] theorem mem_removeName {name n : String} {names : List String} :
    n ∈ removeName name names ↔ n ≠ name ∧ n ∈ names := by
  simp [removeName, and_comm]

/-- Applies an effect. A version row is added only with a text and a number as parameters. -/
def apply (params : List Param) (c : Catalog) : CatalogEffect → Catalog
  | .createDatabase name => { c with databases := addName name c.databases }
  | .createTable name => { c with tables := addName name c.tables }
  | .dropTable name => { c with tables := removeName name c.tables }
  | .addConstraint name => { c with constraints := addName name c.constraints }
  | .dropConstraint name => { c with constraints := removeName name c.constraints }
  | .insertVersion =>
    match params with
    | [.text version, .bigInt created] => { c with versions := c.versions ++ [⟨version, created⟩] }
    | _ => c
  | .nothing => c

/-- Does the catalog fail this statement, and with which message? -/
def failureOf (c : Catalog) (sql : String) : Option String :=
  match c.failingStatement with
  | some (pattern, message) =>
    if Text.occursIn pattern.toList sql.toList then some message else none
  | none => none

/-- Executes a statement: it fails, or it is recorded and has its effect. -/
def execute (sql : String) (params : List Param) (c : Catalog) :
    Except BackendError Nat × Catalog :=
  match c.failureOf sql with
  | some message => (.error (.ofMessage message), c)
  | none => (.ok 0, apply params { c with executed := c.executed ++ [sql] } (effectOf sql))

/-- The name that is asked for, if it is among the names. -/
def matching (names : List String) : List Param → List String
  | [.text name] => if name ∈ names then [name] else []
  | _ => []

/-- The error of a server that does not know the table. -/
def missingTable (table : String) : BackendError :=
  ⟨"Table '" ++ table ++ "' doesn't exist", some ServerError.missingTable, some "42S02"⟩

/-- The answer to a query. -/
def answer (c : Catalog) (sql : String) (params : List Param) :
    Except BackendError (List String) :=
  match c.failingQueries with
  | some message => .error (.ofMessage message)
  | none =>
    if sql = databaseQuery then .ok (matching c.databases params)
    else if sql = tableQuery then .ok (matching c.tables params)
    else if sql = constraintQuery then .ok (matching c.constraints params)
    else
      match Text.after? "SELECT version FROM ".toList sql.toList with
      | some rest =>
        let table := String.ofList (Text.trim rest)
        if table ∈ c.tables then .ok (c.versions.map (·.version))
        else .error (missingTable table)
      | none => .error (.ofMessage ("unexpected query: " ++ sql))

/-- The catalog as a backend. Queries change nothing. -/
def backend : Backend Catalog where
  execute := execute
  query sql params c := (c.answer sql params, c)

end Catalog

end SchemaMigration
