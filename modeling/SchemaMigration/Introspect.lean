import SchemaMigration.Backend.Session

/-!
# Looking into the schema

The schema introspector (§4.3 of the driftwood specification): existence questions about the catalog
of a backend. Asking changes nothing; each answer is logged.
-/

namespace SchemaMigration

/-- Asks for a database of a given name. -/
def databaseQuery : String :=
  "SELECT SCHEMA_NAME FROM information_schema.SCHEMATA WHERE SCHEMA_NAME = ?"

/-- Asks for a table of a given name in the selected database. -/
def tableQuery : String :=
  "SELECT TABLE_NAME FROM information_schema.TABLES WHERE TABLE_SCHEMA = DATABASE() AND TABLE_NAME = ?"

/-- Asks for a foreign key of a given name in the selected database. -/
def constraintQuery : String :=
  "SELECT CONSTRAINT_NAME FROM information_schema.TABLE_CONSTRAINTS " ++
    "WHERE CONSTRAINT_SCHEMA = DATABASE() AND CONSTRAINT_TYPE = 'FOREIGN KEY' AND CONSTRAINT_NAME = ?"

/-- Answers existence questions by name. -/
structure Introspector (σ : Type) where
  databaseExists : String → Session σ BackendError Bool
  tableExists : String → Session σ BackendError Bool
  constraintExists : String → Session σ BackendError Bool

namespace Introspector

variable {σ : Type}

/-- Does the query give any row for the name? The answer is logged under `noun`. -/
def anyRow (b : Backend σ) (noun sql name : String) : Session σ BackendError Bool := do
  let rows ← b.ask sql [.text name]
  let found := !rows.isEmpty
  Session.note .debug (noun ++ " " ++ name ++ " exists: " ++ if found then "true" else "false")
  pure found

/-- Answers from the catalog of a backend. -/
def ofBackend (b : Backend σ) : Introspector σ where
  databaseExists := anyRow b "database" databaseQuery
  tableExists := anyRow b "table" tableQuery
  constraintExists := anyRow b "constraint" constraintQuery

/-- Answers from fixed lists of names, without a log. -/
def ofNames (databases tables constraints : List String) : Introspector σ where
  databaseExists name := pure (databases.contains name)
  tableExists name := pure (tables.contains name)
  constraintExists name := pure (constraints.contains name)

end Introspector

/-- Does the foreign key exist? With nobody to ask it counts as absent, with a warning, so that a
requested change is written rather than lost. -/
def constraintExists {σ : Type} (i : Option (Introspector σ)) (name : String) :
    Session σ BackendError Bool :=
  match i with
  | some i => i.constraintExists name
  | none => do
    Session.note .warn
      ("no backend bound for introspection, treating constraint " ++ name ++ " as absent")
    pure false

end SchemaMigration
