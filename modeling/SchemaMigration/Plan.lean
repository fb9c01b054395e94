import SchemaMigration.Error
import SchemaMigration.Introspect
import SchemaMigration.Sql.Statement

/-!
# Plans

The SQL generator (§4.2 of the driftwood specification) run over a command set without executing
anything (appendix F). A plan is the list of statements that a command set becomes, and the list of
constraint changes that it leaves out because the catalog shows that they are not needed. Every
look-up of a plan is made before any statement of it runs.

Within an `alter-table`, foreign keys are dropped first, since they may name columns that are
dropped next, and added last, since they may name columns that were just added.
-/

namespace SchemaMigration

/-- Why a constraint change was left out. -/
inductive SkipReason
  | alreadyPresent
  | notPresent
deriving DecidableEq, Repr

/-- A constraint change that was left out. A left-out addition keeps the definition asked for; the
existing one is not compared with it. -/
structure Skip where
  table : String
  constraint : String
  reason : SkipReason
  definition : Option String
deriving DecidableEq, Repr

/-- Statements in order, and the changes left out. -/
structure Plan where
  statements : List String
  skipped : List Skip
deriving DecidableEq, Repr

/-- The state of drafting: the state of the backend that is asked, and the skips so far. -/
structure Drafting (σ : Type) where
  base : σ
  skipped : List Skip

/-- Drafting statements: look-ups may fail, and the skips made until then are kept. -/
abbrev Draft (σ α : Type) := Session (Drafting σ) BackendError α

namespace Draft

variable {σ α : Type}

/-- Asks whether a foreign key exists. -/
def lookUp (i : Option (Introspector σ)) (name : String) : Draft σ Bool :=
  Session.within Drafting.base (fun s d => { d with base := s }) (constraintExists i name)

/-- Leaves a change out, with a warning. -/
def skip (warning : String) (s : Skip) : Draft σ (List String) := do
  Session.note .warn warning
  Session.change fun d => { d with skipped := d.skipped ++ [s] }
  pure []

/-- Drops a foreign key if it is there. -/
def dropConstraint (i : Option (Introspector σ)) (table name : String) : Draft σ (List String) := do
  match ← lookUp i name with
  | true => pure [Sql.dropForeignKey table name]
  | false =>
    skip ("skipping drop of constraint " ++ name ++ " on " ++ table ++ ": not present")
      ⟨table, name, .notPresent, none⟩

/-- Adds a foreign key unless one of its name is there. -/
def addConstraint (i : Option (Introspector σ)) (table : String) (c : Constraint) :
    Draft σ (List String) := do
  match ← lookUp i c.name with
  | true =>
    skip ("skipping add of constraint " ++ c.name ++ " on " ++ table ++ ": already present")
      ⟨table, c.name, .alreadyPresent, some c.definitionSql⟩
  | false => pure [Sql.addForeignKey table c]

/-- The statements of every element in order. -/
def concat (f : α → Draft σ (List String)) : List α → Draft σ (List String)
  | [] => pure []
  | x :: xs => do
    let first ← f x
    let rest ← concat f xs
    pure (first ++ rest)

/-- The statements of an `alter-table`: drop foreign keys, drop, add and modify columns, add foreign
keys. -/
def alterTable (i : Option (Introspector σ)) (a : AlterTable) : Draft σ (List String) := do
  let drops ← concat (dropConstraint i a.table) a.dropConstraints
  let adds ← concat (addConstraint i a.table) a.addConstraints
  pure (drops ++ a.dropColumns.map (Sql.dropColumn a.table) ++
    a.addColumns.map (Sql.addColumn a.table) ++ a.modifyColumns.map (Sql.modifyColumn a.table) ++
    adds)

/-- The statements of one command. -/
def command (i : Option (Introspector σ)) : Command → Draft σ (List String)
  | .createTable table columns primaryKey constraints =>
    pure [Sql.createTable table columns primaryKey constraints]
  | .dropTable table => pure [Sql.dropTable table]
  | .alterTable change => alterTable i change
  | .createIndex name table columns unique => pure [Sql.createIndex name table columns unique]
  | .dropIndex name table => pure [Sql.dropIndex name table]
  | .insertInto table rows => pure [Sql.insertInto table rows]

/-- The statements of a list of commands, in order. -/
def commands (i : Option (Introspector σ)) (cs : List Command) : Draft σ (List String) :=
  concat (command i) cs

end Draft

/-- Plans a list of commands. A failed look-up is a failure of the backend. -/
def plan {σ : Type} (i : Option (Introspector σ)) (cs : List Command) :
    Session σ MigrationError Plan := fun s =>
  let o := Draft.commands i cs ⟨s, []⟩
  ⟨(o.result.map fun statements => ⟨statements, o.state.skipped⟩).mapError .backend,
    o.state.base, o.log⟩

end SchemaMigration
