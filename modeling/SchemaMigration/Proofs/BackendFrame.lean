import SchemaMigration.Proofs.Session
import SchemaMigration.Run

/-!
# What no answer changes

A part of a backend's state that none of its answers changes is not changed by anything that only
talks to the backend, however it ends. Of all operations only the one that records a version binds
parameters, so the others already keep what statements without parameters keep:

> `KeepsUnbound.prepare`, `KeepsUnbound.plan`, `KeepsUnbound.executeStatements`: what the phases
> before the record keep.
> `Keeps.runCommands`: what a whole run keeps.
-/

namespace SchemaMigration

open Session

variable {σ γ : Type} {b : Backend σ} {part : σ → γ}

/-- No query changes this part of the state, and no statement without parameters. -/
structure Backend.KeepsUnbound (b : Backend σ) (part : σ → γ) : Prop where
  execute : ∀ sql s, part (b.execute sql [] s).2 = part s
  query : ∀ sql params s, part (b.query sql params s).2 = part s

/-- No query and no statement changes this part of the state. -/
structure Backend.Keeps (b : Backend σ) (part : σ → γ) : Prop where
  execute : ∀ sql params s, part (b.execute sql params s).2 = part s
  query : ∀ sql params s, part (b.query sql params s).2 = part s

namespace Draft

/-- Look-ups by an introspector that keeps a part of the state keep it in the state of drafting. -/
theorem keeps_lookUp {i : Introspector σ}
    (h : ∀ name, Session.Keeps part (i.constraintExists name)) (name : String) :
    Session.Keeps (fun d : Drafting σ => part d.base) (lookUp (some i) name) :=
  fun d => h name d.base

theorem keeps_skip (warning : String) (s : Skip) :
    Session.Keeps (fun d : Drafting σ => part d.base) (skip warning s) :=
  fun _ => rfl

theorem keeps_concat {α : Type} {f : α → Draft σ (List String)}
    (h : ∀ x, Session.Keeps (fun d : Drafting σ => part d.base) (f x)) (xs : List α) :
    Session.Keeps (fun d : Drafting σ => part d.base) (concat f xs) := by
  induction xs with
  | nil => exact Keeps.done _
  | cons x xs ih => exact (h x).bind fun _ => ih.bind fun _ => Keeps.done _

/-- Drafting changes the base only through look-ups. -/
theorem keeps_command {i : Introspector σ}
    (h : ∀ name, Session.Keeps part (i.constraintExists name)) (c : Command) :
    Session.Keeps (fun d : Drafting σ => part d.base) (command (some i) c) := by
  have hdrop : ∀ table name : String,
      Session.Keeps (fun d : Drafting σ => part d.base) (dropConstraint (some i) table name) := by
    intro table name
    refine (keeps_lookUp h name).bind fun found => ?_
    cases found with
    | true => exact Keeps.done _
    | false => exact keeps_skip _ _
  have hadd : ∀ (table : String) (con : Constraint),
      Session.Keeps (fun d : Drafting σ => part d.base) (addConstraint (some i) table con) := by
    intro table con
    refine (keeps_lookUp h con.name).bind fun found => ?_
    cases found with
    | true => exact keeps_skip _ _
    | false => exact Keeps.done _
  cases c with
  | alterTable change =>
    exact (keeps_concat (hdrop change.table) _).bind fun _ =>
      (keeps_concat (hadd change.table) _).bind fun _ => Keeps.done _
  | _ => exact Keeps.done _

end Draft

namespace Backend.KeepsUnbound

theorem run (h : b.KeepsUnbound part) (sql : String) : Session.Keeps part (b.run sql []) :=
  h.execute sql

theorem ask (h : b.KeepsUnbound part) (sql : String) (params : List Param) :
    Session.Keeps part (b.ask sql params) := h.query sql params

theorem anyRow (h : b.KeepsUnbound part) (noun sql name : String) :
    Session.Keeps part (Introspector.anyRow b noun sql name) :=
  (h.ask _ _).bind fun _ => (Session.Keeps.note _ _).bind fun _ => Session.Keeps.done _

theorem execute_step (h : b.KeepsUnbound part) (sql : String) :
    Session.Keeps part (SchemaMigration.execute b sql []) := (h.run sql).mapError _

/-! ## The version table -/

theorem ensureDatabase (h : b.KeepsUnbound part) (name : String) :
    Session.Keeps part (ensureDatabase b name) := by
  refine ((h.anyRow _ _ _).mapError _).bind fun found => ?_
  have huse := (h.execute_step (useDatabase name)).bind fun _ =>
    Session.Keeps.done (ε := MigrationError) (!found)
  cases found with
  | true => exact (Session.Keeps.note _ _).bind fun _ => huse
  | false => exact (Session.Keeps.note _ _).bind fun _ => (h.execute_step _).bind fun _ => huse

theorem ensureVersionTable (h : b.KeepsUnbound part) (table : String) :
    Session.Keeps part (ensureVersionTable b table) := by
  refine (Session.Keeps.ofExcept _).bind fun _ =>
    ((h.anyRow _ _ _).mapError _).bind fun found => ?_
  cases found with
  | true => exact (Session.Keeps.note _ _).bind fun _ => Session.Keeps.done _
  | false =>
    exact (Session.Keeps.note _ _).bind fun _ => (h.execute_step _).bind fun _ =>
      Session.Keeps.done _

theorem prepare (h : b.KeepsUnbound part) (settings : Settings) :
    Session.Keeps part (prepare b settings) :=
  (Session.Keeps.ofExcept _).bind fun _ => (h.ensureDatabase _).bind fun _ =>
    (h.ensureVersionTable _).bind fun _ => Session.Keeps.done _

theorem currentVersion (h : b.KeepsUnbound part) (table : String) :
    Session.Keeps part (currentVersion b table) :=
  ((Session.Keeps.ofExcept _).bind fun _ => (h.ask _ _).mapError _).bind fun _ =>
    Session.Keeps.done _

/-! ## Plans and their execution -/

theorem plan (h : b.KeepsUnbound part) (cs : List Command) :
    Session.Keeps part (plan (some (.ofBackend b)) cs) := fun s =>
  Draft.keeps_concat (Draft.keeps_command (h.anyRow "constraint" constraintQuery)) cs ⟨s, []⟩

theorem executeStatements (h : b.KeepsUnbound part) (version : String)
    (statements : List String) : Session.Keeps part (executeStatements b version statements) := by
  have hone : ∀ (total index : Nat) (statement : String),
      Session.Keeps part (executeStatement b version total index statement) := by
    intro total index statement
    refine (Session.Keeps.note _ _).bind fun _ => (h.run _).attempt.bind fun answer => ?_
    cases answer with
    | ok _ => exact Session.Keeps.done _
    | error e => exact (Session.Keeps.note _ _).bind fun _ => Session.Keeps.fail _
  have hfrom : ∀ (total index : Nat) (rest : List String),
      Session.Keeps part (executeFrom b version total index rest) := by
    intro total index rest
    induction rest generalizing index with
    | nil => exact Session.Keeps.done _
    | cons statement rest ih => exact (hone _ _ _).bind fun _ => ih (index + 1)
  exact hfrom _ _ _

end Backend.KeepsUnbound

namespace Backend.Keeps

theorem unbound (h : b.Keeps part) : b.KeepsUnbound part where
  execute := fun sql => h.execute sql []
  query := h.query

theorem recordVersion (h : b.Keeps part) (table : String) (row : VersionRow) :
    Session.Keeps part (recordVersion b table row) := by
  have hinsert : Session.Keeps part (SchemaMigration.execute b (insertVersion table)
      [.text row.version, .bigInt row.created]) := h.execute _ _
  exact (Session.Keeps.ofExcept _).bind fun _ => hinsert.bind fun _ => Session.Keeps.note _ _

/-- A run keeps what the backend keeps. -/
theorem runCommands (h : b.Keeps part) (table : String) (now : Int) (version : String)
    (cs : List Command) : Session.Keeps part (runCommands b table now version cs) :=
  (Session.Keeps.ofExcept _).bind fun _ => (h.unbound.plan cs).bind fun _ =>
    (h.unbound.executeStatements _ _).bind fun _ => (h.recordVersion _ _).bind fun _ =>
      (Session.Keeps.note _ _).bind fun _ => Session.Keeps.done _

theorem runMigration (h : b.Keeps part) (table : String) (now : Int) (version : String)
    (commands : Json.Value) : Session.Keeps part (runMigration b table now version commands) :=
  (Session.Keeps.ofExcept _).bind fun _ => (Session.Keeps.ofExcept _).bind fun cs =>
    h.runCommands table now version cs

end Backend.Keeps

end SchemaMigration
