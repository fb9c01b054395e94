import SchemaMigration.Proofs.Session
import SchemaMigration.Run

/-!
# Backends over richer states

A backend *extends* another one along a view of its states when it answers as that one does on what
the view shows. Everything that the library does with a backend it then does in the same way with
the other one: same end, same log, and the view of the state that it leaves:

> `Extends.runCommands`, `Extends.runMigration`, `Extends.prepare`, `Extends.currentVersion`.

A backend may write down what it is asked, or keep the states that it went through, and is still the
same backend. It may also be confined to the states of a property that no answer breaks; so such a
property holds of every state that is left:

> `Preserves.runCommands`, `Preserves.runMigration`, `Preserves.prepare`, `Preserves.plan`.
-/

namespace SchemaMigration

open Session

variable {σ τ : Type}

/-- On the states that the view shows, `b` answers as the richer backend does. -/
structure Backend.Extends (view : τ → σ) (wide : Backend τ) (b : Backend σ) : Prop where
  execute : ∀ sql params t, b.execute sql params (view t) =
    ((wide.execute sql params t).1, view (wide.execute sql params t).2)
  query : ∀ sql params t, b.query sql params (view t) =
    ((wide.query sql params t).1, view (wide.query sql params t).2)

/-- A drafting state, seen through a view of the backend's state. -/
def Drafting.seen (view : τ → σ) (d : Drafting τ) : Drafting σ := ⟨view d.base, d.skipped⟩

namespace Backend.Extends

variable {view : τ → σ} {wide : Backend τ} {b : Backend σ}

theorem run (h : Backend.Extends view wide b) (sql : String) (params : List Param) :
    Session.Extends view (wide.run sql params) (b.run sql params) := by
  intro t
  simp only [Backend.run]
  rw [h.execute]

theorem ask (h : Backend.Extends view wide b) (sql : String) (params : List Param) :
    Session.Extends view (wide.ask sql params) (b.ask sql params) := by
  intro t
  simp only [Backend.ask]
  rw [h.query]

/-! ## Plans -/

theorem anyRow (h : Backend.Extends view wide b) (noun sql name : String) :
    Session.Extends view (Introspector.anyRow wide noun sql name)
      (Introspector.anyRow b noun sql name) := by
  refine (h.ask _ _).bind fun rows => ?_
  exact (Session.Extends.note _ _).bind fun _ => Session.Extends.done _

theorem lookUp (h : Backend.Extends view wide b) (name : String) :
    Session.Extends (Drafting.seen view) (Draft.lookUp (some (.ofBackend wide)) name)
      (Draft.lookUp (some (.ofBackend b)) name) := by
  intro d
  have hrow := h.anyRow "constraint" constraintQuery name d.base
  simp only [Draft.lookUp, within, constraintExists, Introspector.ofBackend, Drafting.seen]
  rw [hrow]

theorem skip (warning : String) (s : Skip) :
    Session.Extends (Drafting.seen view) (Draft.skip warning s : Draft τ (List String))
      (Draft.skip warning s : Draft σ (List String)) := by
  refine (Session.Extends.note _ _).bind fun _ =>
    Session.Extends.bind ?_ fun _ => Session.Extends.done _
  exact Session.Extends.change fun _ => rfl

theorem dropConstraint (h : Backend.Extends view wide b) (table name : String) :
    Session.Extends (Drafting.seen view)
      (Draft.dropConstraint (some (.ofBackend wide)) table name)
      (Draft.dropConstraint (some (.ofBackend b)) table name) := by
  refine (h.lookUp name).bind fun found => ?_
  cases found with
  | true => exact Session.Extends.done _
  | false => exact skip _ _

theorem addConstraint (h : Backend.Extends view wide b) (table : String) (c : Constraint) :
    Session.Extends (Drafting.seen view) (Draft.addConstraint (some (.ofBackend wide)) table c)
      (Draft.addConstraint (some (.ofBackend b)) table c) := by
  refine (h.lookUp c.name).bind fun found => ?_
  cases found with
  | true => exact skip _ _
  | false => exact Session.Extends.done _

theorem concat {α : Type} {f : α → Draft τ (List String)} {g : α → Draft σ (List String)}
    (h : ∀ x, Session.Extends (Drafting.seen view) (f x) (g x)) (xs : List α) :
    Session.Extends (Drafting.seen view) (Draft.concat f xs) (Draft.concat g xs) := by
  induction xs with
  | nil => exact Session.Extends.done _
  | cons x xs ih => exact (h x).bind fun _ => ih.bind fun _ => Session.Extends.done _

theorem command (h : Backend.Extends view wide b) (c : Command) :
    Session.Extends (Drafting.seen view) (Draft.command (some (.ofBackend wide)) c)
      (Draft.command (some (.ofBackend b)) c) := by
  cases c with
  | alterTable change =>
    refine (concat (h.dropConstraint change.table) _).bind fun _ => ?_
    refine (concat (h.addConstraint change.table) _).bind fun _ => ?_
    exact Session.Extends.done _
  | _ => exact Session.Extends.done _

theorem plan (h : Backend.Extends view wide b) (cs : List Command) :
    Session.Extends view (plan (some (.ofBackend wide)) cs) (plan (some (.ofBackend b)) cs) := by
  intro t
  have hdraft := concat h.command cs ⟨t, []⟩
  simp only [Drafting.seen] at hdraft
  simp only [SchemaMigration.plan, Draft.commands]
  rw [hdraft]

/-! ## Runs -/

theorem executeStatement (h : Backend.Extends view wide b) (version : String) (total index : Nat)
    (statement : String) :
    Session.Extends view (executeStatement wide version total index statement)
      (executeStatement b version total index statement) := by
  refine (Session.Extends.note _ _).bind fun _ => ?_
  refine ((h.run _ _).attempt).bind fun answer => ?_
  cases answer with
  | ok _ => exact Session.Extends.done _
  | error e => exact (Session.Extends.note _ _).bind fun _ => Session.Extends.fail _

theorem executeFrom (h : Backend.Extends view wide b) (version : String) (total : Nat)
    (statements : List String) : ∀ index : Nat,
    Session.Extends view (executeFrom wide version total index statements)
      (executeFrom b version total index statements) := by
  induction statements with
  | nil => exact fun _ => Session.Extends.done _
  | cons statement rest ih =>
    exact fun index => (h.executeStatement _ _ _ _).bind fun _ => ih (index + 1)

theorem execute_step (h : Backend.Extends view wide b) (sql : String) (params : List Param) :
    Session.Extends view (SchemaMigration.execute wide sql params)
      (SchemaMigration.execute b sql params) :=
  (h.run sql params).mapError _

theorem recordVersion (h : Backend.Extends view wide b) (table : String) (row : VersionRow) :
    Session.Extends view (recordVersion wide table row) (recordVersion b table row) := by
  refine (Session.Extends.ofExcept _).bind fun _ => ?_
  exact (h.execute_step _ _).bind fun _ => Session.Extends.note _ _

/-- Typed commands are run in the same way. -/
theorem runCommands (h : Backend.Extends view wide b) (table : String) (now : Int)
    (version : String) (cs : List Command) :
    Session.Extends view (runCommands wide table now version cs)
      (runCommands b table now version cs) := by
  refine (Session.Extends.ofExcept _).bind fun _ => ?_
  refine (h.plan cs).bind fun p => ?_
  refine (h.executeFrom _ _ _ _).bind fun _ => ?_
  refine (h.recordVersion _ _).bind fun _ => ?_
  exact (Session.Extends.note _ _).bind fun _ => Session.Extends.done _

/-- A command set is run in the same way. -/
theorem runMigration (h : Backend.Extends view wide b) (table : String) (now : Int)
    (version : String) (commands : Json.Value) :
    Session.Extends view (runMigration wide table now version commands)
      (runMigration b table now version commands) := by
  refine (Session.Extends.ofExcept _).bind fun _ => ?_
  exact (Session.Extends.ofExcept _).bind fun cs => h.runCommands table now version cs

/-! ## The version table -/

theorem ensureDatabase (h : Backend.Extends view wide b) (name : String) :
    Session.Extends view (ensureDatabase wide name) (ensureDatabase b name) := by
  refine ((h.anyRow _ _ _).mapError _).bind fun found => ?_
  cases found with
  | true =>
    refine (Session.Extends.note _ _).bind fun _ => ?_
    exact (h.execute_step _ _).bind fun _ => Session.Extends.done _
  | false =>
    refine (Session.Extends.note _ _).bind fun _ => ?_
    refine (h.execute_step _ _).bind fun _ => ?_
    exact (h.execute_step _ _).bind fun _ => Session.Extends.done _

theorem ensureVersionTable (h : Backend.Extends view wide b) (table : String) :
    Session.Extends view (ensureVersionTable wide table) (ensureVersionTable b table) := by
  refine (Session.Extends.ofExcept _).bind fun _ => ?_
  refine ((h.anyRow _ _ _).mapError _).bind fun found => ?_
  cases found with
  | true => exact (Session.Extends.note _ _).bind fun _ => Session.Extends.done _
  | false =>
    refine (Session.Extends.note _ _).bind fun _ => ?_
    exact (h.execute_step _ _).bind fun _ => Session.Extends.done _

/-- The version table is prepared in the same way. -/
theorem prepare (h : Backend.Extends view wide b) (settings : Settings) :
    Session.Extends view (prepare wide settings) (prepare b settings) := by
  refine (Session.Extends.ofExcept _).bind fun _ => ?_
  refine (h.ensureDatabase _).bind fun _ => ?_
  exact (h.ensureVersionTable _).bind fun _ => Session.Extends.done _

/-- The version is asked for in the same way. -/
theorem currentVersion (h : Backend.Extends view wide b) (table : String) :
    Session.Extends view (currentVersion wide table) (currentVersion b table) := by
  refine Session.Extends.bind ?_ fun versions => Session.Extends.done _
  exact (Session.Extends.ofExcept _).bind fun _ => (h.ask _ _).mapError _

end Backend.Extends

/-! ## What no answer breaks -/

/-- From a state with the property every answer leads to a state with the property. -/
structure Backend.Preserves (b : Backend σ) (P : σ → Prop) : Prop where
  execute : ∀ sql params s, P s → P (b.execute sql params s).2
  query : ∀ sql params s, P s → P (b.query sql params s).2

namespace Backend.Preserves

variable {b : Backend σ} {P : σ → Prop} {s : σ}

/-- The backend on the states with the property alone. -/
def confined (h : b.Preserves P) : Backend {s // P s} where
  execute sql params s := ((b.execute sql params s.1).1, ⟨_, h.execute sql params s.1 s.2⟩)
  query sql params s := ((b.query sql params s.1).1, ⟨_, h.query sql params s.1 s.2⟩)

theorem extends_confined (h : b.Preserves P) : Backend.Extends Subtype.val h.confined b where
  execute := fun _ _ _ => rfl
  query := fun _ _ _ => rfl

/-- What can be done within the states with the property leaves one of them. -/
theorem of_extends {ε α : Type} {wide : Session {s // P s} ε α} {m : Session σ ε α}
    (h : Session.Extends Subtype.val wide m) (hs : P s) : P (m s).state := by
  rw [h.state_eq ⟨s, hs⟩]
  exact (wide ⟨s, hs⟩).state.2

theorem plan (h : b.Preserves P) (cs : List Command) (hs : P s) :
    P (plan (some (.ofBackend b)) cs s).state :=
  of_extends (h.extends_confined.plan cs) hs

theorem runCommands (h : b.Preserves P) (table : String) (now : Int) (version : String)
    (cs : List Command) (hs : P s) : P (runCommands b table now version cs s).state :=
  of_extends (h.extends_confined.runCommands table now version cs) hs

theorem runMigration (h : b.Preserves P) (table : String) (now : Int) (version : String)
    (commands : Json.Value) (hs : P s) : P (runMigration b table now version commands s).state :=
  of_extends (h.extends_confined.runMigration table now version commands) hs

theorem prepare (h : b.Preserves P) (settings : Settings) (hs : P s) :
    P (prepare b settings s).state :=
  of_extends (h.extends_confined.prepare settings) hs

theorem currentVersion (h : b.Preserves P) (table : String) (hs : P s) :
    P (currentVersion b table s).state :=
  of_extends (h.extends_confined.currentVersion table) hs

end Backend.Preserves

end SchemaMigration
