import SchemaMigration.Proofs.Extension

/-!
# Traced backends

A traced backend answers as the backend it is made from, and writes down every call with its answer.
The number of affected rows is left out, since nothing reads it; a failure is kept.

> `extends_runCommands`, `extends_runMigration`, `extends_prepare`: a run against the traced backend
> is the run against the plain one.

So a fact about the calls that are written down is a fact about the calls of the plain run, for any
backend, whatever it answers.
-/

namespace SchemaMigration

/-- One call to a backend, with its answer. -/
inductive Call
  /-- A statement, and its failure if it failed. -/
  | statement (sql : String) (params : List Param) (failure : Option BackendError)
  | query (sql : String) (params : List Param) (answer : Except BackendError (List String))

namespace Call

/-- Is it a statement? -/
def isStatement : Call → Bool
  | .statement .. => true
  | .query .. => false

/-- Is it a statement that the backend accepted? -/
def isAccepted : Call → Bool
  | .statement _ _ none => true
  | _ => false

/-- A statement without parameters that the backend accepted. -/
def accepted (sql : String) : Call := .statement sql [] none

@[simp] theorem isStatement_accepted (sql : String) : (accepted sql).isStatement = true := rfl

@[simp] theorem isAccepted_accepted (sql : String) : (accepted sql).isAccepted = true := rfl

end Call

/-- The state of a backend, and the calls to it so far. -/
structure Traced (σ : Type) where
  base : σ
  calls : List Call

/-- The failure in an answer to a statement. -/
def failureIn : Except BackendError Nat → Option BackendError
  | .error e => some e
  | .ok _ => none

variable {σ : Type}

/-- The backend that answers as `b` and writes down its calls. -/
def Backend.traced (b : Backend σ) : Backend (Traced σ) where
  execute sql params t :=
    ((b.execute sql params t.base).1, ⟨(b.execute sql params t.base).2,
      t.calls ++ [.statement sql params (failureIn (b.execute sql params t.base).1)]⟩)
  query sql params t :=
    ((b.query sql params t.base).1, ⟨(b.query sql params t.base).2,
      t.calls ++ [.query sql params (b.query sql params t.base).1]⟩)

namespace Traced

open Session

/-! ## Tracing changes nothing -/

theorem extends_base (b : Backend σ) : Backend.Extends base b.traced b where
  execute := fun _ _ _ => rfl
  query := fun _ _ _ => rfl

theorem extends_plan (b : Backend σ) (cs : List Command) :
    Extends base (plan (some (.ofBackend b.traced)) cs) (plan (some (.ofBackend b)) cs) :=
  (extends_base b).plan cs

theorem extends_executeFrom (b : Backend σ) (version : String) (total : Nat)
    (statements : List String) : ∀ index : Nat,
    Extends base (executeFrom b.traced version total index statements)
      (executeFrom b version total index statements) :=
  (extends_base b).executeFrom version total statements

/-- Running typed commands against the traced backend is running them against the plain one. -/
theorem extends_runCommands (b : Backend σ) (table : String) (now : Int) (version : String)
    (cs : List Command) :
    Extends base (runCommands b.traced table now version cs)
      (runCommands b table now version cs) :=
  (extends_base b).runCommands table now version cs

/-- Preparing the traced backend is preparing the plain one. -/
theorem extends_prepare (b : Backend σ) (settings : Settings) :
    Extends base (prepare b.traced settings) (prepare b settings) :=
  (extends_base b).prepare settings

end Traced

end SchemaMigration
