import SchemaMigration.Backend.Basic

/-!
# Sessions

A session is a computation against a state. It ends in a value or an error, in either case with a
new state and with the log records that it wrote. The log of a sequence is the logs of its parts in
order, up to the first error. The records are those that appendix C of the driftwood specification
asks for.

> `bind_ok`, `bind_error`: how a sequence runs, by the outcome of its first part.
-/

namespace SchemaMigration

/-- The severity of a log record. -/
inductive Level
  | error
  | warn
  | info
  | debug
deriving DecidableEq, Repr

/-- The name of a severity. -/
def Level.name : Level → String
  | .error => "ERROR"
  | .warn => "WARN"
  | .info => "INFO"
  | .debug => "DEBUG"

/-- One line of the log. -/
structure LogRecord where
  level : Level
  message : String
deriving DecidableEq, Repr

/-- How a session ended. -/
structure Outcome (σ ε α : Type) where
  result : Except ε α
  state : σ
  log : List LogRecord

/-- A computation against a state of type `σ`, with errors of type `ε`. -/
def Session (σ ε α : Type) : Type := σ → Outcome σ ε α

namespace Session

variable {σ τ ε ε₁ α β : Type}

/-- Ends with a value at once. -/
def done (a : α) : Session σ ε α := fun s => ⟨.ok a, s, []⟩

/-- Ends with an error at once. -/
def fail (e : ε) : Session σ ε α := fun s => ⟨.error e, s, []⟩

/-- Goes on with the value of `m`; an error of `m` ends the sequence. -/
def andThen (m : Session σ ε α) (f : α → Session σ ε β) : Session σ ε β := fun s =>
  match m s with
  | ⟨.error e, s', l⟩ => ⟨.error e, s', l⟩
  | ⟨.ok a, s', l⟩ =>
    let o := f a s'
    ⟨o.result, o.state, l ++ o.log⟩

instance : Monad (Session σ ε) where
  pure := done
  bind := andThen

theorem bind_eq (m : Session σ ε α) (f : α → Session σ ε β) : (m >>= f) = andThen m f := rfl

@[simp] theorem pure_apply (a : α) (s : σ) : (pure a : Session σ ε α) s = ⟨.ok a, s, []⟩ := rfl

@[simp] theorem done_apply (a : α) (s : σ) : (done a : Session σ ε α) s = ⟨.ok a, s, []⟩ := rfl

@[simp] theorem fail_apply (e : ε) (s : σ) : (fail e : Session σ ε α) s = ⟨.error e, s, []⟩ := rfl

theorem bind_ok {m : Session σ ε α} {f : α → Session σ ε β} {s : σ} {a : α}
    (h : (m s).result = .ok a) :
    (m >>= f) s = ⟨(f a (m s).state).result, (f a (m s).state).state,
      (m s).log ++ (f a (m s).state).log⟩ := by
  rw [bind_eq, andThen]
  rcases hm : m s with ⟨r, s', l⟩
  rw [hm] at h
  obtain rfl : r = .ok a := h
  rfl

theorem bind_error {m : Session σ ε α} {f : α → Session σ ε β} {s : σ} {e : ε}
    (h : (m s).result = .error e) : (m >>= f) s = ⟨.error e, (m s).state, (m s).log⟩ := by
  rw [bind_eq, andThen]
  rcases hm : m s with ⟨r, s', l⟩
  rw [hm] at h
  obtain rfl : r = .error e := h
  rfl

theorem andThen_done (m : Session σ ε α) : andThen m done = m := by
  funext s
  rw [andThen]
  rcases m s with ⟨_ | _, _, _⟩ <;> simp

theorem done_andThen (a : α) (f : α → Session σ ε β) : andThen (done a) f = f a := by
  funext s
  simp [andThen]

theorem andThen_assoc {γ : Type} (m : Session σ ε α) (f : α → Session σ ε β)
    (g : β → Session σ ε γ) :
    andThen (andThen m f) g = andThen m fun a => andThen (f a) g := by
  funext s
  simp only [andThen]
  rcases m s with ⟨_ | a, s', l⟩
  · rfl
  · dsimp only
    rcases f a s' with ⟨_ | b, s'', l'⟩
    · rfl
    · simp

instance : LawfulMonad (Session σ ε) :=
  LawfulMonad.mk' _ andThen_done done_andThen andThen_assoc

/-! ## State, log and errors -/

/-- The current state. -/
def state : Session σ ε σ := fun s => ⟨.ok s, s, []⟩

/-- Changes the state. -/
def change (f : σ → σ) : Session σ ε Unit := fun s => ⟨.ok (), f s, []⟩

/-- Writes one log record. -/
def note (level : Level) (message : String) : Session σ ε Unit :=
  fun s => ⟨.ok (), s, [⟨level, message⟩]⟩

/-- A computation that touches neither state nor log. -/
def ofExcept (r : Except ε α) : Session σ ε α := fun s => ⟨r, s, []⟩

/-- The same session with its errors renamed. -/
def mapError (f : ε → ε₁) (m : Session σ ε α) : Session σ ε₁ α := fun s =>
  let o := m s
  ⟨o.result.mapError f, o.state, o.log⟩

/-- The outcome as a value, so that the sequence goes on after an error. -/
def attempt (m : Session σ ε α) : Session σ ε₁ (Except ε α) := fun s =>
  let o := m s
  ⟨.ok o.result, o.state, o.log⟩

/-- A session against a part of the state. -/
def within (part : τ → σ) (put : σ → τ → τ) (m : Session σ ε α) : Session τ ε α := fun t =>
  let o := m (part t)
  ⟨o.result, put o.state t, o.log⟩

@[simp] theorem note_apply (level : Level) (message : String) (s : σ) :
    (note level message : Session σ ε Unit) s = ⟨.ok (), s, [⟨level, message⟩]⟩ := rfl

@[simp] theorem ofExcept_apply (r : Except ε α) (s : σ) :
    (ofExcept r : Session σ ε α) s = ⟨r, s, []⟩ := rfl

/-- Runs `f` on every element in order, up to the first error. -/
def forEach (f : α → Session σ ε Unit) : List α → Session σ ε Unit
  | [] => pure ()
  | x :: xs => do
    f x
    forEach f xs

end Session

/-! ## Talking to a backend -/

namespace Backend

variable {σ : Type}

/-- Executes a statement. -/
def run (b : Backend σ) (sql : String) (params : List Param) : Session σ BackendError Nat :=
  fun s => ⟨(b.execute sql params s).1, (b.execute sql params s).2, []⟩

/-- Runs a query. -/
def ask (b : Backend σ) (sql : String) (params : List Param) :
    Session σ BackendError (List String) :=
  fun s => ⟨(b.query sql params s).1, (b.query sql params s).2, []⟩

end Backend

end SchemaMigration
