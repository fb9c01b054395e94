import SchemaMigration.Backend.Session

/-!
# Reasoning about sessions

What a session can fail with, and what it leaves as it is, are put together from its parts
(`FailsOnly.bind`, `Keeps.bind`).

A session can run against a state that knows more than another state: the same backend with a
record of what it was asked, or a drafting state around a backend. This file says when the one run
is the other one seen through a *view* of the richer state, and that every way to build a session
keeps this:

> `Extends.bind`: a sequence extends a sequence when its parts do.

What is proved of the richer run is then true of the plain one as well (`Extends.result_eq`).
-/

namespace SchemaMigration.Session

variable {σ τ υ ε ε₁ α β : Type}

/-! ## Results and states of the ways to build a session -/

@[simp] theorem mapError_result (f : ε → ε₁) (m : Session σ ε α) (s : σ) :
    (mapError f m s).result = (m s).result.mapError f := rfl

@[simp] theorem mapError_state (f : ε → ε₁) (m : Session σ ε α) (s : σ) :
    (mapError f m s).state = (m s).state := rfl

@[simp] theorem attempt_result (m : Session σ ε α) (s : σ) :
    (attempt m s : Outcome σ ε₁ _).result = .ok (m s).result := rfl

@[simp] theorem attempt_state (m : Session σ ε α) (s : σ) :
    (attempt m s : Outcome σ ε₁ _).state = (m s).state := rfl

@[simp] theorem within_result (part : τ → σ) (put : σ → τ → τ) (m : Session σ ε α) (t : τ) :
    (within part put m t).result = (m (part t)).result := rfl

@[simp] theorem within_state (part : τ → σ) (put : σ → τ → τ) (m : Session σ ε α) (t : τ) :
    (within part put m t).state = put (m (part t)).state t := rfl

/-- A sequence ends in an error of its first part, or goes on with its value. -/
theorem bind_cases (m : Session σ ε α) (f : α → Session σ ε β) (s : σ) :
    (∃ e, (m s).result = .error e ∧
      ((m >>= f) s).result = .error e ∧ ((m >>= f) s).state = (m s).state) ∨
    (∃ a, (m s).result = .ok a ∧
      ((m >>= f) s).result = (f a (m s).state).result ∧
      ((m >>= f) s).state = (f a (m s).state).state) := by
  cases h : (m s).result with
  | error e =>
    refine .inl ⟨e, rfl, ?_, ?_⟩
    · rw [bind_error h]
    · rw [bind_error h]
  | ok a =>
    refine .inr ⟨a, rfl, ?_, ?_⟩
    · rw [bind_ok h]
    · rw [bind_ok h]

/-- A session with this result and this state has some log. -/
theorem exists_log {m : Session σ ε α} {s s' : σ} {r : Except ε α} (hr : (m s).result = r)
    (hs : (m s).state = s') : ∃ l, m s = ⟨r, s', l⟩ := by
  refine ⟨(m s).log, ?_⟩
  rw [← hr, ← hs]

theorem bind_of_ok {m : Session σ ε α} {f : α → Session σ ε β} {s s' : σ} {a : α}
    {l : List LogRecord} (h : m s = ⟨.ok a, s', l⟩) :
    (m >>= f) s = ⟨(f a s').result, (f a s').state, l ++ (f a s').log⟩ := by
  rw [bind_ok (show (m s).result = .ok a by rw [h]), h]

theorem bind_of_error {m : Session σ ε α} {f : α → Session σ ε β} {s s' : σ} {e : ε}
    {l : List LogRecord} (h : m s = ⟨.error e, s', l⟩) : (m >>= f) s = ⟨.error e, s', l⟩ := by
  rw [bind_error (show (m s).result = .error e by rw [h]), h]

/-! ## What a session can fail with -/

/-- Every error that the session can end in satisfies the predicate, from any state. -/
def FailsOnly (P : ε → Prop) (m : Session σ ε α) : Prop := ∀ s e, (m s).result = .error e → P e

namespace FailsOnly

variable {P : ε → Prop}

theorem done (a : α) : FailsOnly P (pure a : Session σ ε α) := by
  intro s e h
  cases h

theorem note (level : Level) (message : String) :
    FailsOnly P (Session.note level message : Session σ ε Unit) := by
  intro s e h
  cases h

theorem attempt (m : Session σ ε₁ α) : FailsOnly P (Session.attempt m : Session σ ε _) := by
  intro s e h
  cases h

theorem fail {e : ε} (h : P e) : FailsOnly P (Session.fail e : Session σ ε α) := by
  intro s e' he
  cases he
  exact h

/-- What holds of every error of the session may be said less exactly. -/
theorem imp {Q : ε → Prop} {m : Session σ ε α} (h : FailsOnly P m) (himp : ∀ e, P e → Q e) :
    FailsOnly Q m := fun s e he => himp e (h s e he)

/-- A sequence fails with what one of its parts fails with. -/
theorem bind {m : Session σ ε α} {f : α → Session σ ε β} (h : FailsOnly P m)
    (hf : ∀ a, FailsOnly P (f a)) : FailsOnly P (m >>= f) := by
  intro s e he
  rcases bind_cases m f s with ⟨e', hm, hr, -⟩ | ⟨a, -, hr, -⟩
  · rw [hr] at he
    cases he
    exact h s e hm
  · rw [hr] at he
    exact hf a _ e he

theorem mapError {f : ε₁ → ε} (m : Session σ ε₁ α) (h : ∀ e, P (f e)) :
    FailsOnly P (Session.mapError f m) := by
  intro s e he
  rw [mapError_result] at he
  cases hr : (m s).result with
  | error e' =>
    rw [hr] at he
    cases he
    exact h e'
  | ok a => rw [hr] at he; cases he

end FailsOnly

/-! ## What a session leaves as it is -/

/-- The session does not change this part of the state, however it ends. -/
def Keeps {γ : Type} (part : σ → γ) (m : Session σ ε α) : Prop := ∀ s, part (m s).state = part s

namespace Keeps

variable {γ : Type} {part : σ → γ}

theorem done (a : α) : Keeps part (pure a : Session σ ε α) := fun _ => rfl

theorem note (level : Level) (message : String) :
    Keeps part (Session.note level message : Session σ ε Unit) := fun _ => rfl

theorem ofExcept (r : Except ε α) : Keeps part (Session.ofExcept r : Session σ ε α) := fun _ => rfl

theorem fail (e : ε) : Keeps part (Session.fail e : Session σ ε α) := fun _ => rfl

theorem change {f : σ → σ} (h : ∀ s, part (f s) = part s) :
    Keeps part (Session.change f : Session σ ε Unit) := h

theorem attempt {m : Session σ ε α} (h : Keeps part m) :
    Keeps part (Session.attempt m : Session σ ε₁ _) := h

theorem mapError {m : Session σ ε α} (f : ε → ε₁) (h : Keeps part m) :
    Keeps part (Session.mapError f m) := h

/-- A sequence leaves as it is what its parts leave as it is. -/
theorem bind {m : Session σ ε α} {f : α → Session σ ε β} (h : Keeps part m)
    (hf : ∀ a, Keeps part (f a)) : Keeps part (m >>= f) := by
  intro s
  rcases bind_cases m f s with ⟨e, -, -, hs⟩ | ⟨a, -, -, hs⟩
  · rw [hs]
    exact h s
  · rw [hs]
    exact (hf a _).trans (h s)

theorem forEach {f : β → Session σ ε Unit} (h : ∀ x, Keeps part (f x)) (xs : List β) :
    Keeps part (Session.forEach f xs) := by
  induction xs with
  | nil => exact done ()
  | cons x xs ih => exact (h x).bind fun _ => ih

end Keeps

/-! ## Extension -/

/-- The session over the richer states is the other one, seen through a view of the state: same
end, same log, and the states correspond. -/
def Extends (view : τ → σ) (wide : Session τ ε α) (m : Session σ ε α) : Prop :=
  ∀ t, m (view t) = ⟨(wide t).result, view (wide t).state, (wide t).log⟩

namespace Extends

variable {view : τ → σ}

theorem result_eq {wide : Session τ ε α} {m : Session σ ε α} (h : Extends view wide m) (t : τ) :
    (m (view t)).result = (wide t).result := by rw [h t]

theorem state_eq {wide : Session τ ε α} {m : Session σ ε α} (h : Extends view wide m) (t : τ) :
    (m (view t)).state = view (wide t).state := by rw [h t]

theorem done (a : α) : Extends view (pure a : Session τ ε α) (pure a) := fun _ => rfl

theorem fail (e : ε) : Extends view (Session.fail e : Session τ ε α) (Session.fail e) :=
  fun _ => rfl

theorem note (level : Level) (message : String) :
    Extends view (Session.note level message : Session τ ε Unit) (Session.note level message) :=
  fun _ => rfl

theorem ofExcept (r : Except ε α) :
    Extends view (Session.ofExcept r : Session τ ε α) (Session.ofExcept r) := fun _ => rfl

theorem change {f : τ → τ} {g : σ → σ} (h : ∀ t, g (view t) = view (f t)) :
    Extends view (Session.change f : Session τ ε Unit) (Session.change g) := by
  intro t
  simp only [Session.change]
  rw [h t]

/-- A sequence extends a sequence when its parts do. -/
theorem bind {wide : Session τ ε α} {m : Session σ ε α} {wideNext : α → Session τ ε β}
    {next : α → Session σ ε β} (h : Extends view wide m)
    (hnext : ∀ a, Extends view (wideNext a) (next a)) :
    Extends view (wide >>= wideNext) (m >>= next) := by
  intro t
  have hm := h t
  cases hr : (wide t).result with
  | error e =>
    have hme : (m (view t)).result = .error e := by rw [hm, hr]
    rw [bind_error hr, bind_error hme, hm]
  | ok a =>
    -- the next parts start from corresponding states
    have hma : (m (view t)).result = .ok a := by rw [hm, hr]
    rw [bind_ok hr, bind_ok hma, hm, hnext a]

theorem mapError {wide : Session τ ε α} {m : Session σ ε α} (f : ε → ε₁)
    (h : Extends view wide m) :
    Extends view (Session.mapError f wide) (Session.mapError f m) := by
  intro t
  simp only [Session.mapError]
  rw [h t]

theorem attempt {wide : Session τ ε α} {m : Session σ ε α} (h : Extends view wide m) :
    Extends view (Session.attempt wide : Session τ ε₁ _) (Session.attempt m) := by
  intro t
  simp only [Session.attempt]
  rw [h t]

end Extends

end SchemaMigration.Session
