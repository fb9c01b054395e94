import SchemaMigration.Proofs.Phases
import SchemaMigration.Proofs.Steps
import SchemaMigration.Proofs.Trace

/-!
# The course of a run

What a run asks of its backend, call by call, and how it ends: for every backend, whatever it
answers to each call. The steps of the command set are *settled* one after the other by the rows
that the backend answers their questions with, and the settled steps decide the plan
(`planOf settled`). A run then follows one of the courses of `Course`:

> `runCommands_course`: the calls and the end of a run given as commands.
> `runMigration_takes_course`: the calls and the end of a run given as a command set.

Every statement is sent after the last look-up, in the order of the plan and without parameters, up
to the first failure; the version row is the last call, and is sent only after all of them.
-/

namespace SchemaMigration

open Session

variable {σ : Type}

/-! ## Calls -/

/-- The call that looks a foreign key up: its name is bound, and not spliced into the text. -/
def lookUpCall (name : String) (answer : Except BackendError (List String)) : Call :=
  .query ("SELECT CONSTRAINT_NAME FROM information_schema.TABLE_CONSTRAINTS " ++
    "WHERE CONSTRAINT_SCHEMA = DATABASE() AND CONSTRAINT_TYPE = 'FOREIGN KEY' AND CONSTRAINT_NAME = ?")
    [.text name] answer

/-- The call that records a version: the version and the time are bound. -/
def recordCall (table version : String) (now : Int) (failure : Option BackendError) : Call :=
  .statement ("INSERT INTO " ++ table ++ " (version, created) VALUES (?, ?)")
    [.text version, .bigInt now] failure

theorem query_constraintQuery (name : String) (answer : Except BackendError (List String)) :
    .query constraintQuery [.text name] answer = lookUpCall name answer := rfl

theorem statement_insertVersion (table version : String) (now : Int)
    (failure : Option BackendError) :
    .statement (insertVersion table) [.text version, .bigInt now] failure =
      recordCall table version now failure := rfl

/-! ## Courses -/

/-- A step, and the rows that answered its question; a step without a question reads none. -/
structure Settled where
  step : Step
  rows : List String

namespace Settled

/-- Was the name found that the step asks about? -/
def found (s : Settled) : Bool := !s.rows.isEmpty

/-- The statements of a settled step. -/
def written (s : Settled) : List String := s.step.written s.found

/-- What is left out of a settled step. -/
def leftOut (s : Settled) : List Skip := s.step.leftOut s.found

/-- The look-up that settled a step. -/
def lookUp (s : Settled) : List Call :=
  match s.step.question with
  | none => []
  | some name => [lookUpCall name (.ok s.rows)]

end Settled

/-- The plan that settled steps make. -/
def planOf (settled : List Settled) : Plan :=
  ⟨settled.flatMap Settled.written, settled.flatMap Settled.leftOut⟩

/-- The look-ups that settled some steps. -/
def lookUpsOf (settled : List Settled) : List Call := settled.flatMap Settled.lookUp

theorem isStatement_of_mem_lookUpsOf {settled : List Settled} {c : Call}
    (h : c ∈ lookUpsOf settled) : c.isStatement = false := by
  obtain ⟨s, -, hc⟩ := List.mem_flatMap.1 h
  unfold Settled.lookUp at hc
  split at hc
  · cases hc
  · rw [List.mem_singleton.1 hc]
    rfl

/-- What a run can do: the calls it makes, and its end. The commands are those that were read from
the command set, or what is wrong with it. -/
inductive Course (table : String) (now : Int) (version : String) :
    Except MigrationError (List Command) → List Call → Except MigrationError Report → Prop
  | badVersion {commands : Except MigrationError (List Command)} {e : MigrationError}
      (hv : Version.check version = .error e) :
    Course table now version commands [] (.error e)
  | badCommands {e : MigrationError} (hv : Version.check version = .ok ()) :
    Course table now version (.error e) [] (.error e)
  | lookUpFailed {cs : List Command} {settled : List Settled} {step : Step} {rest : List Step}
      {name : String} {e : BackendError}
      (hv : Version.check version = .ok ())
      (hs : cs.flatMap Command.steps = settled.map Settled.step ++ step :: rest)
      (hq : step.question = some name) :
    Course table now version (.ok cs)
      (lookUpsOf settled ++ [lookUpCall name (.error e)])
      (.error (.backend e))
  | statementFailed {cs : List Command} {settled : List Settled} {done rest : List String}
      {sql : String} {e : BackendError}
      (hv : Version.check version = .ok ())
      (hs : cs.flatMap Command.steps = settled.map Settled.step)
      (hp : (planOf settled).statements = done ++ sql :: rest) :
    Course table now version (.ok cs)
      (lookUpsOf settled ++ done.map .accepted ++ [.statement sql [] (some e)])
      (.error (.execution ⟨version, done.length + 1, (planOf settled).statements.length, sql,
        cleanMessage e.text⟩))
  | tableRefused {cs : List Command} {settled : List Settled}
      (hv : Version.check version = .ok ())
      (hs : cs.flatMap Command.steps = settled.map Settled.step)
      (ht : Sql.isPlainIdentifier table = false) :
    Course table now version (.ok cs)
      (lookUpsOf settled ++ (planOf settled).statements.map .accepted)
      (.error (.validation (.versionTable table)))
  | recordFailed {cs : List Command} {settled : List Settled} {e : BackendError}
      (hv : Version.check version = .ok ())
      (hs : cs.flatMap Command.steps = settled.map Settled.step)
      (ht : Sql.isPlainIdentifier table = true) :
    Course table now version (.ok cs)
      (lookUpsOf settled ++ (planOf settled).statements.map .accepted ++
        [recordCall table version now (some e)])
      (.error (.backend e))
  | applied {cs : List Command} {settled : List Settled}
      (hv : Version.check version = .ok ())
      (hs : cs.flatMap Command.steps = settled.map Settled.step)
      (ht : Sql.isPlainIdentifier table = true) :
    Course table now version (.ok cs)
      (lookUpsOf settled ++ (planOf settled).statements.map .accepted ++
        [recordCall table version now none])
      (.ok ⟨version, (planOf settled).statements, (planOf settled).skipped, now⟩)

/-! ## Look-ups -/

/-- A question for a name is one query, and answers whether it gave any row. -/
theorem anyRow_traced (b : Backend σ) (noun sql name : String) (t : Traced σ) :
    ∃ answer s', (Introspector.anyRow b.traced noun sql name t).result =
        answer.map (fun rows => !rows.isEmpty) ∧
      (Introspector.anyRow b.traced noun sql name t).state =
        ⟨s', t.calls ++ [.query sql [.text name] answer]⟩ :=
  ⟨(b.query sql [.text name] t.base).1, (b.query sql [.text name] t.base).2,
    anyRow_result b.traced noun sql name t, anyRow_state b.traced noun sql name t⟩

/-- A look-up is one query, and answers whether it gave any row. -/
theorem lookUp_traced (b : Backend σ) (name : String) (d : Drafting (Traced σ)) :
    ∃ answer s', (Draft.lookUp (some (.ofBackend b.traced)) name d).result =
        answer.map (fun rows => !rows.isEmpty) ∧
      (Draft.lookUp (some (.ofBackend b.traced)) name d).state =
        ⟨⟨s', d.base.calls ++ [lookUpCall name answer]⟩, d.skipped⟩ := by
  obtain ⟨answer, s', hr, hs⟩ := anyRow_traced b "constraint" constraintQuery name d.base
  refine ⟨answer, s', hr, ?_⟩
  simp only [Draft.lookUp, within_state, constraintExists, Introspector.ofBackend]
  rw [hs, query_constraintQuery]

/-- Drafting a step settles it by the rows of its look-up, or ends with the failure of that. -/
theorem step_traced (b : Backend σ) (st : Step) (d : Drafting (Traced σ)) :
    let drafted := Draft.step (some (.ofBackend b.traced)) st d
    (∃ rows s', drafted.result = .ok (Settled.written ⟨st, rows⟩) ∧
      drafted.state = ⟨⟨s', d.base.calls ++ Settled.lookUp ⟨st, rows⟩⟩,
        d.skipped ++ Settled.leftOut ⟨st, rows⟩⟩) ∨
    (∃ name e s', st.question = some name ∧ drafted.result = .error e ∧
      drafted.state = ⟨⟨s', d.base.calls ++ [lookUpCall name (.error e)]⟩,
        d.skipped⟩) := by
  intro drafted
  cases st with
  | plain sql =>
    -- nothing is asked, so no rows are read
    refine .inl ⟨[], d.base.base, rfl, ?_⟩
    show d = ⟨⟨d.base.base, d.base.calls ++ []⟩, d.skipped ++ []⟩
    rw [List.append_nil, List.append_nil]
  | drop table name =>
    obtain ⟨answer, s', hr, hs⟩ := lookUp_traced b name d
    cases answer with
    | error e =>
      refine .inr ⟨name, e, s', rfl, ?_, ?_⟩
      · simp only [drafted, Draft.step, Draft.dropConstraint]
        rw [bind_error hr]
      · simp only [drafted, Draft.step, Draft.dropConstraint]
        rw [bind_error hr, hs]
    | ok rows =>
      refine .inl ⟨rows, s', ?_⟩
      simp only [drafted, Draft.step, Draft.dropConstraint, Sql.dropForeignKey_eq]
      rw [bind_ok hr, hs]
      cases hrows : !rows.isEmpty with
      | true => simp [Settled.written, Settled.leftOut, Settled.found, Settled.lookUp,
          Step.written, Step.leftOut, Step.question, hrows]
      | false =>
        simp only [Settled.written, Settled.leftOut, Settled.found, hrows]
        exact ⟨rfl, rfl⟩
  | add table c =>
    obtain ⟨answer, s', hr, hs⟩ := lookUp_traced b c.name d
    cases answer with
    | error e =>
      refine .inr ⟨c.name, e, s', rfl, ?_, ?_⟩
      · simp only [drafted, Draft.step, Draft.addConstraint]
        rw [bind_error hr]
      · simp only [drafted, Draft.step, Draft.addConstraint]
        rw [bind_error hr, hs]
    | ok rows =>
      refine .inl ⟨rows, s', ?_⟩
      simp only [drafted, Draft.step, Draft.addConstraint, Sql.addForeignKey_eq,
        Constraint.definitionSql_eq]
      rw [bind_ok hr, hs]
      cases hrows : !rows.isEmpty with
      | false => simp [Settled.written, Settled.leftOut, Settled.found, Settled.lookUp,
          Step.written, Step.leftOut, Step.question, hrows]
      | true =>
        simp only [Settled.written, Settled.leftOut, Settled.found, hrows]
        exact ⟨rfl, rfl⟩

/-- Drafting steps settles all of them, or those before the first look-up that fails. -/
theorem concat_traced (b : Backend σ) (steps : List Step) : ∀ d : Drafting (Traced σ),
    let drafted := Draft.concat (Draft.step (some (.ofBackend b.traced))) steps d
    (∃ settled, steps = settled.map Settled.step ∧
      drafted.result = .ok (planOf settled).statements ∧
      drafted.state.skipped = d.skipped ++ (planOf settled).skipped ∧
      drafted.state.base.calls = d.base.calls ++ lookUpsOf settled) ∨
    (∃ settled st rest name e, steps = settled.map Settled.step ++ st :: rest ∧
      st.question = some name ∧ drafted.result = .error e ∧
      drafted.state.base.calls = d.base.calls ++ (lookUpsOf settled ++
        [lookUpCall name (.error e)])) := by
  induction steps with
  | nil =>
    intro d drafted
    refine .inl ⟨[], rfl, rfl, ?_, ?_⟩
    · exact (List.append_nil _).symm
    · exact (List.append_nil _).symm
  | cons st rest ih =>
    intro d drafted
    simp only [drafted, Draft.concat]
    rcases step_traced b st d with ⟨rows, s', hr, hs⟩ | ⟨name, e, s', hq, hr, hs⟩
    · rw [bind_ok hr, hs]
      -- the rest is drafted in the state that this step leaves
      rcases ih ⟨⟨s', d.base.calls ++ Settled.lookUp ⟨st, rows⟩⟩,
          d.skipped ++ Settled.leftOut ⟨st, rows⟩⟩ with
        ⟨settled, hsteps, ihr, ihk, ihc⟩ | ⟨settled, st', rest', name, e, hsteps, hq, ihr, ihc⟩
      · rw [bind_ok ihr]
        refine .inl ⟨⟨st, rows⟩ :: settled, ?_, rfl, ?_, ?_⟩
        · rw [hsteps]; rfl
        · simp only [pure_apply]
          rw [ihk, List.append_assoc]
          rfl
        · simp only [pure_apply]
          rw [ihc, List.append_assoc]
          rfl
      · rw [bind_error ihr]
        refine .inr ⟨⟨st, rows⟩ :: settled, st', rest', name, e, ?_, hq, rfl, ?_⟩
        · rw [hsteps]; rfl
        · simp only
          rw [ihc]
          simp only [lookUpsOf, List.flatMap_cons, List.append_assoc]
    · rw [bind_error hr]
      refine .inr ⟨[], st, rest, name, e, rfl, hq, rfl, ?_⟩
      simp only
      rw [hs]
      rfl

/-- Planning settles every step of the command set, or fails with the first look-up that fails. -/
theorem plan_traced (b : Backend σ) (cs : List Command) (t : Traced σ) :
    let planned := plan (some (.ofBackend b.traced)) cs t
    (∃ settled, cs.flatMap Command.steps = settled.map Settled.step ∧
      planned.result = .ok (planOf settled) ∧
      planned.state.calls = t.calls ++ lookUpsOf settled) ∨
    (∃ settled st rest name e,
      cs.flatMap Command.steps = settled.map Settled.step ++ st :: rest ∧
      st.question = some name ∧ planned.result = .error (.backend e) ∧
      planned.state.calls = t.calls ++ (lookUpsOf settled ++
        [lookUpCall name (.error e)])) := by
  intro planned
  have h := concat_traced b (cs.flatMap Command.steps) ⟨t, []⟩
  rw [← Draft.commands_eq_concat] at h
  rcases h with ⟨settled, hsteps, hr, hk, hc⟩ | ⟨settled, st, rest, name, e, hsteps, hq, hr, hc⟩
  · refine .inl ⟨settled, hsteps, ?_, hc⟩
    simp only [planned, plan]
    rw [hr, hk]
    rfl
  · refine .inr ⟨settled, st, rest, name, e, hsteps, hq, ?_, hc⟩
    simp only [planned, plan]
    rw [hr]
    rfl

/-! ## Statements -/

/-- A statement is sent once, without parameters; its failure names it and its place. -/
theorem executeStatement_traced (b : Backend σ) (version : String) (total index : Nat)
    (sql : String) (t : Traced σ) :
    let executed := executeStatement b.traced version total index sql t
    (executed.result = .ok () ∧ executed.state.calls = t.calls ++ [.accepted sql]) ∨
    (∃ e, executed.result =
        .error (.execution ⟨version, index, total, sql, cleanMessage e.text⟩) ∧
      executed.state.calls = t.calls ++ [.statement sql [] (some e)]) := by
  intro executed
  simp only [executed, executeStatement, sendStatement, Backend.answer]
  rw [bind_of_ok (note_apply _ _ t), bind_ok (attempt_result _ _)]
  simp only [attempt_state]
  have hc : (b.traced.run sql [] t).state.calls =
      t.calls ++ [.statement sql [] (failureIn (b.traced.run sql [] t).result)] := rfl
  cases hr : (b.traced.run sql [] t).result with
  | ok n =>
    rw [hr] at hc
    exact .inl ⟨rfl, hc⟩
  | error e =>
    rw [hr] at hc
    exact .inr ⟨e, rfl, hc⟩

/-- Statements are sent in order, up to the first one that fails. -/
theorem executeFrom_traced (b : Backend σ) (version : String) (total : Nat)
    (statements : List String) : ∀ (index : Nat) (t : Traced σ),
    let executed := executeFrom b.traced version total index statements t
    (executed.result = .ok () ∧ executed.state.calls = t.calls ++ statements.map .accepted) ∨
    (∃ done sql rest e, statements = done ++ sql :: rest ∧
      executed.result = .error
        (.execution ⟨version, index + done.length, total, sql, cleanMessage e.text⟩) ∧
      executed.state.calls =
        t.calls ++ (done.map .accepted ++ [.statement sql [] (some e)])) := by
  induction statements with
  | nil =>
    intro index t executed
    exact .inl ⟨rfl, (List.append_nil _).symm⟩
  | cons sql rest ih =>
    intro index t executed
    simp only [executed, executeFrom_cons]
    rcases executeStatement_traced b version total index sql t with ⟨hr, hc⟩ | ⟨e, hr, hc⟩
    · rw [bind_ok hr]
      rcases ih (index + 1) (executeStatement b.traced version total index sql t).state with
        ⟨ihr, ihc⟩ | ⟨done, sql', rest', e, hs, ihr, ihc⟩
      · refine .inl ⟨ihr, ?_⟩
        simp only
        rw [ihc, hc, List.append_assoc]
        rfl
      · refine .inr ⟨sql :: done, sql', rest', e, by rw [hs]; rfl, ?_, ?_⟩
        · simp only
          rw [ihr, List.length_cons, Nat.add_assoc, Nat.add_comm 1]
        · simp only
          rw [ihc, hc, List.append_assoc]
          rfl
    · rw [bind_error hr]
      exact .inr ⟨[], sql, rest, e, rfl, rfl, hc⟩

/-- A statement that a migration needs is one call, and its failure is that of the backend. -/
theorem execute_traced (b : Backend σ) (sql : String) (params : List Param) (t : Traced σ) :
    let executed := execute b.traced sql params t
    (∃ n, executed.result = .ok n ∧
      executed.state.calls = t.calls ++ [.statement sql params none]) ∨
    (∃ e, executed.result = .error (.backend e) ∧
      executed.state.calls = t.calls ++ [.statement sql params (some e)]) := by
  intro executed
  have hc : executed.state.calls =
      t.calls ++ [.statement sql params (failureIn (b.traced.run sql params t).result)] := rfl
  have hr : executed.result = (b.traced.run sql params t).result.mapError .backend := rfl
  rw [hc, hr]
  cases (b.traced.run sql params t).result with
  | ok n => exact .inl ⟨n, rfl, rfl⟩
  | error e => exact .inr ⟨e, rfl, rfl⟩

/-- Recording a version in a table with a plain name is one call. -/
theorem recordVersion_traced (b : Backend σ) {table : String} (version : String) (now : Int)
    (t : Traced σ) (ht : Sql.isPlainIdentifier table = true) :
    let recorded := recordVersion b.traced table ⟨version, now⟩ t
    (recorded.result = .ok () ∧
      recorded.state.calls = t.calls ++ [recordCall table version now none]) ∨
    (∃ e, recorded.result = .error (.backend e) ∧
      recorded.state.calls = t.calls ++ [recordCall table version now (some e)]) := by
  intro recorded
  obtain ⟨hr, hs⟩ := recordVersion_plain b.traced ⟨version, now⟩ t ht
  simp only [recorded]
  rw [hr, hs]
  rcases execute_traced b (insertVersion table) [.text version, .bigInt now] t with
    ⟨n, her, hec⟩ | ⟨e, her, hec⟩
  · rw [her, hec, statement_insertVersion]
    exact .inl ⟨rfl, rfl⟩
  · rw [her, hec, statement_insertVersion]
    exact .inr ⟨e, rfl, rfl⟩

/-! ## Runs -/

/-- When all statements of a plan were accepted, the plan is the one that the settled steps make,
and the calls so far are their look-ups and the statements. -/
theorem settled_of_executed {b : Backend σ} {version : String} {cs : List Command} {p : Plan}
    {t s₁ s₂ : Traced σ} {l₁ l₂ : List LogRecord}
    (hp : plan (some (.ofBackend b.traced)) cs t = ⟨.ok p, s₁, l₁⟩)
    (he : executeStatements b.traced version p.statements s₁ = ⟨.ok (), s₂, l₂⟩) :
    ∃ settled, cs.flatMap Command.steps = settled.map Settled.step ∧ p = planOf settled ∧
      s₂.calls = t.calls ++ (lookUpsOf settled ++ (planOf settled).statements.map .accepted) := by
  have hplan := plan_traced b cs t
  rw [hp] at hplan
  rcases hplan with ⟨settled, hs, hr, hc⟩ | ⟨_, _, _, _, _, _, _, hr, -⟩
  · cases hr
    refine ⟨settled, hs, rfl, ?_⟩
    have hexec := executeFrom_traced b version (planOf settled).statements.length
      (planOf settled).statements 1 s₁
    rw [executeStatements] at he
    rw [he] at hexec
    rcases hexec with ⟨-, hec⟩ | ⟨_, _, _, _, _, her, -⟩
    · rw [hec, hc, List.append_assoc]
    · cases her
  · cases hr

/-- A run given as commands takes one of the courses. -/
theorem runCommands_course (b : Backend σ) (table : String) (now : Int) (version : String)
    (cs : List Command) (t : Traced σ) :
    ∃ calls, (runCommands b.traced table now version cs t).state.calls = t.calls ++ calls ∧
      Course table now version (.ok cs) calls
        (runCommands b.traced table now version cs t).result := by
  have hplan := plan_traced b cs t
  have hphases := runCommands_phases b.traced table now version cs t
  generalize runCommands b.traced table now version cs t = run at hphases ⊢
  cases hphases with
  | badVersion hv => exact ⟨[], (List.append_nil _).symm, .badVersion hv⟩
  | planFailed hv hp =>
    rw [hp] at hplan
    rcases hplan with ⟨settled, -, hr, -⟩ | ⟨settled, st, rest, name, e, hs, hq, hr, hc⟩
    · cases hr
    · cases hr
      exact ⟨_, hc, .lookUpFailed hv hs hq⟩
  | @statementFailed e p s₁ _ _ _ hv hp he =>
    rw [hp] at hplan
    rcases hplan with ⟨settled, hs, hr, hc⟩ | ⟨_, _, _, _, _, _, _, hr, -⟩
    · cases hr
      have hexec := executeFrom_traced b version (planOf settled).statements.length
        (planOf settled).statements 1 s₁
      rw [executeStatements] at he
      rw [he] at hexec
      rcases hexec with ⟨her, -⟩ | ⟨done, sql, rest, failure, hst, her, hec⟩
      · cases her
      · cases her
        refine ⟨lookUpsOf settled ++ done.map .accepted ++ [.statement sql [] (some failure)],
          ?_, ?_⟩
        · rw [hec, hc, List.append_assoc, List.append_assoc]
        · rw [Nat.add_comm 1]
          exact .statementFailed hv hs hst
    · cases hr
  | @recordFailed e p s₁ s₂ _ _ _ _ hv hp he hr' =>
    obtain ⟨settled, hs, rfl, hc⟩ := settled_of_executed hp he
    cases ht : Sql.isPlainIdentifier table with
    | false =>
      -- the name is checked before the row is sent, so the calls end with the statements
      obtain ⟨hrr, hrs⟩ := recordVersion_refused b.traced ⟨version, now⟩ s₂ ht
      rw [hr'] at hrr hrs
      cases hrr
      cases hrs
      exact ⟨_, hc, .tableRefused hv hs ht⟩
    | true =>
      have hrec := recordVersion_traced b version now s₂ ht
      rw [hr'] at hrec
      rcases hrec with ⟨hrr, -⟩ | ⟨failure, hrr, hrc⟩
      · cases hrr
      · cases hrr
        refine ⟨_, ?_, .recordFailed hv hs ht⟩
        rw [hrc, hc, List.append_assoc]
  | @applied p s₁ s₂ _ _ _ _ hv hp he hr' =>
    obtain ⟨settled, hs, rfl, hc⟩ := settled_of_executed hp he
    cases ht : Sql.isPlainIdentifier table with
    | false =>
      have hrr := (recordVersion_refused b.traced ⟨version, now⟩ s₂ ht).1
      rw [hr'] at hrr
      cases hrr
    | true =>
      have hrec := recordVersion_traced b version now s₂ ht
      rw [hr'] at hrec
      rcases hrec with ⟨-, hrc⟩ | ⟨failure, hrr, -⟩
      · refine ⟨_, ?_, .applied hv hs ht⟩
        rw [hrc, hc, List.append_assoc]
      · cases hrr

end SchemaMigration
