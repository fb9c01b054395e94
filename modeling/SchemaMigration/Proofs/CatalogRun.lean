import SchemaMigration.Catalog.Basic
import SchemaMigration.Proofs.BackendFrame
import SchemaMigration.Proofs.Phases
import SchemaMigration.Proofs.StatementEffects
import SchemaMigration.Proofs.Steps

/-!
# The in-memory catalog under a run

Look-ups leave a catalog as it is, so a plan does; statements without parameters change its names
and never its version rows. The state that an execution leaves is the one after the statements that
were accepted, in order:

> `executeStatements_catalog`: an execution ends after all statements, or after those before the
> first failure.

Without a failure setting every look-up and every statement succeeds, and the answers follow the
rule of membership (`answersBy_catalog`).
-/

namespace SchemaMigration

open Session

namespace Catalog

/-- The catalog after a statement without parameters that was accepted. -/
def after (c : Catalog) (sql : String) : Catalog :=
  apply [] { c with executed := c.executed ++ [sql] } (effectOf sql)

/-- What no statement without parameters changes. -/
structure SameRows (c c' : Catalog) : Prop where
  versions : c'.versions = c.versions
  failingStatement : c'.failingStatement = c.failingStatement
  failingQueries : c'.failingQueries = c.failingQueries

theorem SameRows.refl (c : Catalog) : SameRows c c := ⟨rfl, rfl, rfl⟩

theorem SameRows.trans {c c' c'' : Catalog} (h : SameRows c c') (h' : SameRows c' c'') :
    SameRows c c'' :=
  ⟨h'.versions.trans h.versions, h'.failingStatement.trans h.failingStatement,
    h'.failingQueries.trans h.failingQueries⟩

theorem sameRows_after (c : Catalog) (sql : String) : SameRows c (c.after sql) := by
  unfold after
  cases effectOf sql <;> exact ⟨rfl, rfl, rfl⟩

/-- No effect takes a database away. -/
theorem mem_databases_apply {name : String} (params : List Param) (c : Catalog)
    (effect : CatalogEffect) (h : name ∈ c.databases) :
    name ∈ (apply params c effect).databases := by
  cases effect with
  | createDatabase other => exact mem_addName.2 (.inr h)
  | insertVersion =>
    simp only [apply]
    split
    · exact h
    · exact h
  | _ => exact h

theorem executed_after (c : Catalog) (sql : String) :
    (c.after sql).executed = c.executed ++ [sql] := by
  unfold after
  cases effectOf sql <;> rfl

theorem sameRows_foldl_after (statements : List String) : ∀ c : Catalog,
    SameRows c (statements.foldl after c) := by
  induction statements with
  | nil => exact SameRows.refl
  | cons sql rest ih => exact fun c => (sameRows_after c sql).trans (ih (c.after sql))

theorem executed_foldl_after (statements : List String) : ∀ c : Catalog,
    (statements.foldl after c).executed = c.executed ++ statements := by
  induction statements with
  | nil => exact fun c => (List.append_nil _).symm
  | cons sql rest ih =>
    intro c
    rw [List.foldl_cons, ih, executed_after, List.append_assoc]
    rfl

/-! ## Statements -/

/-- A statement without parameters is accepted and has its effect, or fails and has none. -/
theorem run_backend (c : Catalog) (sql : String) :
    (backend.run sql [] c = ⟨.ok 0, c.after sql, []⟩ ∧ c.failureOf sql = none) ∨
    (∃ message, backend.run sql [] c = ⟨.error (.ofMessage message), c, []⟩ ∧
      c.failureOf sql = some message) := by
  cases hf : c.failureOf sql with
  | none =>
    refine .inl ⟨?_, rfl⟩
    simp only [Backend.run, backend, execute, hf]
    rfl
  | some message =>
    refine .inr ⟨message, ?_, rfl⟩
    simp only [Backend.run, backend, execute, hf]

theorem failureOf_eq_none {c : Catalog} (h : c.failingStatement = none) (sql : String) :
    c.failureOf sql = none := by
  unfold failureOf
  rw [h]

theorem executeStatement_catalog (version : String) (total index : Nat) (sql : String)
    (c : Catalog) :
    let executed := executeStatement backend version total index sql c
    (executed.result = .ok () ∧ executed.state = c.after sql) ∨
    ((∃ e, executed.result = .error e) ∧ executed.state = c ∧ c.failingStatement ≠ none) := by
  intro executed
  simp only [executed, executeStatement, sendStatement, Backend.answer]
  rw [bind_of_ok (note_apply _ _ c), bind_ok (attempt_result _ _)]
  simp only [attempt_state]
  rcases run_backend c sql with ⟨hr, -⟩ | ⟨message, hr, hf⟩
  · rw [hr]
    exact .inl ⟨rfl, rfl⟩
  · rw [hr]
    refine .inr ⟨⟨_, rfl⟩, rfl, fun hn => ?_⟩
    rw [failureOf_eq_none hn] at hf
    cases hf

theorem executeFrom_catalog (version : String) (total : Nat) (statements : List String) :
    ∀ (index : Nat) (c : Catalog),
    let executed := executeFrom backend version total index statements c
    ∃ done rest, statements = done ++ rest ∧ executed.state = done.foldl after c ∧
      ((executed.result = .ok () ∧ rest = []) ∨
       ((∃ e, executed.result = .error e) ∧ c.failingStatement ≠ none)) := by
  induction statements with
  | nil =>
    intro index c executed
    exact ⟨[], [], rfl, rfl, .inl ⟨rfl, rfl⟩⟩
  | cons sql rest ih =>
    intro index c executed
    simp only [executed, executeFrom_cons]
    rcases executeStatement_catalog version total index sql c with ⟨hr, hs⟩ | ⟨⟨e, hr⟩, hs, hf⟩
    · rw [bind_ok hr, hs]
      obtain ⟨done, rest', hsplit, ihs, hend⟩ := ih (index + 1) (c.after sql)
      refine ⟨sql :: done, rest', by rw [hsplit]; rfl, ihs, ?_⟩
      rwa [(sameRows_after c sql).failingStatement] at hend
    · rw [bind_error hr]
      exact ⟨[], sql :: rest, rfl, hs, .inr ⟨⟨e, rfl⟩, hf⟩⟩

/-- An execution ends after all statements, or, with a failure, after some of the first ones. It
fails only if the catalog has statements to fail. -/
theorem executeStatements_catalog (version : String) (statements : List String) (c : Catalog) :
    let executed := executeStatements backend version statements c
    ∃ done rest, statements = done ++ rest ∧ executed.state = done.foldl after c ∧
      ((executed.result = .ok () ∧ rest = []) ∨
       ((∃ e, executed.result = .error e) ∧ c.failingStatement ≠ none)) :=
  executeFrom_catalog version statements.length statements 1 c

/-! ## The version row -/

/-- The catalog after a version row was recorded. -/
def recorded (c : Catalog) (table : String) (row : VersionRow) : Catalog :=
  { c with executed := c.executed ++ [insertVersion table], versions := c.versions ++ [row] }

/-- A version is recorded as one row, or nothing happens. -/
theorem recordVersion_catalog {table : String} (row : VersionRow) (c : Catalog)
    (ht : Sql.isPlainIdentifier table = true) :
    let recording := recordVersion backend table row c
    (recording.result = .ok () ∧ recording.state = c.recorded table row) ∨
    ((∃ e, recording.result = .error e) ∧ recording.state = c ∧ c.failingStatement ≠ none) := by
  intro recording
  obtain ⟨hr, hs⟩ := recordVersion_plain backend row c ht
  simp only [recording, hr, hs, SchemaMigration.execute, mapError_result, mapError_state]
  simp only [Backend.run, backend, execute]
  cases hf : c.failureOf (insertVersion table) with
  | none =>
    refine .inl ⟨rfl, ?_⟩
    simp only [effectOf_insertVersion ht]
    rfl
  | some message =>
    refine .inr ⟨⟨_, rfl⟩, rfl, fun hn => ?_⟩
    rw [failureOf_eq_none hn] at hf
    cases hf

/-- Version rows are added with parameters only. -/
theorem keepsUnbound_versions : backend.KeepsUnbound Catalog.versions where
  execute := by
    intro sql c
    show (backend.run sql [] c).state.versions = c.versions
    rcases run_backend c sql with ⟨hr, -⟩ | ⟨message, hr, -⟩
    · rw [hr]
      exact (sameRows_after c sql).versions
    · rw [hr]
  query := fun _ _ _ => rfl

/-! ## Look-ups -/

theorem constraintExists_state (name : String) (c : Catalog) :
    (constraintExists (some (.ofBackend backend)) name c).state = c :=
  anyRow_state backend _ _ name c

theorem lookUp_state (name : String) (d : Drafting Catalog) :
    (Draft.lookUp (some (.ofBackend backend)) name d).state = d := by
  show (⟨(constraintExists (some (.ofBackend backend)) name d.base).state, d.skipped⟩ :
    Drafting Catalog) = d
  rw [constraintExists_state]

theorem step_base (st : Step) (d : Drafting Catalog) :
    (Draft.step (some (.ofBackend backend)) st d).state.base = d.base := by
  cases st with
  | plain sql => rfl
  | drop table name =>
    simp only [Draft.step, Draft.dropConstraint]
    rcases hr : (Draft.lookUp (some (.ofBackend backend)) name d).result with e | found
    · rw [bind_error hr, lookUp_state]
    · rw [bind_ok hr, lookUp_state]
      cases found <;> rfl
  | add table con =>
    simp only [Draft.step, Draft.addConstraint]
    rcases hr : (Draft.lookUp (some (.ofBackend backend)) con.name d).result with e | found
    · rw [bind_error hr, lookUp_state]
    · rw [bind_ok hr, lookUp_state]
      cases found <;> rfl

theorem concat_step_base (steps : List Step) : ∀ d : Drafting Catalog,
    (Draft.concat (Draft.step (some (.ofBackend backend))) steps d).state.base = d.base := by
  induction steps with
  | nil => exact fun _ => rfl
  | cons st rest ih =>
    intro d
    rw [Draft.concat]
    rcases hr : (Draft.step (some (.ofBackend backend)) st d).result with e | first
    · rw [bind_error hr]
      exact step_base st d
    · rw [bind_ok hr]
      have hrest := ih (Draft.step (some (.ofBackend backend)) st d).state
      rw [step_base] at hrest
      rcases hr' : (Draft.concat (Draft.step (some (.ofBackend backend))) rest
          (Draft.step (some (.ofBackend backend)) st d).state).result with e | others
      · rw [bind_error hr']
        exact hrest
      · rw [bind_ok hr']
        exact hrest

/-- Planning against a catalog leaves it as it is, also when a look-up fails. -/
theorem plan_state (cs : List Command) (c : Catalog) :
    (plan (some (.ofBackend backend)) cs c).state = c := by
  show (Draft.commands (some (.ofBackend backend)) cs ⟨c, []⟩).state.base = c
  rw [Draft.commands_eq_concat, concat_step_base]

/-- A name is found when it is among the names that are asked. -/
theorem anyRow_catalog {c : Catalog} {names : List String} (noun sql name : String)
    (h : c.answer sql [.text name] = .ok (matching names [.text name])) :
    (Introspector.anyRow backend noun sql name c).result = .ok (decide (name ∈ names)) := by
  rw [anyRow_result]
  show (c.answer sql [.text name]).map _ = _
  rw [h]
  by_cases hm : name ∈ names
  · simp [Except.map, matching, hm]
  · simp [Except.map, matching, hm]

theorem answer_databaseQuery {c : Catalog} (h : c.failingQueries = none) (params : List Param) :
    c.answer databaseQuery params = .ok (matching c.databases params) := by
  unfold answer
  rw [h]
  exact if_pos rfl

theorem answer_tableQuery {c : Catalog} (h : c.failingQueries = none) (params : List Param) :
    c.answer tableQuery params = .ok (matching c.tables params) := by
  have hdatabase : tableQuery ≠ databaseQuery := by decide
  unfold answer
  rw [h]
  exact (if_neg hdatabase).trans (if_pos rfl)

theorem answer_constraintQuery {c : Catalog} (h : c.failingQueries = none) (params : List Param) :
    c.answer constraintQuery params = .ok (matching c.constraints params) := by
  have hdatabase : constraintQuery ≠ databaseQuery := by decide
  have htable : constraintQuery ≠ tableQuery := by decide
  unfold answer
  rw [h]
  exact (if_neg hdatabase).trans ((if_neg htable).trans (if_pos rfl))

/-- Without failing queries, a name is found when it is among the foreign keys. -/
theorem answersBy_catalog {c : Catalog} (h : c.failingQueries = none) :
    Draft.AnswersBy (some (.ofBackend backend)) c fun name => decide (name ∈ c.constraints) :=
  fun name => ⟨anyRow_catalog _ _ name (answer_constraintQuery h _), constraintExists_state name c⟩

/-! ## A run without failures -/

/-- The plan of commands against a catalog that answers every look-up. -/
def planned (c : Catalog) (cs : List Command) : Plan :=
  Plan.ofAnswers (fun name => decide (name ∈ c.constraints)) (cs.flatMap Command.steps)

/-- Where nothing is set to fail, commands become their plan and all its statements are executed. -/
theorem executed_planned {c : Catalog} (version : String) (cs : List Command)
    (hs : c.failingStatement = none) (hq : c.failingQueries = none) :
    ∃ l₁ l₂, plan (some (.ofBackend backend)) cs c = ⟨.ok (c.planned cs), c, l₁⟩ ∧
      executeStatements backend version (c.planned cs).statements c =
        ⟨.ok (), (c.planned cs).statements.foldl after c, l₂⟩ := by
  obtain ⟨hplan, hplanState⟩ :
      (plan (some (.ofBackend backend)) cs c).result = .ok (c.planned cs) ∧
      (plan (some (.ofBackend backend)) cs c).state = c := plan_of_answers (answersBy_catalog hq) cs
  obtain ⟨done, rest, hsplit, hstate, hend⟩ :=
    executeStatements_catalog version (c.planned cs).statements c
  -- a failure needs a statement that is set to fail, so nothing is left to execute
  obtain ⟨hall, rfl⟩ := hend.resolve_right fun h => h.2 hs
  rw [List.append_nil] at hsplit
  subst hsplit
  obtain ⟨l₁, hplan⟩ := exists_log hplan hplanState
  obtain ⟨l₂, hall⟩ := exists_log hall hstate
  exact ⟨l₁, l₂, hplan, hall⟩

/-- Where nothing is set to fail, a run applies its whole plan and records its version. -/
theorem runCommands_catalog {c : Catalog} {table version : String} (now : Int) (cs : List Command)
    (hs : c.failingStatement = none) (hq : c.failingQueries = none)
    (ht : Sql.isPlainIdentifier table = true) (hv : Version.check version = .ok ()) :
    let ran := runCommands backend table now version cs c
    ran.result = .ok ⟨version, (c.planned cs).statements, (c.planned cs).skipped, now⟩ ∧
    ran.state = ((c.planned cs).statements.foldl after c).recorded table ⟨version, now⟩ := by
  intro ran
  obtain ⟨l₁, l₂, hplan, hall⟩ := executed_planned version cs hs hq
  have hrows := sameRows_foldl_after (c.planned cs).statements c
  have hend := recordVersion_catalog ⟨version, now⟩ ((c.planned cs).statements.foldl after c) ht
  obtain ⟨hrecord, hrecorded⟩ :=
    hend.resolve_right fun h => h.2.2 (hrows.failingStatement.trans hs)
  simp only [ran, runCommands, hv]
  rw [bind_of_ok (ofExcept_apply _ _), bind_of_ok hplan]
  simp only
  rw [bind_of_ok hall]
  simp only
  rw [bind_ok hrecord, hrecorded]
  exact ⟨rfl, rfl⟩

end Catalog

end SchemaMigration
