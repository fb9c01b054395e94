import SchemaMigration.Proofs.CatalogRun
import SchemaMigration.Proofs.Course

/-!
# Errors that are found in the input

`MigrationError.isPreExecution` classes an error by its cause, and a caller reads it as "nothing was
executed". One cause is raised at two places: the name of the version table is checked when a run
records its version, which is after all statements of the plan. So the class is misleading in
exactly one situation (`RefusesLate`), and right everywhere else:

> `sentThenRefused_iff`: a run that ends in such an error has sent statements exactly when it
> `RefusesLate`, and preparing a server never has.
-/

namespace SchemaMigration

open Session

variable {σ : Type}

/-- The call ended in an error that is classed as found in the input, and had sent a statement. -/
def SentThenRefused {α : Type} (result : Except MigrationError α) (calls : List Call) : Prop :=
  ∃ e, result = .error e ∧ e.isPreExecution = true ∧ ∃ c ∈ calls, c.isStatement = true

/-- The call ended in an error that is classed as found in the input, and left another catalog. -/
def ChangedThenRefused {α : Type} (result : Except MigrationError α) (before after : Catalog) :
    Prop :=
  ∃ e, result = .error e ∧ e.isPreExecution = true ∧ after ≠ before

/-- The input is good but for the name of the version table, the plan holds statements, and the
backend accepts all of them: what is wrong with the name is found too late. -/
def RefusesLate (b : Backend σ) (table version : String)
    (commands : Except MigrationError (List Command)) (s : σ) : Prop :=
  Sql.isPlainIdentifier table = false ∧ Version.check version = .ok () ∧
  ∃ cs p, commands = .ok cs ∧
    (plan (some (.ofBackend b)) cs s).result = .ok p ∧ p.statements ≠ [] ∧
    (executeStatements b version p.statements
      (plan (some (.ofBackend b)) cs s).state).result = .ok ()

/-! ## Runs -/

/-- A run that ends in such an error stopped at its version, or did everything but record it. -/
theorem runCommands_preExecution {b : Backend σ} {table : String} {now : Int} {version : String}
    {cs : List Command} {s : σ} {e : MigrationError}
    (h : (runCommands b table now version cs s).result = .error e)
    (he : e.isPreExecution = true) :
    (runCommands b table now version cs s).state = s ∧ Version.check version = .error e ∨
    Sql.isPlainIdentifier table = false ∧ Version.check version = .ok () ∧
      ∃ p s₁ s₂ l₁ l₂, plan (some (.ofBackend b)) cs s = ⟨.ok p, s₁, l₁⟩ ∧
        executeStatements b version p.statements s₁ = ⟨.ok (), s₂, l₂⟩ ∧
        (runCommands b table now version cs s).state = s₂ := by
  have hphases := runCommands_phases b table now version cs s
  generalize runCommands b table now version cs s = run at h hphases ⊢
  cases hphases with
  | badVersion hv =>
    cases h
    exact .inl ⟨rfl, hv⟩
  | planFailed hv hp =>
    -- a look-up fails with the error of the backend, which is not of the class
    cases h
    have := (plan_failsOnly _ cs s e (by rw [hp])).not_preExecution
    rw [this] at he
    cases he
  | @statementFailed _ p s₁ _ _ _ hv hp hx =>
    cases h
    have := (executeStatements_failsOnly b version p.statements s₁ e (by rw [hx])).not_preExecution
    rw [this] at he
    cases he
  | @recordFailed _ p s₁ s₂ _ l₁ l₂ _ hv hp hx hr =>
    -- here the name of the table tells the check from the failure of the backend
    cases h
    cases ht : Sql.isPlainIdentifier table with
    | false =>
      refine .inr ⟨rfl, hv, p, s₁, s₂, l₁, l₂, hp, hx, ?_⟩
      have := (recordVersion_refused b ⟨version, now⟩ s₂ ht).2
      rw [hr] at this
      exact this
    | true =>
      have herror : (recordVersion b table ⟨version, now⟩ s₂).result = .error e := by rw [hr]
      have := (recordVersion_isBackend ht herror).not_preExecution
      rw [this] at he
      cases he
  | applied => cases h

/-- When everything but the name of the table is good, the run ends with that name, in the state
that the statements left. -/
theorem runCommands_refused {b : Backend σ} {table : String} (now : Int) {version : String}
    {cs : List Command} {s s₁ s₂ : σ} {p : Plan} {l₁ l₂ : List LogRecord}
    (ht : Sql.isPlainIdentifier table = false) (hv : Version.check version = .ok ())
    (hp : plan (some (.ofBackend b)) cs s = ⟨.ok p, s₁, l₁⟩)
    (hx : executeStatements b version p.statements s₁ = ⟨.ok (), s₂, l₂⟩) :
    (runCommands b table now version cs s).result = .error (.validation (.versionTable table)) ∧
    (runCommands b table now version cs s).state = s₂ := by
  obtain ⟨hr, hs⟩ := recordVersion_refused b ⟨version, now⟩ s₂ ht
  rw [runCommands, hv, bind_of_ok (ofExcept_apply _ _), bind_of_ok hp, bind_of_ok hx,
    bind_error hr]
  exact ⟨rfl, hs⟩

/-! ## Preparing -/

theorem ensureDatabase_failsOnly (b : Backend σ) (name : String) :
    FailsOnly MigrationError.IsBackend (ensureDatabase b name) := by
  refine (FailsOnly.mapError _ fun e => ⟨e, rfl⟩).bind fun found => ?_
  cases found with
  | true =>
    refine (FailsOnly.note _ _).bind fun _ => ?_
    exact (execute_failsOnly b _ _).bind fun _ => FailsOnly.done _
  | false =>
    refine (FailsOnly.note _ _).bind fun _ => (execute_failsOnly b _ _).bind fun _ => ?_
    exact (execute_failsOnly b _ _).bind fun _ => FailsOnly.done _

theorem ensureVersionTable_failsOnly (b : Backend σ) {table : String}
    (ht : Sql.isPlainIdentifier table = true) :
    FailsOnly MigrationError.IsBackend (ensureVersionTable b table) := by
  rw [ensureVersionTable, checkTable_ok ht]
  refine (FailsOnly.done ()).bind fun _ => ?_
  refine (FailsOnly.mapError _ fun e => ⟨e, rfl⟩).bind fun found => ?_
  cases found with
  | true => exact (FailsOnly.note _ _).bind fun _ => FailsOnly.done _
  | false =>
    refine (FailsOnly.note _ _).bind fun _ => ?_
    exact (execute_failsOnly b _ _).bind fun _ => FailsOnly.done _

/-- Preparing checks the name of the table before anything else. -/
theorem prepare_preExecution {b : Backend σ} {settings : Settings} {s : σ} {e : MigrationError}
    (h : (prepare b settings s).result = .error e) (he : e.isPreExecution = true) :
    (prepare b settings s).state = s := by
  cases ht : Sql.isPlainIdentifier settings.versionTable with
  | false =>
    rw [prepare, checkTable_error ht, bind_of_error (ofExcept_apply _ _)]
  | true =>
    -- past the check of the name, only the backend can fail
    have hfails : FailsOnly MigrationError.IsBackend (prepare b settings) := by
      rw [prepare, checkTable_ok ht]
      refine (FailsOnly.done ()).bind fun _ => (ensureDatabase_failsOnly b _).bind fun _ => ?_
      exact (ensureVersionTable_failsOnly b ht).bind fun _ => FailsOnly.done _
    rw [(hfails s e h).not_preExecution] at he
    cases he

/-! ## The one misleading situation -/

/-- Tracing does not change whether a run refuses late. -/
theorem refusesLate_traced_iff (b : Backend σ) (table version : String)
    (commands : Except MigrationError (List Command)) (t : Traced σ) :
    RefusesLate b.traced table version commands t ↔
      RefusesLate b table version commands t.base := by
  have hx : ∀ (cs : List Command) (p : Plan),
      (executeStatements b version p.statements (plan (some (.ofBackend b)) cs t.base).state).result
        = (executeStatements b.traced version p.statements
            (plan (some (.ofBackend b.traced)) cs t).state).result := by
    intro cs p
    rw [(Traced.extends_plan b cs).state_eq t]
    exact (Traced.extends_executeFrom b version _ p.statements 1).result_eq _
  simp only [RefusesLate, hx, (Traced.extends_plan b _).result_eq t]

/-- What a late refusal is, with the states between the phases. -/
theorem refusesLate_iff (b : Backend σ) (table version : String) (cs : List Command) (s : σ) :
    RefusesLate b table version (.ok cs) s ↔
      Sql.isPlainIdentifier table = false ∧ Version.check version = .ok () ∧
      ∃ p s₁ s₂ l₁ l₂, p.statements ≠ [] ∧ plan (some (.ofBackend b)) cs s = ⟨.ok p, s₁, l₁⟩ ∧
        executeStatements b version p.statements s₁ = ⟨.ok (), s₂, l₂⟩ := by
  constructor
  · rintro ⟨ht, hv, cs', p, hcs, hp, hne, hx⟩
    cases hcs
    rcases hplan : plan (some (.ofBackend b)) cs s with ⟨r, s₁, l₁⟩
    rw [hplan] at hp hx
    cases hp
    rcases hexec : executeStatements b version p.statements s₁ with ⟨r', s₂, l₂⟩
    rw [hexec] at hx
    cases hx
    exact ⟨ht, hv, p, s₁, s₂, l₁, l₂, hne, rfl, hexec⟩
  · rintro ⟨ht, hv, p, s₁, s₂, l₁, l₂, hne, hp, hx⟩
    refine ⟨ht, hv, cs, p, rfl, ?_, hne, ?_⟩
    · rw [hp]
    · rw [hp, hx]

theorem sentThenRefused_runCommands (b : Backend σ) (table : String) (now : Int)
    (version : String) (cs : List Command) (s : σ) :
    SentThenRefused (runCommands b table now version cs s).result
        (runCommands b.traced table now version cs ⟨s, []⟩).state.calls ↔
      RefusesLate b table version (.ok cs) s := by
  rw [(Traced.extends_runCommands b table now version cs).result_eq ⟨s, []⟩,
    ← refusesLate_traced_iff b table version _ ⟨s, []⟩, refusesLate_iff]
  constructor
  · rintro ⟨e, hr, he, c, hc, hstatement⟩
    rcases runCommands_preExecution hr he with
      ⟨hs, -⟩ | ⟨ht, hv, p, s₁, s₂, l₁, l₂, hp, hx, hs⟩
    · rw [hs] at hc
      cases hc
    · refine ⟨ht, hv, p, s₁, s₂, l₁, l₂, ?_, hp, hx⟩
      obtain ⟨settled, -, rfl, hcalls⟩ := settled_of_executed hp hx
      rw [hs, hcalls] at hc
      rcases List.mem_append.1 hc with h | h
      · cases h
      · rcases List.mem_append.1 h with h | h
        · rw [isStatement_of_mem_lookUpsOf h] at hstatement
          cases hstatement
        · obtain ⟨sql, hsql, -⟩ := List.mem_map.1 h
          exact List.ne_nil_of_mem hsql
  · rintro ⟨ht, hv, p, s₁, s₂, l₁, l₂, hne, hp, hx⟩
    obtain ⟨hr, hs⟩ := runCommands_refused now ht hv hp hx
    obtain ⟨settled, -, rfl, hcalls⟩ := settled_of_executed hp hx
    obtain ⟨sql, hsql⟩ := List.exists_mem_of_ne_nil _ hne
    refine ⟨_, hr, rfl, .accepted sql, ?_, rfl⟩
    rw [hs, hcalls]
    exact List.mem_append_right _ (List.mem_append_right _ (List.mem_map_of_mem hsql))

theorem changedThenRefused_runCommands (table : String) (now : Int) (version : String)
    (cs : List Command) (c : Catalog) :
    ChangedThenRefused (runCommands Catalog.backend table now version cs c).result c
        (runCommands Catalog.backend table now version cs c).state ↔
      RefusesLate Catalog.backend table version (.ok cs) c := by
  rw [refusesLate_iff]
  -- what an execution that succeeded has written down tells whether there were statements
  have executed : ∀ {p : Plan} {s₁ s₂ : Catalog} {l₁ l₂ : List LogRecord},
      plan (some (.ofBackend Catalog.backend)) cs c = ⟨.ok p, s₁, l₁⟩ →
      executeStatements Catalog.backend version p.statements s₁ = ⟨.ok (), s₂, l₂⟩ →
      s₂ = p.statements.foldl Catalog.after c := by
    intro p s₁ s₂ l₁ l₂ hp hx
    have hs₁ := Catalog.plan_state cs c
    rw [hp] at hs₁
    obtain ⟨done, rest, hsplit, hs, hend⟩ :=
      Catalog.executeStatements_catalog version p.statements s₁
    rw [hx] at hs hend
    rcases hend with ⟨-, rfl⟩ | ⟨⟨_, he⟩, -⟩
    · rw [hsplit, List.append_nil, ← hs₁]
      exact hs
    · cases he
  constructor
  · rintro ⟨e, hr, he, hne⟩
    rcases runCommands_preExecution hr he with
      ⟨hs, -⟩ | ⟨ht, hv, p, s₁, s₂, l₁, l₂, hp, hx, hs⟩
    · exact absurd hs hne
    · refine ⟨ht, hv, p, s₁, s₂, l₁, l₂, fun hnil => hne ?_, hp, hx⟩
      rw [hs, executed hp hx, hnil]
      rfl
  · rintro ⟨ht, hv, p, s₁, s₂, l₁, l₂, hne, hp, hx⟩
    obtain ⟨hr, hs⟩ := runCommands_refused now ht hv hp hx
    refine ⟨_, hr, rfl, fun hsame => hne ?_⟩
    have hlist := Catalog.executed_foldl_after p.statements c
    rw [← executed hp hx, ← hs, hsame] at hlist
    exact List.append_right_eq_self.1 hlist.symm

/-- A command set that cannot be read makes no run refuse late. -/
theorem not_refusesLate_of_error (b : Backend σ) (table version : String) (e : MigrationError)
    (s : σ) : ¬ RefusesLate b table version (.error e) s := by
  rintro ⟨-, -, cs, p, hcs, -⟩
  cases hcs

/-- A command set that cannot be read ends the run before anything is done. -/
theorem runMigration_unread (b : Backend σ) (table : String) (now : Int) (version : String)
    {commands : Json.Value} {e : MigrationError} (s : σ)
    (hc : Command.readAll commands = .error e) :
    ∃ e', runMigration b table now version commands s = ⟨.error e', s, []⟩ := by
  cases hv : Version.check version with
  | error e' =>
    refine ⟨e', ?_⟩
    rw [runMigration, hv, bind_of_error (ofExcept_apply _ _)]
  | ok _ => exact ⟨e, runMigration_of_error b table now s hv hc⟩

/-- **What the class of an error says.** A run that ends in an error that is classed as found in the
input has sent statements exactly when the one thing wrong with its input is the name of the version
table, its plan holds statements and all of them were accepted. Preparing never ends so. For the
catalog, having sent statements is having another content. -/
theorem sentThenRefused_iff (b : Backend σ) (table : String) (now : Int) (version : String)
    (commands : Json.Value) (cs : List Command) (settings : Settings) (s : σ) (c : Catalog) :
    (SentThenRefused (runMigration b table now version commands s).result
        (runMigration b.traced table now version commands ⟨s, []⟩).state.calls ↔
      RefusesLate b table version (Command.readAll commands) s) ∧
    (SentThenRefused (runCommands b table now version cs s).result
        (runCommands b.traced table now version cs ⟨s, []⟩).state.calls ↔
      RefusesLate b table version (.ok cs) s) ∧
    ¬ SentThenRefused (prepare b settings s).result
        (prepare b.traced settings ⟨s, []⟩).state.calls ∧
    (ChangedThenRefused (runMigration Catalog.backend table now version commands c).result c
        (runMigration Catalog.backend table now version commands c).state ↔
      RefusesLate Catalog.backend table version (Command.readAll commands) c) ∧
    (ChangedThenRefused (runCommands Catalog.backend table now version cs c).result c
        (runCommands Catalog.backend table now version cs c).state ↔
      RefusesLate Catalog.backend table version (.ok cs) c) ∧
    ¬ ChangedThenRefused (prepare Catalog.backend settings c).result c
        (prepare Catalog.backend settings c).state := by
  refine ⟨?_, sentThenRefused_runCommands b table now version cs s, ?_, ?_,
    changedThenRefused_runCommands table now version cs c, ?_⟩
  · cases hc : Command.readAll commands with
    | ok cs =>
      rw [runMigration_of_ok b table now version s hc,
        runMigration_of_ok b.traced table now version ⟨s, []⟩ hc]
      exact sentThenRefused_runCommands b table now version cs s
    | error e =>
      refine iff_of_false ?_ (not_refusesLate_of_error b table version e s)
      obtain ⟨e', h⟩ := runMigration_unread b.traced table now version ⟨s, []⟩ hc
      rw [h]
      rintro ⟨-, -, -, call, hcall, -⟩
      cases hcall
  · rintro ⟨e, hr, he, call, hcall, -⟩
    rw [(Traced.extends_prepare b settings).result_eq ⟨s, []⟩] at hr
    rw [prepare_preExecution hr he] at hcall
    cases hcall
  · cases hc : Command.readAll commands with
    | ok cs =>
      rw [runMigration_of_ok Catalog.backend table now version c hc]
      exact changedThenRefused_runCommands table now version cs c
    | error e =>
      refine iff_of_false ?_ (not_refusesLate_of_error Catalog.backend table version e c)
      obtain ⟨e', h⟩ := runMigration_unread Catalog.backend table now version c hc
      rw [h]
      rintro ⟨-, -, -, hne⟩
      exact hne rfl
  · rintro ⟨e, hr, he, hne⟩
    exact hne (prepare_preExecution hr he)

/-- Dropping a table and recording it in `schema-versions` drops the table, and then ends in an
error that is classed as found in the input. -/
theorem dropTable_sentThenRefused :
    (runCommands Catalog.backend "schema-versions" 0 "20240101000000" [.dropTable "t"]
        { tables := ["t"] }).result = .error (.validation (.versionTable "schema-versions")) ∧
    (MigrationError.validation (.versionTable "schema-versions")).isPreExecution = true ∧
    (runCommands Catalog.backend "schema-versions" 0 "20240101000000" [.dropTable "t"]
        { tables := ["t"] }).state.tables = [] ∧
    (runCommands Catalog.backend "schema-versions" 0 "20240101000000" [.dropTable "t"]
        { tables := ["t"] }).state.executed = ["DROP TABLE t"] := by
  refine ⟨rfl, rfl, ?_, ?_⟩
  · decide
  · decide

end SchemaMigration
