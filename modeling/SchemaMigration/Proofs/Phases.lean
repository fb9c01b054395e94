import SchemaMigration.Proofs.Session
import SchemaMigration.Run

/-!
# Phases of a run

A run checks its input, plans, executes the plan and records the version, and it ends with the first
phase that fails. This file says what each phase can fail with, and how a run is made up of its
phases, for every backend:

> `runCommands_phases`: how a run ends, by the outcomes of its phases.

The one cause that two phases share is `validation`: the check of the input raises it, and so does
the check of the table's name, which stands after the execution of the plan.
-/

namespace SchemaMigration

open Session

variable {σ : Type}

/-! ## Look-ups -/

/-- A look-up answers whether its query gives any row. -/
theorem anyRow_result (b : Backend σ) (noun sql name : String) (s : σ) :
    (Introspector.anyRow b noun sql name s).result =
      (b.query sql [.text name] s).1.map fun rows => !rows.isEmpty := by
  rw [Introspector.anyRow]
  cases hr : (b.ask sql [.text name] s).result with
  | error e =>
    have hq : (b.query sql [.text name] s).1 = .error e := hr
    rw [bind_error hr, hq]
    rfl
  | ok rows =>
    have hq : (b.query sql [.text name] s).1 = .ok rows := hr
    rw [bind_ok hr, hq]
    rfl

/-- A look-up changes what its query changes. -/
theorem anyRow_state (b : Backend σ) (noun sql name : String) (s : σ) :
    (Introspector.anyRow b noun sql name s).state = (b.query sql [.text name] s).2 := by
  rw [Introspector.anyRow]
  cases hr : (b.ask sql [.text name] s).result with
  | error e => rw [bind_error hr]; rfl
  | ok rows => rw [bind_ok hr]; rfl

/-! ## What the phases fail with -/

theorem Version.eq_of_check_error {version : String} {e : MigrationError}
    (h : Version.check version = .error e) : e = .invalidVersion version := by
  unfold Version.check at h
  split at h
  · cases h
    rfl
  · cases h

/-- The error of a backend, as it stands. -/
def MigrationError.IsBackend (e : MigrationError) : Prop := ∃ failure, e = .backend failure

/-- The error of a statement of a migration. -/
def MigrationError.IsExecution (e : MigrationError) : Prop := ∃ failure, e = .execution failure

theorem MigrationError.IsBackend.not_preExecution {e : MigrationError} (h : e.IsBackend) :
    e.isPreExecution = false := by
  obtain ⟨failure, rfl⟩ := h
  rfl

theorem MigrationError.IsExecution.not_preExecution {e : MigrationError} (h : e.IsExecution) :
    e.isPreExecution = false := by
  obtain ⟨failure, rfl⟩ := h
  rfl

/-- Planning fails only with a look-up that fails. -/
theorem plan_failsOnly (i : Option (Introspector σ)) (cs : List Command) :
    FailsOnly MigrationError.IsBackend (plan i cs) := by
  intro s e h
  simp only [plan] at h
  cases hr : (Draft.commands i cs ⟨s, []⟩).result with
  | error failure =>
    rw [hr] at h
    cases h
    exact ⟨failure, rfl⟩
  | ok statements => rw [hr] at h; cases h

theorem executeStatement_failsOnly (b : Backend σ) (version : String) (total index : Nat)
    (statement : String) :
    FailsOnly MigrationError.IsExecution (executeStatement b version total index statement) := by
  refine (FailsOnly.note _ _).bind fun _ => (FailsOnly.attempt _).bind fun answer => ?_
  cases answer with
  | ok _ => exact FailsOnly.done _
  | error e => exact (FailsOnly.note _ _).bind fun _ => FailsOnly.fail ⟨_, rfl⟩

theorem executeFrom_failsOnly (b : Backend σ) (version : String) (total : Nat)
    (statements : List String) : ∀ index : Nat,
    FailsOnly MigrationError.IsExecution (executeFrom b version total index statements) := by
  induction statements with
  | nil => exact fun _ => FailsOnly.done _
  | cons statement rest ih =>
    exact fun index => (executeStatement_failsOnly b _ _ _ _).bind fun _ => ih (index + 1)

/-- Executing statements fails only with a statement that fails. -/
theorem executeStatements_failsOnly (b : Backend σ) (version : String) (statements : List String) :
    FailsOnly MigrationError.IsExecution (executeStatements b version statements) :=
  executeFrom_failsOnly b version _ statements 1

theorem execute_failsOnly (b : Backend σ) (sql : String) (params : List Param) :
    FailsOnly MigrationError.IsBackend (execute b sql params) :=
  FailsOnly.mapError _ fun e => ⟨e, rfl⟩

theorem checkTable_ok {table : String} (h : Sql.isPlainIdentifier table = true) :
    checkTable table = .ok () := by rw [checkTable, if_pos h]

theorem checkTable_error {table : String} (h : Sql.isPlainIdentifier table = false) :
    checkTable table = .error (.validation (.versionTable table)) := by
  rw [checkTable, if_neg (by simp [h])]

/-- A table whose name is not plain is refused before anything is sent. -/
theorem recordVersion_refused (b : Backend σ) {table : String} (row : VersionRow) (s : σ)
    (h : Sql.isPlainIdentifier table = false) :
    (recordVersion b table row s).result = .error (.validation (.versionTable table)) ∧
    (recordVersion b table row s).state = s := by
  rw [recordVersion, checkTable_error h, bind_error (e := .validation (.versionTable table)) rfl]
  exact ⟨rfl, rfl⟩

/-- A table with a plain name gets the row, by one statement. -/
theorem recordVersion_plain (b : Backend σ) {table : String} (row : VersionRow) (s : σ)
    (h : Sql.isPlainIdentifier table = true) :
    let inserted := execute b (insertVersion table) [.text row.version, .bigInt row.created] s
    (recordVersion b table row s).result = inserted.result.map (fun _ => ()) ∧
    (recordVersion b table row s).state = inserted.state := by
  intro inserted
  rw [recordVersion, checkTable_ok h, bind_ok (a := ()) rfl]
  simp only [ofExcept_apply]
  cases hr : inserted.result with
  | error e => rw [bind_error hr]; exact ⟨rfl, rfl⟩
  | ok n => rw [bind_ok hr]; exact ⟨rfl, rfl⟩

theorem recordVersion_isBackend {b : Backend σ} {table : String} {row : VersionRow} {s : σ}
    {e : MigrationError} (ht : Sql.isPlainIdentifier table = true)
    (h : (recordVersion b table row s).result = .error e) : e.IsBackend := by
  rw [(recordVersion_plain b row s ht).1] at h
  cases hr : (execute b (insertVersion table)
      [.text row.version, .bigInt row.created] s).result with
  | error e' =>
    rw [hr] at h
    cases h
    exact execute_failsOnly b _ _ s _ hr
  | ok _ => rw [hr] at h; cases h

/-! ## How a run is made up -/

/-- The last line of the log of a run. -/
def appliedNote (version : String) (p : Plan) : LogRecord :=
  ⟨.info, "[" ++ version ++ "] applied " ++ toString p.statements.length ++
    " statement(s), skipped " ++ toString p.skipped.length ++ " constraint change(s)"⟩

/-- How a run ends, by the outcomes of its phases: the first one that fails ends the run. -/
inductive Phases (b : Backend σ) (table : String) (now : Int) (version : String)
    (cs : List Command) (s : σ) : Outcome σ MigrationError Report → Prop
  | badVersion {e : MigrationError} (hv : Version.check version = .error e) :
    Phases b table now version cs s ⟨.error e, s, []⟩
  | planFailed {e : MigrationError} {s₁ : σ} {l₁ : List LogRecord}
      (hv : Version.check version = .ok ())
      (hp : plan (some (.ofBackend b)) cs s = ⟨.error e, s₁, l₁⟩) :
    Phases b table now version cs s ⟨.error e, s₁, l₁⟩
  | statementFailed {e : MigrationError} {p : Plan} {s₁ s₂ : σ} {l₁ l₂ : List LogRecord}
      (hv : Version.check version = .ok ())
      (hp : plan (some (.ofBackend b)) cs s = ⟨.ok p, s₁, l₁⟩)
      (he : executeStatements b version p.statements s₁ = ⟨.error e, s₂, l₂⟩) :
    Phases b table now version cs s ⟨.error e, s₂, l₁ ++ l₂⟩
  | recordFailed {e : MigrationError} {p : Plan} {s₁ s₂ s₃ : σ} {l₁ l₂ l₃ : List LogRecord}
      (hv : Version.check version = .ok ())
      (hp : plan (some (.ofBackend b)) cs s = ⟨.ok p, s₁, l₁⟩)
      (he : executeStatements b version p.statements s₁ = ⟨.ok (), s₂, l₂⟩)
      (hr : recordVersion b table ⟨version, now⟩ s₂ = ⟨.error e, s₃, l₃⟩) :
    Phases b table now version cs s ⟨.error e, s₃, l₁ ++ (l₂ ++ l₃)⟩
  | applied {p : Plan} {s₁ s₂ s₃ : σ} {l₁ l₂ l₃ : List LogRecord}
      (hv : Version.check version = .ok ())
      (hp : plan (some (.ofBackend b)) cs s = ⟨.ok p, s₁, l₁⟩)
      (he : executeStatements b version p.statements s₁ = ⟨.ok (), s₂, l₂⟩)
      (hr : recordVersion b table ⟨version, now⟩ s₂ = ⟨.ok (), s₃, l₃⟩) :
    Phases b table now version cs s
      ⟨.ok ⟨version, p.statements, p.skipped, now⟩, s₃,
        l₁ ++ (l₂ ++ (l₃ ++ [appliedNote version p]))⟩

/-- Every run goes through its phases up to the first one that fails. -/
theorem runCommands_phases (b : Backend σ) (table : String) (now : Int) (version : String)
    (cs : List Command) (s : σ) :
    Phases b table now version cs s (runCommands b table now version cs s) := by
  rw [runCommands]
  cases hv : Version.check version with
  | error e =>
    rw [bind_of_error (ofExcept_apply _ s)]
    exact .badVersion hv
  | ok _ =>
    rw [bind_of_ok (ofExcept_apply _ s)]
    rcases hp : plan (some (.ofBackend b)) cs s with ⟨e | p, s₁, l₁⟩
    · rw [bind_of_error hp]
      exact .planFailed hv hp
    rw [bind_of_ok hp]
    rcases he : executeStatements b version p.statements s₁ with ⟨e | _, s₂, l₂⟩
    · rw [bind_of_error he]
      show Phases b table now version cs s ⟨.error e, s₂, l₁ ++ l₂⟩
      exact .statementFailed hv hp he
    rw [bind_of_ok he]
    rcases hr : recordVersion b table ⟨version, now⟩ s₂ with ⟨e | _, s₃, l₃⟩
    · rw [bind_of_error hr]
      show Phases b table now version cs s ⟨.error e, s₃, l₁ ++ (l₂ ++ l₃)⟩
      exact .recordFailed hv hp he hr
    rw [bind_of_ok hr]
    exact .applied hv hp he hr

/-- A command set that is refused ends the run at once. -/
theorem runMigration_of_error (b : Backend σ) (table : String) (now : Int) {version : String}
    {commands : Json.Value} {e : MigrationError} (s : σ) (hv : Version.check version = .ok ())
    (hc : Command.readAll commands = .error e) :
    runMigration b table now version commands s = ⟨.error e, s, []⟩ := by
  rw [runMigration, hv, bind_of_ok (ofExcept_apply _ _), hc, bind_of_error (ofExcept_apply _ _)]
  rfl

/-- A command set that is read is run as its commands. -/
theorem runMigration_of_ok (b : Backend σ) (table : String) (now : Int) (version : String)
    {commands : Json.Value} {cs : List Command} (s : σ) (hc : Command.readAll commands = .ok cs) :
    runMigration b table now version commands s = runCommands b table now version cs s := by
  rw [runMigration]
  cases hv : Version.check version with
  | error e =>
    rw [bind_of_error (ofExcept_apply _ _), runCommands, hv, bind_of_error (ofExcept_apply _ _)]
  | ok _ =>
    rw [bind_of_ok (ofExcept_apply _ _), hc, bind_of_ok (ofExcept_apply _ _)]
    rfl

end SchemaMigration
