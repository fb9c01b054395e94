import SchemaMigration.Catalog.Basic
import SchemaMigration.Proofs.Course

/-!
# The log of a run

A run writes its log, sends its statements, collects what it leaves out, and ends in a value or an
error: four things that are made at different places. This file says that the log tells the other
three, for every backend, whatever it answers and wherever the run stops:

> `Draft.warnsOfSkips_commands`: planning warns once of each change that it leaves out.
> `sendFrom_marking`: each statement is announced right before it is executed.
> `runCommands_log`: the whole log of a run.

That a record is written *before* a statement is executed cannot be seen in the log alone, since a
backend writes nothing itself. Statements are therefore sent once more through a *marking* sender,
which answers as the backend does and leaves marks in the log when a statement is executed.
-/

namespace SchemaMigration

open Session

variable {σ : Type}

/-! ## Records -/

/-- The warning that a change was left out. -/
def Skip.warning (s : Skip) : LogRecord :=
  match s.reason with
  | .notPresent =>
    ⟨.warn, "skipping drop of constraint " ++ s.constraint ++ " on " ++ s.table ++ ": not present"⟩
  | .alreadyPresent =>
    ⟨.warn, "skipping add of constraint " ++ s.constraint ++ " on " ++ s.table ++
      ": already present"⟩

/-- The record that announces a statement. -/
def announcement (version sql : String) : LogRecord := ⟨.info, "[" ++ version ++ "] " ++ sql⟩

/-- The record of a statement that failed. -/
def StatementFailure.note (f : StatementFailure) : LogRecord :=
  ⟨.error, "[" ++ f.version ++ "] statement " ++ toString f.index ++ " of " ++ toString f.total ++
    " failed: " ++ f.message⟩

/-- The records of the failure in a result: one if a statement failed, and otherwise none. -/
def failureNotes {α : Type} : Except MigrationError α → List LogRecord
  | .error (.execution f) => [f.note]
  | _ => []

/-- The records of recording a version: one if it succeeded. -/
def recordedNotes {α : Type} (table version : String) : Except MigrationError α → List LogRecord
  | .ok _ => [⟨.info, "recorded version " ++ version ++ " in " ++ table⟩]
  | .error _ => []

/-- The records that end the log of a run, which are there if it succeeded. -/
def closingNotes (table : String) (result : Except MigrationError Report) : List LogRecord :=
  match result with
  | .ok r =>
    recordedNotes table r.version result ++ [appliedNote r.version ⟨r.statements, r.skipped⟩]
  | .error _ => []

/-- The statement without parameters that a call sends. The version row is sent with parameters. -/
def Call.sent? : Call → Option String
  | .statement sql [] _ => some sql
  | _ => none

/-- The statements of a migration that some calls send. -/
def sentIn (calls : List Call) : List String := calls.filterMap Call.sent?

@[simp] theorem sentIn_append (calls calls' : List Call) :
    sentIn (calls ++ calls') = sentIn calls ++ sentIn calls' := List.filterMap_append

@[simp] theorem sentIn_statement (sql : String) (failure : Option BackendError) :
    sentIn [.statement sql [] failure] = [sql] := rfl

@[simp] theorem sentIn_accepted (statements : List String) :
    sentIn (statements.map .accepted) = statements := by
  unfold sentIn
  rw [List.filterMap_map]
  exact List.filterMap_some

@[simp] theorem sentIn_lookUpsOf (settled : List Settled) : sentIn (lookUpsOf settled) = [] := by
  unfold sentIn
  rw [List.filterMap_eq_nil_iff]
  intro c hc
  have hquery := isStatement_of_mem_lookUpsOf hc
  cases c with
  | query _ _ _ => rfl
  | statement _ _ _ => cases hquery

@[simp] theorem sentIn_lookUpCall (name : String)
    (answer : Except BackendError (List String)) : sentIn [lookUpCall name answer] = [] := rfl

@[simp] theorem sentIn_recordCall (table version : String) (now : Int)
    (failure : Option BackendError) : sentIn [recordCall table version now failure] = [] := rfl

/-! ## Planning -/

namespace Draft

variable {α β : Type}

/-- The warnings that a part of a plan writes are about the changes that it leaves out, in order,
and its other records are details of look-ups. -/
def WarnsOfSkips (m : Draft σ α) : Prop :=
  ∀ d, ∃ left, (m d).state.skipped = d.skipped ++ left ∧
    (m d).log.filter (fun r => r.level = .warn) = left.map Skip.warning ∧
    ∀ r ∈ (m d).log, r.level = .warn ∨ r.level = .debug

namespace WarnsOfSkips

theorem done (a : α) : WarnsOfSkips (pure a : Draft σ α) :=
  fun _ => ⟨[], (List.append_nil _).symm, rfl, fun _ hr => nomatch hr⟩

/-- The warnings of a sequence are about what its parts leave out, also when it ends early. -/
theorem bind {m : Draft σ α} {f : α → Draft σ β} (h : WarnsOfSkips m)
    (hf : ∀ a, WarnsOfSkips (f a)) : WarnsOfSkips (m >>= f) := by
  intro d
  obtain ⟨left, hs, hl, hr⟩ := h d
  cases hm : (m d).result with
  | error e =>
    -- what was left out until then stays, and so do the warnings
    rw [bind_error hm]
    exact ⟨left, hs, hl, hr⟩
  | ok a =>
    obtain ⟨left', hs', hl', hr'⟩ := hf a (m d).state
    rw [bind_ok hm]
    refine ⟨left ++ left', ?_, ?_, ?_⟩
    · rw [hs', hs, List.append_assoc]
    · rw [List.filter_append, hl, hl', List.map_append]
    · intro r hmem
      rcases List.mem_append.1 hmem with hmem | hmem
      · exact hr r hmem
      · exact hr' r hmem

end WarnsOfSkips

theorem warnsOfSkips_lookUp (b : Backend σ) (name : String) :
    WarnsOfSkips (lookUp (some (.ofBackend b)) name) := by
  intro d
  refine ⟨[], (List.append_nil _).symm, ?_⟩
  simp only [lookUp, within, constraintExists, Introspector.ofBackend, Introspector.anyRow]
  cases hr : (b.ask constraintQuery [.text name] d.base).result with
  | error e =>
    rw [bind_error hr]
    refine ⟨rfl, fun r hmem => ?_⟩
    cases hmem
  | ok rows =>
    rw [bind_ok hr]
    refine ⟨rfl, fun r hmem => ?_⟩
    rw [List.mem_singleton.1 hmem]
    exact .inr rfl

theorem warnsOfSkips_skip {warning : String} {s : Skip} (h : s.warning = ⟨.warn, warning⟩) :
    WarnsOfSkips (skip warning s : Draft σ (List String)) := by
  intro d
  refine ⟨[s], rfl, ?_, fun r hmem => ?_⟩
  · show [_] = [s.warning]
    rw [h]
  · rw [List.mem_singleton.1 hmem]
    exact .inl rfl

theorem warnsOfSkips_step (b : Backend σ) (st : Step) :
    WarnsOfSkips (step (some (.ofBackend b)) st) := by
  cases st with
  | plain sql => exact .done _
  | drop table name =>
    refine (warnsOfSkips_lookUp b name).bind fun found => ?_
    cases found with
    | true => exact .done _
    | false => exact warnsOfSkips_skip rfl
  | add table c =>
    refine (warnsOfSkips_lookUp b c.name).bind fun found => ?_
    cases found with
    | true => exact warnsOfSkips_skip rfl
    | false => exact .done _

theorem warnsOfSkips_concat {f : α → Draft σ (List String)} (h : ∀ x, WarnsOfSkips (f x))
    (xs : List α) : WarnsOfSkips (concat f xs) := by
  induction xs with
  | nil => exact .done _
  | cons x xs ih => exact (h x).bind fun _ => ih.bind fun _ => .done _

/-- Planning warns once of each change that it leaves out, up to where it ends. -/
theorem warnsOfSkips_commands (b : Backend σ) (cs : List Command) :
    WarnsOfSkips (commands (some (.ofBackend b)) cs) := by
  rw [commands_eq_concat]
  exact warnsOfSkips_concat (warnsOfSkips_step b) _

end Draft

/-- The changes that a plan leaves out are those that drafting left out. -/
theorem skipped_of_plan {i : Option (Introspector σ)} {cs : List Command} {s s' : σ} {p : Plan}
    {l : List LogRecord} (h : plan i cs s = ⟨.ok p, s', l⟩) :
    p.skipped = (Draft.commands i cs ⟨s, []⟩).state.skipped := by
  have hr := congrArg Outcome.result h
  simp only [plan] at hr
  cases hd : (Draft.commands i cs ⟨s, []⟩).result with
  | error e => rw [hd] at hr; cases hr
  | ok statements => rw [hd] at hr; cases hr; rfl

/-- Planning sends no statement. -/
theorem sentIn_plan {b : Backend σ} {cs : List Command} {t t' : Traced σ} {r : Except _ Plan}
    {l : List LogRecord} (h : plan (some (.ofBackend b.traced)) cs t = ⟨r, t', l⟩) :
    sentIn t'.calls = sentIn t.calls := by
  have hplan := plan_traced b cs t
  rw [h] at hplan
  rcases hplan with ⟨settled, -, -, hc⟩ | ⟨settled, _, _, _, e, -, -, -, hc⟩
  · rw [hc, sentIn_append, sentIn_lookUpsOf, List.append_nil]
  · rw [hc, ← List.append_assoc, sentIn_append, sentIn_append, sentIn_lookUpsOf, sentIn_lookUpCall,
      List.append_nil, List.append_nil]

/-! ## Execution -/

section

variable {send : Sender σ} {version sql : String} {total index : Nat} {s s' : σ}
  {l : List LogRecord}

/-- A statement that is accepted is announced; what the sender writes comes after that. -/
theorem sendStatement_of_ok {n : Nat} (h : send sql s = ⟨.ok (.ok n), s', l⟩) :
    sendStatement send version total index sql s =
      ⟨.ok (), s', announcement version sql :: l⟩ := by
  rw [sendStatement, bind_of_ok (note_apply _ _ s), bind_of_ok h]
  show Outcome.mk _ _ (announcement version sql :: (l ++ [])) = _
  rw [List.append_nil]
  rfl

/-- A statement that is refused is announced as well, and its failure is noted at the end. -/
theorem sendStatement_of_error {e : BackendError} (h : send sql s = ⟨.ok (.error e), s', l⟩) :
    let f : StatementFailure := ⟨version, index, total, sql, cleanMessage e.text⟩
    sendStatement send version total index sql s =
      ⟨.error (.execution f), s', announcement version sql :: l ++ [f.note]⟩ := by
  rw [sendStatement, bind_of_ok (note_apply _ _ s), bind_of_ok h]
  rfl

end

/-- Answers as the backend does, and leaves marks in the log when a statement is executed. -/
def Backend.marking (b : Backend σ) (mark : String → List LogRecord) : Sender σ :=
  fun sql s => ⟨(b.answer sql s).result, (b.answer sql s).state, mark sql⟩

/-- The backend itself leaves no marks. -/
theorem Backend.answer_eq_marking (b : Backend σ) : b.answer = b.marking fun _ => [] := rfl

/-- One statement is announced, then executed, and its failure is noted. -/
theorem sendStatement_marking (b : Backend σ) (mark : String → List LogRecord) (version : String)
    (total index : Nat) (sql : String) (t : Traced σ) :
    let executed := executeStatement b.traced version total index sql t
    let marked := sendStatement (b.traced.marking mark) version total index sql t
    marked.result = executed.result ∧ marked.state = executed.state ∧
    sentIn executed.state.calls = sentIn t.calls ++ [sql] ∧
    marked.log = announcement version sql :: mark sql ++ failureNotes executed.result := by
  intro executed marked
  have hsent : sentIn (b.traced.answer sql t).state.calls = sentIn t.calls ++ [sql] :=
    sentIn_append _ [.statement sql [] (failureIn (b.execute sql [] t.base).1)]
  have hreply : ∀ mark, b.traced.marking mark sql t =
      ⟨.ok (b.execute sql [] t.base).1, (b.traced.answer sql t).state, mark sql⟩ := fun _ => rfl
  cases hr : (b.execute sql [] t.base).1 with
  | ok n =>
    rw [hr] at hreply
    rw [show executed = _ from sendStatement_of_ok (hreply fun _ => []),
      show marked = _ from sendStatement_of_ok (hreply mark)]
    exact ⟨rfl, rfl, hsent, (List.append_nil _).symm⟩
  | error e =>
    rw [hr] at hreply
    rw [show executed = _ from sendStatement_of_error (hreply fun _ => []),
      show marked = _ from sendStatement_of_error (hreply mark)]
    exact ⟨rfl, rfl, hsent, rfl⟩

/-- What execution writes: for each statement that is sent its announcement, right before it is
executed, and at the end a note if a statement failed. -/
theorem sendFrom_marking (b : Backend σ) (mark : String → List LogRecord) (version : String)
    (total : Nat) (statements : List String) : ∀ (index : Nat) (t : Traced σ),
    let executed := executeFrom b.traced version total index statements t
    let marked := sendFrom (b.traced.marking mark) version total index statements t
    marked.result = executed.result ∧ marked.state = executed.state ∧
    ∃ sent, sentIn executed.state.calls = sentIn t.calls ++ sent ∧
      marked.log = (sent.flatMap fun sql => announcement version sql :: mark sql) ++
        failureNotes executed.result := by
  induction statements with
  | nil =>
    intro index t executed marked
    exact ⟨rfl, rfl, [], (List.append_nil _).symm, rfl⟩
  | cons sql rest ih =>
    intro index t executed marked
    obtain ⟨hr, hs, hsent, hl⟩ := sendStatement_marking b mark version total index sql t
    simp only [executed, marked, executeFrom_cons, sendFrom]
    cases hone : (executeStatement b.traced version total index sql t).result with
    | error e =>
      -- nothing is sent after the statement that failed
      rw [hone] at hr hl
      rw [bind_error hone, bind_error hr]
      refine ⟨rfl, hs, [sql], hsent, ?_⟩
      simp only
      rw [hl]
      simp [failureNotes]
    | ok _ =>
      rw [hone] at hr hl
      rw [bind_ok hone, bind_ok hr, hs]
      obtain ⟨ihr, ihs, sent, ihsent, ihl⟩ :=
        ih (index + 1) (executeStatement b.traced version total index sql t).state
      refine ⟨ihr, ihs, sql :: sent, ?_, ?_⟩
      · simp only
        rw [ihsent, hsent, List.append_assoc]
        rfl
      · simp only
        rw [ihl, hl]
        simp [failureNotes]

/-- What the execution of a plan writes, after calls that send no statements. -/
theorem executeStatements_log {b : Backend σ} {version : String} {statements : List String}
    {t t' : Traced σ} {r : Except MigrationError Unit} {l : List LogRecord}
    (h : executeStatements b.traced version statements t = ⟨r, t', l⟩)
    (hnone : sentIn t.calls = []) :
    l = (sentIn t'.calls).map (announcement version) ++ failureNotes r := by
  obtain ⟨-, -, sent, hsent, hl⟩ :=
    sendFrom_marking b (fun _ => []) version statements.length statements 1 t
  have hexecuted : executeFrom b.traced version statements.length 1 statements t = ⟨r, t', l⟩ := h
  have hmarked : sendFrom (b.traced.marking fun _ => []) version statements.length 1 statements t =
      ⟨r, t', l⟩ := by
    rw [← Backend.answer_eq_marking]
    exact h
  rw [hexecuted] at hsent hl
  rw [hmarked] at hl
  rw [hsent, hnone, List.nil_append, List.map_eq_flatMap]
  exact hl

/-! ## Recording -/

/-- Recording a version in a table with a plain name is noted when it succeeds, and sends no
statement of the migration. -/
theorem recordVersion_log {b : Backend σ} {table version : String} {now : Int} {t t' : Traced σ}
    {r : Except MigrationError Unit} {l : List LogRecord}
    (h : recordVersion b.traced table ⟨version, now⟩ t = ⟨r, t', l⟩)
    (ht : Sql.isPlainIdentifier table = true) :
    sentIn t'.calls = sentIn t.calls ∧ l = recordedNotes table version r := by
  constructor
  · have hrecorded := recordVersion_traced b version now t ht
    rw [h] at hrecorded
    rcases hrecorded with ⟨-, hc⟩ | ⟨e, -, hc⟩
    · rw [hc, sentIn_append, sentIn_recordCall, List.append_nil]
    · rw [hc, sentIn_append, sentIn_recordCall, List.append_nil]
  · rw [recordVersion, checkTable_ok ht, bind_of_ok (ofExcept_apply _ t)] at h
    cases hr : (execute b.traced (insertVersion table) [.text version, .bigInt now] t).result with
    | error e =>
      rw [bind_error hr] at h
      cases h
      rfl
    | ok n =>
      rw [bind_ok hr] at h
      cases h
      rfl

/-! ## Runs -/

section

variable (b : Backend σ) {table : String} (now : Int) {version : String} (cs : List Command)
  (t : Traced σ)

/-- The log of a run with a version that is accepted: what planning writes, what execution writes of
the statements that are sent, and the records of success. -/
theorem runCommands_log_eq (ht : Sql.isPlainIdentifier table = true)
    (hv : Version.check version = .ok ()) (hnone : sentIn t.calls = []) :
    let run := runCommands b.traced table now version cs t
    run.log = (Draft.commands (some (.ofBackend b.traced)) cs ⟨t, []⟩).log ++
      ((sentIn run.state.calls).map (announcement version) ++ failureNotes run.result) ++
      closingNotes table run.result := by
  intro run
  -- each phase writes its part of the log, and only execution sends statements
  have hdrafted : (Draft.commands (some (.ofBackend b.traced)) cs ⟨t, []⟩).log =
      (plan (some (.ofBackend b.traced)) cs t).log := rfl
  have hphases := runCommands_phases b.traced table now version cs t
  rw [hdrafted]
  simp only [run]
  generalize runCommands b.traced table now version cs t = run' at hphases ⊢
  cases hphases with
  | badVersion hbad => rw [hv] at hbad; cases hbad
  | @planFailed e _ _ _ hp =>
    obtain ⟨failure, rfl⟩ := plan_failsOnly _ _ t e (by rw [hp])
    rw [hp, sentIn_plan hp, hnone]
    simp [failureNotes, closingNotes]
  | statementFailed _ hp he =>
    obtain ⟨f, rfl⟩ := executeStatements_failsOnly b.traced version _ _ _ (by rw [he])
    rw [hp, executeStatements_log he ((sentIn_plan hp).trans hnone)]
    simp [failureNotes, closingNotes]
  | recordFailed _ hp he hr =>
    obtain ⟨failure, rfl⟩ := recordVersion_isBackend ht (by rw [hr])
    obtain ⟨hsent, rfl⟩ := recordVersion_log hr ht
    rw [hp, executeStatements_log he ((sentIn_plan hp).trans hnone), hsent]
    simp [failureNotes, recordedNotes, closingNotes]
  | applied _ hp he hr =>
    obtain ⟨hsent, rfl⟩ := recordVersion_log hr ht
    rw [hp, executeStatements_log he ((sentIn_plan hp).trans hnone), hsent]
    simp [failureNotes, recordedNotes, closingNotes]

/-- A run ends in the failure of a statement exactly when the backend refused a statement of the
migration. -/
theorem Course.refused_iff {cs : List Command} {calls : List Call} {now : Int}
    {result : Except MigrationError Report}
    (h : Course table now version (.ok cs) calls result) :
    (∃ sql e, .statement sql [] (some e) ∈ calls) ↔ ∃ f, result = .error (.execution f) := by
  have hlookUps : ∀ settled sql e, Call.statement sql [] (some e) ∉ lookUpsOf settled :=
    fun settled sql e hmem => nomatch isStatement_of_mem_lookUpsOf hmem
  cases h with
  | badVersion hv => simp [Version.eq_of_check_error hv]
  | statementFailed hv hs hp =>
    refine iff_of_true ⟨_, _, List.mem_append_right _ List.mem_cons_self⟩ ⟨_, rfl⟩
  | _ => simp [hlookUps, Call.accepted, lookUpCall, recordCall]

/-- When a run ends in the failure of a statement, that statement is the last call, and the failure
tells its place in the plan and what the backend answered. -/
theorem exists_lastCall_of_execution (ht : Sql.isPlainIdentifier table = true)
    (hnone : sentIn t.calls = []) {f : StatementFailure} :
    let run := runCommands b.traced table now version cs t
    run.result = .error (.execution f) →
    ∃ p before e, (plan (some (.ofBackend b.traced)) cs t).result = .ok p ∧
      run.state.calls = before ++ [.statement f.statement [] (some e)] ∧
      f.message = cleanMessage e.text ∧ f.version = version ∧ f.total = p.statements.length ∧
      f.index = (sentIn run.state.calls).length ∧
      sentIn run.state.calls = p.statements.take f.index := by
  intro run hrun
  have hphases := runCommands_phases b.traced table now version cs t
  simp only [run] at hrun ⊢
  generalize runCommands b.traced table now version cs t = run' at hphases hrun ⊢
  cases hphases with
  | badVersion hv => cases hrun.symm.trans (congrArg Except.error (Version.eq_of_check_error hv))
  | planFailed _ hp =>
    obtain ⟨failure, rfl⟩ := plan_failsOnly _ _ t _ (by rw [hp])
    cases hrun
  | recordFailed _ _ _ hr =>
    obtain ⟨failure, rfl⟩ := recordVersion_isBackend ht (by rw [hr])
    cases hrun
  | applied => cases hrun
  | @statementFailed e p s₁ _ _ _ _ hp he =>
    -- this is the one phase that fails so, and it ends with the call that failed
    have hexec := executeFrom_traced b version p.statements.length p.statements 1 s₁
    rw [show executeFrom b.traced version _ 1 p.statements s₁ = _ from he] at hexec
    rcases hexec with ⟨hr, -⟩ | ⟨done, sql, rest, failure, hsplit, hr, hc⟩
    · cases hr
    · cases hr
      cases hrun
      have hsent : sentIn (s₁.calls ++ (done.map .accepted ++ [.statement sql [] (some failure)])) =
          done ++ [sql] := by
        simp [sentIn_plan hp, hnone]
      refine ⟨p, s₁.calls ++ done.map .accepted, failure, by rw [hp], ?_, rfl, rfl, rfl, ?_, ?_⟩
      · rw [hc, List.append_assoc]
      · rw [hc, hsent, List.length_append, Nat.add_comm]
        rfl
      · rw [hc, hsent, hsplit, Nat.add_comm 1, List.take_length_add_append]
        rfl

/-- After planning, the statements that a run sends are those that execution sends, and the run ends
in the failure of a statement when execution does. -/
theorem runCommands_of_plan (ht : Sql.isPlainIdentifier table = true)
    (hv : Version.check version = .ok ()) {p : Plan} {t₁ : Traced σ} {l : List LogRecord}
    (hplan : plan (some (.ofBackend b.traced)) cs t = ⟨.ok p, t₁, l⟩) :
    let run := runCommands b.traced table now version cs t
    let executed := executeStatements b.traced version p.statements t₁
    sentIn run.state.calls = sentIn executed.state.calls ∧
    failureNotes run.result = failureNotes executed.result := by
  intro run executed
  have hphases := runCommands_phases b.traced table now version cs t
  simp only [run, executed]
  generalize runCommands b.traced table now version cs t = run' at hphases ⊢
  cases hphases with
  | badVersion hbad => rw [hv] at hbad; cases hbad
  | planFailed _ hp => rw [hplan] at hp; cases hp
  | statementFailed _ hp he =>
    cases hplan.symm.trans hp
    obtain ⟨f, rfl⟩ := executeStatements_failsOnly b.traced version _ _ _ (by rw [he])
    rw [he]
    exact ⟨rfl, rfl⟩
  | recordFailed _ hp he hr =>
    cases hplan.symm.trans hp
    obtain ⟨failure, rfl⟩ := recordVersion_isBackend ht (by rw [hr])
    rw [he]
    exact ⟨(recordVersion_log hr ht).1, rfl⟩
  | applied _ hp he hr =>
    cases hplan.symm.trans hp
    rw [he]
    exact ⟨(recordVersion_log hr ht).1, rfl⟩

end

/-- **What the log tells.** Against any backend, with a version table of a plain name, a refused
version leaves no log. Otherwise the log is what planning wrote, the announcements of the statements
that were sent, the note of the failure if a statement failed, and the records of success. Each
announcement is written right before its statement is executed. Planning warns once of each change
that was left out, in order, also when a look-up failed later; its other records are details. The
note of a failure gives what the error gives: the statement that was the last call, its place in the
plan, and the cleaned message of the backend. -/
theorem runCommands_log (b : Backend σ) {table : String} (ht : Sql.isPlainIdentifier table = true)
    (now : Int) (version : String) (cs : List Command) (s : σ) :
    let run := runCommands b.traced table now version cs ⟨s, []⟩
    let drafted := Draft.commands (some (.ofBackend b.traced)) cs ⟨⟨s, []⟩, []⟩
    let sent := sentIn run.state.calls
    ((runCommands b table now version cs s).result = run.result ∧
      (runCommands b table now version cs s).log = run.log) ∧
    (Version.check version ≠ .ok () → run.log = [] ∧ run.state.calls = []) ∧
    (Version.check version = .ok () →
      run.log = drafted.log ++ (sent.map (announcement version) ++ failureNotes run.result) ++
        closingNotes table run.result ∧
      ∀ p t₁ l, plan (some (.ofBackend b.traced)) cs ⟨s, []⟩ = ⟨.ok p, t₁, l⟩ →
        p.skipped = drafted.state.skipped ∧
        ∀ mark,
          (sendFrom (b.traced.marking mark) version p.statements.length 1 p.statements t₁).log =
            (sent.flatMap fun sql => announcement version sql :: mark sql) ++
              failureNotes run.result) ∧
    (drafted.log.filter (fun r => r.level = .warn) = drafted.state.skipped.map Skip.warning ∧
      ∀ r ∈ drafted.log, r.level = .warn ∨ r.level = .debug) ∧
    ((∃ sql e, .statement sql [] (some e) ∈ run.state.calls) ↔
      ∃ f, run.result = .error (.execution f)) ∧
    ∀ f, run.result = .error (.execution f) →
      ∃ p before e, (plan (some (.ofBackend b.traced)) cs ⟨s, []⟩).result = .ok p ∧
        run.state.calls = before ++ [.statement f.statement [] (some e)] ∧
        f.message = cleanMessage e.text ∧ f.version = version ∧ f.total = p.statements.length ∧
        f.index = sent.length ∧ sent = p.statements.take f.index := by
  intro run drafted sent
  have hplain := Traced.extends_runCommands b table now version cs ⟨s, []⟩
  refine ⟨⟨by rw [hplain], by rw [hplain]⟩, fun hv => ?_, fun hv => ⟨?_, ?_⟩, ?_, ?_, fun f => ?_⟩
  · simp only [run, runCommands]
    cases hcheck : Version.check version with
    | error e =>
      rw [bind_of_error (ofExcept_apply _ _)]
      exact ⟨rfl, rfl⟩
    | ok _ => exact absurd hcheck hv
  · exact runCommands_log_eq b now cs ⟨s, []⟩ ht hv rfl
  · intro p t₁ l hp
    obtain ⟨hsent, hnotes⟩ := runCommands_of_plan b now cs ⟨s, []⟩ ht hv hp
    refine ⟨skipped_of_plan hp, fun mark => ?_⟩
    obtain ⟨-, -, sent', hsent', hl⟩ :=
      sendFrom_marking b mark version p.statements.length p.statements 1 t₁
    have hall : sent = sent' := by
      rw [sentIn_plan hp] at hsent'
      exact hsent.trans hsent'
    rw [hall, hl]
    exact congrArg _ hnotes.symm
  · obtain ⟨left, hs, hl, hr⟩ := Draft.warnsOfSkips_commands b.traced cs ⟨⟨s, []⟩, []⟩
    rw [show drafted.state.skipped = left from hs]
    exact ⟨hl, hr⟩
  · obtain ⟨calls, hcalls, hcourse⟩ := runCommands_course b table now version cs ⟨s, []⟩
    rw [show run.state.calls = calls from hcalls]
    exact hcourse.refused_iff
  · exact exists_lastCall_of_execution b now cs ⟨s, []⟩ ht rfl

set_option maxRecDepth 2000 in
/-- A run leaves out a drop, executes one statement and fails at the second one. Its log names all
three, and marks left by the execution stand after the announcements. -/
theorem failedSecondStatement_log :
    let c : Catalog := { failingStatement := some ("DROP TABLE", "ERROR: t is locked ") }
    let cs : List Command :=
      [.alterTable ⟨"t", [], ["old"], [], [], ["fk"]⟩, .dropTable "t", .dropTable "u"]
    let run := runCommands Catalog.backend.traced "versions" 0 "20240101000000" cs ⟨c, []⟩
    let ready := (plan (some (.ofBackend Catalog.backend.traced)) cs ⟨c, []⟩).state
    let mark : String → List LogRecord := fun sql => [⟨.debug, "executing " ++ sql⟩]
    let statements := ["ALTER TABLE t DROP COLUMN old", "DROP TABLE t", "DROP TABLE u"]
    let failure : StatementFailure := ⟨"20240101000000", 2, 3, "DROP TABLE t", "t is locked"⟩
    Sql.isPlainIdentifier "versions" = true ∧
    run.result = .error (.execution failure) ∧
    (∃ before e, run.state.calls = before ++ [.statement "DROP TABLE t" [] (some e)] ∧
      cleanMessage e.text = "t is locked") ∧
    run.log = [⟨.debug, "constraint fk exists: false"⟩,
      ⟨.warn, "skipping drop of constraint fk on t: not present"⟩,
      ⟨.info, "[20240101000000] ALTER TABLE t DROP COLUMN old"⟩,
      ⟨.info, "[20240101000000] DROP TABLE t"⟩,
      ⟨.error, "[20240101000000] statement 2 of 3 failed: t is locked"⟩] ∧
    (sendFrom (Catalog.backend.traced.marking mark) "20240101000000" 3 1 statements ready).log =
      [⟨.info, "[20240101000000] ALTER TABLE t DROP COLUMN old"⟩,
        ⟨.debug, "executing ALTER TABLE t DROP COLUMN old"⟩,
        ⟨.info, "[20240101000000] DROP TABLE t"⟩,
        ⟨.debug, "executing DROP TABLE t"⟩,
        ⟨.error, "[20240101000000] statement 2 of 3 failed: t is locked"⟩] := by
  intro c cs run ready mark statements failure
  have hplain : Sql.isPlainIdentifier "versions" = true := by decide +kernel
  obtain ⟨-, -, hlog, -, -, hfailure⟩ :=
    runCommands_log Catalog.backend hplain 0 "20240101000000" cs c
  have hresult : run.result = .error (.execution failure) := by rfl
  have hplan : plan (some (.ofBackend Catalog.backend.traced)) cs ⟨c, []⟩ =
      ⟨.ok ⟨statements, [⟨"t", "fk", .notPresent, none⟩]⟩, ready,
        [⟨.debug, "constraint fk exists: false"⟩,
          ⟨.warn, "skipping drop of constraint fk on t: not present"⟩]⟩ := by rfl
  have hsent : sentIn run.state.calls = ["ALTER TABLE t DROP COLUMN old", "DROP TABLE t"] := by
    decide +kernel +zetaReduce
  obtain ⟨hall, hmarks⟩ := hlog rfl
  obtain ⟨_, before, e, -, hcalls, hmessage, -⟩ := hfailure failure hresult
  refine ⟨hplain, hresult, ⟨before, e, hcalls, hmessage.symm⟩, ?_, ?_⟩
  · rw [hall, hsent, hresult]
    decide +kernel +zetaReduce
  · refine ((hmarks _ _ _ hplan).2 mark).trans ?_
    rw [hsent, hresult]
    decide +kernel +zetaReduce

end SchemaMigration
