import SchemaMigration.Proofs.UpCalls
import SchemaMigration.Toml.Equality

/-!
# Dry runs

A dry run reads the version of a schema, or takes it for zero when the database or the version table
is missing. Both agree with the version after preparing, since preparing makes what is missing and
leaves the rows as they are:

> `standing_catalog`: where a dry run finds the schema.
> `opening_catalog`: where a run finds it.

The plan of a migration depends on the foreign keys alone. With nobody to ask there are none, and
there are none in a database that is missing:

> `plan_catalog`: the plan that a dry run shows.
> `dryRun_previews`: a dry run shows what a run applies, and of the first migration exactly what is
> done.
-/

namespace SchemaMigration

open Session Files

namespace Catalog

/-- Nothing is set to fail, and what is missing holds nothing. -/
structure IsSound (settings : Settings) (c : Catalog) : Prop where
  failingStatement : c.failingStatement = none
  failingQueries : c.failingQueries = none
  withoutTable : settings.versionTable ∉ c.tables → c.versions = []
  withoutDatabase : settings.descriptor.database ∉ c.databases →
    c.constraints = [] ∧ c.versions = []

/-- Nothing is set to fail, and the database is there. -/
structure IsReady (settings : Settings) (c : Catalog) : Prop where
  failingStatement : c.failingStatement = none
  failingQueries : c.failingQueries = none
  database : settings.descriptor.database ∈ c.databases

variable {settings : Settings} {c : Catalog}

/-! ## Plans -/

/-- With nobody to ask, commands are planned as on a catalog without foreign keys. -/
theorem planBlind_catalog {commands : Json.Value} {cs : List Command}
    (hr : Command.readAll commands = .ok cs) (hkeys : c.constraints = []) :
    (Operation.planBlind commands c).result = .ok (c.planned cs) ∧
    (Operation.planBlind commands c).state = c := by
  -- where there are no keys, a catalog that is asked says no as well
  have hanswers : Draft.AnswersBy none c fun name => decide (name ∈ c.constraints) := by
    intro name
    refine ⟨?_, rfl⟩
    rw [hkeys]
    rfl
  have hplan := plan_of_answers hanswers cs
  unfold Operation.planBlind
  rw [hr, bind_of_ok (ofExcept_apply _ _)]
  exact hplan

/-- The plan that is shown depends on the foreign keys alone, whether they are asked for or not. -/
theorem plan_catalog {commands : Json.Value} {cs : List Command} (h : settings.IsPlain)
    (hsound : c.IsSound settings) (hr : Command.readAll commands = .ok cs) :
    let asked := decide (settings.descriptor.database ∈ c.databases)
    let shown := (if asked then (migrator Server.acceptFor settings).plan commands
      else Operation.planBlind commands) c
    shown.result = .ok (c.planned cs) ∧ shown.state = c := by
  intro asked shown
  by_cases hmem : settings.descriptor.database ∈ c.databases
  · have hasked : shown = (migrator Server.acceptFor settings).plan commands c := by
      simp only [shown, asked, decide_eq_true hmem, if_true]
    have hconnect := connect_catalog (c := c) h
    rw [if_pos hmem] at hconnect
    rw [hasked, Migrator.plan, hr, bind_of_ok (ofExcept_apply _ _), bind_of_ok hconnect]
    exact plan_of_answers (answersBy_catalog hsound.failingQueries) cs
  · have hasked : shown = Operation.planBlind commands c := by
      simp only [shown, asked, decide_eq_false hmem, Bool.false_eq_true, if_false]
    rw [hasked]
    exact planBlind_catalog hr (hsound.withoutDatabase hmem).1

/-! ## Migrations -/

theorem mem_databases_after {name : String} (h : name ∈ c.databases) (sql : String) :
    name ∈ (c.after sql).databases := mem_databases_apply [] _ (effectOf sql) h

theorem IsReady.after (h : c.IsReady settings) (sql : String) :
    (c.after sql).IsReady settings where
  failingStatement := (sameRows_after c sql).failingStatement.trans h.failingStatement
  failingQueries := (sameRows_after c sql).failingQueries.trans h.failingQueries
  database := mem_databases_after h.database sql

/-- No statement takes a database away. -/
theorem IsReady.foldl_after (statements : List String) :
    ∀ {c : Catalog}, c.IsReady settings → (statements.foldl Catalog.after c).IsReady settings := by
  induction statements with
  | nil => exact fun h => h
  | cons sql rest ih => exact fun h => ih (h.after sql)

/-- Where the database is there, a migration is applied as it is planned, and the next one can
follow. -/
theorem migrate_catalog {version : String} {commands : Json.Value} {cs : List Command}
    (now : Int) (h : settings.IsPlain) (hready : c.IsReady settings)
    (hv : Version.check version = .ok ()) (hr : Command.readAll commands = .ok cs) :
    let ran := (migrator Server.acceptFor settings).migrate now version commands c
    ran.result = .ok ⟨version, (c.planned cs).statements, (c.planned cs).skipped, now⟩ ∧
    ran.state.IsReady settings ∧
    ran.state.versions = c.versions ++ [⟨version, now⟩] := by
  intro ran
  obtain ⟨hresult, hstate⟩ := runCommands_catalog now cs hready.failingStatement
    hready.failingQueries h.versionTable hv
  have hconnect := connect_catalog (c := c) h
  rw [if_pos hready.database] at hconnect
  simp only [ran, Migrator.migrate, hv, hr]
  rw [bind_of_ok (ofExcept_apply _ _), bind_of_ok (ofExcept_apply _ _), bind_of_ok hconnect]
  refine ⟨hresult, ?_, ?_⟩
  · have hafter := hready.foldl_after (c.planned cs).statements
    exact hstate ▸ ⟨hafter.failingStatement, hafter.failingQueries, hafter.database⟩
  · refine (congrArg versions hstate).trans ?_
    show ((c.planned cs).statements.foldl Catalog.after c).versions ++ _ = _
    rw [(sameRows_foldl_after (c.planned cs).statements c).versions]

end Catalog

/-! ## What a dry run shows -/

namespace Operation

section

variable {σ : Type}

theorem print_apply (lines : List String) (w : Workspace σ) :
    (print lines : Operation σ Unit) w =
      ⟨.ok (), { w with printed := w.printed ++ lines }, []⟩ := rfl

/-- Going up on a dry run is showing what the directory gives. -/
theorem up_preview (m : Migrator σ) (now : Int) {dir : Path} {ms : List MigrationFile}
    (target : Option String) {w : Workspace σ} (h : discoverIn w.files dir = .ok ms) :
    up m now dir target true w = preview m ms target w := by
  rw [up, bind_of_ok (discover_apply h)]
  rfl

end

/-- The line about a change that is left out. -/
def leftOutLine (s : Skip) : String :=
  match s.reason with
  | .alreadyPresent => "     skip " ++ s.constraint ++ " already exists"
  | .notPresent => "     skip " ++ s.constraint ++ " does not exist"

/-- The lines about migrations with their plans, numbered from `position`: under its name, the
statements of each one, and then the changes that it leaves out. -/
def shownLinesFrom : (position : Nat) → List (MigrationFile × Plan) → List String
  | _, [] => []
  | position, (f, p) :: rest =>
    ("  " ++ toString position ++ ". " ++ f.version ++ "_" ++ f.name) ::
        p.statements.map (fun sql => "     " ++ sql) ++ p.skipped.map leftOutLine ++
      shownLinesFrom (position + 1) rest

/-- The lines about a migration that a run has applied, by its report. -/
def appliedLines (f : MigrationFile) (r : Report) : List String :=
  ("  ✓ " ++ f.version ++ "_" ++ f.name ++ " (" ++ toString r.statements.length ++
    " statement(s))") :: r.skipped.map leftOutLine

/-- The last line of a run, by the number of migrations that it has applied. -/
def closingLine : Nat → String
  | 0 => "✅ No migrations to apply"
  | count + 1 => "✅ Successfully applied " ++ toString (count + 1) ++ " migration(s)"

/-- The lines of a dry run. -/
def shownLines : List (MigrationFile × Plan) → List String
  | [] => ["No pending migrations to apply"]
  | shown :: rest =>
    ("Would apply " ++ toString (rest.length + 1) ++ " migration(s):") ::
      shownLinesFrom 1 (shown :: rest)

theorem skipLine_eq : skipLine = leftOutLine := by
  funext s
  unfold skipLine leftOutLine
  cases s.reason <;> rw [String.append_assoc]

/-- What is shown of one migration is its lines. -/
theorem shownLinesFrom_cons (position : Nat) (f : MigrationFile) (p : Plan)
    (rest : List (MigrationFile × Plan)) :
    shownLinesFrom position ((f, p) :: rest) =
      ("  " ++ toString position ++ ". " ++ f.label) :: planLines p ++
        shownLinesFrom (position + 1) rest := by
  unfold planLines MigrationFile.label
  rw [shownLinesFrom, skipLine_eq]
  simp only [String.append_assoc, List.cons_append, List.append_assoc]

theorem reportLines_eq : reportLines = appliedLines := by
  funext f r
  unfold reportLines appliedLines MigrationFile.label
  simp only [skipLine_eq, String.append_assoc]

theorem appliedLine_eq : appliedLine = closingLine := by
  funext count
  cases count <;> rfl

variable {settings : Settings}

/-- Where a dry run finds the schema: at the latest version of its rows. -/
theorem standing_catalog {w : Workspace Catalog} (h : settings.IsPlain)
    (hsound : w.server.IsSound settings) :
    (standing (Catalog.migrator Server.acceptFor settings) w).result =
      .ok ⟨Version.latest (recordedVersions w),
        decide (settings.descriptor.database ∈ w.server.databases)⟩ ∧
    (standing (Catalog.migrator Server.acceptFor settings) w).state = w := by
  obtain ⟨hversion, hstate⟩ := Catalog.version_catalog (c := w.server) h
  have hasked : (standing (Catalog.migrator Server.acceptFor settings) w).result =
      (standingOf ((Catalog.migrator Server.acceptFor settings).version w.server).result).mapError
        .migration := by
    rw [standing, onServer_result, bind_ok (attempt_result _ _)]
    rfl
  have hsame : (standing (Catalog.migrator Server.acceptFor settings) w).state = w := by
    rw [standing, onServer_state, bind_ok (attempt_result _ _), attempt_state, hstate]
    rfl
  refine ⟨?_, hsame⟩
  rw [hasked, hversion]
  by_cases hmem : settings.descriptor.database ∈ w.server.databases
  · -- a missing version table is the one error of a catalog that stands for version zero
    rw [if_pos hmem, decide_eq_true hmem,
      Catalog.currentVersion_catalog hsound.failingQueries h.versionTable]
    by_cases htable : settings.versionTable ∈ w.server.tables
    · rw [if_pos htable]
      rfl
    · rw [if_neg htable, recordedVersions, hsound.withoutTable htable]
      rfl
  · rw [if_neg hmem, decide_eq_false hmem, recordedVersions, (hsound.withoutDatabase hmem).2]
    rfl

/-- One migration is shown with its plan on the schema as it is. -/
theorem previewOne_catalog {w : Workspace Catalog} {f : MigrationFile} {cs : List Command}
    (h : settings.IsPlain) (hsound : w.server.IsSound settings)
    (hr : Command.readAll f.up = .ok cs) (position : Nat) :
    let asked := decide (settings.descriptor.database ∈ w.server.databases)
    let shown := previewOne (Catalog.migrator Server.acceptFor settings) asked position f w
    shown.result = .ok () ∧
    shown.state = { w with printed := w.printed ++
      ("  " ++ toString position ++ ". " ++ f.label) :: planLines (w.server.planned cs) } := by
  intro asked shown
  obtain ⟨hplan, hsame⟩ := Catalog.plan_catalog h hsound hr
  let titled : Workspace Catalog :=
    { w with printed := w.printed ++ ["  " ++ toString position ++ ". " ++ f.label] }
  have hserver : (onServer (.planning f.path)
      (if asked then (Catalog.migrator Server.acceptFor settings).plan f.up else planBlind f.up)
      titled).result = .ok (w.server.planned cs) := by
    rw [onServer_result, hplan]
    rfl
  simp only [shown, previewOne]
  rw [bind_of_ok (print_apply _ w), bind_ok hserver, onServer_state, hsame, print_apply]
  refine ⟨rfl, ?_⟩
  simp only [titled, List.append_assoc, List.singleton_append]

/-- Migrations are shown in order, each with its plan on the schema as it is. -/
theorem previewFrom_catalog {c : Catalog} (h : settings.IsPlain) (hsound : c.IsSound settings)
    {todo : List MigrationFile} (hread : ∀ f ∈ todo, ∃ cs, Command.readAll f.up = .ok cs) :
    ∀ (position : Nat) (w : Workspace Catalog), w.server = c →
    let asked := decide (settings.descriptor.database ∈ c.databases)
    let ran := previewFrom (Catalog.migrator Server.acceptFor settings) asked position todo w
    ∃ shown : List (MigrationFile × Plan), shown.map Prod.fst = todo ∧
      (∀ p ∈ shown, ∃ cs, Command.readAll p.1.up = .ok cs ∧ p.2 = c.planned cs) ∧
      ran.result = .ok () ∧
      ran.state = { w with printed := w.printed ++ shownLinesFrom position shown } := by
  -- showing one migration leaves the catalog, so the next one is planned on the same
  induction todo with
  | nil =>
    intro position w hw asked ran
    refine ⟨[], rfl, by simp, rfl, ?_⟩
    simp only [shownLinesFrom, List.append_nil]
    rfl
  | cons f rest ih =>
    rintro position w rfl asked ran
    obtain ⟨cs, hr⟩ := hread f List.mem_cons_self
    obtain ⟨hone, hafter⟩ := previewOne_catalog h hsound hr position
    obtain ⟨shown, hnames, hplans, hresult, hstate⟩ := ih
      (fun g hg => hread g (List.mem_cons_of_mem _ hg)) (position + 1)
      (previewOne (Catalog.migrator Server.acceptFor settings) asked position f w).state
      (by rw [hafter])
    refine ⟨(f, w.server.planned cs) :: shown, by rw [List.map_cons, hnames], ?_, ?_, ?_⟩
    · intro p hp
      rcases List.mem_cons.1 hp with rfl | hp
      · exact ⟨cs, hr, rfl⟩
      · exact hplans p hp
    · simp only [ran, previewFrom]
      rw [bind_ok hone]
      exact hresult
    · simp only [ran, previewFrom]
      rw [bind_ok hone]
      refine hstate.trans ?_
      rw [hafter]
      simp only [shownLinesFrom_cons, List.append_assoc, List.cons_append]

/-- What a dry run does with what is pending, once it knows where the schema stands. -/
def previewing (m : Migrator Catalog) (hasDatabase : Bool) : List MigrationFile →
    Operation Catalog Unit
  | [] => print ["No pending migrations to apply"]
  | f :: rest =>
    print ["Would apply " ++ toString (f :: rest).length ++ " migration(s):"] >>= fun _ =>
      previewFrom m hasDatabase 1 (f :: rest)

/-- That the database is missing is noted in the log, and makes no other difference. -/
theorem preview_of_standing {m : Migrator Catalog} (ms : List MigrationFile)
    (target : Option String) {w : Workspace Catalog} {here : Standing}
    (hr : (standing m w).result = .ok here) (hs : (standing m w).state = w) :
    let shown := previewing m here.hasDatabase (pending ms here.current target) w
    (preview m ms target w).result = shown.result ∧
    (preview m ms target w).state = shown.state := by
  intro shown
  rw [preview, bind_ok hr, hs]
  obtain ⟨current, hasDatabase⟩ := here
  cases hasDatabase with
  | true =>
    simp only [shown]
    cases pending ms current target with
    | nil => exact ⟨rfl, rfl⟩
    | cons f rest => exact ⟨rfl, rfl⟩
  | false =>
    simp only [shown]
    rw [bind_of_ok (note_apply _ _ w)]
    cases pending ms current target with
    | nil => exact ⟨rfl, rfl⟩
    | cons f rest => exact ⟨rfl, rfl⟩

/-- A dry run shows what is pending, and prints only. -/
theorem preview_catalog {w : Workspace Catalog} (h : settings.IsPlain)
    (hsound : w.server.IsSound settings) {ms : List MigrationFile}
    (hread : ∀ f ∈ ms, ∃ cs, Command.readAll f.up = .ok cs) (target : Option String) :
    let ran := preview (Catalog.migrator Server.acceptFor settings) ms target w
    ∃ shown : List (MigrationFile × Plan),
      shown.map Prod.fst = pending ms (Version.latest (recordedVersions w)) target ∧
      (∀ p ∈ shown, ∃ cs, Command.readAll p.1.up = .ok cs ∧ p.2 = w.server.planned cs) ∧
      ran.result = .ok () ∧
      ran.state = { w with printed := w.printed ++ shownLines shown } := by
  intro ran
  obtain ⟨hstanding, hsame⟩ := standing_catalog h hsound
  obtain ⟨hresult, hstate⟩ := preview_of_standing ms target hstanding hsame
  have htodo : ∀ f ∈ pending ms (Version.latest (recordedVersions w)) target,
      ∃ cs, Command.readAll f.up = .ok cs := fun f hf => hread f (List.mem_filter.1 hf).1
  simp only at hresult hstate
  simp only [ran]
  rw [hresult, hstate]
  cases hpending : pending ms (Version.latest (recordedVersions w)) target with
  | nil => exact ⟨[], rfl, by simp, rfl, rfl⟩
  | cons f rest =>
    rw [hpending] at htodo
    let title := "Would apply " ++ toString (f :: rest).length ++ " migration(s):"
    obtain ⟨shown, hnames, hplans, hran, hafter⟩ := previewFrom_catalog h hsound htodo 1
      { w with printed := w.printed ++ [title] } rfl
    refine ⟨shown, hnames, hplans, ?_⟩
    simp only [previewing]
    rw [bind_of_ok (print_apply _ w)]
    refine ⟨hran, hafter.trans ?_⟩
    cases shown with
    | nil => cases hnames
    | cons p others =>
      have hlength : others.length + 1 = (f :: rest).length := by
        rw [← hnames, List.length_map]
        rfl
      simp only [shownLines, hlength, title, List.append_assoc, List.singleton_append]

/-! ## What a run applies -/

/-- Migrations that were applied one after the other, each with its report. -/
inductive Applied (m : Migrator Catalog) (now : Int) :
    Catalog → List (MigrationFile × Report) → Catalog → Prop
  | none (c : Catalog) : Applied m now c [] c
  | one {c c' : Catalog} {f : MigrationFile} {r : Report} {rest : List (MigrationFile × Report)}
      (hr : (m.migrate now f.version f.up c).result = .ok r)
      (hrest : Applied m now (m.migrate now f.version f.up c).state rest c') :
      Applied m now c ((f, r) :: rest) c'

/-- Every migration that was applied has its version row, in order. -/
theorem Applied.versions {now : Int} {c c' : Catalog} {reports : List (MigrationFile × Report)}
    (ht : Sql.isPlainIdentifier settings.versionTable = true)
    (h : Applied (Catalog.migrator Server.acceptFor settings) now c reports c') :
    c'.versions = c.versions ++ reports.map fun p => ⟨p.1.version, now⟩ := by
  induction h with
  | none c => exact (List.append_nil _).symm
  | @one c c' f r rest hr _ ih =>
    have hmigrate :=
      Catalog.migrate_versions Server.acceptFor settings now f.version f.up c ht
    obtain ⟨-, hrow⟩ := hmigrate.resolve_right fun hfails => by
      obtain ⟨⟨e, he⟩, -⟩ := hfails
      cases hr.symm.trans he
    rw [ih, hrow, List.append_assoc]
    rfl

/-- The first migration was applied as it is planned before anything was applied. -/
theorem Applied.head_planned {now : Int} {c c' : Catalog} {f : MigrationFile} {r : Report}
    {rest : List (MigrationFile × Report)} {cs : List Command} (h : settings.IsPlain)
    (hready : c.IsReady settings) (hv : Version.check f.version = .ok ())
    (hread : Command.readAll f.up = .ok cs)
    (happlied : Applied (Catalog.migrator Server.acceptFor settings) now c ((f, r) :: rest) c') :
    ⟨r.statements, r.skipped⟩ = c.planned cs := by
  cases happlied with
  | one hr _ =>
    obtain ⟨hplanned, -, -⟩ := Catalog.migrate_catalog now h hready hv hread
    cases hr.symm.trans hplanned
    rfl

/-- A migration is applied as it is planned, and its report is printed. -/
theorem applyOne_catalog {w : Workspace Catalog} {f : MigrationFile} {cs : List Command}
    (now : Int) (h : settings.IsPlain) (hready : w.server.IsReady settings)
    (hv : Version.check f.version = .ok ()) (hr : Command.readAll f.up = .ok cs) :
    let m := Catalog.migrator Server.acceptFor settings
    let ran := applyOne m now f w
    let report : Report :=
      ⟨f.version, (w.server.planned cs).statements, (w.server.planned cs).skipped, now⟩
    (m.migrate now f.version f.up w.server).result = .ok report ∧ ran.result = .ok () ∧
    ran.state = { w with
      server := (m.migrate now f.version f.up w.server).state
      printed := w.printed ++ appliedLines f report } := by
  intro m ran report
  obtain ⟨hresult, -, -⟩ := Catalog.migrate_catalog now h hready hv hr
  have hserver : (onServer (.applying f.label) (m.migrate now f.version f.up) w).result =
      .ok report := by
    rw [onServer_result, hresult]
    rfl
  simp only [ran, applyOne]
  rw [bind_of_ok (note_apply _ _ w), bind_ok hserver, onServer_state, print_apply, reportLines_eq]
  exact ⟨hresult, rfl, rfl⟩

/-- Where the database is there, all migrations are applied. -/
theorem forEach_applyOne_catalog (now : Int) (h : settings.IsPlain) {todo : List MigrationFile}
    (hversions : ∀ f ∈ todo, Version.check f.version = .ok ())
    (hread : ∀ f ∈ todo, ∃ cs, Command.readAll f.up = .ok cs) :
    ∀ w : Workspace Catalog, w.server.IsReady settings →
    let m := Catalog.migrator Server.acceptFor settings
    let ran := forEach (applyOne m now) todo w
    ∃ reports : List (MigrationFile × Report), reports.map Prod.fst = todo ∧
      Applied m now w.server reports ran.state.server ∧
      ran.result = .ok () ∧
      ran.state.printed = w.printed ++ reports.flatMap fun p => appliedLines p.1 p.2 := by
  -- each migration leaves the database there, and the next one connects to it
  induction todo with
  | nil =>
    intro w _ m ran
    exact ⟨[], rfl, Applied.none w.server, rfl, (List.append_nil _).symm⟩
  | cons f rest ih =>
    intro w hready m ran
    have hv := hversions f List.mem_cons_self
    obtain ⟨cs, hr⟩ := hread f List.mem_cons_self
    obtain ⟨hmigrate, hone, hafter⟩ := applyOne_catalog now h hready hv hr
    obtain ⟨-, hready', -⟩ := Catalog.migrate_catalog now h hready hv hr
    obtain ⟨reports, hnames, happlied, hresult, hprinted⟩ := ih
      (fun g hg => hversions g (List.mem_cons_of_mem _ hg))
      (fun g hg => hread g (List.mem_cons_of_mem _ hg)) (applyOne m now f w).state
      (by rw [hafter]; exact hready')
    have hran : ran = (applyOne m now f >>= fun _ => forEach (applyOne m now) rest) w := rfl
    rw [hran, bind_ok hone]
    let report : Report :=
      ⟨f.version, (w.server.planned cs).statements, (w.server.planned cs).skipped, now⟩
    have hserver : (applyOne m now f w).state.server =
        (m.migrate now f.version f.up w.server).state := by rw [hafter]
    have hlines : (applyOne m now f w).state.printed = w.printed ++ appliedLines f report := by
      rw [hafter]
    rw [hserver] at happlied
    rw [hlines, List.append_assoc] at hprinted
    exact ⟨(f, report) :: reports, by rw [List.map_cons, hnames], .one hmigrate happlied, hresult,
      hprinted⟩

/-- Where a run finds the schema once it is prepared: at the latest version of its rows. -/
theorem opening_catalog {w : Workspace Catalog} (h : settings.IsPlain)
    (hsound : w.server.IsSound settings) :
    (opening Server.acceptFor settings w).result =
      .ok (Version.latest (recordedVersions w)) ∧
    (opening Server.acceptFor settings w).state =
      { w with server := w.server.prepared settings } := by
  obtain ⟨hinit, hprepared⟩ := Catalog.init_catalog h hsound.failingStatement hsound.failingQueries
  obtain ⟨hversion, hsame⟩ := Catalog.version_catalog (c := w.server.prepared settings) h
  -- once prepared, both are there, so the version is asked for and read from the rows
  have hdatabase : settings.descriptor.database ∈ (w.server.prepared settings).databases :=
    Catalog.mem_addName.2 (.inl rfl)
  have htable : settings.versionTable ∈ (w.server.prepared settings).tables :=
    Catalog.mem_addName.2 (.inl rfl)
  have hqueries : (w.server.prepared settings).failingQueries = none := hsound.failingQueries
  rw [if_pos hdatabase, Catalog.currentVersion_catalog hqueries h.versionTable,
    if_pos htable] at hversion
  have hserver : (onServer .migration (Catalog.migrator Server.acceptFor settings).init w).result =
      .ok () := by
    rw [onServer_result, hinit]
    rfl
  rw [opening, bind_ok hserver, onServer_state, hprepared, onServer_result, onServer_state,
    hversion, hsame]
  exact ⟨rfl, rfl⟩

/-- What a run applies is what is pending, one after the other. -/
theorem applyPending_catalog {w : Workspace Catalog} (now : Int) (h : settings.IsPlain)
    (hsound : w.server.IsSound settings) {ms : List MigrationFile}
    (hversions : ∀ f ∈ ms, Version.check f.version = .ok ())
    (hread : ∀ f ∈ ms, ∃ cs, Command.readAll f.up = .ok cs) (target : Option String) :
    let m := Catalog.migrator Server.acceptFor settings
    let ran := applyPending m now ms target w
    ∃ reports : List (MigrationFile × Report),
      reports.map Prod.fst = pending ms (Version.latest (recordedVersions w)) target ∧
      Applied m now (w.server.prepared settings) reports ran.state.server ∧
      ran.result = .ok () ∧
      ran.state.printed = w.printed ++ "Applying migrations..." ::
        (reports.flatMap fun p => appliedLines p.1 p.2) ++ [closingLine reports.length] := by
  intro m ran
  obtain ⟨hopened, hprepared⟩ := opening_catalog h hsound
  let todo := pending ms (Version.latest (recordedVersions w)) target
  have hmem : ∀ f ∈ todo, f ∈ ms := fun f hf => (List.mem_filter.1 hf).1
  have hready : (w.server.prepared settings).IsReady settings :=
    ⟨hsound.failingStatement, hsound.failingQueries, Catalog.mem_addName.2 (.inl rfl)⟩
  let titled : Workspace Catalog :=
    { w with
      server := w.server.prepared settings
      printed := w.printed ++ ["Applying migrations..."] }
  obtain ⟨reports, hnames, happlied, hresult, hprinted⟩ := forEach_applyOne_catalog now h
    (fun f hf => hversions f (hmem f hf)) (fun f hf => hread f (hmem f hf)) titled hready
  have hran : ran = (opening Server.acceptFor settings >>= fun current =>
      applying Server.acceptFor settings now (pending ms current target)) w :=
    congrFun (applyPending_eq Server.acceptFor settings now ms target) w
  have hlength : (pending ms (Version.latest (recordedVersions w)) target).length =
      reports.length := by
    show todo.length = _
    rw [← hnames, List.length_map]
  refine ⟨reports, hnames, ?_⟩
  rw [hran, bind_ok hopened, hprepared, applying, bind_of_ok (print_apply _ _), bind_ok hresult,
    print_apply, appliedLine_eq]
  refine ⟨happlied, rfl, ?_⟩
  simp only [hprinted, titled, hlength, List.append_assoc, List.nil_append,
    List.cons_append]

end Operation

open Operation

/-- A dry run and a run from the same workspace: what the dry run shows is what the run applies. -/
structure Foretells (m : Migrator Catalog) (now : Int) (w : Workspace Catalog)
    (dry real : Outcome (Workspace Catalog) Failure Unit)
    (shown : List (MigrationFile × Plan)) (reports : List (MigrationFile × Report)) : Prop where
  dry_ok : dry.result = .ok ()
  /-- Nothing but what is printed has changed. -/
  dry_state : dry.state = { w with printed := w.printed ++ shownLines shown }
  /-- The schema is asked if there is a database, and otherwise nobody is. -/
  shown_plan : ∀ p ∈ shown,
    ((if m.settings.descriptor.database ∈ w.server.databases then m.plan p.1.up
      else planBlind p.1.up) w.server).result = .ok p.2
  real_ok : real.result = .ok ()
  applied : Applied m now (m.init w.server).state reports real.state.server
  recorded : real.state.server.versions =
    w.server.versions ++ reports.map fun p => ⟨p.1.version, now⟩
  reported : real.state.printed = w.printed ++ "Applying migrations..." ::
    (reports.flatMap fun p => appliedLines p.1 p.2) ++ [closingLine reports.length]
  /-- The same migrations in the same order. -/
  same_files : shown.map Prod.fst = reports.map Prod.fst
  /-- What is shown for the first one is what was done. -/
  same_first : ∀ p r, shown.head? = some p → reports.head? = some r →
    p.2 = ⟨r.2.statements, r.2.skipped⟩

/-- A dry run from any sound state succeeds and prints only. What it lists is what is pending there,
and what a run from the same state applies, which succeeds as well; and what it shows for the first
migration is what that run reports of it. -/
theorem dryRun_previews {settings : Settings} {w : Workspace Catalog} {dir : Path}
    {ms : List MigrationFile} (now : Int) (target : Option String) (h : settings.IsPlain)
    (hsound : w.server.IsSound settings) (hfiles : discoverIn w.files dir = .ok ms)
    (hread : ∀ f ∈ ms, ∃ cs, Command.readAll f.up = .ok cs) :
    let m := Catalog.migrator Server.acceptFor settings
    ∃ shown reports,
      shown.map Prod.fst = pending ms (Version.latest (recordedVersions w)) target ∧
      Foretells m now w (up m now dir target true w) (up m now dir target false w) shown
        reports := by
  intro m
  have hversions : ∀ f ∈ ms, Version.check f.version = .ok () := by
    intro f hf
    obtain ⟨path, found, hload⟩ := exists_load_of_discoverIn hfiles f hf
    exact MigrationFile.check_version hload
  obtain ⟨shown, hshown, hplans, hdry, hprinted⟩ := preview_catalog h hsound hread target
  obtain ⟨reports, hnames, happlied, hreal, hreported⟩ :=
    applyPending_catalog now h hsound hversions hread target
  obtain ⟨-, hinit⟩ := Catalog.init_catalog h hsound.failingStatement hsound.failingQueries
  rw [up_preview m now target hfiles, up_apply m now target hfiles]
  refine ⟨shown, reports, hshown, ?_⟩
  constructor
  case dry_ok => exact hdry
  case dry_state => exact hprinted
  case shown_plan =>
    intro p hp
    obtain ⟨cs, hr, hplan⟩ := hplans p hp
    rw [hplan]
    have hshownPlan := (Catalog.plan_catalog h hsound hr).1
    simp only [decide_eq_true_eq] at hshownPlan
    exact hshownPlan
  case real_ok => exact hreal
  case applied =>
    rw [hinit]
    exact happlied
  case recorded =>
    have hrows := happlied.versions h.versionTable
    exact hrows
  case reported => exact hreported
  case same_files => rw [hshown, hnames]
  case same_first =>
    intro p r hp hr
    obtain ⟨others, rfl⟩ := List.head?_eq_some_iff.1 hp
    obtain ⟨later, rfl⟩ := List.head?_eq_some_iff.1 hr
    obtain ⟨f, plan⟩ := p
    obtain ⟨g, report⟩ := r
    obtain ⟨cs, hread', hplan⟩ := hplans _ List.mem_cons_self
    have hsame := hshown.trans hnames.symm
    obtain rfl : f = g := (List.cons.inj hsame).1
    have hf : f ∈ ms := by
      have hpending : f ∈ pending ms (Version.latest (recordedVersions w)) target := by
        rw [← hnames]
        exact List.mem_cons_self
      exact (List.mem_filter.1 hpending).1
    have hready : (w.server.prepared settings).IsReady settings :=
      ⟨hsound.failingStatement, hsound.failingQueries, Catalog.mem_addName.2 (.inl rfl)⟩
    -- preparing leaves the foreign keys, so the plan is the same before and after
    have hfirst := Applied.head_planned h hready (hversions f hf) hread' happlied
    exact hplan.trans hfirst.symm

/-- Two migrations: one that changes a table and two foreign keys, and one without commands. On a
server without the database the dry run has nobody to ask, and it foretells the run that makes the
database. On one that has it and one of the keys, the dry run asks. -/
theorem dryRun_foretellsFirstRun :
    let text := "[up]\nalter-table = \"t\"\ndrop-columns = [\"c\"]\n" ++
      "drop-constraints = [\"fk\"]\nadd-constraints = [[\"fk_a\", \"(a)\"]]\n"
    let on : Catalog → Workspace Catalog := fun c =>
      { server := c
        files := .directory [("m", .directory
          [("20240102000000_b.toml", .file ⟨#[]⟩),
            ("20240101000000_a.toml", .file text.toUTF8)])] }
    let ms : List MigrationFile :=
      [⟨⟨"m/20240101000000_a.toml"⟩, "20240101000000", "a", none,
          .object [("add-constraints", .array [.array [.string "fk_a", .string "(a)"]]),
            ("alter-table", .string "t"), ("drop-columns", .array [.string "c"]),
            ("drop-constraints", .array [.string "fk"])], .null⟩,
        ⟨⟨"m/20240102000000_b.toml"⟩, "20240102000000", "b", none, .null, .null⟩]
    let settings : Settings := {}
    let m := Catalog.migrator Server.acceptFor settings
    let bare : Catalog := {}
    let kept : Catalog := { databases := ["driftwood_dev"], constraints := ["fk_a"] }
    (settings.IsPlain ∧ (∀ f ∈ ms, ∃ cs, Command.readAll f.up = .ok cs) ∧
      ∀ c, c = bare ∨ c = kept → c.IsSound settings ∧ discoverIn (on c).files ⟨"m"⟩ = .ok ms) ∧
    (∀ c, c = bare ∨ c = kept → ∃ shown reports,
      shown.map Prod.fst = pending ms (Version.latest (recordedVersions (on c))) none ∧
      Foretells m 5 (on c) (up m 5 ⟨"m"⟩ none true (on c)) (up m 5 ⟨"m"⟩ none false (on c)) shown
        reports) ∧
    (up m 5 ⟨"m"⟩ none true (on bare)).state.printed =
      ["Would apply 2 migration(s):",
        "  1. 20240101000000_a",
        "     ALTER TABLE t DROP COLUMN c",
        "     ALTER TABLE t ADD CONSTRAINT fk_a FOREIGN KEY (a)",
        "     skip fk does not exist",
        "  2. 20240102000000_b"] ∧
    (up m 5 ⟨"m"⟩ none false (on bare)).state.printed =
      ["Applying migrations...",
        "  ✓ 20240101000000_a (2 statement(s))",
        "     skip fk does not exist",
        "  ✓ 20240102000000_b (0 statement(s))",
        "✅ Successfully applied 2 migration(s)"] ∧
    (up m 5 ⟨"m"⟩ none true (on kept)).state.printed =
      ["Would apply 2 migration(s):",
        "  1. 20240101000000_a",
        "     ALTER TABLE t DROP COLUMN c",
        "     skip fk does not exist",
        "     skip fk_a already exists",
        "  2. 20240102000000_b"] ∧
    (up m 5 ⟨"m"⟩ none false (on kept)).state.printed =
      ["Applying migrations...",
        "  ✓ 20240101000000_a (1 statement(s))",
        "     skip fk does not exist",
        "     skip fk_a already exists",
        "  ✓ 20240102000000_b (0 statement(s))",
        "✅ Successfully applied 2 migration(s)"] := by
  intro text on ms settings m bare kept
  have hplain : settings.IsPlain :=
    ⟨by decide, Sql.isPlainDatabase_of_plain (by decide), by decide⟩
  have hsound : ∀ c, c = bare ∨ c = kept → c.IsSound settings := by
    rintro c (rfl | rfl)
    · exact ⟨rfl, rfl, fun _ => rfl, fun _ => ⟨rfl, rfl⟩⟩
    · exact ⟨rfl, rfl, fun _ => rfl, fun hmissing => absurd List.mem_cons_self hmissing⟩
  have hdocument : Toml.document text.toList =
      some [("up", .table [("add-constraints", .array [.array [.string "fk_a", .string "(a)"]]),
        ("alter-table", .string "t"), ("drop-columns", .array [.string "c"]),
        ("drop-constraints", .array [.string "fk"])])] := by decide +kernel +zetaReduce
  have hname : MigrationFile.nameOf ⟨"m/20240101000000_a.toml"⟩ =
      .ok ⟨"20240101000000", "a"⟩ := rfl
  have hfirst : MigrationFile.load ⟨"m/20240101000000_a.toml"⟩ (.ok (.file text.toUTF8)) =
      .ok ms[0] :=
    (MigrationFile.load_document hname hdocument).trans rfl
  have hsort : sortByVersion ms.reverse = ms := by
    simp [sortByVersion, ms, List.mergeSort]
  have hload : loadEntries ⟨"m"⟩ [("20240102000000_b.toml", .file ⟨#[]⟩),
      ("20240101000000_a.toml", .file text.toUTF8)] = .ok ms.reverse := by
    have hsecond : MigrationFile.load ⟨"m/20240102000000_b.toml"⟩ (.ok (.file ⟨#[]⟩)) =
        .ok ms[1] := rfl
    have hfilter : [("20240102000000_b.toml", Node.file ⟨#[]⟩),
        ("20240101000000_a.toml", .file text.toUTF8)].filter isMigrationEntry =
        [("20240102000000_b.toml", .file ⟨#[]⟩),
          ("20240101000000_a.toml", .file text.toUTF8)] := by
      have hb : Path.extension? "20240102000000_b.toml" = some "toml" := by decide
      have ha : Path.extension? "20240101000000_a.toml" = some "toml" := by decide
      simp only [List.filter_cons, isMigrationEntry, hb, ha]
      rfl
    have hjoin : Path.join ⟨"m"⟩ "20240102000000_b.toml" = ⟨"m/20240102000000_b.toml"⟩ := by decide
    have hjoin' : Path.join ⟨"m"⟩ "20240101000000_a.toml" = ⟨"m/20240101000000_a.toml"⟩ := by decide
    simp only [loadEntries, hfilter, Reading.each, hjoin, hjoin', hfirst, hsecond]
    rfl
  have hfiles : ∀ c, discoverIn (on c).files ⟨"m"⟩ = .ok ms := by
    intro c
    have hentries : (on c).files.entriesOf? ⟨"m"⟩ = some
        [("20240102000000_b.toml", .file ⟨#[]⟩),
          ("20240101000000_a.toml", .file text.toUTF8)] := rfl
    simp only [discoverIn, hentries, discover, hload, hsort]
    rfl
  have hread : ∀ f ∈ ms, ∃ cs, Command.readAll f.up = .ok cs := by
    intro f hf
    simp only [ms, List.mem_cons, List.not_mem_nil, or_false] at hf
    rcases hf with rfl | rfl
    · exact ⟨_, rfl⟩
    · exact ⟨[], rfl⟩
  refine ⟨⟨hplain, hread, fun c hc => ⟨hsound c hc, hfiles c⟩⟩, fun c hc => ?_, ?_, ?_, ?_, ?_⟩
  · exact dryRun_previews 5 none hplain (hsound c hc) (hfiles c) hread
  · rw [up_preview m 5 none (hfiles bare)]
    decide +kernel +zetaReduce
  · rw [up_apply m 5 none (hfiles bare)]
    decide +kernel +zetaReduce
  · rw [up_preview m 5 none (hfiles kept)]
    decide +kernel +zetaReduce
  · rw [up_apply m 5 none (hfiles kept)]
    decide +kernel +zetaReduce

end SchemaMigration
