import SchemaMigration.Operation.Up
import SchemaMigration.Proofs.CurrentVersion
import SchemaMigration.Proofs.MigrationOrder
import SchemaMigration.Proofs.Prepared
import SchemaMigration.Server.Catalog

/-!
# Going up again and again

Migrations are applied call after call, each call with its own target and its own failures. Every
migration adds its version row last or not at all, and a call starts after the greatest version that
is recorded. The recorded versions are therefore the first ones of the directory at any time:

> `init_catalog`, `version_catalog`: what a migrator finds on a server of one catalog.
> `applyPending_recorded`: what one call adds to what was recorded before.
> `upCalls_isPrefix`: after any calls, no version is left out, repeated or out of order.
-/

namespace SchemaMigration

open Session Files

/-- Settings for a database that is written as one word, and for a plain version table. -/
structure Settings.IsPlain (settings : Settings) : Prop where
  descriptor : settings.descriptor.check = .ok ()
  database : Sql.IsPlainDatabase settings.descriptor.database
  versionTable : Sql.isPlainIdentifier settings.versionTable = true

/-! ## Sessions with a catalog -/

namespace Catalog

/-- A run adds its version row when it succeeds, and no row otherwise. -/
theorem runCommands_versions {table : String} (now : Int) (version : String) (cs : List Command)
    (c : Catalog) (ht : Sql.isPlainIdentifier table = true) :
    let ran := runCommands backend table now version cs c
    ((∃ report, ran.result = .ok report) ∧ ran.state.versions = c.versions ++ [⟨version, now⟩]) ∨
    ((∃ e, ran.result = .error e) ∧ ran.state.versions = c.versions) := by
  intro ran
  -- whatever comes of the statements of the plan, there are the same rows after them
  have hrows : ∀ {p : Plan} {s₁ s₂ : Catalog} {r : Except MigrationError Unit}
      {l₁ l₂ : List LogRecord}, plan (some (.ofBackend backend)) cs c = ⟨.ok p, s₁, l₁⟩ →
      executeStatements backend version p.statements s₁ = ⟨r, s₂, l₂⟩ →
      s₂.versions = c.versions := by
    intro p s₁ s₂ r l₁ l₂ hp he
    have hplan := plan_state cs c
    have hsame := keepsUnbound_versions.executeStatements version p.statements s₁
    rw [hp] at hplan
    rw [he] at hsame
    exact hsame.trans (congrArg versions hplan)
  have hphases := runCommands_phases backend table now version cs c
  simp only [ran]
  generalize runCommands backend table now version cs c = o at hphases
  cases hphases with
  | badVersion hv => exact .inr ⟨⟨_, rfl⟩, rfl⟩
  | planFailed hv hp =>
    have hplan := plan_state cs c
    rw [hp] at hplan
    exact .inr ⟨⟨_, rfl⟩, congrArg versions hplan⟩
  | statementFailed hv hp he => exact .inr ⟨⟨_, rfl⟩, hrows hp he⟩
  | @recordFailed e p s₁ s₂ s₃ _ _ _ hv hp he hr =>
    have hrecord := recordVersion_catalog ⟨version, now⟩ s₂ ht
    rw [hr] at hrecord
    obtain ⟨-, hsame, -⟩ := hrecord.resolve_left fun h => by cases h.1
    exact .inr ⟨⟨_, rfl⟩, (congrArg versions hsame).trans (hrows hp he)⟩
  | @applied p s₁ s₂ s₃ _ _ _ hv hp he hr =>
    have hrecord := recordVersion_catalog ⟨version, now⟩ s₂ ht
    rw [hr] at hrecord
    obtain ⟨-, hadded⟩ := hrecord.resolve_right fun h => by obtain ⟨⟨_, h⟩, -⟩ := h; cases h
    refine .inl ⟨⟨_, rfl⟩, (congrArg versions hadded).trans ?_⟩
    show s₂.versions ++ _ = _
    rw [hrows hp he]

/-- A migrator for a catalog, on a server that accepts connections as it likes. -/
def migrator (accept : ConnectOptions → Catalog → Except ServerError Unit) (settings : Settings) :
    Migrator Catalog :=
  ⟨⟨accept, backend⟩, settings⟩

variable (accept : ConnectOptions → Catalog → Except ServerError Unit) (settings : Settings)

theorem keeps_versions_init : Keeps Catalog.versions (migrator accept settings).init := by
  have hconnect : Keeps Catalog.versions
      ((migrator accept settings).server.connect settings.descriptor false) :=
    fun c => by rw [Server.connect_state]
  exact hconnect.bind fun _ => keepsUnbound_versions.prepare settings

theorem keeps_versions_connect : Keeps Catalog.versions (migrator accept settings).connect :=
  fun c => congrArg versions (Server.connect_state _ _ _ c)

theorem keeps_versions_version : Keeps Catalog.versions (migrator accept settings).version :=
  (keeps_versions_connect accept settings).bind fun _ =>
    keepsUnbound_versions.currentVersion _

/-- A migration adds its version row when it succeeds, and no row otherwise. -/
theorem migrate_versions (now : Int) (version : String) (commands : Json.Value) (c : Catalog)
    (ht : Sql.isPlainIdentifier settings.versionTable = true) :
    let ran := (migrator accept settings).migrate now version commands c
    ((∃ report, ran.result = .ok report) ∧ ran.state.versions = c.versions ++ [⟨version, now⟩]) ∨
    ((∃ e, ran.result = .error e) ∧ ran.state.versions = c.versions) := by
  intro ran
  simp only [ran, Migrator.migrate]
  cases Version.check version with
  | error e =>
    rw [bind_of_error (ofExcept_apply _ _)]
    exact .inr ⟨⟨_, rfl⟩, rfl⟩
  | ok _ =>
    rw [bind_of_ok (ofExcept_apply _ _)]
    cases Command.readAll commands with
    | error e =>
      rw [bind_of_error (ofExcept_apply _ _)]
      exact .inr ⟨⟨_, rfl⟩, rfl⟩
    | ok cs =>
      rw [bind_of_ok (ofExcept_apply _ _)]
      have hconnect := Server.connect_state (migrator accept settings).server settings.descriptor
        true c
      rcases hc : (migrator accept settings).connect c with ⟨e | _, c', l⟩
      · rw [bind_of_error hc]
        obtain rfl : c' = c := by
          rw [← hconnect]
          exact (congrArg Outcome.state hc).symm
        exact .inr ⟨⟨_, rfl⟩, rfl⟩
      · rw [bind_of_ok hc]
        obtain rfl : c' = c := by
          rw [← hconnect]
          exact (congrArg Outcome.state hc).symm
        exact runCommands_versions now version cs c' ht

variable {accept settings}

/-- Preparing succeeds only with a plain version table. -/
theorem plain_of_init {c : Catalog} (h : ((migrator accept settings).init c).result = .ok ()) :
    Sql.isPlainIdentifier settings.versionTable = true := by
  rcases bind_cases ((migrator accept settings).server.connect settings.descriptor false)
      (fun _ => prepare backend settings) c with ⟨e, -, hr, -⟩ | ⟨-, -, hr, -⟩
  · cases h.symm.trans hr
  · cases ht : Sql.isPlainIdentifier settings.versionTable with
    | true => rfl
    | false =>
      have hprepare := h.symm.trans hr
      rw [prepare, checkTable_error ht, bind_of_error (ofExcept_apply _ _)] at hprepare
      cases hprepare

/-- The version of the schema is the latest one of the rows. -/
theorem version_ok {c : Catalog} {current : String}
    (h : ((migrator accept settings).version c).result = .ok current) :
    current = Version.latest (c.versions.map (·.version)) := by
  rcases bind_cases (migrator accept settings).connect
      (fun _ => currentVersion backend settings.versionTable) c with ⟨e, -, hr, -⟩ | ⟨-, -, hr, -⟩
  · cases h.symm.trans hr
  · rw [currentVersion_ok (hr.symm.trans h), keeps_versions_connect accept settings c]

/-! ## Sessions on a server of one catalog -/

theorem connect_catalog {c : Catalog} (h : settings.IsPlain) :
    (migrator Server.acceptFor settings).connect c =
      if settings.descriptor.database ∈ c.databases then ⟨.ok (), c, []⟩
      else ⟨.error (.connection (.server
        (Server.unknownDatabase settings.descriptor.database))), c, []⟩ := by
  show Server.connect ⟨Server.acceptFor, backend⟩ settings.descriptor true c = _
  simp only [Server.connect, h.descriptor, Server.acceptFor, Descriptor.options, if_true]
  by_cases hmem : settings.descriptor.database ∈ c.databases
  · rw [if_pos hmem, if_pos hmem]
  · rw [if_neg hmem, if_neg hmem]

theorem init_catalog {c : Catalog} (h : settings.IsPlain) (hs : c.failingStatement = none)
    (hq : c.failingQueries = none) :
    ((migrator Server.acceptFor settings).init c).result = .ok () ∧
    ((migrator Server.acceptFor settings).init c).state = c.prepared settings := by
  have hconnect : (migrator Server.acceptFor settings).server.connect settings.descriptor false c =
      ⟨.ok (), c, []⟩ := by
    show Server.connect ⟨Server.acceptFor, backend⟩ settings.descriptor false c = _
    simp only [Server.connect, h.descriptor, Server.acceptFor, Descriptor.options,
      Bool.false_eq_true, if_false]
  have hinit : (migrator Server.acceptFor settings).init =
      ((migrator Server.acceptFor settings).server.connect settings.descriptor false >>=
        fun _ => prepare backend settings) := rfl
  rw [hinit, bind_of_ok hconnect]
  exact prepare_catalog hs hq h.database h.versionTable

/-- The version of a schema that has its database, or the error of the server that has not. -/
theorem version_catalog {c : Catalog} (h : settings.IsPlain) :
    ((migrator Server.acceptFor settings).version c).result =
      (if settings.descriptor.database ∈ c.databases then
        (currentVersion backend settings.versionTable c).result
      else .error (.connection (.server
        (Server.unknownDatabase settings.descriptor.database)))) ∧
    ((migrator Server.acceptFor settings).version c).state = c := by
  have hversion : (migrator Server.acceptFor settings).version =
      ((migrator Server.acceptFor settings).connect >>=
        fun _ => currentVersion backend settings.versionTable) := rfl
  have hconnect := connect_catalog (c := c) h
  rw [hversion]
  by_cases hmem : settings.descriptor.database ∈ c.databases
  · rw [if_pos hmem] at hconnect ⊢
    rw [bind_of_ok hconnect]
    exact ⟨rfl, currentVersion_state settings.versionTable c⟩
  · rw [if_neg hmem] at hconnect ⊢
    rw [bind_of_error hconnect]
    exact ⟨rfl, rfl⟩

end Catalog

/-! ## One call -/

namespace Operation

section

variable {σ α : Type}

@[simp] theorem onServer_result (wrap : MigrationError → Failure) (m : Session σ MigrationError α)
    (w : Workspace σ) : (onServer wrap m w).result = (m w.server).result.mapError wrap := rfl

theorem ok_of_onServer {wrap : MigrationError → Failure} {m : Session σ MigrationError α}
    {w : Workspace σ} {a : α} (h : (onServer wrap m w).result = .ok a) :
    (m w.server).result = .ok a := by
  rw [onServer_result] at h
  cases hr : (m w.server).result with
  | error e => rw [hr] at h; cases h
  | ok a' => rw [hr] at h; cases h; rfl

@[simp] theorem onServer_state (wrap : MigrationError → Failure) (m : Session σ MigrationError α)
    (w : Workspace σ) : (onServer wrap m w).state = { w with server := (m w.server).state } := rfl

end

variable (accept : ConnectOptions → Catalog → Except ServerError Unit) (settings : Settings)

/-- The recorded versions, in the order of the table. -/
def recordedVersions (w : Workspace Catalog) : List String :=
  w.server.versions.map VersionRow.version

theorem keeps_recorded_onServer {α : Type} (wrap : MigrationError → Failure)
    {m : Session Catalog MigrationError α} (h : Keeps Catalog.versions m) :
    Keeps recordedVersions (onServer wrap m) :=
  fun w => congrArg (List.map VersionRow.version) (h w.server)

/-- Applying a migration records it when it succeeds, and nothing otherwise. -/
theorem applyOne_recorded (now : Int) (f : MigrationFile) (w : Workspace Catalog)
    (ht : Sql.isPlainIdentifier settings.versionTable = true) :
    let ran := applyOne (Catalog.migrator accept settings) now f w
    (ran.result = .ok () ∧ recordedVersions ran.state = recordedVersions w ++ [f.version]) ∨
    ((∃ e, ran.result = .error e) ∧ recordedVersions ran.state = recordedVersions w) := by
  intro ran
  simp only [ran, applyOne]
  rw [bind_of_ok (note_apply _ _ w)]
  rcases Catalog.migrate_versions accept settings now f.version f.up w.server ht with
    ⟨⟨report, hr⟩, hv⟩ | ⟨⟨e, hr⟩, hv⟩
  · have hserver : (onServer (.applying f.label)
        ((Catalog.migrator accept settings).migrate now f.version f.up) w).result = .ok report := by
      rw [onServer_result, hr]
      rfl
    rw [bind_ok hserver]
    refine .inl ⟨rfl, (congrArg (List.map VersionRow.version) hv).trans ?_⟩
    rw [List.map_append]
    rfl
  · have hserver : (onServer (.applying f.label)
        ((Catalog.migrator accept settings).migrate now f.version f.up) w).result =
          .error (.applying f.label e) := by
      rw [onServer_result, hr]
      rfl
    rw [bind_error hserver]
    exact .inr ⟨⟨_, rfl⟩, congrArg (List.map VersionRow.version) hv⟩

/-- Applying migrations in order records the first ones of them, and all when it succeeds. -/
theorem forEach_applyOne_recorded (now : Int)
    (ht : Sql.isPlainIdentifier settings.versionTable = true) (todo : List MigrationFile) :
    ∀ w : Workspace Catalog,
    let ran := forEach (applyOne (Catalog.migrator accept settings) now) todo w
    ∃ more rest, todo = more ++ rest ∧
      recordedVersions ran.state = recordedVersions w ++ more.map (·.version) ∧
      (ran.result = .ok () → rest = []) := by
  induction todo with
  | nil =>
    intro w ran
    exact ⟨[], [], rfl, (List.append_nil _).symm, fun _ => rfl⟩
  | cons f todo ih =>
    intro w ran
    simp only [ran, forEach]
    rcases applyOne_recorded accept settings now f w ht with ⟨hr, hv⟩ | ⟨⟨e, hr⟩, hv⟩
    · rw [bind_ok hr]
      obtain ⟨more, rest, hsplit, hrecorded, hall⟩ :=
        ih (applyOne (Catalog.migrator accept settings) now f w).state
      refine ⟨f :: more, rest, by rw [hsplit]; rfl, ?_, hall⟩
      rw [hrecorded, hv, List.append_assoc]
      rfl
    · rw [bind_error hr]
      exact ⟨[], f :: todo, rfl, hv.trans (List.append_nil _).symm, fun h => by cases h⟩

/-- What a call does first: it makes sure that the table is there, and asks for the version. -/
def opening : Operation Catalog String :=
  onServer .migration (Catalog.migrator accept settings).init >>= fun _ =>
    onServer .migration (Catalog.migrator accept settings).version

theorem keeps_recorded_opening : Keeps recordedVersions (opening accept settings) :=
  (keeps_recorded_onServer _ (Catalog.keeps_versions_init accept settings)).bind fun _ =>
    keeps_recorded_onServer _ (Catalog.keeps_versions_version accept settings)

/-- Opening succeeds only with a plain version table, and then answers with the latest version. -/
theorem opening_ok {w : Workspace Catalog} {current : String}
    (h : (opening accept settings w).result = .ok current) :
    Sql.isPlainIdentifier settings.versionTable = true ∧
    current = Version.latest (recordedVersions w) := by
  rcases bind_cases (onServer .migration (Catalog.migrator accept settings).init)
      (fun _ => onServer .migration (Catalog.migrator accept settings).version) w with
    ⟨e, -, hr, -⟩ | ⟨_, hinit, hr, -⟩
  · cases h.symm.trans hr
  · refine ⟨Catalog.plain_of_init (ok_of_onServer hinit), ?_⟩
    have hkept := keeps_recorded_onServer .migration (Catalog.keeps_versions_init accept settings) w
    rw [← hkept]
    exact Catalog.version_ok (ok_of_onServer (hr.symm.trans h))

/-- What a call does then with what is pending. -/
def applying (now : Int) (todo : List MigrationFile) : Operation Catalog Unit :=
  print ["Applying migrations..."] >>= fun _ =>
    forEach (applyOne (Catalog.migrator accept settings) now) todo >>= fun _ =>
      print [appliedLine todo.length]

theorem applying_recorded (now : Int) (todo : List MigrationFile) (w : Workspace Catalog)
    (ht : Sql.isPlainIdentifier settings.versionTable = true) :
    let ran := applying accept settings now todo w
    ∃ more rest, todo = more ++ rest ∧
      recordedVersions ran.state = recordedVersions w ++ more.map (·.version) ∧
      (ran.result = .ok () → rest = []) := by
  intro ran
  have hprint : (print ["Applying migrations..."] w : Outcome _ Failure _).result = .ok () := rfl
  simp only [ran, applying]
  rw [bind_ok hprint]
  obtain ⟨more, rest, hsplit, hrecorded, hall⟩ := forEach_applyOne_recorded accept settings now ht
    todo (print ["Applying migrations..."] w : Outcome _ Failure _).state
  rcases bind_cases (forEach (applyOne (Catalog.migrator accept settings) now) todo)
      (fun _ => print [appliedLine todo.length])
      (print ["Applying migrations..."] w : Outcome _ Failure _).state with
    ⟨e, -, hr, hs⟩ | ⟨_, hok, -, hs⟩
  · refine ⟨more, rest, hsplit, ?_, fun h => ?_⟩
    · simp only [hs]
      exact hrecorded
    · cases h.symm.trans hr
  · refine ⟨more, rest, hsplit, ?_, fun _ => hall hok⟩
    simp only [hs]
    exact hrecorded

theorem applyPending_eq (now : Int) (ms : List MigrationFile) (target : Option String) :
    applyPending (Catalog.migrator accept settings) now ms target =
      opening accept settings >>= fun current =>
        applying accept settings now (pending ms current target) := by
  rw [opening, bind_assoc]
  rfl

/-- What one call adds to the first migrations, which are recorded: some of the next ones, in order,
and all others if it has no target and succeeds. -/
theorem applyPending_recorded (now : Int) {done todo : List MigrationFile}
    (h : Ordered (done ++ todo)) (target : Option String) (w : Workspace Catalog)
    (hw : recordedVersions w = done.map (·.version)) :
    let ran := applyPending (Catalog.migrator accept settings) now (done ++ todo) target w
    ∃ more rest, todo = more ++ rest ∧
      recordedVersions ran.state = (done ++ more).map (·.version) ∧
      (target = none → ran.result = .ok () → rest = []) := by
  intro ran
  have hopened := keeps_recorded_opening accept settings w
  simp only [ran, applyPending_eq]
  rcases bind_cases (opening accept settings)
      (fun current => applying accept settings now (pending (done ++ todo) current target)) w with
    ⟨e, -, hr, hs⟩ | ⟨current, hok, hr, hs⟩
  · rw [hr, hs, hopened, hw]
    exact ⟨[], todo, rfl, by rw [List.append_nil], fun _ h => by cases h⟩
  · obtain ⟨ht, hcurrent⟩ := opening_ok accept settings hok
    rw [hw] at hcurrent
    subst hcurrent
    -- what is pending is a leading part of what is left
    obtain ⟨⟨later, hlater⟩, hwhole⟩ := pending_isPrefix h target
    obtain ⟨more, rest, hsplit, hrecorded, hall⟩ := applying_recorded accept settings now
      (pending (done ++ todo) (Version.latest (done.map (·.version))) target)
      (opening accept settings w).state ht
    refine ⟨more, rest ++ later, ?_, ?_, fun hn hran => ?_⟩
    · rw [← List.append_assoc, ← hsplit, hlater]
    · rw [hs, hrecorded, hopened, hw, List.map_append]
    · rw [hr] at hran
      rw [hwhole hn] at hlater
      rw [hall hran, List.append_right_eq_self.1 hlater]
      rfl

theorem keeps_files_onServer {σ α : Type} (wrap : MigrationError → Failure)
    (m : Session σ MigrationError α) : Keeps Workspace.files (onServer wrap m) := fun _ => rfl

/-- Applying migrations leaves the files as they are. -/
theorem keeps_files_applyPending {σ : Type} (m : Migrator σ) (now : Int) (ms : List MigrationFile)
    (target : Option String) : Keeps Workspace.files (applyPending m now ms target) := by
  have hprint : ∀ lines, Keeps Workspace.files (print lines : Operation σ Unit) := fun _ _ => rfl
  have hone : ∀ f, Keeps Workspace.files (applyOne m now f) := fun f =>
    (Keeps.note _ _).bind fun _ => (keeps_files_onServer _ _).bind fun _ => hprint _
  exact (keeps_files_onServer _ _).bind fun _ => (keeps_files_onServer _ _).bind fun _ =>
    (hprint _).bind fun _ => (Keeps.forEach hone _).bind fun _ => hprint _

theorem discover_apply {σ : Type} {dir : Path} {ms : List MigrationFile} {w : Workspace σ}
    (h : discoverIn w.files dir = .ok ms) : discover dir w = ⟨.ok ms, w, []⟩ := by
  rw [discover, bind_of_ok (m := state) rfl, h]
  rfl

/-- Going up without a dry run is applying what the directory gives. -/
theorem up_apply {σ : Type} (m : Migrator σ) (now : Int) {dir : Path} {ms : List MigrationFile}
    (target : Option String) {w : Workspace σ} (h : discoverIn w.files dir = .ok ms) :
    up m now dir target false w = applyPending m now ms target w := by
  rw [up, bind_of_ok (discover_apply h)]
  rfl

end Operation

/-! ## Call after call -/

/-- A call to go up: its time, its target, and what fails on the server meanwhile. -/
structure UpCall where
  now : Int
  target : Option String
  failingStatement : Option (String × String)
  failingQueries : Option String

namespace UpCall

/-- The workspace with the failures of the call. -/
def failing (call : UpCall) (w : Workspace Catalog) : Workspace Catalog :=
  { w with server := { w.server with
      failingStatement := call.failingStatement, failingQueries := call.failingQueries } }

/-- Makes the call. -/
def perform (m : Migrator Catalog) (dir : Path) (call : UpCall) (w : Workspace Catalog) :
    Outcome (Workspace Catalog) Failure Unit :=
  Operation.up m call.now dir call.target false (call.failing w)

/-- The workspace after calls, one after the other, whether they succeed or fail. -/
def afterAll (m : Migrator Catalog) (dir : Path) (calls : List UpCall) (w : Workspace Catalog) :
    Workspace Catalog :=
  calls.foldl (fun w call => (call.perform m dir w).state) w

end UpCall

open Operation

/-- The directory gives these migrations, and the first ones of them are recorded. -/
structure InStep (dir : Path) (ms : List MigrationFile) (w : Workspace Catalog) : Prop where
  files : discoverIn w.files dir = .ok ms
  recorded : recordedVersions w <+: ms.map (·.version)

/-- A call keeps the schema in step with the directory. Without a target it leaves nothing to apply,
if it succeeds. -/
theorem UpCall.perform_inStep (accept : ConnectOptions → Catalog → Except ServerError Unit)
    (settings : Settings) {dir : Path} {ms : List MigrationFile} {w : Workspace Catalog}
    (h : InStep dir ms w) (call : UpCall) :
    let ran := call.perform (Catalog.migrator accept settings) dir w
    InStep dir ms ran.state ∧
    (call.target = none → ran.result = .ok () →
      recordedVersions ran.state = ms.map (·.version)) := by
  intro ran
  have hrun : ran = applyPending (Catalog.migrator accept settings) call.now ms call.target
      (call.failing w) := up_apply _ _ _ h.files
  obtain ⟨done, todo, rfl, hdone⟩ : ∃ done todo, ms = done ++ todo ∧
      recordedVersions w = done.map (·.version) := by
    have htake := List.prefix_iff_eq_take.1 h.recorded
    rw [← List.map_take] at htake
    exact ⟨_, _, (List.take_append_drop _ ms).symm, htake⟩
  obtain ⟨more, rest, hsplit, hrecorded, hall⟩ := applyPending_recorded accept
    settings call.now (discoverIn_ordered h.files) call.target (call.failing w) hdone
  rw [← hrun] at hrecorded hall
  refine ⟨⟨?_, ?_⟩, fun hn hr => ?_⟩
  · rw [hrun, keeps_files_applyPending]
    exact h.files
  · rw [hrecorded, hsplit, ← List.append_assoc]
    exact (List.prefix_append (done ++ more) rest).map _
  · rw [hrecorded, hsplit, hall hn hr, List.append_nil]

theorem UpCall.afterAll_inStep (accept : ConnectOptions → Catalog → Except ServerError Unit)
    (settings : Settings) {dir : Path} {ms : List MigrationFile} (calls : List UpCall) :
    ∀ {w : Workspace Catalog}, InStep dir ms w →
      InStep dir ms (afterAll (Catalog.migrator accept settings) dir calls w) := by
  induction calls with
  | nil => exact fun h => h
  | cons call rest ih => exact fun h => ih (perform_inStep accept settings h call).1

/-- On a schema without version rows, the recorded versions are the first ones of the directory
after every call, whatever failed before and meanwhile; and they are all of them after a call
without a target that succeeds. -/
theorem upCalls_isPrefix (accept : ConnectOptions → Catalog → Except ServerError Unit)
    (settings : Settings) {dir : Path} {ms : List MigrationFile} {w : Workspace Catalog}
    (hfiles : discoverIn w.files dir = .ok ms) (hrows : w.server.versions = [])
    (calls : List UpCall) (call : UpCall) :
    let m := Catalog.migrator accept settings
    let ran := call.perform m dir (UpCall.afterAll m dir calls w)
    recordedVersions ran.state <+: ms.map (·.version) ∧
    (call.target = none → ran.result = .ok () →
      recordedVersions ran.state = ms.map (·.version)) := by
  intro m ran
  have hstart : InStep dir ms w := by
    refine ⟨hfiles, ?_⟩
    rw [recordedVersions, hrows]
    exact List.nil_prefix
  obtain ⟨hstep, hall⟩ := UpCall.perform_inStep accept settings
    (UpCall.afterAll_inStep accept settings calls hstart) call
  exact ⟨hstep.recorded, hall⟩

/-- Two migrations without commands and three calls: one that cannot record anything, one with a
target, and one without. After the last one both are recorded. -/
theorem threeCalls_recordAll :
    let m := Catalog.migrator (fun _ _ => .ok ()) {}
    let ms : List MigrationFile :=
      [⟨⟨"m/20240101000000_a.toml"⟩, "20240101000000", "a", none, .null, .null⟩,
        ⟨⟨"m/20240102000000_b.toml"⟩, "20240102000000", "b", none, .null, .null⟩]
    let w : Workspace Catalog :=
      { server := {}
        files := .directory [("m", .directory
          [("20240102000000_b.toml", .file ⟨#[]⟩), ("20240101000000_a.toml", .file ⟨#[]⟩)])] }
    let refused : UpCall := ⟨1, none, some ("INSERT INTO", "read only"), none⟩
    let partway : UpCall := ⟨2, some "20240101999999", none, none⟩
    let whole : UpCall := ⟨3, none, none, none⟩
    let ran := whole.perform m ⟨"m"⟩ (UpCall.afterAll m ⟨"m"⟩ [refused, partway] w)
    (discoverIn w.files ⟨"m"⟩ = .ok ms ∧ w.server.versions = []) ∧
    ran.result = .ok () ∧ recordedVersions ran.state = ["20240101000000", "20240102000000"] := by
  intro m ms w refused partway whole ran
  have hload : loadEntries ⟨"m"⟩
      [("20240102000000_b.toml", .file ⟨#[]⟩), ("20240101000000_a.toml", .file ⟨#[]⟩)] =
      .ok ms.reverse := rfl
  have hsort : sortByVersion ms.reverse = ms := by
    simp [sortByVersion, ms, List.mergeSort]
  have hfiles : discoverIn w.files ⟨"m"⟩ = .ok ms := by
    have hentries : w.files.entriesOf? ⟨"m"⟩ = some
        [("20240102000000_b.toml", .file ⟨#[]⟩), ("20240101000000_a.toml", .file ⟨#[]⟩)] := rfl
    simp only [discoverIn, hentries, discover, hload, hsort]
    rfl
  have hstart : InStep ⟨"m"⟩ ms w := ⟨hfiles, List.nil_prefix⟩
  -- the files are the same before each call, so each is one of `applyPending`
  have hfirst : refused.perform m ⟨"m"⟩ w = applyPending m 1 ms none (refused.failing w) :=
    up_apply _ _ _ hfiles
  have hsecond : partway.perform m ⟨"m"⟩ (refused.perform m ⟨"m"⟩ w).state =
      applyPending m 2 ms partway.target (partway.failing (refused.perform m ⟨"m"⟩ w).state) :=
    up_apply _ _ _ (UpCall.perform_inStep _ _ hstart refused).1.files
  have hthird : ran = applyPending m 3 ms none
      (whole.failing (partway.perform m ⟨"m"⟩ (refused.perform m ⟨"m"⟩ w).state).state) :=
    up_apply _ _ _ (UpCall.afterAll_inStep _ _ [refused, partway] hstart).files
  have hok : ran.result = .ok () := by
    have ok_of_isOk : ∀ {r : Except Failure Unit}, r.isOk = true → r = .ok () := by
      intro r hr
      cases r with
      | error e => cases hr
      | ok _ => rfl
    rw [hthird, hsecond, hfirst]
    exact ok_of_isOk (by decide +kernel +zetaReduce)
  exact ⟨⟨hfiles, rfl⟩, hok, (upCalls_isPrefix _ _ hfiles rfl [refused, partway] whole).2 rfl hok⟩

end SchemaMigration
