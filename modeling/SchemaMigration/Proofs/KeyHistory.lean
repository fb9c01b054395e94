import Mathlib.Data.List.Induction
import SchemaMigration.Proofs.ForeignKeys
import SchemaMigration.Proofs.VersionRows

/-!
# Foreign keys after many runs

Commands that are run one by one, each as a migration of its own, look up what the ones before them
left. So the foreign keys follow the commands: of those that ask to add or to drop a name, the last
one decides whether it is there.

> `Catalog.mem_constraints_ofRun`: what one command leaves.
> `mem_constraints_afterRuns`: what any number of them leaves.
> `constraints_afterRuns`: the same by what the commands declare.

A command that creates a table declares foreign keys too, as clauses of its statement. The catalog
keeps the table of such a statement and none of its foreign keys, so by the declarations of the
commands the last one decides only for names that no created table declares
(`createdKey_notKept`).
-/

namespace SchemaMigration

open Catalog (backend)

/-! ## Declarations -/

/-- The names of the foreign keys that a command declares: in the clauses of the table that it
creates, or as additions to a table that is there. -/
def Command.declaredNames : Command → List String
  | .createTable _ _ _ constraints => constraints.map (·.name)
  | cmd => cmd.addedNames

/-- What a command asks to add, it declares. -/
theorem Command.declared_of_added {cmd : Command} {n : String} (h : n ∈ cmd.addedNames) :
    n ∈ cmd.declaredNames := by
  cases cmd with
  | createTable table columns primaryKey constraints => cases h
  | _ => exact h

/-- No name that the command drops is one that it declares. -/
def Command.GoesOneWay (cmd : Command) : Prop := ∀ n ∈ cmd.droppedNames, n ∉ cmd.declaredNames

instance (cmd : Command) : Decidable cmd.GoesOneWay :=
  inferInstanceAs (Decidable (∀ n ∈ cmd.droppedNames, n ∉ cmd.declaredNames))

/-- The last of the commands that declare or drop the name, where `declares` says what a command
declares. -/
def lastNaming (declares : Command → List String) (cs : List Command) (n : String) :
    Option Command :=
  cs.reverse.find? fun cmd => decide (n ∈ declares cmd ∨ n ∈ cmd.droppedNames)

/-- The last command that names the foreign key declares it. -/
def DeclaredLast (declares : Command → List String) (cs : List Command) (n : String) : Prop :=
  ∃ cmd ∈ lastNaming declares cs n, n ∈ declares cmd

instance (declares : Command → List String) (cs : List Command) (n : String) :
    Decidable (DeclaredLast declares cs n) :=
  inferInstanceAs (Decidable (∃ cmd ∈ lastNaming declares cs n, n ∈ declares cmd))

section DeclaredLast

variable {declares : Command → List String} {cs : List Command} {cmd : Command} {n : String}

theorem lastNaming_concat (declares : Command → List String) (cs : List Command) (cmd : Command)
    (n : String) :
    lastNaming declares (cs ++ [cmd]) n =
      if n ∈ declares cmd ∨ n ∈ cmd.droppedNames then some cmd else lastNaming declares cs n := by
  unfold lastNaming
  rw [List.reverse_concat, List.find?_cons]
  by_cases h : n ∈ declares cmd ∨ n ∈ cmd.droppedNames
  · rw [decide_eq_true h, if_pos h]
  · rw [decide_eq_false h, if_neg h]

theorem not_declaredLast_nil : ¬ DeclaredLast declares [] n := by
  intro h
  obtain ⟨cmd, hcmd, -⟩ := h
  cases hcmd

/-- One more command decides about the names that it names, and about no other. -/
theorem declaredLast_concat :
    DeclaredLast declares (cs ++ [cmd]) n ↔
      n ∈ declares cmd ∨ (n ∉ cmd.droppedNames ∧ DeclaredLast declares cs n) := by
  unfold DeclaredLast
  rw [lastNaming_concat]
  by_cases hdeclared : n ∈ declares cmd
  · simp [hdeclared]
  · by_cases hdropped : n ∈ cmd.droppedNames
    · simp [hdeclared, hdropped]
    · simp [hdeclared, hdropped]

/-- With more declarations more names are declared last. -/
theorem DeclaredLast.mono {declares' : Command → List String}
    (hmore : ∀ cmd ∈ cs, n ∈ declares cmd → n ∈ declares' cmd) (h : DeclaredLast declares cs n) :
    DeclaredLast declares' cs n := by
  induction cs using List.reverseRecOn with
  | nil => exact absurd h not_declaredLast_nil
  | append_singleton cs cmd ih =>
    rw [declaredLast_concat] at h ⊢
    rcases h with hdeclared | ⟨hkept, hlast⟩
    · exact .inl (hmore cmd (by simp) hdeclared)
    · exact .inr ⟨hkept, ih (fun other hother => hmore other (by simp [hother])) hlast⟩

end DeclaredLast

/-! ## One run -/

namespace Catalog

variable {c : Catalog} {version : String}

/-- The foreign keys after a run are those after its plan. The row of the version adds none, also
where it cannot be recorded because of the name of its table. -/
theorem constraints_ofRun (table : String) (now : Int) (cs : List Command)
    (hs : c.failingStatement = none) (hq : c.failingQueries = none)
    (hv : Version.check version = .ok ()) :
    (runCommands backend table now version cs c).state.constraints =
      ((c.planned cs).statements.foldl after c).constraints := by
  cases ht : Sql.isPlainIdentifier table with
  | true => rw [(runCommands_catalog now cs hs hq ht hv).2, recorded]
  | false =>
    obtain ⟨l₁, l₂, hplan, hall⟩ := executed_planned version cs hs hq
    rw [(runCommands_refused now ht hv hplan hall).2]

/-- A run of one command leaves what it asks to add, and of what was there all but what it asks to
drop. -/
theorem mem_constraints_ofRun {cmd : Command} (table : String) (now : Int) (n : String)
    (hs : c.failingStatement = none) (hq : c.failingQueries = none)
    (hv : Version.check version = .ok ())
    (hnames : ∀ a, cmd = .alterTable a → a.HasPlainNames) (hway : cmd.GoesOneWay) :
    n ∈ (runCommands backend table now version [cmd] c).state.constraints ↔
      n ∈ cmd.addedNames ∨ (n ∉ cmd.droppedNames ∧ n ∈ c.constraints) := by
  have hplain : ∀ a, Command.alterTable a ∈ [cmd] → a.HasPlainNames := by
    intro a ha
    exact hnames a (List.mem_singleton.1 ha).symm
  rw [constraints_ofRun table now [cmd] hs hq hv, mem_constraints_planned hplain,
    List.flatMap_singleton, List.flatMap_singleton]
  have hone : n ∈ cmd.droppedNames → n ∉ cmd.addedNames :=
    fun hdropped hadded => hway n hdropped (Command.declared_of_added hadded)
  by_cases hthere : n ∈ c.constraints
  · simp only [hthere, true_and, not_true_eq_false, false_and, or_false, and_true]
    by_cases hdropped : n ∈ cmd.droppedNames
    · simp [hdropped, hone hdropped]
    · simp [hdropped]
  · simp [hthere]

end Catalog

/-! ## One run after the other -/

/-- A migration of one command. -/
structure CommandRun where
  now : Int
  version : String
  command : Command

/-- The call that runs it. -/
def CommandRun.call (r : CommandRun) : VersionCall := .run r.now r.version [r.command]

/-- Its version is accepted, and its command names plain foreign keys of a plain table, none of them
both to declare and to drop. -/
structure CommandRun.IsSound (r : CommandRun) : Prop where
  version : Version.check r.version = .ok ()
  names : ∀ a, r.command = .alterTable a → a.HasPlainNames
  oneWay : r.command.GoesOneWay

/-- Of the commands that ask to add or to drop a foreign key, the last one decides whether it is
there. -/
theorem mem_constraints_afterRuns {c : Catalog} (table : String) (n : String)
    (hs : c.failingStatement = none) (hq : c.failingQueries = none) (hempty : c.constraints = [])
    {runs : List CommandRun} (hsound : ∀ r ∈ runs, r.IsSound) :
    n ∈ (VersionCall.afterAll table (runs.map (·.call)) c).constraints ↔
      DeclaredLast Command.addedNames (runs.map (·.command)) n := by
  induction runs using List.reverseRecOn with
  | nil =>
    show n ∈ c.constraints ↔ _
    rw [hempty]
    exact iff_of_false List.not_mem_nil not_declaredLast_nil
  | append_singleton runs r ih =>
    -- the last run answers its look-ups from the keys that the runs before it left
    have hbefore := ih fun other hother => hsound other (List.mem_append_left _ hother)
    have hr : r.IsSound := hsound r (by simp)
    have hfailures := VersionCall.failures_afterAll table (runs.map (·.call)) c
    rw [List.map_append, List.map_append, List.map_singleton, List.map_singleton,
      declaredLast_concat, ← hbefore]
    unfold VersionCall.afterAll
    rw [List.foldl_append]
    exact Catalog.mem_constraints_ofRun table r.now n ((congrArg Prod.fst hfailures).trans hs)
      ((congrArg Prod.snd hfailures).trans hq) hr.version hr.names hr.oneWay

/-- Where the runs are sound and nothing is set to fail, a foreign key is there after them exactly
when the last command that asks to add or to drop it asks to add it. Each such one is declared
last, and the other way round where only changes of tables declare it. -/
theorem constraints_afterRuns {c : Catalog} (table : String) {runs : List CommandRun}
    (hs : c.failingStatement = none) (hq : c.failingQueries = none) (hempty : c.constraints = [])
    (hsound : ∀ r ∈ runs, r.IsSound) (n : String) :
    let last := VersionCall.afterAll table (runs.map (·.call)) c
    let commands := runs.map (·.command)
    (n ∈ last.constraints ↔ DeclaredLast Command.addedNames commands n) ∧
    (n ∈ last.constraints → DeclaredLast Command.declaredNames commands n) ∧
    ((∀ cmd ∈ commands, n ∈ cmd.declaredNames → n ∈ cmd.addedNames) →
      (n ∈ last.constraints ↔ DeclaredLast Command.declaredNames commands n)) := by
  intro last commands
  have hkeys : n ∈ last.constraints ↔ DeclaredLast Command.addedNames commands n :=
    mem_constraints_afterRuns table n hs hq hempty hsound
  have hdeclared : n ∈ last.constraints → DeclaredLast Command.declaredNames commands n := by
    intro hthere
    exact (hkeys.1 hthere).mono fun _ _ => Command.declared_of_added
  refine ⟨hkeys, hdeclared, fun honly => ⟨hdeclared, ?_⟩⟩
  intro hlast
  exact hkeys.2 (hlast.mono honly)

/-- A table with the key `fk_a`, then `fk_b` added to it, then `fk_b` dropped and `fk_c` added: of
the last two names, each run one by one, only the second one is there. -/
theorem constraints_afterThreeRuns :
    let c : Catalog := { failingStatement := none }
    let runs : List CommandRun :=
      [⟨0, "1", .createTable "t" [⟨"a", ["INT"]⟩] [] [⟨"fk_a", ["(a)"]⟩]⟩,
        ⟨0, "2", .alterTable ⟨"t", [⟨"b", ["INT"]⟩], [], [], [⟨"fk_b", ["(b)"]⟩], []⟩⟩,
        ⟨0, "3", .alterTable ⟨"t", [], [], [], [⟨"fk_c", ["(a)"]⟩], ["fk_b"]⟩⟩]
    let last := VersionCall.afterAll "versions" (runs.map (·.call)) c
    (c.failingStatement = none ∧ c.failingQueries = none ∧ c.constraints = [] ∧
      ∀ r ∈ runs, r.IsSound) ∧
    "fk_b" ∉ last.constraints ∧ "fk_c" ∈ last.constraints := by
  intro c runs last
  have hsound : ∀ r ∈ runs, r.IsSound := by
    intro r hr
    simp only [runs, List.mem_cons, List.not_mem_nil, or_false] at hr
    rcases hr with rfl | rfl | rfl
    · refine ⟨rfl, ?_, by decide⟩
      intro a ha
      cases ha
    · refine ⟨rfl, ?_, by decide⟩
      intro a ha
      cases ha
      exact ⟨by decide, by decide, by decide⟩
    · refine ⟨rfl, ?_, by decide⟩
      intro a ha
      cases ha
      exact ⟨by decide, by decide, by decide⟩
  have hlast : last = VersionCall.afterAll "versions" (runs.map (·.call)) c := rfl
  have hkeys := fun n => (constraints_afterRuns (c := c) "versions" rfl rfl rfl hsound n).1
  have hdropped : ¬ DeclaredLast Command.addedNames (runs.map (·.command)) "fk_b" := by decide
  have hadded : DeclaredLast Command.addedNames (runs.map (·.command)) "fk_c" := by decide
  rw [hlast]
  exact ⟨⟨rfl, rfl, rfl, hsound⟩, mt (hkeys "fk_b").1 hdropped, (hkeys "fk_c").2 hadded⟩

/-- The only command declares `fk_user`, in the clauses of the table that it creates. The statement
with that clause is executed, and the foreign key is not there, nor found when it is looked up. -/
theorem createdKey_notKept :
    let c : Catalog := { tables := ["schema_versions"] }
    let create : Command := .createTable "orders" [⟨"user_id", ["BIGINT"]⟩] []
      [⟨"fk_user", ["(user_id)", "REFERENCES users(id)"]⟩]
    let run : CommandRun := ⟨0, "20240101000000", create⟩
    let last := VersionCall.afterAll "schema_versions" [run.call] c
    (c.failingStatement = none ∧ c.failingQueries = none ∧ c.constraints = [] ∧ run.IsSound ∧
      Sql.isPlainIdentifier "orders" = true ∧ Sql.isPlainIdentifier "fk_user" = true) ∧
    DeclaredLast Command.declaredNames [create] "fk_user" ∧
    last.executed.head? = some ("CREATE TABLE orders (user_id BIGINT, " ++
      "CONSTRAINT fk_user FOREIGN KEY (user_id) REFERENCES users(id))") ∧
    "fk_user" ∉ last.constraints ∧
    (constraintExists (some (.ofBackend backend)) "fk_user" last).result = .ok false := by
  intro c create run last
  have hv : Version.check "20240101000000" = .ok () := rfl
  have ht : Sql.isPlainIdentifier "schema_versions" = true := by decide
  have hrun : last = (runCommands backend "schema_versions" 0 "20240101000000" [create] c).state :=
    rfl
  have hsound : run.IsSound := by
    refine ⟨hv, ?_, by decide⟩
    intro a ha
    cases ha
  have hdeclared : DeclaredLast Command.declaredNames [create] "fk_user" := by decide
  have hmissing : "fk_user" ∉ last.constraints := by
    rw [hrun, Catalog.mem_constraints_ofRun "schema_versions" 0 "fk_user" rfl rfl hv
      hsound.names hsound.oneWay]
    decide
  have hqueries : last.failingQueries = none :=
    congrArg Prod.snd (VersionCall.failures_afterAll "schema_versions" [run.call] c)
  refine ⟨⟨rfl, rfl, rfl, hsound, by decide, by decide⟩, hdeclared, ?_, hmissing, ?_⟩
  · rw [hrun, (Catalog.runCommands_catalog 0 [create] rfl rfl ht hv).2, Catalog.recorded,
      Catalog.executed_foldl_after]
    decide
  · rw [(Catalog.answersBy_catalog hqueries "fk_user").1]
    exact congrArg Except.ok (decide_eq_false hmissing)

end SchemaMigration
