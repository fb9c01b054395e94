import SchemaMigration.Proofs.PreExecution
import SchemaMigration.Proofs.UpCalls

/-!
# The rows of the version table

A program that works on one version table makes calls: it prepares the table, runs migrations,
plans, asks for the version. Whatever the calls are and wherever they fail, the catalog ends up with
the rows that it had and one more for each run that succeeded, in the order of the calls:

> `VersionCall.rows_after`: what one call adds.
> `versionRows_afterCalls`: the rows after any calls, and the version that they make.

No text inside a command can add a row, since a row needs parameters and statements of a plan have
none.
-/

namespace SchemaMigration

namespace Catalog

/-! ## The failure settings -/

/-- What the catalog was told to fail. -/
def failures (c : Catalog) : Option (String × String) × Option String :=
  (c.failingStatement, c.failingQueries)

theorem failures_apply (params : List Param) (c : Catalog) (effect : CatalogEffect) :
    (apply params c effect).failures = c.failures := by
  cases effect with
  | insertVersion =>
    simp only [apply]
    split
    · rfl
    · rfl
  | _ => rfl

/-- Nothing that the catalog answers changes what it was told to fail. -/
theorem keeps_failures : backend.Keeps failures where
  execute := by
    intro sql params c
    show (c.execute sql params).2.failures = c.failures
    unfold execute
    cases c.failureOf sql with
    | some message => rfl
    | none => exact failures_apply params _ _
  query := fun _ _ _ => rfl

/-! ## Runs -/

/-- The row of a run of this version: with the time that it reports, if it succeeded. -/
def rowOf (version : String) : Except MigrationError Report → List VersionRow
  | .ok report => [⟨version, report.created⟩]
  | .error _ => []

/-- A run reports the time at which it was recorded. -/
theorem created_of_runCommands {σ : Type} {b : Backend σ} {table version : String} {now : Int}
    {cs : List Command} {s : σ} {report : Report}
    (h : (runCommands b table now version cs s).result = .ok report) : report.created = now := by
  have hphases := runCommands_phases b table now version cs s
  generalize runCommands b table now version cs s = o at h hphases
  cases hphases with
  | applied =>
    cases h
    rfl
  | _ => cases h

/-- A run adds its row. -/
theorem runCommands_rows {table : String} (now : Int) (version : String) (cs : List Command)
    (c : Catalog) (ht : Sql.isPlainIdentifier table = true) :
    let ran := runCommands backend table now version cs c
    ran.state.versions = c.versions ++ rowOf version ran.result := by
  intro ran
  rcases runCommands_versions now version cs c ht with ⟨⟨report, hr⟩, hv⟩ | ⟨⟨e, hr⟩, hv⟩
  · rw [hv, hr, rowOf, created_of_runCommands hr]
  · rw [hv, hr, rowOf, List.append_nil]

/-- So does a run of a command set. One that cannot be read is no run at all. -/
theorem runMigration_rows {table : String} (now : Int) (version : String) (commands : Json.Value)
    (c : Catalog) (ht : Sql.isPlainIdentifier table = true) :
    let ran := runMigration backend table now version commands c
    ran.state.versions = c.versions ++ rowOf version ran.result := by
  intro ran
  cases hc : Command.readAll commands with
  | ok cs =>
    simp only [ran, runMigration_of_ok backend table now version c hc]
    exact runCommands_rows now version cs c ht
  | error e =>
    obtain ⟨e', h⟩ := runMigration_unread backend table now version c hc
    simp only [ran, h, rowOf, List.append_nil]

end Catalog

/-! ## Calls -/

/-- A call of a program that works on one version table. -/
inductive VersionCall
  /-- Prepares a database and a version table. -/
  | prepare (settings : Settings)
  /-- Runs a migration that is given as a command set. -/
  | runSet (now : Int) (version : String) (commands : Json.Value)
  /-- Runs a migration that is given as commands. -/
  | run (now : Int) (version : String) (commands : List Command)
  /-- Plans commands and runs nothing. -/
  | plan (commands : List Command)
  /-- Asks for the version. -/
  | current

namespace VersionCall

open Catalog (backend)

/-- The catalog after the call, however it ends. -/
def after (table : String) : VersionCall → Catalog → Catalog
  | .prepare settings, c => (SchemaMigration.prepare backend settings c).state
  | .runSet now version commands, c =>
    (runMigration backend table now version commands c).state
  | .run now version commands, c =>
    (runCommands backend table now version commands c).state
  | .plan commands, c => (SchemaMigration.plan (some (.ofBackend backend)) commands c).state
  | .current, c => (currentVersion backend table c).state

/-- The row of the call, if it is a run and succeeds. -/
def rows (table : String) : VersionCall → Catalog → List VersionRow
  | .runSet now version commands, c =>
    Catalog.rowOf version (runMigration backend table now version commands c).result
  | .run now version commands, c =>
    Catalog.rowOf version (runCommands backend table now version commands c).result
  | _, _ => []

/-- The catalog after calls, one after the other. -/
def afterAll (table : String) (calls : List VersionCall) (c : Catalog) : Catalog :=
  calls.foldl (fun c call => call.after table c) c

/-- The rows of the runs among the calls that succeed, in the order of the calls. -/
def rowsOfAll (table : String) : List VersionCall → Catalog → List VersionRow
  | [], _ => []
  | call :: rest, c => call.rows table c ++ rowsOfAll table rest (call.after table c)

/-- A call adds its row, if it has one, and changes no other row. -/
theorem rows_after {table : String} (ht : Sql.isPlainIdentifier table = true) (call : VersionCall)
    (c : Catalog) : (call.after table c).versions = c.versions ++ call.rows table c := by
  cases call with
  | prepare settings =>
    exact (Catalog.keepsUnbound_versions.prepare settings c).trans (List.append_nil _).symm
  | runSet now version commands => exact Catalog.runMigration_rows now version commands c ht
  | run now version commands => exact Catalog.runCommands_rows now version commands c ht
  | plan commands =>
    exact (Catalog.keepsUnbound_versions.plan commands c).trans (List.append_nil _).symm
  | current =>
    exact (Catalog.keepsUnbound_versions.currentVersion table c).trans (List.append_nil _).symm

theorem failures_after (table : String) (call : VersionCall) (c : Catalog) :
    (call.after table c).failures = c.failures := by
  cases call with
  | prepare settings => exact Catalog.keeps_failures.unbound.prepare settings c
  | runSet now version commands =>
    exact Catalog.keeps_failures.runMigration table now version commands c
  | run now version commands =>
    exact Catalog.keeps_failures.runCommands table now version commands c
  | plan commands => exact Catalog.keeps_failures.unbound.plan commands c
  | current => exact Catalog.keeps_failures.unbound.currentVersion table c

/-- Calls add their rows in order. -/
theorem rows_afterAll {table : String} (ht : Sql.isPlainIdentifier table = true)
    (calls : List VersionCall) (c : Catalog) :
    (afterAll table calls c).versions = c.versions ++ rowsOfAll table calls c := by
  induction calls generalizing c with
  | nil => exact (List.append_nil _).symm
  | cons call rest ih =>
    calc (afterAll table (call :: rest) c).versions
        = (call.after table c).versions ++ rowsOfAll table rest (call.after table c) := ih _
      _ = c.versions ++ (call.rows table c ++ rowsOfAll table rest (call.after table c)) := by
          rw [rows_after ht, List.append_assoc]

theorem failures_afterAll (table : String) (calls : List VersionCall) (c : Catalog) :
    (afterAll table calls c).failures = c.failures := by
  induction calls generalizing c with
  | nil => rfl
  | cons call rest ih => exact (ih (call.after table c)).trans (failures_after table call c)

end VersionCall

open VersionCall in
/-- After any calls on a plain version table there are the rows of the start and then one row for
each run that succeeded, in the order of the calls. Unless its queries fail, the catalog then says
that the table is missing, if it is, and otherwise answers with the greatest recorded version. -/
theorem versionRows_afterCalls (table : String) (ht : Sql.isPlainIdentifier table = true)
    (calls : List VersionCall) (c : Catalog) :
    let last := afterAll table calls c
    let answer := (currentVersion Catalog.backend table last).result
    last.versions = c.versions ++ rowsOfAll table calls c ∧
    (c.failingQueries = none →
      (table ∉ last.tables → ∃ e, answer = .error e ∧ e.isMissingTable = true) ∧
      (table ∈ last.tables → ∃ v, answer = .ok v ∧ Catalog.IsCurrent last.versions v)) := by
  intro last answer
  refine ⟨rows_afterAll ht calls c, fun hq => ?_⟩
  have hlast : last.failingQueries = none :=
    (congrArg Prod.snd (failures_afterAll table calls c)).trans hq
  have hanswer := Catalog.currentVersion_catalog hlast ht
  constructor
  · intro hmissing
    rw [if_neg hmissing] at hanswer
    exact ⟨_, hanswer, rfl⟩
  · intro hpresent
    rw [if_pos hpresent] at hanswer
    exact ⟨_, hanswer, Catalog.isCurrent_latest last.versions⟩

/-- An insert that imitates the one of a version adds no row but that of its run, and a run that
fails adds none. -/
theorem versionRows_afterImitation :
    Sql.isPlainIdentifier "versions" = true ∧
    (VersionCall.afterAll "versions"
      [.run 5 "10" [.insertInto "versions (version, created)" [[.string "9"]]],
        .run 6 "3" [.dropTable "bad"], .plan [.dropTable "t"], .run 7 "3" [.dropTable "t"]]
      { tables := ["versions"], versions := [⟨"2", 1⟩], failingStatement := some ("bad", "no") }
      ).versions = [⟨"2", 1⟩, ⟨"10", 5⟩, ⟨"3", 7⟩] := by
  refine ⟨by decide, (versionRows_afterCalls "versions" (by decide) _ _).1.trans ?_⟩
  decide +kernel

end SchemaMigration
