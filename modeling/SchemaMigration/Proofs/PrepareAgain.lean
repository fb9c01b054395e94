import SchemaMigration.Proofs.Prepared
import SchemaMigration.Proofs.VersionRows

/-!
# Preparing a catalog again

Preparing a catalog makes its version readable. No answer takes a database away, so whatever is
called afterwards, only the version table can go missing; and while that is there, preparing again
selects the database and does nothing else:

> `afterAll_preserves`: calls keep what no answer of the backend breaks.
> `prepare_again`: what preparing does first, and what it does again.
-/

namespace SchemaMigration

open Catalog (backend)

namespace Catalog

/-- No answer takes a database away. -/
theorem preserves_database (name : String) : backend.Preserves fun c => name ∈ c.databases where
  execute := by
    intro sql params c h
    show name ∈ (c.execute sql params).2.databases
    unfold execute
    cases c.failureOf sql with
    | some message => exact h
    | none => exact mem_databases_apply params _ _ h
  query := fun _ _ _ h => h

/-- Where the database and the version table are there, preparing selects the database. -/
theorem prepared_of_present {settings : Settings} {c : Catalog}
    (hname : Sql.IsPlainDatabase settings.descriptor.database)
    (hd : settings.descriptor.database ∈ c.databases) (ht : settings.versionTable ∈ c.tables) :
    c.prepared settings =
      { c with
        executed := c.executed ++ ["USE \x60" ++ settings.descriptor.database ++ "\x60"] } := by
  have hdatabases : addName settings.descriptor.database c.databases = c.databases := if_pos hd
  have htables : addName settings.versionTable c.tables = c.tables := if_pos ht
  have hsent : c.preparation settings = [useDatabase settings.descriptor.database] := by
    unfold preparation
    rw [if_pos hd, if_pos ht]
    rfl
  unfold prepared
  rw [hdatabases, htables, hsent, useDatabase_of_plain hname]

/-- The database and the version table are there, everything else is as it was, and the version can
be read. -/
structure MadeReady (settings : Settings) (before after : Catalog) : Prop where
  database : settings.descriptor.database ∈ after.databases
  versionTable : settings.versionTable ∈ after.tables
  otherDatabases : ∀ name, name ≠ settings.descriptor.database →
    (name ∈ after.databases ↔ name ∈ before.databases)
  otherTables : ∀ name, name ≠ settings.versionTable →
    (name ∈ after.tables ↔ name ∈ before.tables)
  constraints : after.constraints = before.constraints
  versions : after.versions = before.versions
  readable : (currentVersion backend settings.versionTable after).result =
    .ok (Version.latest (before.versions.map (·.version)))

theorem madeReady_prepared {settings : Settings} {c : Catalog} (hq : c.failingQueries = none)
    (ht : Sql.isPlainIdentifier settings.versionTable = true) :
    MadeReady settings c (c.prepared settings) := by
  have htable : settings.versionTable ∈ (c.prepared settings).tables := mem_addName.2 (.inl rfl)
  constructor
  · exact mem_addName.2 (.inl rfl)
  · exact htable
  · intro name hne
    exact mem_addName.trans (or_iff_right hne)
  · intro name hne
    exact mem_addName.trans (or_iff_right hne)
  · rfl
  · rfl
  · have hcurrent := currentVersion_catalog (c := c.prepared settings) hq ht
    rw [if_pos htable] at hcurrent
    exact hcurrent

end Catalog

namespace VersionCall

variable {P : Catalog → Prop} {c : Catalog}

/-- A call keeps what no answer of the backend breaks. -/
theorem after_preserves (h : backend.Preserves P) (table : String) (call : VersionCall)
    (hc : P c) : P (call.after table c) := by
  cases call with
  | prepare settings => exact h.prepare settings hc
  | runSet now version commands => exact h.runMigration table now version commands hc
  | run now version commands => exact h.runCommands table now version commands hc
  | plan commands => exact h.plan commands hc
  | current => exact h.currentVersion table hc

theorem afterAll_preserves (h : backend.Preserves P) (table : String) (calls : List VersionCall)
    (hc : P c) : P (afterAll table calls c) := by
  induction calls generalizing c with
  | nil => exact hc
  | cons call rest ih => exact ih (after_preserves h table call hc)

end VersionCall

/-- Where nothing is set to fail, preparing succeeds and makes the catalog ready. After any calls
that leave the version table in place, preparing again succeeds as well; it selects the database,
and changes nothing else. -/
theorem prepare_again {settings : Settings} {c : Catalog} (hs : c.failingStatement = none)
    (hq : c.failingQueries = none) (hd : Sql.IsPlainDatabase settings.descriptor.database)
    (ht : Sql.isPlainIdentifier settings.versionTable = true) :
    let first := prepare backend settings c
    first.result = .ok () ∧ Catalog.MadeReady settings c first.state ∧
    ∀ calls, let later := VersionCall.afterAll settings.versionTable calls first.state
      settings.versionTable ∈ later.tables →
      (prepare backend settings later).result = .ok () ∧
      (prepare backend settings later).state =
        { later with
          executed := later.executed ++
            ["USE \x60" ++ settings.descriptor.database ++ "\x60"] } := by
  intro first
  obtain ⟨hresult, hstate⟩ := Catalog.prepare_catalog hs hq hd ht
  have hready : Catalog.MadeReady settings c first.state := by
    simp only [first, hstate]
    exact Catalog.madeReady_prepared hq ht
  refine ⟨hresult, hready, ?_⟩
  intro calls later htable
  have hdatabase : settings.descriptor.database ∈ later.databases :=
    VersionCall.afterAll_preserves (Catalog.preserves_database _) _ calls hready.database
  have hfailures : later.failures = c.failures := by
    refine (VersionCall.failures_afterAll _ calls first.state).trans ?_
    simp only [first, hstate]
    rfl
  have hs' : later.failingStatement = none := (congrArg Prod.fst hfailures).trans hs
  have hq' : later.failingQueries = none := (congrArg Prod.snd hfailures).trans hq
  have hagain := Catalog.prepare_catalog hs' hq' hd ht
  rw [Catalog.prepared_of_present hd hdatabase htable] at hagain
  exact hagain

/-- Between two preparations, one migration drops the version table and is recorded all the same,
and another one puts it back. -/
theorem prepareAgain_tableRestored :
    let settings : Settings :=
      { descriptor := { database := "shop-2" }, versionTable := "versions" }
    let c : Catalog := { tables := ["orders"], constraints := ["fk"], versions := [⟨"2", 1⟩] }
    let calls : List VersionCall :=
      [.run 5 "3" [.dropTable "versions"], .run 6 "4" [.createTable "versions" [] [] []]]
    let first := prepare backend settings c
    let later := VersionCall.afterAll settings.versionTable calls first.state
    (c.failingStatement = none ∧ c.failingQueries = none ∧
      Sql.IsPlainDatabase settings.descriptor.database ∧
      Sql.isPlainIdentifier settings.versionTable = true ∧ "versions" ∈ later.tables) ∧
    first.result = .ok () ∧ Catalog.MadeReady settings c first.state ∧
    (prepare backend settings later).result = .ok () ∧
    (prepare backend settings later).state =
      { later with executed := later.executed ++ ["USE \x60shop-2\x60"] } := by
  intro settings c calls first later
  have hblank : ("shop-2".toList.all fun c => !Text.isBlank c) = true := by decide
  have hd : Sql.IsPlainDatabase "shop-2" :=
    ⟨fun c hc => by simpa using List.all_eq_true.1 hblank c hc, by decide, by decide⟩
  have hd' : Sql.IsPlainDatabase settings.descriptor.database := hd
  have ht : Sql.isPlainIdentifier "versions" = true := by decide
  have htable : "versions" ∈ later.tables := by decide +kernel +zetaReduce
  obtain ⟨hresult, hready, hagain⟩ := prepare_again (c := c) rfl rfl hd' ht
  exact ⟨⟨rfl, rfl, hd, ht, htable⟩, hresult, hready, hagain calls htable⟩

end SchemaMigration
