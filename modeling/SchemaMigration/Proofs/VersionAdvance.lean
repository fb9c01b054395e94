import SchemaMigration.Proofs.VersionRows

/-!
# How a run moves the version

A run that succeeds adds its row, and with one more row the greatest version can only grow. Before
the first row there is no greatest version, though, and the version zero that stands for it is not
below every version that a run accepts:

> `Version.latest_le_concat`: one more version never lowers the latest one.
> `currentVersion_afterRun`: the version after a run, and when it is not below the one before.
> `firstVersion_belowZero`: a first run that lowers the version.
-/

namespace SchemaMigration

open Catalog (backend)

/-- One more version never lowers the latest one. -/
theorem Version.latest_le_concat {vs : List String} (h : vs ≠ []) (v : String) :
    latest vs ≤ latest (vs ++ [v]) := by
  apply le_latest
  exact List.mem_append_left _ (latest_mem h)

/-- A catalog whose queries do not fail and that has the table answers with its latest version. -/
theorem Catalog.currentVersion_of_mem {c : Catalog} {table : String}
    (hq : c.failingQueries = none) (ht : Sql.isPlainIdentifier table = true)
    (htable : table ∈ c.tables) :
    (currentVersion backend table c).result =
      .ok (Version.latest (c.versions.map (·.version))) := by
  rw [currentVersion_catalog hq ht, if_pos htable]

/-- A run that succeeds leaves the version at least where it was, by the order of bytes, exactly
when there was a row already or its own version is not below zero. Where there was none, the version
goes from zero to that of the run. -/
theorem currentVersion_afterRun {c : Catalog} {table version : String} {now : Int}
    {commands : Json.Value} {report : Report} (hq : c.failingQueries = none)
    (ht : Sql.isPlainIdentifier table = true) (hbefore : table ∈ c.tables)
    (hok : (runMigration backend table now version commands c).result = .ok report)
    (hafter : table ∈ (runMigration backend table now version commands c).state.tables) :
    let last := (runMigration backend table now version commands c).state
    ∃ before after, (currentVersion backend table c).result = .ok before ∧
      (currentVersion backend table last).result = .ok after ∧
      (Text.bytes before ≤ Text.bytes after ↔
        c.versions ≠ [] ∨ Text.bytes "0" ≤ Text.bytes version) ∧
      (c.versions = [] → before = "0" ∧ after = version) := by
  intro last
  have hrows : last.versions = c.versions ++ [⟨version, report.created⟩] := by
    refine (Catalog.runMigration_rows now version commands c ht).trans ?_
    rw [hok]
    rfl
  have hlast : last.failingQueries = none := by
    have h := Catalog.keeps_failures.runMigration table now version commands c
    exact (congrArg Prod.snd h).trans hq
  have hversions : last.versions.map (·.version) = c.versions.map (·.version) ++ [version] := by
    rw [hrows, List.map_append]
    rfl
  refine ⟨_, _, Catalog.currentVersion_of_mem hq ht hbefore,
    Catalog.currentVersion_of_mem hlast ht hafter, ?_, ?_⟩
  · rw [hversions, Text.bytes_le_iff, Text.bytes_le_iff]
    by_cases hnone : c.versions = []
    · -- the first row: zero is compared with the version itself
      rw [hnone]
      show Version.zero ≤ version ↔ _
      simp [Version.zero]
    · have hsome : c.versions.map (·.version) ≠ [] := by simpa using hnone
      exact iff_of_true (Version.latest_le_concat hsome version) (.inl hnone)
  · intro hnone
    rw [hversions, hnone]
    exact ⟨rfl, rfl⟩

/-- A run of an older version leaves the greater one in place. -/
theorem olderVersion_keepsCurrent :
    let c : Catalog :=
      { tables := ["versions"], versions := [⟨"2", 1⟩], failingStatement := some ("bad", "no") }
    let ran := runMigration backend "versions" 5 "10" .null c
    (c.failingQueries = none ∧ Sql.isPlainIdentifier "versions" = true ∧
      "versions" ∈ c.tables ∧ (∃ report, ran.result = .ok report) ∧
      "versions" ∈ ran.state.tables) ∧
    ∃ before after, (currentVersion backend "versions" c).result = .ok before ∧
      (currentVersion backend "versions" ran.state).result = .ok after ∧
      Text.bytes before ≤ Text.bytes after := by
  intro c ran
  have ht : Sql.isPlainIdentifier "versions" = true := by decide
  have hok : ran.result = .ok ⟨"10", [], [], 5⟩ := rfl
  have hafter : "versions" ∈ ran.state.tables := by decide +kernel +zetaReduce
  obtain ⟨before, after, hb, ha, hle, -⟩ :=
    currentVersion_afterRun (c := c) rfl ht (by decide) hok hafter
  exact ⟨⟨rfl, ht, by decide, ⟨_, hok⟩, hafter⟩, before, after, hb, ha,
    hle.2 (.inl (List.cons_ne_nil _ _))⟩

/-- The version `-1` is accepted, and as the first one it takes the place of zero, which is above
it. -/
theorem firstVersion_belowZero :
    let c : Catalog := { tables := ["schema_versions"] }
    let ran := runMigration backend "schema_versions" 0 "-1" .null c
    Sql.isPlainIdentifier "schema_versions" = true ∧ c.failingQueries = none ∧
    Version.check "-1" = .ok () ∧ (∃ report, ran.result = .ok report) ∧
    "schema_versions" ∈ c.tables ∧ "schema_versions" ∈ ran.state.tables ∧
    (currentVersion backend "schema_versions" c).result = .ok "0" ∧
    (currentVersion backend "schema_versions" ran.state).result = .ok "-1" ∧
    ¬ Text.bytes "0" ≤ Text.bytes "-1" := by
  intro c ran
  have ht : Sql.isPlainIdentifier "schema_versions" = true := by decide
  have hafter : "schema_versions" ∈ ran.state.tables := by decide +kernel +zetaReduce
  have hlast : (currentVersion backend "schema_versions" ran.state).result = .ok "-1" :=
    Catalog.currentVersion_of_mem rfl ht hafter
  refine ⟨ht, rfl, rfl, ⟨⟨"-1", [], [], 0⟩, rfl⟩, by decide, hafter, ?_, hlast, ?_⟩
  · exact Catalog.currentVersion_of_mem rfl ht (by decide)
  · rw [Text.bytes_le_iff]
    decide

end SchemaMigration
