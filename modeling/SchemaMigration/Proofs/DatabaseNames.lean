import SchemaMigration.Proofs.Prepared

/-!
# Which databases the catalog finds again

A database that is missing is created with its name between backticks. The name that the catalog
keeps of it is the name itself for some names only, and only these are found again:

> `keptName_eq_self_iff`: the names that are kept as they are.
> `ensureDatabase_keeps`: what ensuring a database leaves, for any name, and when the same database
> is there for a second call.

For any other name the second call creates the database once more (`weirdDatabase_createdTwice`).
-/

namespace SchemaMigration

open Catalog (backend)

namespace Catalog

open Text Sql

/-- What is trimmed and then doubled is the text itself exactly when it has no backtick. -/
theorem doubleBackticks_trimChar_eq_self_iff {s : List Char} :
    doubleBackticks (trimChar '\x60' s) = s ↔ '\x60' ∉ s := by
  constructor
  · intro h
    -- trimming both sides shows that the text is trimmed, and then it is its own doubling
    have htrimmed : trimChar '\x60' s = s := by
      have htrim := congrArg (trimChar '\x60') h
      rw [trimChar_doubleBackticks, trimChar_trimChar, h] at htrim
      exact htrim.symm
    rw [htrimmed] at h
    exact doubleBackticks_eq_self_iff.1 h
  · intro h
    rw [trimChar_of_notMem h]
    exact doubleBackticks_eq_self_iff.2 h

theorem toList_keptName (name : String) :
    (keptName name).toList = (doubleBackticks (trimChar '\x60'
      (name.toList.takeWhile fun c => !isBlank c))).takeWhile (· != '(') :=
  String.toList_ofList

/-- A character of a kept name stands before the first blank of the name, and is no bracket. -/
theorem of_mem_keptName {name : String} {c : Char} (h : c ∈ (keptName name).toList) :
    c ∈ name.toList.takeWhile (fun d => !isBlank d) ∧ c ≠ '(' := by
  rw [toList_keptName] at h
  have hbracket : (c != '(') = true := List.mem_takeWhile_imp (p := fun d => d != '(') h
  have hdoubled := (List.takeWhile_sublist _).subset h
  exact ⟨mem_of_mem_trimChar (mem_doubleBackticks.1 hdoubled), bne_iff_ne.1 hbracket⟩

/-- The names that the catalog keeps as they are have no blank, no backtick and no opening
bracket. -/
theorem keptName_eq_self_iff (name : String) : keptName name = name ↔ IsPlainDatabase name := by
  constructor
  · intro hkept
    have hmem : ∀ c ∈ name.toList, c ∈ name.toList.takeWhile (fun d => !isBlank d) ∧ c ≠ '(' := by
      intro c hc
      apply of_mem_keptName
      rwa [hkept]
    have hblank : ∀ c ∈ name.toList, (!isBlank c) = true :=
      fun c hc => List.mem_takeWhile_imp (p := fun d => !isBlank d) (hmem c hc).1
    -- so the whole name is its first word, and no bracket cuts it off
    have hword : name.toList.takeWhile (fun d => !isBlank d) = name.toList :=
      List.takeWhile_eq_self_iff.2 hblank
    have hwhole : doubleBackticks (trimChar '\x60' name.toList) = name.toList := by
      have hnone : '(' ∉ doubleBackticks (trimChar '\x60' name.toList) :=
        fun hc => (hmem _ (mem_of_mem_trimChar (mem_doubleBackticks.1 hc))).2 rfl
      have hname := toList_keptName name
      rw [hkept, hword, takeWhile_ne_of_notMem hnone] at hname
      exact hname.symm
    refine ⟨?_, doubleBackticks_trimChar_eq_self_iff.1 hwhole, fun hc => (hmem _ hc).2 rfl⟩
    intro c hc
    simpa using hblank c hc
  · exact keptName_of_plain

end Catalog

/-! ## Ensuring a database twice -/

/-- The database is found, no other one has come, and ensuring it once more only selects it. -/
structure KeepsDatabase (name : String) (before after : Catalog) : Prop where
  found : ((Introspector.ofBackend backend).databaseExists name after).result = .ok true
  others : ∀ other ∈ after.databases, other = name ∨ other ∈ before.databases
  again : (ensureDatabase backend name after).result = .ok false
  sent : (ensureDatabase backend name after).state.executed = after.executed ++ [useDatabase name]

/-- The database is not found, and ensuring it once more creates it once more. -/
structure LosesDatabase (name : String) (after : Catalog) : Prop where
  missing : ((Introspector.ofBackend backend).databaseExists name after).result = .ok false
  again : (ensureDatabase backend name after).result = .ok true
  sent : (ensureDatabase backend name after).state.executed =
    after.executed ++ [createDatabase name, useDatabase name]

namespace Catalog

variable {name : String} {before after : Catalog}

/-- A question for a database, where no query is set to fail. -/
theorem databaseExists_catalog (name : String) (hq : after.failingQueries = none) :
    ((Introspector.ofBackend backend).databaseExists name after).result =
      .ok (decide (name ∈ after.databases)) :=
  anyRow_catalog "database" databaseQuery name (answer_databaseQuery hq [.text name])

theorem keepsDatabase_of_mem (hs : after.failingStatement = none)
    (hq : after.failingQueries = none)
    (hothers : ∀ other ∈ after.databases, other = name ∨ other ∈ before.databases)
    (hmem : name ∈ after.databases) : KeepsDatabase name before after := by
  obtain ⟨hresult, hstate⟩ := ensureDatabase_catalog name hs hq
  refine ⟨?_, hothers, ?_, ?_⟩
  · rw [databaseExists_catalog name hq, decide_eq_true hmem]
  · rw [hresult, decide_eq_true hmem, Bool.not_true]
  · rw [hstate, if_pos hmem, List.append_nil]

theorem losesDatabase_of_notMem (hs : after.failingStatement = none)
    (hq : after.failingQueries = none) (hmem : name ∉ after.databases) :
    LosesDatabase name after := by
  obtain ⟨hresult, hstate⟩ := ensureDatabase_catalog name hs hq
  refine ⟨?_, ?_, ?_⟩
  · rw [databaseExists_catalog name hq, decide_eq_false hmem]
  · rw [hresult, decide_eq_false hmem, Bool.not_false]
  · rw [hstate, if_neg hmem, List.append_assoc, List.singleton_append]

/-- A database that has been ensured is there if it was there before, or is kept as it is. -/
theorem mem_ensured_iff (databases : List String) :
    name ∈ ensured name databases ↔ name ∈ databases ∨ Sql.IsPlainDatabase name := by
  rw [← keptName_eq_self_iff]
  unfold ensured
  by_cases hmem : name ∈ databases
  · simp [hmem]
  · rw [if_neg hmem, mem_addName]
    exact ⟨fun h => .inr ((h.resolve_right hmem).symm), fun h => .inl (h.resolve_left hmem).symm⟩

end Catalog

/-- Where nothing is set to fail, ensuring a database says whether it was missing, and adds at most
the kept name to the databases. The database is there for a second call exactly when it was there
before the first one or its name has no blank, no backtick and no opening bracket. -/
theorem ensureDatabase_keeps (name : String) {c : Catalog} (hs : c.failingStatement = none)
    (hq : c.failingQueries = none) :
    let first := ensureDatabase backend name c
    first.result = .ok (!decide (name ∈ c.databases)) ∧
    first.state.databases =
      (if name ∈ c.databases then c.databases
        else Catalog.addName (Catalog.keptName name) c.databases) ∧
    (KeepsDatabase name c first.state ↔ name ∈ c.databases ∨ Sql.IsPlainDatabase name) ∧
    (LosesDatabase name first.state ↔ name ∉ c.databases ∧ ¬ Sql.IsPlainDatabase name) := by
  intro first
  obtain ⟨hresult, hstate⟩ := Catalog.ensureDatabase_catalog name hs hq
  have hdatabases : first.state.databases = Catalog.ensured name c.databases := by
    rw [hstate]
  have hs' : first.state.failingStatement = none := by
    rw [hstate]
    exact hs
  have hq' : first.state.failingQueries = none := by
    rw [hstate]
    exact hq
  have hmem : name ∈ first.state.databases ↔ name ∈ c.databases ∨ Sql.IsPlainDatabase name := by
    rw [hdatabases]
    exact Catalog.mem_ensured_iff c.databases
  refine ⟨hresult, hdatabases, ?_, ?_⟩
  · constructor
    · intro hkeeps
      have hfound := hkeeps.found
      rw [Catalog.databaseExists_catalog name hq'] at hfound
      exact hmem.1 (of_decide_eq_true (Except.ok.inj hfound))
    · intro h
      refine Catalog.keepsDatabase_of_mem hs' hq' ?_ (hmem.2 h)
      intro other hother
      rw [hdatabases, Catalog.ensured] at hother
      split at hother
      · exact .inr hother
      · next hmissing =>
        rw [Catalog.keptName_of_plain (h.resolve_left hmissing)] at hother
        exact Catalog.mem_addName.1 hother
  · rw [← not_or, ← hmem]
    constructor
    · intro hloses
      have hmissing := hloses.missing
      rw [Catalog.databaseExists_catalog name hq'] at hmissing
      exact of_decide_eq_false (Except.ok.inj hmissing)
    · exact Catalog.losesDatabase_of_notMem hs' hq'

/-- The database `shop-2` is there for a second call. -/
theorem hyphenDatabase_kept :
    let c : Catalog := { databases := ["other"] }
    let first := ensureDatabase backend "shop-2" c
    (c.failingStatement = none ∧ c.failingQueries = none) ∧
    first.result = .ok true ∧ KeepsDatabase "shop-2" c first.state := by
  intro c first
  have hplain : Sql.IsPlainDatabase "shop-2" := by decide
  obtain ⟨hresult, -, hkeeps, -⟩ := ensureDatabase_keeps "shop-2" (c := c) rfl rfl
  exact ⟨⟨rfl, rfl⟩, hresult, hkeeps.2 (.inr hplain)⟩

/-- A name with a backtick is written as `quoteIdentifier` writes it, and the catalog keeps both
backticks of it. So it does not find the database, and a second call creates it again. -/
theorem weirdDatabase_createdTwice :
    let c : Catalog := {}
    let first := ensureDatabase backend "we\x60ird" c
    (c.failingStatement = none ∧ c.failingQueries = none ∧
      Text.isBlankText "we\x60ird" = false) ∧
    first.result = .ok true ∧ first.state.databases = ["we\x60\x60ird"] ∧
    LosesDatabase "we\x60ird" first.state ∧ ¬ KeepsDatabase "we\x60ird" c first.state := by
  intro c first
  have hquoted : ¬ Sql.IsPlainDatabase "we\x60ird" := by decide
  have hmissing : "we\x60ird" ∉ c.databases := List.not_mem_nil
  obtain ⟨hresult, hdatabases, hkeeps, hloses⟩ :=
    ensureDatabase_keeps "we\x60ird" (c := c) rfl rfl
  refine ⟨⟨rfl, rfl, by decide⟩, hresult, ?_, hloses.2 ⟨hmissing, hquoted⟩, ?_⟩
  · rw [hdatabases]
    decide
  · intro h
    exact (hkeeps.1 h).elim hmissing hquoted

end SchemaMigration
