import SchemaMigration.Proofs.CatalogRun
import SchemaMigration.Proofs.QuotedNames

/-!
# Preparing a catalog

A database name without blanks, backticks and opening brackets is one word between its backticks, so
the catalog keeps the database under its own name:

> `keptName_of_plain`: such a name is kept as it is.
> `effectOf_useDatabase`, `effectOf_createVersionTable`: the other statements that prepare a
> catalog.

Where nothing is set to fail, preparing succeeds. What is missing is there afterwards, and nothing
else has changed:

> `ensureDatabase_catalog`: the catalog that ensuring a database leaves, for any name.
> `prepare_catalog`: the catalog that preparing leaves.
-/

namespace SchemaMigration

open Session

/-- A database name that needs its backticks for nothing. -/
structure Sql.IsPlainDatabase (name : String) : Prop where
  not_blank : ∀ c ∈ name.toList, Text.isBlank c = false
  no_backtick : '\x60' ∉ name.toList
  no_bracket : '(' ∉ name.toList

namespace Sql

theorem isPlainDatabase_iff_all (name : String) :
    (name.toList.all fun c => !Text.isBlank c && (c != '\x60' && c != '(')) = true ↔
      IsPlainDatabase name := by
  simp only [List.all_eq_true, Bool.and_eq_true, Bool.not_eq_true', bne_iff_ne]
  constructor
  · intro h
    exact ⟨fun c hc => (h c hc).1, fun hc => (h _ hc).2.1 rfl, fun hc => (h _ hc).2.2 rfl⟩
  · intro h c hc
    exact ⟨h.not_blank c hc, fun hq => h.no_backtick (hq ▸ hc), fun hb => h.no_bracket (hb ▸ hc)⟩

instance (name : String) : Decidable (IsPlainDatabase name) :=
  decidable_of_iff _ (isPlainDatabase_iff_all name)

/-- A plain identifier needs its backticks for nothing. -/
theorem isPlainDatabase_of_plain {name : String} (h : isPlainIdentifier name = true) :
    IsPlainDatabase name where
  not_blank := (isWord_of_plain h).not_blank
  no_backtick := fun hc => absurd (isPlainChar_of_mem h hc) (by decide)
  no_bracket := fun hc => absurd (isPlainChar_of_mem h hc) (by decide)

end Sql

namespace Catalog

open Text

/-- A database that needs its backticks for nothing is kept under its own name. -/
theorem keptName_of_plain {name : String} (h : Sql.IsPlainDatabase name) :
    keptName name = name := by
  have hword : name.toList.takeWhile (fun c => !isBlank c) = name.toList := by
    rw [List.takeWhile_eq_self_iff]
    intro c hc
    simp [h.not_blank c hc]
  simp only [keptName, hword, trimChar_of_notMem h.no_backtick,
    Sql.doubleBackticks_eq_self_iff.2 h.no_backtick, takeWhile_ne_of_notMem h.no_bracket,
    String.ofList_toList]

/-! ## The statements -/

/-- Such a database is selected by its own name. -/
theorem useDatabase_of_plain {name : String} (h : Sql.IsPlainDatabase name) :
    useDatabase name = "USE \x60" ++ name ++ "\x60" := by
  have hquoted : Sql.quoteIdentifier name = "\x60" ++ name ++ "\x60" := by
    rw [Sql.quoteIdentifier, Sql.doubleBackticks_eq_self_iff.2 h.no_backtick]
    simp [← String.toList_inj]
  rw [useDatabase, hquoted, ← String.append_assoc, ← String.append_assoc]
  rfl

/-- Selecting a database changes nothing that is catalogued, whatever its name is. -/
theorem effectOf_useDatabase (name : String) : effectOf (useDatabase name) = .nothing := by
  have hsql : (useDatabase name).toList = spaced ["USE"] (Sql.quoteIdentifier name).toList := by
    unfold useDatabase
    simp [spaced]
  have hspaced : ∀ w ∈ ["USE"], IsWord w.toList := by
    simp [-String.reduceToList, isWord_of_keyword]
  rw [effectOf, hsql, words_spaced hspaced]
  cases words (Sql.quoteIdentifier name).toList with
  | nil => rfl
  | cons second rest => simp [-String.reduceToList, effectOfWords]

/-- The version table is created under its own name. -/
theorem effectOf_createVersionTable {table : String} (h : Sql.isPlainIdentifier table = true) :
    effectOf (createVersionTable table) = .createTable table := by
  have hsql : (createVersionTable table).toList = spaced ["CREATE", "TABLE", table]
      "(version VARCHAR(14) NOT NULL, created BIGINT NOT NULL)".toList := by
    unfold createVersionTable
    simp [spaced]
  have hspaced : ∀ w ∈ ["CREATE", "TABLE", table], IsWord w.toList := by
    simp [-String.reduceToList, isWord_of_keyword, Sql.isWord_of_plain h]
  rw [effectOf, hsql, words_spaced hspaced]
  simp [-String.reduceToList, effectOfWords, named, nameOfWord_plain h]

theorem after_createDatabase (name : String) (c : Catalog) :
    c.after (createDatabase name) =
      { c with
        databases := addName (keptName name) c.databases
        executed := c.executed ++ [createDatabase name] } := by
  unfold after
  rw [effectOf_createDatabase]
  rfl

theorem after_useDatabase (name : String) (c : Catalog) :
    c.after (useDatabase name) = { c with executed := c.executed ++ [useDatabase name] } := by
  unfold after
  rw [effectOf_useDatabase]
  rfl

theorem after_createVersionTable {table : String} (h : Sql.isPlainIdentifier table = true)
    (c : Catalog) :
    c.after (createVersionTable table) =
      { c with
        tables := addName table c.tables
        executed := c.executed ++ [createVersionTable table] } := by
  unfold after
  rw [effectOf_createVersionTable h]
  rfl

/-! ## Preparing -/

/-- A statement without parameters, where no statement is set to fail. -/
theorem execute_catalog {c : Catalog} (hs : c.failingStatement = none) (sql : String) :
    SchemaMigration.execute backend sql [] c = ⟨.ok 0, c.after sql, []⟩ := by
  rcases run_backend c sql with ⟨hr, -⟩ | ⟨message, -, hf⟩
  · unfold SchemaMigration.execute mapError
    rw [hr]
    rfl
  · rw [failureOf_eq_none hs] at hf
    cases hf

theorem execute_pure_catalog {α : Type} {c : Catalog} (hs : c.failingStatement = none)
    (sql : String) (a : α) :
    (SchemaMigration.execute backend sql [] >>= fun _ => pure a) c = ⟨.ok a, c.after sql, []⟩ := by
  rw [bind_of_ok (execute_catalog hs sql)]
  rfl

/-- A question for a name, where no query is set to fail. -/
theorem found_catalog {c : Catalog} {names : List String} (noun sql name : String)
    (h : c.answer sql [.text name] = .ok (matching names [.text name])) :
    let found := mapError MigrationError.backend (Introspector.anyRow backend noun sql name) c
    found.result = .ok (decide (name ∈ names)) ∧ found.state = c := by
  intro found
  refine ⟨?_, anyRow_state backend noun sql name c⟩
  simp only [found, mapError_result, anyRow_catalog noun sql name h]
  rfl

variable {c : Catalog} {settings : Settings}

/-- The databases after ensuring one: one that was missing is kept under its kept name. -/
def ensured (name : String) (databases : List String) : List String :=
  if name ∈ databases then databases else addName (keptName name) databases

theorem ensured_of_plain {name : String} (h : Sql.IsPlainDatabase name) (databases : List String) :
    ensured name databases = addName name databases := by
  unfold ensured
  rw [keptName_of_plain h]
  by_cases hmem : name ∈ databases
  · exact (if_pos hmem).trans (if_pos hmem).symm
  · exact if_neg hmem

/-- A database that is missing is created, and in any case it is selected. -/
theorem ensureDatabase_catalog (name : String) (hs : c.failingStatement = none)
    (hq : c.failingQueries = none) :
    let ensuring := ensureDatabase backend name c
    ensuring.result = .ok (!decide (name ∈ c.databases)) ∧
    ensuring.state =
      { c with
        databases := ensured name c.databases
        executed := c.executed ++ (if name ∈ c.databases then [] else [createDatabase name]) ++
          [useDatabase name] } := by
  intro ensuring
  obtain ⟨hfound, hstate⟩ : (mapError MigrationError.backend
        ((Introspector.ofBackend backend).databaseExists name) c).result =
          .ok (decide (name ∈ c.databases)) ∧
      (mapError MigrationError.backend
        ((Introspector.ofBackend backend).databaseExists name) c).state = c :=
    found_catalog "database" databaseQuery name (answer_databaseQuery hq [.text name])
  simp only [ensuring, ensureDatabase]
  rw [bind_ok hfound, hstate]
  by_cases hmem : name ∈ c.databases
  · have hsame : ensured name c.databases = c.databases := if_pos hmem
    rw [decide_eq_true hmem, if_pos hmem, hsame, List.append_nil]
    simp only
    rw [bind_of_ok (note_apply _ _ c), execute_pure_catalog hs, after_useDatabase]
    exact ⟨rfl, rfl⟩
  · have hs' : (c.after (createDatabase name)).failingStatement = none :=
      (sameRows_after c _).failingStatement.trans hs
    have hadded : ensured name c.databases = addName (keptName name) c.databases := if_neg hmem
    rw [decide_eq_false hmem, if_neg hmem, hadded]
    simp only
    rw [bind_of_ok (note_apply _ _ c), bind_of_ok (execute_catalog hs _),
      execute_pure_catalog hs', after_useDatabase, after_createDatabase]
    exact ⟨rfl, rfl⟩

/-- A version table that is missing is created. -/
theorem ensureVersionTable_catalog {table : String} (hs : c.failingStatement = none)
    (hq : c.failingQueries = none) (h : Sql.isPlainIdentifier table = true) :
    let ensured := ensureVersionTable backend table c
    ensured.result = .ok (!decide (table ∈ c.tables)) ∧
    ensured.state =
      { c with
        tables := addName table c.tables
        executed := c.executed ++
          (if table ∈ c.tables then [] else [createVersionTable table]) } := by
  intro ensured
  obtain ⟨hfound, hstate⟩ : (mapError MigrationError.backend
        ((Introspector.ofBackend backend).tableExists table) c).result =
          .ok (decide (table ∈ c.tables)) ∧
      (mapError MigrationError.backend
        ((Introspector.ofBackend backend).tableExists table) c).state = c :=
    found_catalog "table" tableQuery table (answer_tableQuery hq [.text table])
  simp only [ensured, ensureVersionTable, checkTable_ok h]
  rw [bind_of_ok (ofExcept_apply _ _), bind_ok hfound, hstate]
  by_cases hmem : table ∈ c.tables
  · have hsame : addName table c.tables = c.tables := if_pos hmem
    rw [decide_eq_true hmem, if_pos hmem, hsame, List.append_nil]
    simp only
    rw [bind_of_ok (note_apply _ _ c)]
    exact ⟨rfl, rfl⟩
  · rw [decide_eq_false hmem, if_neg hmem]
    simp only
    rw [bind_of_ok (note_apply _ _ c), execute_pure_catalog hs, after_createVersionTable h]
    exact ⟨rfl, rfl⟩

/-- What preparing sends. -/
def preparation (settings : Settings) (c : Catalog) : List String :=
  (if settings.descriptor.database ∈ c.databases then []
    else [createDatabase settings.descriptor.database]) ++
  [useDatabase settings.descriptor.database] ++
  (if settings.versionTable ∈ c.tables then [] else [createVersionTable settings.versionTable])

/-- The catalog after preparing: what was missing is there, and nothing else is new. -/
def prepared (settings : Settings) (c : Catalog) : Catalog :=
  { c with
    databases := addName settings.descriptor.database c.databases
    tables := addName settings.versionTable c.tables
    executed := c.executed ++ c.preparation settings }

/-- Where nothing is set to fail, preparing succeeds. -/
theorem prepare_catalog (hs : c.failingStatement = none) (hq : c.failingQueries = none)
    (hd : Sql.IsPlainDatabase settings.descriptor.database)
    (ht : Sql.isPlainIdentifier settings.versionTable = true) :
    (prepare backend settings c).result = .ok () ∧
    (prepare backend settings c).state = c.prepared settings := by
  obtain ⟨hdatabase, hafter⟩ := ensureDatabase_catalog settings.descriptor.database hs hq
  rw [ensured_of_plain hd] at hafter
  unfold prepare
  rw [checkTable_ok ht, bind_of_ok (ofExcept_apply _ _), bind_ok hdatabase, hafter]
  simp only
  -- the table is looked for in the catalog that the first half leaves
  obtain ⟨htable, hlast⟩ := ensureVersionTable_catalog
    (c := (ensureDatabase backend settings.descriptor.database c).state) (by rw [hafter]; exact hs)
    (by rw [hafter]; exact hq) ht
  rw [hafter] at htable hlast
  rw [bind_ok htable, hlast]
  refine ⟨rfl, ?_⟩
  simp only [prepared, preparation, List.append_assoc]
  rfl

end Catalog

end SchemaMigration
