import SchemaMigration.Proofs.ByteOrder
import SchemaMigration.Proofs.CatalogRun

/-!
# The version that a catalog answers with

The question for the versions is none of the look-ups, and what follows its first words is the name
of the table. So a catalog answers it with the versions of its rows, if it has the table, and the
greatest of them is the current version:

> `currentVersion_catalog`: the answer to the question for the current version.
> `currentVersion_ok`: any version that is answered is the latest one of the rows.
> `isCurrent_latest`: the latest version is the greatest one by the order of bytes.
-/

namespace SchemaMigration

/-! ## Search and trimming -/

namespace Text

theorem after?_append (start rest : List Char) : after? start (start ++ rest) = some rest := by
  rw [after?, if_pos (List.isPrefixOf_iff_prefix.2 (List.prefix_append start rest)),
    List.drop_left]

/-- What follows a leading text is the rest of a text that starts with it. -/
theorem after?_eq_some_iff {start s rest : List Char} :
    after? start s = some rest ↔ s = start ++ rest := by
  refine ⟨fun h => ?_, fun h => h ▸ after?_append start rest⟩
  unfold after? at h
  split at h
  · next hstart =>
    obtain ⟨rest', rfl⟩ := List.isPrefixOf_iff_prefix.1 hstart
    rw [List.drop_left, Option.some.injEq] at h
    rw [h]
  · cases h

/-- There is nothing to trim where nothing is blank. -/
theorem trim_of_none {s : List Char} (h : ∀ c ∈ s, isBlank c = false) : trim s = s := by
  rw [trim, dropWhile_of_none h, dropWhile_of_none fun c hc => h c (List.mem_reverse.1 hc),
    List.reverse_reverse]

end Text

/-! ## The question for the versions -/

namespace Catalog

open Session

theorem selectVersions_ne {query : String} (table : String)
    (h : query.toList.take 8 ≠ "SELECT v".toList) : selectVersions table ≠ query := by
  rintro rfl
  apply h
  have hsplit : (selectVersions table).toList =
      "SELECT v".toList ++ ("ersion FROM ".toList ++ table.toList) := by
    unfold selectVersions
    simp
  rw [hsplit]
  exact List.take_left' rfl

theorem selectVersions_ne_databaseQuery (table : String) : selectVersions table ≠ databaseQuery :=
  selectVersions_ne table (by decide)

theorem selectVersions_ne_tableQuery (table : String) : selectVersions table ≠ tableQuery :=
  selectVersions_ne table (by decide)

theorem selectVersions_ne_constraintQuery (table : String) :
    selectVersions table ≠ constraintQuery := by
  apply selectVersions_ne
  unfold constraintQuery
  rw [String.toList_append, List.take_append_of_le_length (by decide)]
  decide

/-! ## The answer -/

variable {c : Catalog} {table : String}

/-- A catalog whose queries do not fail answers with the versions of its rows, if it has the
table. -/
theorem answer_selectVersions (hq : c.failingQueries = none)
    (ht : Sql.isPlainIdentifier table = true) :
    c.answer (selectVersions table) [] =
      if table ∈ c.tables then .ok (c.versions.map (·.version))
      else .error (missingTable table) := by
  have hchars : (selectVersions table).toList = "SELECT version FROM ".toList ++ table.toList :=
    String.toList_append
  have hrest : Text.after? "SELECT version FROM ".toList (selectVersions table).toList =
      some table.toList := hchars ▸ Text.after?_append _ _
  have htrim : Text.trim table.toList = table.toList :=
    Text.trim_of_none fun ch hch => Sql.not_isBlank_of_isPlainChar (Sql.isPlainChar_of_mem ht hch)
  unfold answer
  rw [hq]
  -- it is none of the look-ups, so the name after the first words decides
  refine (if_neg (selectVersions_ne_databaseQuery table)).trans
    ((if_neg (selectVersions_ne_tableQuery table)).trans
      ((if_neg (selectVersions_ne_constraintQuery table)).trans ?_))
  simp only [hrest, htrim, String.ofList_toList]

theorem appliedVersions_catalog (c : Catalog) (ht : Sql.isPlainIdentifier table = true) :
    (appliedVersions backend table c).result =
      (c.answer (selectVersions table) []).mapError .backend := by
  rw [appliedVersions, checkTable_ok ht, bind_of_ok (ofExcept_apply _ _)]
  rfl

theorem appliedVersions_state (table : String) (c : Catalog) :
    (appliedVersions backend table c).state = c := by
  rw [appliedVersions]
  cases checkTable table with
  | error e => rw [bind_of_error (ofExcept_apply _ _)]
  | ok _ =>
    rw [bind_of_ok (ofExcept_apply _ _)]
    rfl

/-- Asking for the version changes nothing. -/
theorem currentVersion_state (table : String) (c : Catalog) :
    (currentVersion backend table c).state = c := by
  rw [currentVersion]
  rcases bind_cases (appliedVersions backend table)
      (fun versions => pure (Version.latest versions)) c with ⟨e, -, -, hs⟩ | ⟨a, -, -, hs⟩
  · exact hs.trans (appliedVersions_state table c)
  · exact hs.trans (appliedVersions_state table c)

/-- The catalog answers with the latest of its versions, if it has the table. -/
theorem currentVersion_catalog (hq : c.failingQueries = none)
    (ht : Sql.isPlainIdentifier table = true) :
    (currentVersion backend table c).result =
      if table ∈ c.tables then .ok (Version.latest (c.versions.map (·.version)))
      else .error (.backend (missingTable table)) := by
  have happlied := appliedVersions_catalog c ht
  rw [answer_selectVersions hq ht] at happlied
  rw [currentVersion]
  by_cases hmem : table ∈ c.tables
  · rw [if_pos hmem] at happlied ⊢
    rw [bind_ok happlied]
    rfl
  · rw [if_neg hmem] at happlied ⊢
    rw [bind_error happlied]

/-- The version that a catalog answers with is the latest one of its rows. -/
theorem currentVersion_ok {current : String}
    (h : (currentVersion backend table c).result = .ok current) :
    current = Version.latest (c.versions.map (·.version)) := by
  cases ht : Sql.isPlainIdentifier table with
  | false =>
    rw [currentVersion, appliedVersions, checkTable_error ht, bind_assoc,
      bind_of_error (ofExcept_apply _ _)] at h
    cases h
  | true =>
    cases hq : c.failingQueries with
    | some message =>
      have hfails : c.answer (selectVersions table) [] = .error (.ofMessage message) := by
        unfold answer
        rw [hq]
      have happlied := appliedVersions_catalog c ht
      rw [hfails] at happlied
      rw [currentVersion, bind_error happlied] at h
      cases h
    | none =>
      rw [currentVersion_catalog hq ht] at h
      split at h
      · cases h
        rfl
      · cases h

/-! ## The greatest version -/

/-- The version that some rows make: the greatest one by the order of bytes, or zero if there are
no rows. -/
def IsCurrent (rows : List VersionRow) (v : String) : Prop :=
  (rows = [] ∧ v = "0") ∨
  (v ∈ rows.map (·.version) ∧ ∀ row ∈ rows, Text.bytes row.version ≤ Text.bytes v)

theorem isCurrent_latest (rows : List VersionRow) :
    IsCurrent rows (Version.latest (rows.map (·.version))) := by
  cases rows with
  | nil => exact .inl ⟨rfl, rfl⟩
  | cons row rest =>
    refine .inr ⟨Version.latest_mem (by simp), fun row' hrow => ?_⟩
    exact Text.bytes_le_iff.2 (Version.le_latest (List.mem_map_of_mem hrow))

end Catalog

end SchemaMigration
