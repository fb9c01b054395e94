import Mathlib.Data.List.TakeWhile
import SchemaMigration.Catalog.Basic
import SchemaMigration.Proofs.Wording
import SchemaMigration.Version.Table

/-!
# What statements do to the catalog

The catalog reads a statement as its words. Around names that are plain identifiers the words of a
statement are known, whatever stands in the parts after them, and so is its effect:

> `effectOf_dropForeignKey`, `effectOf_addForeignKey`: the foreign key that is named goes or comes.
> `effectOf_dropColumn`, `effectOf_addColumn`, `effectOf_modifyColumn`: nothing that is catalogued.
> `effectOf_insertVersion`: a version row, if the statement has the parameters for one.
-/

namespace SchemaMigration

/-! ## Words -/

namespace Text

/-- A text without blanks that is not empty. -/
structure IsWord (w : List Char) : Prop where
  ne_nil : w ≠ []
  not_blank : ∀ c ∈ w, isBlank c = false

theorem dropWhile_of_none {p : Char → Bool} {s : List Char} (h : ∀ c ∈ s, p c = false) :
    s.dropWhile p = s := by
  cases s with
  | nil => rfl
  | cons c s => exact List.dropWhile_cons_of_neg (by simp [h c List.mem_cons_self])

/-- A character that is not there cuts nothing off. -/
theorem takeWhile_ne_of_notMem {b : Char} {s : List Char} (h : b ∉ s) :
    s.takeWhile (· != b) = s := by
  rw [List.takeWhile_eq_self_iff]
  intro c hc
  exact bne_iff_ne.2 fun hb => h (hb ▸ hc)

/-- A word is its only word. -/
theorem words_of_isWord {w : List Char} (h : IsWord w) : words w = [w] := by
  rw [words, pieces_of_none h.not_blank]
  simp [h.ne_nil]

/-- The first blank ends the first word. -/
theorem words_append_space {w : List Char} (rest : List Char) (h : IsWord w) :
    words (w ++ ' ' :: rest) = w :: words rest := by
  rw [words, pieces_append_cons w rest (by decide), pieces_of_none h.not_blank]
  simp [h.ne_nil, words]

/-- Words before a text, each followed by a blank. -/
def spaced (ws : List String) (rest : List Char) : List Char :=
  ws.foldr (fun w tail => w.toList ++ ' ' :: tail) rest

theorem words_spaced {ws : List String} (h : ∀ w ∈ ws, IsWord w.toList) (rest : List Char) :
    words (spaced ws rest) = ws.map String.toList ++ words rest := by
  induction ws with
  | nil => rfl
  | cons w ws ih =>
    show words (w.toList ++ ' ' :: spaced ws rest) = _
    rw [words_append_space _ (h w List.mem_cons_self),
      ih fun v hv => h v (List.mem_cons_of_mem _ hv)]
    rfl

end Text

/-! ## Plain identifiers -/

namespace Sql

theorem not_isBlank_of_isPlainChar {c : Char} (h : isPlainChar c = true) :
    Text.isBlank c = false := by
  have hc := toNat_of_isPlainChar h
  simp only [Text.isBlank, Text.inRanges, Text.blankRanges, List.any_cons, List.any_nil,
    Bool.or_false, Bool.or_eq_false_iff, Bool.and_eq_false_iff, decide_eq_false_iff_not]
  omega

theorem isWord_of_plain {name : String} (h : isPlainIdentifier name = true) :
    Text.IsWord name.toList where
  ne_nil := by
    rw [isPlainIdentifier, Bool.and_eq_true] at h
    intro hn
    rw [hn] at h
    cases h.1
  not_blank := fun _ hc => not_isBlank_of_isPlainChar (isPlainChar_of_mem h hc)

end Sql

namespace Catalog

open Text

/-- A plain identifier is the name that it writes. -/
theorem nameOfWord_plain {name : String} (h : Sql.isPlainIdentifier name = true) :
    nameOfWord name.toList = name := by
  have hbacktick : '\x60' ∉ name.toList :=
    fun hc => absurd (Sql.isPlainChar_of_mem h hc) (by decide)
  have hbracket : '(' ∉ name.toList :=
    fun hc => absurd (Sql.isPlainChar_of_mem h hc) (by decide)
  rw [nameOfWord, trimChar_of_notMem hbacktick, takeWhile_ne_of_notMem hbracket,
    String.ofList_toList]

/-! ## Effects -/

/-- The words around the names in the statements below. -/
theorem isWord_of_keyword : ∀ w ∈ ["ALTER", "TABLE", "DROP", "FOREIGN", "KEY", "ADD", "CONSTRAINT",
    "MODIFY", "COLUMN", "INSERT", "INTO", "(version,", "created)", "CREATE", "DATABASE", "USE"],
    IsWord w.toList := by
  have hall : ["ALTER", "TABLE", "DROP", "FOREIGN", "KEY", "ADD", "CONSTRAINT", "MODIFY", "COLUMN",
      "INSERT", "INTO", "(version,", "created)", "CREATE", "DATABASE", "USE"].all
      (fun w => !w.toList.isEmpty && w.toList.all fun c => !isBlank c) = true := by decide
  intro w hw
  have h := List.all_eq_true.1 hall w hw
  rw [Bool.and_eq_true, List.all_eq_true] at h
  constructor
  · intro hn
    rw [hn] at h
    cases h.1
  · intro c hc
    simpa using h.2 c hc

/-- A foreign key with a plain name is dropped under that name. -/
theorem effectOf_dropForeignKey {table name : String} (ht : Sql.isPlainIdentifier table = true)
    (hn : Sql.isPlainIdentifier name = true) :
    effectOf (Wording.dropForeignKey table name) = .dropConstraint name := by
  have hsql : (Wording.dropForeignKey table name).toList =
      spaced ["ALTER", "TABLE", table, "DROP", "FOREIGN", "KEY"] name.toList := by
    unfold Wording.dropForeignKey Wording.phrase
    simp [spaced]
  have hspaced : ∀ w ∈ ["ALTER", "TABLE", table, "DROP", "FOREIGN", "KEY"], IsWord w.toList := by
    simp [-String.reduceToList, isWord_of_keyword, Sql.isWord_of_plain ht]
  rw [effectOf, hsql, words_spaced hspaced, words_of_isWord (Sql.isWord_of_plain hn)]
  simp [-String.reduceToList, effectOfWords, named, nameOfWord_plain hn]

/-- A foreign key with a plain name is added under that name, whatever its definition is. -/
theorem effectOf_addForeignKey {table : String} {con : Constraint}
    (ht : Sql.isPlainIdentifier table = true) (hn : Sql.isPlainIdentifier con.name = true) :
    effectOf (Wording.addForeignKey table con) = .addConstraint con.name := by
  have hsql : (Wording.addForeignKey table con).toList =
      spaced ["ALTER", "TABLE", table, "ADD", "CONSTRAINT", con.name, "FOREIGN", "KEY"]
        (Wording.definition con).toList := by
    unfold Wording.addForeignKey Wording.foreignKey Wording.phrase
    simp [spaced]
  have hspaced : ∀ w ∈ ["ALTER", "TABLE", table, "ADD", "CONSTRAINT", con.name, "FOREIGN", "KEY"],
      IsWord w.toList := by
    simp [-String.reduceToList, isWord_of_keyword, Sql.isWord_of_plain ht, Sql.isWord_of_plain hn]
  rw [effectOf, hsql, words_spaced hspaced]
  simp [-String.reduceToList, effectOfWords, named, nameOfWord_plain hn]

/-- A change of columns: the word after its keyword is no `CONSTRAINT` and no `FOREIGN`. -/
theorem effectOf_alterColumn {table sql : String} (keyword : String) (rest : List Char)
    (ht : Sql.isPlainIdentifier table = true) (hk : IsWord keyword.toList)
    (hsql : sql.toList = spaced ["ALTER", "TABLE", table, keyword, "COLUMN"] rest) :
    effectOf sql = .nothing := by
  have hspaced : ∀ w ∈ ["ALTER", "TABLE", table, keyword, "COLUMN"], IsWord w.toList := by
    simp [-String.reduceToList, isWord_of_keyword, Sql.isWord_of_plain ht, hk]
  rw [effectOf, hsql, words_spaced hspaced]
  simp [-String.reduceToList, effectOfWords]

theorem effectOf_dropColumn {table : String} (column : String)
    (ht : Sql.isPlainIdentifier table = true) :
    effectOf (Wording.dropColumn table column) = .nothing := by
  refine effectOf_alterColumn "DROP" column.toList ht (isWord_of_keyword _ (by simp)) ?_
  unfold Wording.dropColumn Wording.phrase
  simp [spaced]

theorem effectOf_addColumn {table : String} (column : Column)
    (ht : Sql.isPlainIdentifier table = true) :
    effectOf (Wording.addColumn table column) = .nothing := by
  refine effectOf_alterColumn "ADD" (Wording.column column).toList ht
    (isWord_of_keyword _ (by simp)) ?_
  unfold Wording.addColumn Wording.phrase
  simp [spaced]

theorem effectOf_modifyColumn {table : String} (column : Column)
    (ht : Sql.isPlainIdentifier table = true) :
    effectOf (Wording.modifyColumn table column) = .nothing := by
  refine effectOf_alterColumn "MODIFY" (Wording.column column).toList ht
    (isWord_of_keyword _ (by simp)) ?_
  unfold Wording.modifyColumn Wording.phrase
  simp [spaced]

/-! ## Statements of the version table -/

/-- The statement that records a version is shaped like one that adds a version row. -/
theorem effectOf_insertVersion {table : String} (ht : Sql.isPlainIdentifier table = true) :
    effectOf (insertVersion table) = .insertVersion := by
  have hsql : (insertVersion table).toList =
      spaced ["INSERT", "INTO", table, "(version,", "created)"] "VALUES (?, ?)".toList := by
    unfold insertVersion
    simp [spaced]
  have hspaced : ∀ w ∈ ["INSERT", "INTO", table, "(version,", "created)"], IsWord w.toList := by
    simp [-String.reduceToList, isWord_of_keyword, Sql.isWord_of_plain ht]
  rw [effectOf, hsql, words_spaced hspaced]
  simp [-String.reduceToList, effectOfWords]

end Catalog

end SchemaMigration
