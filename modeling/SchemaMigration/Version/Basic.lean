import SchemaMigration.Error
import SchemaMigration.Text.Blank

/-!
# Versions

A version is an opaque text that sorts by the order of its code points, which is also the order of
its bytes. A schema without any applied migration has the version `0` (§4.4 of the driftwood
specification).

> `le_latest`, `latest_mem`: the latest version is the greatest of a non-empty list.
-/

namespace SchemaMigration

/-- One applied migration: its version, and when it was recorded, in milliseconds since 1970. -/
structure VersionRow where
  version : String
  created : Int
deriving DecidableEq, Repr

namespace Version

/-- The version of a schema without any applied migration. -/
def zero : String := "0"

/-- The characters that a version can have in the version table. -/
def maxLength : Nat := 14

/-- The greater of two versions. -/
def greater (a b : String) : String := if a < b then b else a

/-- The greatest version, or zero when there is none. -/
def latest : List String → String
  | [] => zero
  | v :: vs => vs.foldl greater v

/-- Refuses a version that is blank or does not fit into the version table. -/
def check (version : String) : Except MigrationError Unit :=
  if Text.isBlankText version || decide (maxLength < version.toList.length) then
    .error (.invalidVersion version)
  else .ok ()

theorem greater_mem (a b : String) : greater a b = a ∨ greater a b = b := by
  simp only [greater]
  split
  · exact .inr rfl
  · exact .inl rfl

theorem foldl_greater_mem (vs : List String) (v : String) : vs.foldl greater v ∈ v :: vs := by
  induction vs generalizing v with
  | nil => simp
  | cons w ws ih =>
    rw [List.foldl_cons]
    rcases greater_mem v w with h | h
    · rw [h]
      rcases List.mem_cons.1 (ih v) with h' | h'
      · rw [h']; simp
      · simp [h']
    · rw [h]
      exact List.mem_cons_of_mem _ (ih w)

theorem le_greater (a b : String) : a ≤ greater a b ∧ b ≤ greater a b := by
  simp only [greater]
  split
  · next h => exact ⟨Std.le_of_lt h, Std.le_refl b⟩
  · next h => exact ⟨Std.le_refl a, Std.not_lt.1 h⟩

theorem le_foldl_greater (vs : List String) : ∀ v w, w ∈ v :: vs → w ≤ vs.foldl greater v := by
  induction vs with
  | nil =>
    intro v w hw
    rw [List.mem_singleton.1 hw]
    exact Std.le_refl v
  | cons u us ih =>
    intro v w hw
    rw [List.foldl_cons]
    have hbase := ih (greater v u) (greater v u) List.mem_cons_self
    rcases List.mem_cons.1 hw with rfl | hw
    · exact String.le_trans (le_greater w u).1 hbase
    · rcases List.mem_cons.1 hw with rfl | hw
      · exact String.le_trans (le_greater v w).2 hbase
      · exact ih (greater v u) w (List.mem_cons_of_mem _ hw)

/-- No version of a list is above its latest one. -/
theorem le_latest {vs : List String} {w : String} (h : w ∈ vs) : w ≤ latest vs := by
  cases vs with
  | nil => cases h
  | cons v vs => exact le_foldl_greater vs v w h

/-- The latest version of a non-empty list is one of it. -/
theorem latest_mem {vs : List String} (h : vs ≠ []) : latest vs ∈ vs := by
  cases vs with
  | nil => exact absurd rfl h
  | cons v vs => exact foldl_greater_mem vs v

end Version

end SchemaMigration
