import SchemaMigration.Text.Blank

/-!
# Paths

A path is a text; slashes divide it into parts. Empty parts and single points lead nowhere, and two
points lead up.

> `Path.extension?_eq_some_iff`: the names that have an extension.
-/

namespace SchemaMigration

/-- A path as it was written. -/
structure Path where
  text : String
deriving DecidableEq, Repr

namespace Path

/-- The parts between the slashes, empty ones included. -/
def parts (p : Path) : List String :=
  (Text.pieces (· == '/') p.text.toList).map String.ofList

/-- Does the path start with a slash? -/
def isAbsolute (p : Path) : Bool := p.text.toList.head? == some '/'

/-- Does the part lead nowhere? -/
def isIdle (part : String) : Bool := part == "" || part == "."

/-- The name of the file: the last part that leads somewhere, unless it leads up. -/
def fileName? (p : Path) : Option String :=
  match (p.parts.filter fun part => !isIdle part).getLast? with
  | some name => if name = ".." then none else some name
  | none => none

/-- The parts without the empty ones at the end. -/
def dropEmptyEnd (parts : List String) : List String :=
  (parts.reverse.dropWhile (· == "")).reverse

/-- The parts without the idle ones at the end. The first part stays. -/
def dropIdleEnd : List String → List String
  | [] => []
  | first :: rest => first :: (rest.reverse.dropWhile isIdle).reverse

/-- The parts of the directory above: the last part that is not idle is dropped, and then those at
the end that are. -/
def partsAbove (parts : List String) : List String := dropIdleEnd (dropIdleEnd parts).dropLast

theorem length_dropIdleEnd_le (parts : List String) :
    (dropIdleEnd parts).length ≤ parts.length := by
  cases parts with
  | nil => exact Nat.le_refl _
  | cons first rest =>
    have h := (List.dropWhile_sublist (l := rest.reverse) isIdle).length_le
    simp only [dropIdleEnd, List.length_cons, List.length_reverse] at h ⊢
    omega

/-- The directory above has fewer parts. -/
theorem length_partsAbove (first : String) (rest : List String) :
    (partsAbove (first :: rest)).length < (first :: rest).length := by
  have h := length_dropIdleEnd_le (dropIdleEnd (first :: rest)).dropLast
  have h' := length_dropIdleEnd_le (first :: rest)
  have h0 : 0 < (dropIdleEnd (first :: rest)).length := Nat.succ_pos _
  rw [List.length_dropLast] at h
  rw [partsAbove]
  omega

/-- The path of a name inside a directory. A name with a leading slash stands for itself. -/
def join (dir : Path) (name : String) : Path :=
  if name.toList.head? == some '/' then ⟨name⟩
  else if dir.text.isEmpty || dir.text.toList.getLast? == some '/' then ⟨dir.text ++ name⟩
  else ⟨dir.text ++ "/" ++ name⟩

/-- What follows the last point of a file name; none if nothing stands before that point. -/
def extension? (name : String) : Option String :=
  match Text.pieces (· == '.') name.toList.reverse with
  | ext :: stem :: rest =>
    if stem.isEmpty && rest.isEmpty then none else some (String.ofList ext.reverse)
  | _ => none

/-- The extension has no point, and stands behind a point that is not the first character. -/
theorem extension?_eq_some_iff {name ext : String} :
    extension? name = some ext ↔
      '.' ∉ ext.toList ∧ ∃ stem, stem ≠ "" ∧ name = stem ++ "." ++ ext := by
  unfold extension?
  constructor
  · intro h
    split at h
    · next e w ws hpieces =>
      split at h
      · cases h
      · next hstem =>
        cases h
        obtain ⟨b, r, hb, hname, hr⟩ := Text.exists_cut_of_pieces hpieces
        obtain rfl : b = '.' := eq_of_beq hb
        refine ⟨fun hpoint => ?_, String.ofList r.reverse, fun hempty => ?_, ?_⟩
        · rw [String.toList_ofList, List.mem_reverse] at hpoint
          have hnone := Text.not_of_mem_pieces (hpieces ▸ List.mem_cons_self) hpoint
          exact absurd hnone (by decide)
        · -- nothing before the point would be one empty piece
          have hnil : r.reverse = [] := by rw [← String.toList_ofList (l := r.reverse), hempty]; rfl
          rw [List.reverse_eq_nil_iff.1 hnil] at hr
          cases hr
          exact hstem rfl
        · have htext := congrArg List.reverse hname
          rw [List.reverse_reverse] at htext
          rw [← String.toList_inj, htext]
          simp
    · cases h
  · rintro ⟨hext, stem, hstem, rfl⟩
    have hreverse : (stem ++ "." ++ ext).toList.reverse =
        ext.toList.reverse ++ '.' :: stem.toList.reverse := by simp
    have hnone : ∀ c ∈ ext.toList.reverse, (c == '.') = false := by
      intro c hc
      apply beq_false_of_ne
      rintro rfl
      exact hext (List.mem_reverse.1 hc)
    rw [hreverse, Text.pieces_append_cons _ _ rfl, Text.pieces_of_none hnone]
    cases hpieces : Text.pieces (· == '.') stem.toList.reverse with
    | nil => exact absurd hpieces (Text.pieces_ne_nil _ _)
    | cons w ws =>
      have hsome : (w.isEmpty && ws.isEmpty) = false := by
        rw [← Bool.not_eq_true, Bool.and_eq_true, List.isEmpty_iff, List.isEmpty_iff]
        rintro ⟨rfl, rfl⟩
        have hnil := List.reverse_eq_nil_iff.1 (Text.eq_nil_of_pieces hpieces)
        exact hstem (String.toList_inj.1 hnil)
      simp only [List.singleton_append, hsome, Bool.false_eq_true, if_false, List.reverse_reverse,
        String.ofList_toList]

end Path

end SchemaMigration
