import Mathlib.Data.List.Pairwise
import SchemaMigration.Migration.Directory
import SchemaMigration.Proofs.LoadedFiles

/-!
# The order of migrations

The migrations of a directory have ascending versions, each above the version of a schema without
any applied migration:

> `discoverIn_ordered`: what a directory gives is in order.

When the first ones are applied, the pending ones are therefore the next ones, with none left out in
between:

> `pending_isPrefix`: pending migrations are a leading part of those that are not applied.
-/

namespace SchemaMigration

open Files

/-- Versions ascend, and each is above zero. -/
structure Ordered (ms : List MigrationFile) : Prop where
  ascending : ms.Pairwise fun a b => a.version < b.version
  above_zero : ∀ f ∈ ms, Version.zero < f.version

/-! ## Ascending versions -/

/-- Sorted migrations ascend strictly when no two neighbours have the same version. -/
theorem ascending_of_duplicate? {ms : List MigrationFile} (h : duplicate? ms = none)
    (hs : ms.Pairwise fun a b => a.version ≤ b.version) :
    ms.Pairwise fun a b => a.version < b.version := by
  induction ms with
  | nil => exact .nil
  | cons a rest ih =>
    cases rest with
    | nil => exact List.pairwise_singleton _ _
    | cons b rest =>
      rw [List.pairwise_cons] at hs
      rw [duplicate?] at h
      split at h
      · cases h
      · next hne =>
        have hab : a.version < b.version :=
          Std.lt_of_le_of_ne (hs.1 b List.mem_cons_self) hne
        have hrest := ih h hs.2
        -- only neighbours were compared; the order of the rest carries it to all that follow
        refine List.pairwise_cons.2 ⟨?_, hrest⟩
        intro f hf
        rcases List.mem_cons.1 hf with rfl | hf
        · exact hab
        · exact String.lt_trans hab (List.rel_of_pairwise_cons hrest hf)

/-- Migrations that ascend strictly have no two neighbours with the same version. -/
theorem duplicate?_of_ascending {ms : List MigrationFile}
    (h : ms.Pairwise fun a b => a.version < b.version) : duplicate? ms = none := by
  induction ms with
  | nil => rfl
  | cons a rest ih =>
    cases rest with
    | nil => rfl
    | cons b rest =>
      rw [List.pairwise_cons] at h
      have hlt : a.version < b.version := h.1 b List.mem_cons_self
      rw [duplicate?, if_neg (Std.ne_of_lt hlt)]
      exact ih h.2

/-- The two that are found have the same version and stand next to each other. -/
theorem exists_of_duplicate? {ms : List MigrationFile} {a b : MigrationFile}
    (h : duplicate? ms = some (a, b)) :
    a.version = b.version ∧ ∃ before after, ms = before ++ a :: b :: after := by
  induction ms with
  | nil => cases h
  | cons c rest ih =>
    cases rest with
    | nil => cases h
    | cons d rest =>
      rw [duplicate?] at h
      split at h
      · next hsame =>
        cases h
        exact ⟨hsame, [], rest, rfl⟩
      · obtain ⟨hsame, before, after, hrest⟩ := ih h
        exact ⟨hsame, c :: before, after, by rw [hrest]; rfl⟩

theorem sortByVersion_perm (ms : List MigrationFile) : (sortByVersion ms).Perm ms :=
  List.mergeSort_perm ms _

theorem sortByVersion_sorted (ms : List MigrationFile) :
    (sortByVersion ms).Pairwise fun a b => a.version ≤ b.version := by
  unfold sortByVersion
  refine (List.pairwise_mergeSort ?_ ?_ ms).imp of_decide_eq_true
  · intro a b c hab hbc
    exact decide_eq_true (String.le_trans (of_decide_eq_true hab) (of_decide_eq_true hbc))
  · intro a b
    rw [Bool.or_eq_true, decide_eq_true_eq, decide_eq_true_eq]
    exact String.le_total a.version b.version

/-- Among migrations that ascend strictly, the version tells which one it is. -/
theorem eq_of_version_eq {ms : List MigrationFile}
    (h : ms.Pairwise fun a b => a.version < b.version) {a b : MigrationFile} (ha : a ∈ ms)
    (hb : b ∈ ms) (hversion : a.version = b.version) : a = b := by
  have hapart : ms.Pairwise fun a b => a.version ≠ b.version := h.imp Std.ne_of_lt
  have hsymm : Std.Symm fun a b : MigrationFile => a.version ≠ b.version := ⟨fun _ _ => Ne.symm⟩
  by_cases heq : a = b
  · exact heq
  · exact absurd hversion (hapart.forall ha hb heq)

/-- There is only one strictly ascending order of the same migrations. -/
theorem sortByVersion_of_perm {ms sorted : List MigrationFile} (h : ms.Perm sorted)
    (hs : sorted.Pairwise fun a b => a.version < b.version) : sortByVersion ms = sorted := by
  have hperm : (sortByVersion ms).Perm sorted := (sortByVersion_perm ms).trans h
  refine hperm.eq_of_pairwise ?_ (sortByVersion_sorted ms) (hs.imp Std.le_of_lt)
  intro a b ha hb hab hba
  exact eq_of_version_eq hs (hperm.mem_iff.1 ha) hb (String.le_antisymm hab hba)

/-! ## Versions above zero -/

/-- A text that starts with a decimal digit and goes on is above zero. -/
theorem zero_lt_of_isDecimalDigit {c : Char} (h : Text.isDecimalDigit c = true) (d : Char)
    (more : List Char) : Version.zero < String.ofList (c :: d :: more) := by
  rw [String.lt_iff, String.toList_ofList]
  show ['0'] < c :: d :: more
  rw [List.cons_lt_cons_iff]
  rcases Nat.lt_or_eq_of_le (Text.le_of_isDecimalDigit h) with hlt | heq
  · exact .inl (Char.lt_def.2 hlt)
  · exact .inr ⟨Char.toNat_inj.1 heq, List.nil_lt_cons _ _⟩

theorem FileName.IsFormed.zero_lt_version {f : FileName} (h : f.IsFormed) :
    Version.zero < f.version := by
  have hlength := h.length
  rcases hchars : f.version.toList with _ | ⟨c, _ | ⟨d, more⟩⟩
  · rw [hchars] at hlength
    cases hlength
  · rw [hchars] at hlength
    cases hlength
  · have hc : Text.isDecimalDigit c = true := h.digits c (by rw [hchars]; exact List.mem_cons_self)
    rw [← String.ofList_toList (s := f.version), hchars]
    exact zero_lt_of_isDecimalDigit hc d more

/-- A list of migrations is loaded only if each of its entries is. -/
theorem Reading.exists_of_each_ok {ε α β : Type} {f : α → Except ε β} {xs : List α} :
    ∀ {ys : List β}, Reading.each f xs = .ok ys → ∀ y ∈ ys, ∃ x ∈ xs, f x = .ok y := by
  induction xs with
  | nil =>
    intro ys h y hy
    cases h
    cases hy
  | cons x xs ih =>
    intro ys h y hy
    unfold Reading.each at h
    split at h
    · cases h
    · next y' hx =>
      split at h
      · cases h
      · next ys' hxs =>
        cases h
        rcases List.mem_cons.1 hy with rfl | hy
        · exact ⟨x, List.mem_cons_self, hx⟩
        · obtain ⟨x', hx', hf⟩ := ih hxs y hy
          exact ⟨x', List.mem_cons_of_mem _ hx', hf⟩

/-! ## Directories -/

/-- A listing gives its migrations in order, if each of them loads and no two have the same
version. -/
theorem discover_eq_ok_iff {dir : Path} {entries : List (String × Node)}
    {ms : List MigrationFile} :
    discover dir entries = .ok ms ↔
      ∃ loaded, loadEntries dir entries = .ok loaded ∧
        duplicate? (sortByVersion loaded) = none ∧ ms = sortByVersion loaded := by
  unfold discover
  cases loadEntries dir entries with
  | error e => simp
  | ok loaded =>
    simp only [Except.ok.injEq, exists_eq_left']
    cases duplicate? (sortByVersion loaded) with
    | none => simp [eq_comm]
    | some pair => simp

theorem discoverIn_eq_ok_iff {root : Node} {dir : Path} {ms : List MigrationFile} :
    discoverIn root dir = .ok ms ↔
      ∃ entries, root.entriesOf? dir = some entries ∧ discover dir entries = .ok ms := by
  unfold discoverIn
  cases root.entriesOf? dir with
  | none => simp
  | some entries => simp

/-- Every migration of a directory was loaded. -/
theorem exists_load_of_discoverIn {root : Node} {dir : Path} {ms : List MigrationFile}
    (h : discoverIn root dir = .ok ms) :
    ∀ f ∈ ms, ∃ path found, MigrationFile.load path found = .ok f := by
  obtain ⟨entries, -, hdiscover⟩ := discoverIn_eq_ok_iff.1 h
  obtain ⟨loaded, hloaded, -, rfl⟩ := discover_eq_ok_iff.1 hdiscover
  intro f hf
  obtain ⟨entry, -, hload⟩ := Reading.exists_of_each_ok hloaded f (List.mem_mergeSort.1 hf)
  exact ⟨_, _, hload⟩

/-- The migrations of a directory are in order. -/
theorem discoverIn_ordered {root : Node} {dir : Path} {ms : List MigrationFile}
    (h : discoverIn root dir = .ok ms) : Ordered ms := by
  refine ⟨?_, ?_⟩
  · obtain ⟨entries, -, hdiscover⟩ := discoverIn_eq_ok_iff.1 h
    obtain ⟨loaded, -, hdup, rfl⟩ := discover_eq_ok_iff.1 hdiscover
    exact ascending_of_duplicate? hdup (sortByVersion_sorted loaded)
  · intro f hf
    obtain ⟨path, found, hload⟩ := exists_load_of_discoverIn h f hf
    exact (MigrationFile.isFormed_of_load hload).zero_lt_version

/-! ## What is pending -/

/-- The latest of versions that are in order is below each one that comes after them. -/
theorem Ordered.latest_lt {done todo : List MigrationFile} (h : Ordered (done ++ todo))
    {f : MigrationFile} (hf : f ∈ todo) :
    Version.latest (done.map (·.version)) < f.version := by
  cases hdone : done.map (·.version) with
  | nil => exact h.above_zero f (List.mem_append_right _ hf)
  | cons v vs =>
    have hmem : Version.latest (v :: vs) ∈ done.map (·.version) := by
      rw [hdone]
      exact Version.latest_mem (List.cons_ne_nil v vs)
    obtain ⟨g, hg, hversion⟩ := List.mem_map.1 hmem
    rw [← hversion]
    exact (List.pairwise_append.1 h.ascending).2.2 g hg f hf

/-- Up to a target, migrations that ascend are a leading part of themselves. -/
theorem filter_le_isPrefix {ms : List MigrationFile} (t : String)
    (h : ms.Pairwise fun a b => a.version < b.version) :
    (ms.filter fun f => decide (f.version ≤ t)) <+: ms := by
  induction ms with
  | nil => exact List.prefix_rfl
  | cons f rest ih =>
    rw [List.pairwise_cons] at h
    by_cases hf : f.version ≤ t
    · rw [List.filter_cons, if_pos (decide_eq_true hf), List.prefix_cons_inj]
      exact ih h.2
    · -- all that follow are beyond the target as well
      have hnone : ((f :: rest).filter fun g => decide (g.version ≤ t)) = [] := by
        rw [List.filter_eq_nil_iff]
        intro g hg
        rw [decide_eq_true_eq]
        intro hle
        rcases List.mem_cons.1 hg with rfl | hg
        · exact hf hle
        · exact hf (String.le_trans (Std.le_of_lt (h.1 g hg)) hle)
      rw [hnone]
      exact List.nil_prefix

/-- When the first migrations are applied, the pending ones are the next ones up to the target, and
all of the others when there is no target. -/
theorem pending_isPrefix {done todo : List MigrationFile} (h : Ordered (done ++ todo))
    (target : Option String) :
    pending (done ++ todo) (Version.latest (done.map (·.version))) target <+: todo ∧
    (target = none →
      pending (done ++ todo) (Version.latest (done.map (·.version))) target = todo) := by
  have hdone : (done.filter fun f =>
      isPending (Version.latest (done.map (·.version))) target f.version) = [] := by
    rw [List.filter_eq_nil_iff]
    intro f hf
    have hle := Version.le_latest (List.mem_map_of_mem (f := (·.version)) hf)
    simp [isPending, Std.not_lt.2 hle]
  -- the first half of the test passes everything that is left, so the target alone decides
  have htodo : ∀ f ∈ todo,
      decide (Version.latest (done.map (·.version)) < f.version) = true :=
    fun f hf => decide_eq_true (h.latest_lt hf)
  rw [pending, List.filter_append, hdone, List.nil_append]
  cases target with
  | none =>
    have hall : (todo.filter fun f =>
        isPending (Version.latest (done.map (·.version))) none f.version) = todo := by
      rw [List.filter_eq_self]
      intro f hf
      rw [isPending, htodo f hf]
      rfl
    rw [hall]
    exact ⟨List.prefix_rfl, fun _ => rfl⟩
  | some t =>
    have hsame : (todo.filter fun f =>
        isPending (Version.latest (done.map (·.version))) (some t) f.version) =
        todo.filter fun f => decide (f.version ≤ t) := by
      apply List.filter_congr
      intro f hf
      rw [isPending, htodo f hf]
      rfl
    rw [hsame]
    exact ⟨filter_le_isPrefix t (List.pairwise_append.1 h.ascending).2.1, fun hn => by cases hn⟩

end SchemaMigration
