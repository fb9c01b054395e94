import SchemaMigration.Operation.Status
import SchemaMigration.Proofs.Discovery
import SchemaMigration.Proofs.UpCalls

/-!
# Which migrations are pending

Two operations decide which migrations of a directory are still to be applied: one shows each of
them with a mark, the other one applies those that it finds pending. They ask opposite questions
about the same order of versions. In a directory that is in order the answers fit together:

> `append_pending_eq`: the applied ones come first, and all that follow are pending.
> `append_pending_versionAfter`: stopping after some of the pending ones and going on from there, to
> the same target or to one beyond it, is going there at once.
> `status_shows_pending`: what is shown is what is pending, and the summary counts all of it.
-/

namespace SchemaMigration

open Files

/-- The second target lies no nearer than the first. Without a target nothing lies beyond. -/
def ReachesTo : Option String → Option String → Prop
  | _, none => True
  | some t, some t' => t ≤ t'
  | none, some _ => False

/-- The current version once these migrations are applied one after the other. -/
def versionAfter (current : String) (done : List MigrationFile) : String :=
  match done.getLast? with
  | some f => f.version
  | none => current

/-- The migrations in order, each under its version and its name and marked as applied or as
pending, between the title and the summary. -/
def markedLines (dir : Path) (current : String) (done todo : List MigrationFile) : List String :=
  ["\n📊 Migration Status (current version: " ++ current ++ ")\n"] ++
    done.map (fun f => "  ✓ " ++ (f.version ++ "_" ++ f.name)) ++
    todo.map (fun f => "  ⏳ " ++ (f.version ++ "_" ++ f.name) ++ " (pending)") ++
    (if (done ++ todo).isEmpty then ["  No migration files in " ++ dir.text] else []) ++
    ["\n📈 Summary: " ++ toString done.length ++ " applied, " ++ toString todo.length ++ " pending"]

variable {ms : List MigrationFile} {current c : String}

/-! ## Up to a version, and beyond it -/

/-- When those that pass a test come first, the others are what follows them. -/
theorem filter_append_filter_not {α : Type} {p : α → Bool} {xs : List α}
    (h : xs.filter p <+: xs) : xs.filter p ++ xs.filter (fun x => !p x) = xs := by
  obtain ⟨rest, hrest⟩ := h
  have hpassed : xs.filter p ++ rest.filter p = xs.filter p := by
    conv_rhs => rw [← hrest, List.filter_append, List.filter_filter]
    simp
  have hnone : ∀ x ∈ rest, ¬ p x = true :=
    List.filter_eq_nil_iff.1 (List.append_right_eq_self.1 hpassed)
  have hothers : xs.filter (fun x => !p x) = rest := by
    rw [← hrest, List.filter_append, List.filter_filter]
    have hself : rest.filter (fun x => !p x) = rest := by
      rw [List.filter_eq_self]
      intro x hx
      simpa using hnone x hx
    rw [hself]
    simp
  rw [hothers, hrest]

/-- Migrations that ascend are those up to a version, followed by those beyond it. -/
theorem filter_le_append_filter_lt (h : ms.Pairwise fun a b => a.version < b.version) (c : String) :
    (ms.filter fun f => decide (f.version ≤ c)) ++ (ms.filter fun f => decide (c < f.version)) =
      ms := by
  have hbeyond : (ms.filter fun f => decide (c < f.version)) =
      ms.filter fun f => !decide (f.version ≤ c) := by
    apply List.filter_congr
    intro f _
    rw [← decide_not, decide_eq_decide]
    exact Std.not_le.symm
  rw [hbeyond]
  exact filter_append_filter_not (filter_le_isPrefix c h)

theorem pending_ascending (h : ms.Pairwise fun a b => a.version < b.version) (current : String)
    (target : Option String) :
    (pending ms current target).Pairwise fun a b => a.version < b.version :=
  h.filter _

theorem mem_pending {target : Option String} {f : MigrationFile} :
    f ∈ pending ms current target ↔
      f ∈ ms ∧ current < f.version ∧ ReachesTo (some f.version) target := by
  unfold pending
  rw [List.mem_filter]
  cases target with
  | none => simp [isPending, ReachesTo]
  | some t => simp [isPending, ReachesTo]

/-- The applied migrations come first, and all that follow are pending. -/
theorem append_pending_eq (h : ms.Pairwise fun a b => a.version < b.version) (current : String) :
    ms.filter (Operation.isApplied current) ++ pending ms current none = ms := by
  have hpending : pending ms current none = ms.filter fun f => decide (current < f.version) := by
    apply List.filter_congr
    intro f _
    rw [isPending, Bool.and_true]
  rw [hpending]
  exact filter_le_append_filter_lt h current

/-- With a target, the pending ones are those of all pending ones that do not lie beyond it. -/
theorem pending_target (ms : List MigrationFile) (current t : String) {target : Option String}
    (h : ReachesTo (some t) target) :
    pending ms current (some t) =
      (pending ms current target).filter fun f => decide (f.version ≤ t) := by
  unfold pending
  rw [List.filter_filter]
  apply List.filter_congr
  intro f _
  cases target with
  | none => simp [isPending, Bool.and_comm]
  | some t' =>
    have himp : f.version ≤ t → f.version ≤ t' := fun hle => String.le_trans hle h
    by_cases hle : f.version ≤ t
    · simp [isPending, hle, himp hle]
    · simp [isPending, hle]

/-! ## Going on from a version in between -/

/-- The way to a target through a version in between is the way to that version followed by the way
on from there. -/
theorem pending_append_pending (h : ms.Pairwise fun a b => a.version < b.version)
    {target : Option String} (hfrom : current < c) (hto : ReachesTo (some c) target) :
    pending ms current (some c) ++ pending ms c target = pending ms current target := by
  have hrest : pending ms c target =
      (pending ms current target).filter fun f => decide (c < f.version) := by
    unfold pending
    rw [List.filter_filter]
    apply List.filter_congr
    intro f _
    by_cases hlt : c < f.version
    · simp [isPending, hlt, String.lt_trans hfrom hlt]
    · simp [isPending, hlt]
  rw [pending_target ms current c hto, hrest]
  exact filter_le_append_filter_lt (pending_ascending h current target) c

/-- In an ascending list, those up to the version of one of them are that one and those before
it. -/
theorem filter_le_of_append {before after : List MigrationFile} {f : MigrationFile}
    (h : (before ++ f :: after).Pairwise fun a b => a.version < b.version) :
    (before ++ f :: after).filter (fun g => decide (g.version ≤ f.version)) = before ++ [f] := by
  obtain ⟨-, hafter, hbefore⟩ := List.pairwise_append.1 h
  have hlow : before.filter (fun g => decide (g.version ≤ f.version)) = before := by
    rw [List.filter_eq_self]
    intro g hg
    exact decide_eq_true (Std.le_of_lt (hbefore g hg f List.mem_cons_self))
  have hhigh : after.filter (fun g => decide (g.version ≤ f.version)) = [] := by
    rw [List.filter_eq_nil_iff]
    intro g hg
    rw [decide_eq_true_eq]
    exact Std.not_le.2 (List.rel_of_pairwise_cons hafter hg)
  rw [List.filter_append, List.filter_cons, if_pos (decide_eq_true (Std.le_refl _)), hlow, hhigh]

theorem ReachesTo.trans {t : String} {target target' : Option String}
    (h : ReachesTo (some t) target) (h' : ReachesTo target target') :
    ReachesTo (some t) target' := by
  cases target' with
  | none => trivial
  | some t'' =>
    cases target with
    | none => cases h'
    | some t' => exact String.le_trans h h'

/-- Stopping after the first of the migrations on the way to a target and going on from there, to
the same target or to one beyond it, is going there at once. -/
theorem append_pending_versionAfter (h : ms.Pairwise fun a b => a.version < b.version)
    {target target' : Option String} {first rest : List MigrationFile}
    (hsplit : pending ms current target = first ++ rest) (hbeyond : ReachesTo target target') :
    first ++ pending ms (versionAfter current first) target' = pending ms current target' := by
  rcases List.eq_nil_or_concat first with rfl | ⟨before, f, rfl⟩
  · rfl
  · have hasc := pending_ascending h current target
    have hf : f ∈ pending ms current target := by
      rw [hsplit]
      simp
    obtain ⟨-, hfrom, hto⟩ := mem_pending.1 hf
    -- the way to the last one applied is what was applied
    have hway : pending ms current (some f.version) = before.concat f := by
      rw [List.concat_eq_append, List.append_assoc, List.singleton_append] at hsplit
      rw [pending_target ms current f.version hto, hsplit, List.concat_eq_append]
      exact filter_le_of_append (hsplit ▸ hasc)
    have hversion : versionAfter current (before.concat f) = f.version := by
      simp [versionAfter]
    rw [hversion, ← hway]
    exact pending_append_pending h hfrom (hto.trans hbeyond)

/-! ## A directory of new files -/

/-- A directory of new files has one migration for each of them, when their versions ascend. -/
theorem discoverIn_emptyMigrations {root : Node} {dir : Path} {names : List FileName}
    (hdir : dir.text ≠ "") (hentries : root.entriesOf? dir =
      some (names.map fun f => (f.text, .file (emptyMigration f).toUTF8)))
    (hformed : ∀ f ∈ names, f.IsFormed) (hasc : names.Pairwise fun f g => f.version < g.version) :
    discoverIn root dir = .ok (names.map fun f => newMigration (dir.join f.text) f) := by
  rw [discoverIn_of_entriesOf? hentries, discover_eq_ok_iff_ascending, List.pairwise_map]
  refine ⟨hasc, _, .rfl, ?_⟩
  rw [List.filter_eq_self.2]
  · rw [List.forall₂_map_left_iff, List.forall₂_map_right_iff, List.forall₂_same]
    exact fun f hf => load_emptyMigration hdir (hformed f hf)
  · intro e he
    obtain ⟨f, hf, rfl⟩ := List.mem_map.1 he
    exact isMigrationEntry_text f _

/-! ## What is shown -/

/-- The lines show the applied migrations and then the pending ones. -/
theorem statusLines_eq_markedLines (h : ms.Pairwise fun a b => a.version < b.version) (dir : Path)
    (current : String) :
    Operation.statusLines dir ms current =
      markedLines dir current (ms.filter (Operation.isApplied current))
        (pending ms current none) := by
  have hall := append_pending_eq h current
  generalize hdone : ms.filter (Operation.isApplied current) = done at hall ⊢
  generalize htodo : pending ms current none = todo at hall ⊢
  have hcount : ms.countP (Operation.isApplied current) = done.length := by
    rw [List.countP_eq_length_filter, hdone]
  have hlength : ms.length - done.length = todo.length := by
    rw [← hall, List.length_append, Nat.add_sub_cancel_left]
  have happlied : done.map (Operation.statusLine current) =
      done.map fun f => "  ✓ " ++ (f.version ++ "_" ++ f.name) := by
    apply List.map_congr_left
    intro f hf
    rw [← hdone] at hf
    rw [Operation.statusLine, if_pos (List.mem_filter.1 hf).2, MigrationFile.label]
  have hpending : todo.map (Operation.statusLine current) =
      todo.map fun f => "  ⏳ " ++ (f.version ++ "_" ++ f.name) ++ " (pending)" := by
    apply List.map_congr_left
    intro f hf
    rw [← htodo] at hf
    have hnot : Operation.isApplied current f = false :=
      decide_eq_false (Std.not_le.2 (mem_pending.1 hf).2.1)
    rw [Operation.statusLine, hnot, if_neg (by simp), MigrationFile.label]
  have hlines : ms.map (Operation.statusLine current) =
      (done.map fun f => "  ✓ " ++ (f.version ++ "_" ++ f.name)) ++
        todo.map fun f => "  ⏳ " ++ (f.version ++ "_" ++ f.name) ++ " (pending)" := by
    rw [← hall, List.map_append, happlied, hpending]
  simp only [Operation.statusLines, hcount, hlength, hlines]
  rw [markedLines, hall]
  simp only [List.append_assoc]

/-- Showing a directory prints its lines when the server tells the current version. -/
theorem status_printed {σ : Type} (m : Migrator σ) {dir : Path} {w : Workspace σ}
    (h : discoverIn w.files dir = .ok ms) (hcurrent : (m.version w.server).result = .ok current) :
    (Operation.status m dir w).result = .ok () ∧
    (Operation.status m dir w).state.printed =
      w.printed ++ Operation.statusLines dir ms current := by
  have hversion : (Operation.onServer .migration m.version w).result = .ok current := by
    rw [Operation.onServer_result, hcurrent]
    rfl
  rw [Operation.status, Session.bind_of_ok (Operation.discover_apply h), Session.bind_ok hversion]
  exact ⟨rfl, rfl⟩

/-- **What is shown is what is pending.** In a directory of migrations, whatever the current version
is, those shown as applied come first, and those shown as pending are all that follow, in order.
They are the pending ones without a target, and the counts of both add up. The pending ones up to a
target are the first ones of them. Stopping on the way to a target and going on from the version
reached there, to the same target or to one beyond it, is going there at once. -/
theorem status_shows_pending {root : Node} {dir : Path} {ms : List MigrationFile}
    (h : discoverIn root dir = .ok ms) (current : String) :
    let applied := ms.filter (Operation.isApplied current)
    let todo := pending ms current none
    applied ++ todo = ms ∧
    applied.length + todo.length = ms.length ∧
    (∀ {σ : Type} (m : Migrator σ) (w : Workspace σ), w.files = root →
      (m.version w.server).result = .ok current →
      (Operation.status m dir w).state.printed =
        w.printed ++ markedLines dir current applied todo) ∧
    (∀ t, pending ms current (some t) <+: todo) ∧
    ∀ target target' j, ReachesTo target target' →
      let first := (pending ms current target).take j
      first ++ pending ms (versionAfter current first) target' = pending ms current target' := by
  intro applied todo
  have hasc := (discoverIn_ordered h).ascending
  have hall : applied ++ todo = ms := append_pending_eq hasc current
  refine ⟨hall, ?_, ?_, fun t => ?_, fun target target' j hbeyond => ?_⟩
  · rw [← List.length_append, hall]
  · rintro σ m w rfl hcurrent
    rw [(status_printed m h hcurrent).2, statusLines_eq_markedLines hasc]
  · rw [pending_target ms current t (show ReachesTo (some t) none from trivial)]
    exact filter_le_isPrefix t (pending_ascending hasc current none)
  · exact append_pending_versionAfter hasc (List.take_append_drop j _).symm hbeyond

/-- Three empty migrations, a current version between the first and the second, and a target between
the second and the third: one pending migration up to the target, and one more beyond it. -/
theorem pending_betweenVersions :
    let names : List FileName :=
      [⟨"20240101000000", "a"⟩, ⟨"20240201000000", "b"⟩, ⟨"20240301000000", "c"⟩]
    let root : Node := .directory
      [("m", .directory (names.map fun f => (f.text, .file (emptyMigration f).toUTF8)))]
    let ms := names.map fun f => newMigration (Path.join ⟨"m"⟩ f.text) f
    let current := "20240115000000"
    let target := some "20240215000000"
    let m := Catalog.migrator Server.acceptFor { versionTable := "versions" }
    let c : Catalog :=
      { databases := ["driftwood_dev"], tables := ["versions"], versions := [⟨current, 1⟩] }
    discoverIn root ⟨"m"⟩ = .ok ms ∧ ReachesTo target none ∧
    ms.filter (Operation.isApplied current) ++ pending ms current none = ms ∧
    (m.version c).result = .ok current ∧
    (Operation.status m ⟨"m"⟩ { server := c, files := root }).state.printed =
      ["\n📊 Migration Status (current version: 20240115000000)\n",
        "  ✓ 20240101000000_a",
        "  ⏳ 20240201000000_b (pending)",
        "  ⏳ 20240301000000_c (pending)",
        "\n📈 Summary: 1 applied, 2 pending"] ∧
    (pending ms current target).map (·.name) = ["b"] ∧
    (pending ms current target).take 1 ++
      pending ms (versionAfter current ((pending ms current target).take 1)) none =
        pending ms current none := by
  intro names root ms current target m c
  have hformed : ∀ f ∈ names, f.IsFormed := by
    intro f hf
    simp only [names, List.mem_cons, List.not_mem_nil, or_false] at hf
    rcases hf with rfl | rfl | rfl <;>
      exact ⟨by decide, List.all_eq_true.1 (by decide +kernel), by decide⟩
  have h : discoverIn root ⟨"m"⟩ = .ok ms :=
    discoverIn_emptyMigrations (by decide) rfl hformed (by decide)
  obtain ⟨hall, -, hshown, -, hstops⟩ := status_shows_pending h current
  have hplain : m.settings.IsPlain :=
    ⟨by decide, Sql.isPlainDatabase_of_plain (by decide), by decide⟩
  have hversion : (m.version c).result = .ok current := by
    refine (Catalog.version_catalog hplain).1.trans ?_
    rw [if_pos (by decide), Catalog.currentVersion_catalog rfl hplain.versionTable,
      if_pos (by decide)]
    rfl
  have hprinted := hshown m { server := c, files := root } rfl hversion
  refine ⟨h, trivial, hall, hversion, hprinted.trans ?_, by decide, hstops target none 1 trivial⟩
  decide +kernel +zetaReduce

end SchemaMigration
