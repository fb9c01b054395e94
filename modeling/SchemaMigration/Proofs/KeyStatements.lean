import SchemaMigration.Proofs.CatalogRun
import SchemaMigration.Proofs.Contribution

/-!
# Statements about foreign keys

A statement of a plan does one of three things to the foreign keys that were there when the plan was
made: it adds one that was not there, drops one that was, or is about none of them.

> `fitsKeys_planned`: the statements of a plan do so, around plain names.
> `added_planned`, `dropped_planned`: which names they add and drop, in order and with repetitions.

So of each name a plan only has additions or only has drops, and the foreign keys after any part of
it are known from the statements of that part:

> `mem_keysAfter_of_fit`: what is there after such statements.
-/

namespace SchemaMigration

/-! ## Foreign keys after statements -/

/-- The foreign keys after an effect. -/
def CatalogEffect.onKeys (names : List String) : CatalogEffect → List String
  | .addConstraint n => Catalog.addName n names
  | .dropConstraint n => Catalog.removeName n names
  | _ => names

namespace Catalog

theorem constraints_apply (params : List Param) (c : Catalog) (effect : CatalogEffect) :
    (apply params c effect).constraints = effect.onKeys c.constraints := by
  cases effect with
  | insertVersion =>
    simp only [apply]
    split <;> rfl
  | _ => rfl

theorem executed_apply (params : List Param) (c : Catalog) (effect : CatalogEffect) :
    (apply params c effect).executed = c.executed := by
  cases effect with
  | insertVersion =>
    simp only [apply]
    split <;> rfl
  | _ => rfl

/-- The foreign keys after statements, each of which has its effect. -/
def keysAfter (names statements : List String) : List String :=
  statements.foldl (fun ns sql => (effectOf sql).onKeys ns) names

theorem keysAfter_concat (names statements : List String) (sql : String) :
    keysAfter names (statements ++ [sql]) = (effectOf sql).onKeys (keysAfter names statements) := by
  rw [keysAfter, List.foldl_append]
  rfl

theorem constraints_foldl_after (statements : List String) : ∀ c : Catalog,
    (statements.foldl after c).constraints = keysAfter c.constraints statements := by
  induction statements with
  | nil => exact fun _ => rfl
  | cons sql rest ih =>
    intro c
    have hsql : (c.after sql).constraints = (effectOf sql).onKeys c.constraints :=
      constraints_apply [] _ _
    rw [List.foldl_cons, ih, hsql]
    rfl

theorem mem_onKeys {n : String} {names : List String} (effect : CatalogEffect) :
    n ∈ effect.onKeys names ↔
      effect = .addConstraint n ∨ (n ∈ names ∧ effect ≠ .dropConstraint n) := by
  cases effect with
  | addConstraint m => simp [CatalogEffect.onKeys, eq_comm]
  | dropConstraint m => simp [CatalogEffect.onKeys, eq_comm, and_comm]
  | _ => simp [CatalogEffect.onKeys]

/-- A name that no statement drops is there if it was there before or some statement adds it. -/
theorem mem_keysAfter_of_not_dropped {n : String} {statements : List String}
    (h : ∀ sql ∈ statements, effectOf sql ≠ .dropConstraint n) : ∀ names : List String,
    n ∈ keysAfter names statements ↔
      n ∈ names ∨ ∃ sql ∈ statements, effectOf sql = .addConstraint n := by
  induction statements with
  | nil => simp [keysAfter]
  | cons sql rest ih =>
    intro names
    have hrest := ih (fun x hx => h x (List.mem_cons_of_mem _ hx)) ((effectOf sql).onKeys names)
    have hsql := h sql List.mem_cons_self
    rw [mem_onKeys] at hrest
    show n ∈ keysAfter ((effectOf sql).onKeys names) rest ↔ _
    rw [hrest]
    simp [hsql, or_assoc, or_left_comm]

/-- A name that no statement adds is there if it was there before and no statement drops it. -/
theorem mem_keysAfter_of_not_added {n : String} {statements : List String}
    (h : ∀ sql ∈ statements, effectOf sql ≠ .addConstraint n) : ∀ names : List String,
    n ∈ keysAfter names statements ↔
      n ∈ names ∧ ∀ sql ∈ statements, effectOf sql ≠ .dropConstraint n := by
  induction statements with
  | nil => simp [keysAfter]
  | cons sql rest ih =>
    intro names
    have hrest := ih (fun x hx => h x (List.mem_cons_of_mem _ hx)) ((effectOf sql).onKeys names)
    have hsql := h sql List.mem_cons_self
    rw [mem_onKeys] at hrest
    show n ∈ keysAfter ((effectOf sql).onKeys names) rest ↔ _
    rw [hrest]
    simp [hsql, and_assoc]

end Catalog

/-! ## Statements about foreign keys -/

namespace Sql

/-- The statement adds a foreign key of this name to a table, both with plain names. -/
def Adds (sql n : String) : Prop :=
  ∃ table definition, isPlainIdentifier table = true ∧ isPlainIdentifier n = true ∧
    sql = Wording.addForeignKey table ⟨n, definition⟩

/-- The statement drops a foreign key of this name from a table, both with plain names. -/
def Drops (sql n : String) : Prop :=
  ∃ table, isPlainIdentifier table = true ∧ isPlainIdentifier n = true ∧
    sql = Wording.dropForeignKey table n

theorem Adds.effect {sql n : String} (h : Adds sql n) :
    Catalog.effectOf sql = .addConstraint n := by
  obtain ⟨table, definition, htable, hn, rfl⟩ := h
  exact Catalog.effectOf_addForeignKey htable hn

theorem Drops.effect {sql n : String} (h : Drops sql n) :
    Catalog.effectOf sql = .dropConstraint n := by
  obtain ⟨table, htable, hn, rfl⟩ := h
  exact Catalog.effectOf_dropForeignKey htable hn

end Sql

/-- The name that the effect adds to the foreign keys. -/
def CatalogEffect.added? : CatalogEffect → Option String
  | .addConstraint n => some n
  | _ => none

/-- The name that the effect drops from the foreign keys. -/
def CatalogEffect.dropped? : CatalogEffect → Option String
  | .dropConstraint n => some n
  | _ => none

theorem CatalogEffect.added?_eq_some {effect : CatalogEffect} {n : String} :
    effect.added? = some n ↔ effect = .addConstraint n := by
  cases effect <;> simp [added?]

theorem CatalogEffect.dropped?_eq_some {effect : CatalogEffect} {n : String} :
    effect.dropped? = some n ↔ effect = .dropConstraint n := by
  cases effect <;> simp [dropped?]

/-- The effect is about no foreign key. -/
def CatalogEffect.SparesKeys : CatalogEffect → Prop
  | .addConstraint _ => False
  | .dropConstraint _ => False
  | _ => True

namespace Catalog

/-- Only a statement that starts with the word `ALTER` is about a foreign key. -/
theorem sparesKeys_of_word {sql word : String} (hsql : word.toList ++ [' '] <+: sql.toList)
    (hword : Text.IsWord word.toList) (hne : word ≠ "ALTER") : (effectOf sql).SparesKeys := by
  obtain ⟨rest, hsql⟩ := hsql
  have hnamed : ∀ (effect : String → CatalogEffect) (words : List (List Char)),
      (∀ n, (effect n).SparesKeys) → (named effect words).SparesKeys := by
    intro effect words h
    cases words with
    | nil => trivial
    | cons w ws => exact h _
  have hwords : Text.words sql.toList = word.toList :: Text.words rest := by
    rw [← hsql, List.append_assoc]
    exact Text.words_append_space rest hword
  rw [effectOf, hwords]
  generalize Text.words rest = ws
  cases ws with
  | nil => trivial
  | cons second ws =>
    simp only [effectOfWords, String.ofList_toList, Prod.mk.injEq, hne, false_and, if_false]
    split
    · exact hnamed _ _ fun _ => trivial
    · split
      · exact hnamed _ _ fun _ => trivial
      · split
        · exact hnamed _ _ fun _ => trivial
        · split
          · split <;> trivial
          · trivial

/-- A statement of a run whose look-ups found these names: it adds a name that is not among them,
drops one that is, or is about no foreign key. -/
inductive FitsKeys (names : List String) (sql : String) : Prop
  | adds {n : String} (h : Sql.Adds sql n) (hn : n ∉ names)
  | drops {n : String} (h : Sql.Drops sql n) (hn : n ∈ names)
  | spares (h : (effectOf sql).SparesKeys)

variable {names : List String} {sql n : String}

theorem FitsKeys.adds_iff (h : FitsKeys names sql) :
    effectOf sql = .addConstraint n ↔ Sql.Adds sql n ∧ n ∉ names := by
  constructor
  · intro heffect
    cases h with
    | adds h hn =>
      rw [h.effect] at heffect
      cases heffect
      exact ⟨h, hn⟩
    | drops h hn =>
      rw [h.effect] at heffect
      cases heffect
    | spares h =>
      rw [heffect] at h
      exact h.elim
  · exact fun h => h.1.effect

theorem FitsKeys.drops_iff (h : FitsKeys names sql) :
    effectOf sql = .dropConstraint n ↔ Sql.Drops sql n ∧ n ∈ names := by
  constructor
  · intro heffect
    cases h with
    | adds h hn =>
      rw [h.effect] at heffect
      cases heffect
    | drops h hn =>
      rw [h.effect] at heffect
      cases heffect
      exact ⟨h, hn⟩
    | spares h =>
      rw [heffect] at h
      exact h.elim
  · exact fun h => h.1.effect

theorem FitsKeys.added?_eq_some (h : FitsKeys names sql) :
    (effectOf sql).added? = some n ↔ Sql.Adds sql n := by
  rw [CatalogEffect.added?_eq_some]
  exact ⟨fun heffect => (h.adds_iff.1 heffect).1, Sql.Adds.effect⟩

theorem FitsKeys.dropped?_eq_some (h : FitsKeys names sql) :
    (effectOf sql).dropped? = some n ↔ Sql.Drops sql n := by
  rw [CatalogEffect.dropped?_eq_some]
  exact ⟨fun heffect => (h.drops_iff.1 heffect).1, Sql.Drops.effect⟩

/-- After statements that fit the names, a name that was there is there unless one of them drops it,
and any other name is there if one of them adds it. -/
theorem mem_keysAfter_of_fit {statements : List String}
    (h : ∀ sql ∈ statements, FitsKeys names sql) :
    n ∈ keysAfter names statements ↔
      if n ∈ names then ¬ ∃ sql ∈ statements, Sql.Drops sql n
      else ∃ sql ∈ statements, Sql.Adds sql n := by
  by_cases hn : n ∈ names
  · have hadded : ∀ sql ∈ statements, effectOf sql ≠ .addConstraint n :=
      fun sql hsql heffect => ((h sql hsql).adds_iff.1 heffect).2 hn
    rw [mem_keysAfter_of_not_added hadded, if_pos hn]
    simp only [hn, true_and, not_exists, not_and]
    exact forall₂_congr fun sql hsql => not_congr ((h sql hsql).drops_iff.trans (and_iff_left hn))
  · have hdropped : ∀ sql ∈ statements, effectOf sql ≠ .dropConstraint n :=
      fun sql hsql heffect => hn ((h sql hsql).drops_iff.1 heffect).2
    rw [mem_keysAfter_of_not_dropped hdropped, if_neg hn]
    simp only [hn, false_or]
    exact exists_congr fun sql => and_congr_right fun hsql =>
      (h sql hsql).adds_iff.trans (and_iff_left hn)

end Catalog

/-! ## The statements of a plan -/

/-- Its table and its foreign keys have plain names. -/
structure AlterTable.HasPlainNames (a : AlterTable) : Prop where
  table : Sql.isPlainIdentifier a.table = true
  added : ∀ con ∈ a.addConstraints, Sql.isPlainIdentifier con.name = true
  dropped : ∀ n ∈ a.dropConstraints, Sql.isPlainIdentifier n = true

/-- The names of the foreign keys that a command asks to add. -/
def Command.addedNames : Command → List String
  | .alterTable a => a.addConstraints.map (·.name)
  | _ => []

/-- The names of the foreign keys that a command asks to drop. -/
def Command.droppedNames : Command → List String
  | .alterTable a => a.dropConstraints
  | _ => []

namespace Catalog

theorem prefix_phrase {lead : List Char} {first : String} (rest : List String)
    (h : lead <+: first.toList) : lead <+: (Wording.phrase (first :: rest)).toList := by
  unfold Wording.phrase
  cases rest with
  | nil => rwa [String.intercalate_singleton]
  | cons second rest =>
    rw [String.intercalate_cons_cons, String.append_assoc, String.toList_append]
    exact h.trans (List.prefix_append _ _)

/-- Of all commands only an `alter-table` becomes statements about foreign keys. -/
theorem sparesKeys_of_contribution {cmd : Command} {present : String → Bool}
    (hother : ∀ a, cmd ≠ .alterTable a) :
    ∀ sql ∈ (cmd.contribution present).statements, (effectOf sql).SparesKeys := by
  intro sql hsql
  have hlead : ∀ word ∈ ["CREATE", "DROP", "INSERT"],
      word.toList ++ [' '] <+: sql.toList → (effectOf sql).SparesKeys := by
    intro word hword hsql
    refine sparesKeys_of_word hsql (isWord_of_keyword word ?_) ?_
    · exact (show ["CREATE", "DROP", "INSERT"] ⊆ _ by decide) hword
    · rintro rfl
      exact absurd hword (by decide)
  cases cmd with
  | alterTable a => exact absurd rfl (hother a)
  | createTable table columns primaryKey constraints =>
    rw [Command.contribution, List.mem_singleton] at hsql
    refine hlead "CREATE" (by decide) ?_
    subst hsql
    exact prefix_phrase _ (by decide)
  | dropTable table =>
    rw [Command.contribution, List.mem_singleton] at hsql
    refine hlead "DROP" (by decide) ?_
    subst hsql
    exact prefix_phrase _ (by decide)
  | createIndex name table columns unique =>
    rw [Command.contribution, List.mem_singleton] at hsql
    refine hlead "CREATE" (by decide) ?_
    subst hsql
    cases unique <;> exact prefix_phrase _ (by decide)
  | dropIndex name table =>
    rw [Command.contribution, List.mem_singleton] at hsql
    refine hlead "DROP" (by decide) ?_
    subst hsql
    exact prefix_phrase _ (by decide)
  | insertInto table rows =>
    rw [Command.contribution, List.mem_singleton] at hsql
    refine hlead "INSERT" (by decide) ?_
    subst hsql
    exact prefix_phrase _ (by decide)

theorem fitsKeys_alterTable {a : AlterTable} (h : a.HasPlainNames) :
    ∀ sql ∈ (a.contribution fun n => decide (n ∈ names)).statements, FitsKeys names sql := by
  intro sql hsql
  simp only [AlterTable.contribution, List.mem_append, List.mem_map, List.mem_filter,
    Bool.not_eq_true', decide_eq_true_eq, decide_eq_false_iff_not] at hsql
  have hspares : ∀ {x}, effectOf x = .nothing → FitsKeys names x := by
    intro x hx
    exact .spares (by rw [hx]; trivial)
  rcases hsql with (((⟨n, ⟨hn, hthere⟩, rfl⟩ | ⟨column, -, rfl⟩) | ⟨column, -, rfl⟩) |
    ⟨column, -, rfl⟩) | ⟨con, ⟨hcon, hmissing⟩, rfl⟩
  · exact .drops ⟨a.table, h.table, h.dropped n hn, rfl⟩ hthere
  · exact hspares (effectOf_dropColumn column h.table)
  · exact hspares (effectOf_addColumn column h.table)
  · exact hspares (effectOf_modifyColumn column h.table)
  · exact .adds ⟨a.table, con.definition, h.table, h.added con hcon, rfl⟩ hmissing

/-- The statements of a plan fit the foreign keys that its look-ups found. -/
theorem fitsKeys_planned {c : Catalog} {cs : List Command}
    (hnames : ∀ a, Command.alterTable a ∈ cs → a.HasPlainNames) :
    ∀ sql ∈ (c.planned cs).statements, FitsKeys c.constraints sql := by
  intro sql hsql
  rw [planned, Plan.ofAnswers_commands] at hsql
  obtain ⟨cmd, hcmd, hsql⟩ := List.mem_flatMap.1 hsql
  by_cases hother : ∀ a, cmd ≠ .alterTable a
  · exact .spares (sparesKeys_of_contribution hother sql hsql)
  · obtain ⟨a, ha⟩ := not_forall.1 hother
    obtain rfl := not_not.1 ha
    exact fitsKeys_alterTable (hnames a hcmd) sql hsql

section About

variable (key? : CatalogEffect → Option String) (hkey : ∀ e, e.SparesKeys → key? e = none)
include hkey

theorem filterMap_alterTable {a : AlterTable} (present : String → Bool) (h : a.HasPlainNames) :
    ((a.contribution present).statements.filterMap fun sql => key? (effectOf sql)) =
      ((a.dropConstraints.filter present).filterMap fun n => key? (.dropConstraint n)) ++
        (a.addConstraints.filter fun con => !present con.name).filterMap
          fun con => key? (.addConstraint con.name) := by
  have hcolumns : ∀ {α : Type} (sql : α → String) (xs : List α),
      (∀ x, effectOf (sql x) = .nothing) →
      (xs.map sql).filterMap (fun sql => key? (effectOf sql)) = [] := by
    intro α sql xs hsql
    simp [hsql, hkey .nothing trivial]
  have hdrops : ((a.dropConstraints.filter present).map (Wording.dropForeignKey a.table)).filterMap
        (fun sql => key? (effectOf sql)) =
      (a.dropConstraints.filter present).filterMap fun n => key? (.dropConstraint n) := by
    rw [List.filterMap_map]
    refine List.filterMap_congr fun n hn => ?_
    exact congrArg key? (effectOf_dropForeignKey h.table (h.dropped n (List.mem_filter.1 hn).1))
  have hadds : ((a.addConstraints.filter fun con => !present con.name).map
        (Wording.addForeignKey a.table)).filterMap (fun sql => key? (effectOf sql)) =
      (a.addConstraints.filter fun con => !present con.name).filterMap
        fun con => key? (.addConstraint con.name) := by
    rw [List.filterMap_map]
    refine List.filterMap_congr fun con hcon => ?_
    exact congrArg key? (effectOf_addForeignKey h.table (h.added con (List.mem_filter.1 hcon).1))
  simp only [AlterTable.contribution, List.filterMap_append, hdrops, hadds]
  rw [hcolumns _ _ fun column => effectOf_dropColumn column h.table,
    hcolumns _ _ fun column => effectOf_addColumn column h.table,
    hcolumns _ _ fun column => effectOf_modifyColumn column h.table]
  simp

/-- What the statements of a plan are about, in order: of each command first the names that it asks
to drop and that are present, then the names that it asks to add and that are not. -/
theorem filterMap_planned {c : Catalog} {cs : List Command}
    (hnames : ∀ a, Command.alterTable a ∈ cs → a.HasPlainNames) :
    ((c.planned cs).statements.filterMap fun sql => key? (effectOf sql)) =
      cs.flatMap fun cmd =>
        ((cmd.droppedNames.filter fun n => decide (n ∈ c.constraints)).filterMap
          fun n => key? (.dropConstraint n)) ++
        (cmd.addedNames.filter fun n => !decide (n ∈ c.constraints)).filterMap
          fun n => key? (.addConstraint n) := by
  rw [planned, Plan.ofAnswers_commands, List.filterMap_flatMap]
  refine List.flatMap_congr fun cmd hcmd => ?_
  have hother : (∀ a, cmd ≠ .alterTable a) →
      ((cmd.contribution fun n => decide (n ∈ c.constraints)).statements.filterMap
        fun sql => key? (effectOf sql)) = [] := fun hother =>
    List.filterMap_eq_nil_iff.2 fun sql hsql =>
      hkey _ (sparesKeys_of_contribution hother sql hsql)
  cases cmd with
  | alterTable a =>
    have h := filterMap_alterTable key? hkey (fun n => decide (n ∈ c.constraints)) (hnames a hcmd)
    simp only [Command.contribution, h, Command.droppedNames, Command.addedNames, List.filter_map,
      List.filterMap_map]
    rfl
  | _ => exact hother fun a ha => by cases ha

end About

variable {c : Catalog} {cs : List Command}

/-- A plan adds the names that are not present, once for each time that they are asked for. -/
theorem added_planned (hnames : ∀ a, Command.alterTable a ∈ cs → a.HasPlainNames) :
    ((c.planned cs).statements.filterMap fun sql => (effectOf sql).added?) =
      (cs.flatMap Command.addedNames).filter fun n => decide (n ∉ c.constraints) := by
  have hspares : ∀ e : CatalogEffect, e.SparesKeys → e.added? = none := by
    intro e he
    cases e <;> first | rfl | exact he.elim
  rw [filterMap_planned CatalogEffect.added? hspares hnames, List.filter_flatMap]
  simp [CatalogEffect.added?]

/-- A plan drops the names that are present, once for each time that they are asked for. -/
theorem dropped_planned (hnames : ∀ a, Command.alterTable a ∈ cs → a.HasPlainNames) :
    ((c.planned cs).statements.filterMap fun sql => (effectOf sql).dropped?) =
      (cs.flatMap Command.droppedNames).filter fun n => decide (n ∈ c.constraints) := by
  have hspares : ∀ e : CatalogEffect, e.SparesKeys → e.dropped? = none := by
    intro e he
    cases e <;> first | rfl | exact he.elim
  rw [filterMap_planned CatalogEffect.dropped? hspares hnames, List.filter_flatMap]
  simp [CatalogEffect.dropped?]

theorem exists_adds_planned (hnames : ∀ a, Command.alterTable a ∈ cs → a.HasPlainNames) :
    (∃ sql ∈ (c.planned cs).statements, Sql.Adds sql n) ↔
      n ∈ cs.flatMap Command.addedNames ∧ n ∉ c.constraints := by
  have hmem : n ∈ (c.planned cs).statements.filterMap (fun sql => (effectOf sql).added?) ↔
      n ∈ (cs.flatMap Command.addedNames).filter fun n => decide (n ∉ c.constraints) := by
    rw [added_planned hnames]
  rw [List.mem_filterMap, List.mem_filter, decide_eq_true_eq] at hmem
  rw [← hmem]
  exact exists_congr fun sql => and_congr_right fun hsql =>
    (fitsKeys_planned hnames sql hsql).added?_eq_some.symm

theorem exists_drops_planned (hnames : ∀ a, Command.alterTable a ∈ cs → a.HasPlainNames) :
    (∃ sql ∈ (c.planned cs).statements, Sql.Drops sql n) ↔
      n ∈ cs.flatMap Command.droppedNames ∧ n ∈ c.constraints := by
  have hmem : n ∈ (c.planned cs).statements.filterMap (fun sql => (effectOf sql).dropped?) ↔
      n ∈ (cs.flatMap Command.droppedNames).filter fun n => decide (n ∈ c.constraints) := by
    rw [dropped_planned hnames]
  rw [List.mem_filterMap, List.mem_filter, decide_eq_true_eq] at hmem
  rw [← hmem]
  exact exists_congr fun sql => and_congr_right fun hsql =>
    (fitsKeys_planned hnames sql hsql).dropped?_eq_some.symm

/-- What a plan leaves: the names that were there and that no command drops, and those that were not
there and that some command adds. -/
theorem mem_constraints_planned (hnames : ∀ a, Command.alterTable a ∈ cs → a.HasPlainNames) :
    n ∈ ((c.planned cs).statements.foldl after c).constraints ↔
      (n ∈ c.constraints ∧ n ∉ cs.flatMap Command.droppedNames) ∨
      (n ∉ c.constraints ∧ n ∈ cs.flatMap Command.addedNames) := by
  rw [constraints_foldl_after, mem_keysAfter_of_fit (fitsKeys_planned hnames),
    exists_adds_planned hnames, exists_drops_planned hnames]
  by_cases hn : n ∈ c.constraints
  · simp only [hn, if_true, and_true, true_and, not_true_eq_false, false_and, or_false]
  · simp only [hn, if_false, not_false_eq_true, and_true, true_and, false_and, false_or]

end Catalog

end SchemaMigration
