import SchemaMigration.Proofs.KeyStatements

/-!
# Foreign keys after a run

Every look-up of a run is answered from the foreign keys that were there before it. A name that was
there is therefore never added, only dropped, and a name that was not there is never dropped, only
added:

> `runCommands_foreignKeys`: the foreign keys after a run, and when they are the ones that the
> changes give when each is made after the other.

The two differ for a name that is dropped and added again (`redefinedKey_lost`) and for one that is
added and dropped again.
-/

namespace SchemaMigration

/-! ## Changes made in turn -/

namespace AlterTable

/-- The foreign keys after the change: what it drops goes, then what it adds comes. -/
def applyTo (names : List String) (a : AlterTable) : List String :=
  a.addConstraints.foldl (fun ns con => Catalog.addName con.name ns)
    (a.dropConstraints.foldl (fun ns n => Catalog.removeName n ns) names)

/-- The change asks to drop the foreign key. -/
def Drops (a : AlterTable) (n : String) : Prop := n ∈ a.dropConstraints

/-- The change asks to add a foreign key of that name. -/
def Adds (a : AlterTable) (n : String) : Prop := ∃ con ∈ a.addConstraints, con.name = n

theorem mem_foldl_addName {n : String} (cons : List Constraint) : ∀ names : List String,
    n ∈ cons.foldl (fun ns con => Catalog.addName con.name ns) names ↔
      (∃ con ∈ cons, con.name = n) ∨ n ∈ names := by
  induction cons with
  | nil => simp
  | cons con rest ih =>
    intro names
    rw [List.foldl_cons, ih, Catalog.mem_addName]
    constructor
    · rintro (⟨con', hmem, hname⟩ | rfl | hn)
      · exact .inl ⟨con', List.mem_cons_of_mem _ hmem, hname⟩
      · exact .inl ⟨con, List.mem_cons_self, rfl⟩
      · exact .inr hn
    · rintro (⟨con', hmem, rfl⟩ | hn)
      · rcases List.mem_cons.1 hmem with rfl | hmem
        · exact .inr (.inl rfl)
        · exact .inl ⟨con', hmem, rfl⟩
      · exact .inr (.inr hn)

theorem mem_foldl_removeName {n : String} (dropped : List String) : ∀ names : List String,
    n ∈ dropped.foldl (fun ns m => Catalog.removeName m ns) names ↔ n ∈ names ∧ n ∉ dropped := by
  induction dropped with
  | nil => simp
  | cons m rest ih =>
    intro names
    rw [List.foldl_cons, ih, Catalog.mem_removeName, List.mem_cons, not_or]
    constructor
    · rintro ⟨⟨hm, hn⟩, hrest⟩
      exact ⟨hn, hm, hrest⟩
    · rintro ⟨hn, hm, hrest⟩
      exact ⟨⟨hm, hn⟩, hrest⟩

theorem mem_applyTo {n : String} (names : List String) (a : AlterTable) :
    n ∈ a.applyTo names ↔ a.Adds n ∨ (n ∈ names ∧ ¬ a.Drops n) := by
  rw [applyTo, mem_foldl_addName, mem_foldl_removeName]
  rfl

end AlterTable

/-- Some change adds the name, and no later one drops it. -/
def AddedLast (changes : List AlterTable) (n : String) : Prop :=
  ∃ before a after, changes = before ++ a :: after ∧ a.Adds n ∧ ∀ b ∈ after, ¬ b.Drops n

theorem addedLast_cons {a : AlterTable} {changes : List AlterTable} {n : String} :
    AddedLast (a :: changes) n ↔
      (a.Adds n ∧ ∀ b ∈ changes, ¬ b.Drops n) ∨ AddedLast changes n := by
  constructor
  · rintro ⟨before, a', after, hsplit, hadds, hkept⟩
    cases before with
    | nil =>
      cases hsplit
      exact .inl ⟨hadds, hkept⟩
    | cons first before =>
      cases hsplit
      exact .inr ⟨before, a', after, rfl, hadds, hkept⟩
  · rintro (⟨hadds, hkept⟩ | ⟨before, a', after, rfl, hadds, hkept⟩)
    · exact ⟨[], a, changes, rfl, hadds, hkept⟩
    · exact ⟨a :: before, a', after, rfl, hadds, hkept⟩

theorem AddedLast.exists_adds {changes : List AlterTable} {n : String} (h : AddedLast changes n) :
    ∃ a ∈ changes, a.Adds n := by
  obtain ⟨before, a, after, rfl, hadds, -⟩ := h
  exact ⟨a, by simp, hadds⟩

/-- Of changes made in turn, the last one that names a foreign key decides whether it is there. -/
theorem mem_foldl_applyTo {n : String} (changes : List AlterTable) : ∀ names : List String,
    n ∈ changes.foldl AlterTable.applyTo names ↔
      AddedLast changes n ∨ (n ∈ names ∧ ∀ a ∈ changes, ¬ a.Drops n) := by
  induction changes with
  | nil =>
    intro names
    simp [AddedLast]
  | cons a rest ih =>
    intro names
    rw [List.foldl_cons, ih, AlterTable.mem_applyTo, addedLast_cons, List.forall_mem_cons]
    constructor
    · rintro (h | ⟨h | ⟨hn, ha⟩, hrest⟩)
      · exact .inl (.inr h)
      · exact .inl (.inl ⟨h, hrest⟩)
      · exact .inr ⟨hn, ha, hrest⟩
    · rintro ((⟨h, hrest⟩ | h) | ⟨hn, ha, hrest⟩)
      · exact .inr ⟨.inl h, hrest⟩
      · exact .inl h
      · exact .inr ⟨.inr ⟨hn, ha⟩, hrest⟩

/-! ## Planned changes -/

/-- The foreign keys after a plan of changes, by the ones before it. -/
theorem mem_constraints_of_changes (c : Catalog) (changes : List AlterTable)
    (h : ∀ a ∈ changes, a.HasPlainNames) (n : String) :
    n ∈ ((c.planned (changes.map .alterTable)).statements.foldl Catalog.after c).constraints ↔
      (n ∈ c.constraints ∧ ∀ a ∈ changes, ¬ a.Drops n) ∨
      (n ∉ c.constraints ∧ ∃ a ∈ changes, a.Adds n) := by
  have hnames : ∀ a, Command.alterTable a ∈ changes.map Command.alterTable → a.HasPlainNames := by
    simpa using h
  have hdropped : n ∈ (changes.map Command.alterTable).flatMap Command.droppedNames ↔
      ∃ a ∈ changes, a.Drops n := by
    simp [Command.droppedNames, AlterTable.Drops]
  have hadded : n ∈ (changes.map Command.alterTable).flatMap Command.addedNames ↔
      ∃ a ∈ changes, a.Adds n := by
    simp [Command.addedNames, AlterTable.Adds]
  rw [Catalog.mem_constraints_planned hnames, hdropped, hadded]
  simp only [not_exists, not_and]

/-! ## Runs -/

/-- No foreign key that is there is dropped and added again, and none that is not there is added and
dropped again. -/
structure EachOneWay (names : List String) (changes : List AlterTable) : Prop where
  present : ∀ n ∈ names, AddedLast changes n → ∀ a ∈ changes, ¬ a.Drops n
  absent : ∀ n, n ∉ names → (∃ a ∈ changes, a.Adds n) → AddedLast changes n

/-- A list of the foreign keys that were there and that no change drops, and of those that were not
there and that some change adds, is the one that the changes give in turn exactly when every name
goes one way. -/
theorem same_foldl_applyTo_iff {names after : List String} {changes : List AlterTable}
    (h : ∀ n, n ∈ after ↔ (n ∈ names ∧ ∀ a ∈ changes, ¬ a.Drops n) ∨
      (n ∉ names ∧ ∃ a ∈ changes, a.Adds n)) :
    (∀ n, n ∈ after ↔ n ∈ changes.foldl AlterTable.applyTo names) ↔ EachOneWay names changes := by
  constructor
  · intro hsame
    constructor
    · intro n hn hlast
      have hkept := (hsame n).2 ((mem_foldl_applyTo changes _).2 (.inl hlast))
      rcases (h n).1 hkept with ⟨-, hnone⟩ | ⟨hn', -⟩
      · exact hnone
      · exact absurd hn hn'
    · intro n hn hadds
      have hthere := (hsame n).1 ((h n).2 (.inr ⟨hn, hadds⟩))
      rcases (mem_foldl_applyTo changes _).1 hthere with hlast | ⟨hn', -⟩
      · exact hlast
      · exact absurd hn' hn
  · intro hway n
    rw [h, mem_foldl_applyTo]
    by_cases hn : n ∈ names
    · -- a name that was there stays if nothing drops it, in either reading
      have hdropped := hway.present n hn
      simp only [hn, true_and, not_true_eq_false, false_and, or_false]
      exact ⟨.inr, fun h => h.elim hdropped id⟩
    · -- a name that was not there is there if something adds it last
      have hadded := hway.absent n hn
      simp only [hn, false_and, not_false_eq_true, true_and, false_or, or_false]
      exact ⟨hadded, AddedLast.exists_adds⟩

/-- A run whose look-ups and statements succeed leaves the foreign keys that were there and that no
change drops, and those that were not there and that some change adds. These are the foreign keys
that the changes give when each is made after the other, exactly when every name goes one way. -/
theorem runCommands_foreignKeys {c : Catalog} {table version : String} (now : Int)
    {changes : List AlterTable} (hs : c.failingStatement = none) (hq : c.failingQueries = none)
    (ht : Sql.isPlainIdentifier table = true) (hv : Version.check version = .ok ())
    (hnames : ∀ a ∈ changes, a.HasPlainNames) :
    let ran := runCommands Catalog.backend table now version (changes.map .alterTable) c
    (∃ report, ran.result = .ok report) ∧
    (∀ n, n ∈ ran.state.constraints ↔
      (n ∈ c.constraints ∧ ∀ a ∈ changes, ¬ a.Drops n) ∨
      (n ∉ c.constraints ∧ ∃ a ∈ changes, a.Adds n)) ∧
    ((∀ n, n ∈ ran.state.constraints ↔ n ∈ changes.foldl AlterTable.applyTo c.constraints) ↔
      EachOneWay c.constraints changes) ∧
    (∀ a, changes.getLast? = some a → ∀ n, a.Adds n →
      (n ∈ ran.state.constraints ↔ ¬ (n ∈ c.constraints ∧ ∃ b ∈ changes, b.Drops n))) := by
  intro ran
  obtain ⟨hresult, hstate⟩ :=
    Catalog.runCommands_catalog now (changes.map .alterTable) hs hq ht hv
  have hconstraints : ∀ n, n ∈ ran.state.constraints ↔
      (n ∈ c.constraints ∧ ∀ a ∈ changes, ¬ a.Drops n) ∨
      (n ∉ c.constraints ∧ ∃ a ∈ changes, a.Adds n) := by
    intro n
    simp only [ran, hstate]
    exact mem_constraints_of_changes c changes hnames n
  refine ⟨⟨_, hresult⟩, hconstraints, same_foldl_applyTo_iff hconstraints, ?_⟩
  intro a ha n hadds
  have hmem : a ∈ changes := List.mem_of_getLast? ha
  rw [hconstraints]
  by_cases hn : n ∈ c.constraints
  · simp [hn]
  · simp only [hn, false_and, not_false_eq_true, true_and, false_or, iff_true]
    exact ⟨a, hmem, hadds⟩

/-- Two changes, of which the second one brings back `fk_a`, which the first one drops, and adds
`fk_c`: the run leaves `fk_b` and `fk_c`. -/
theorem keysAfterTwoChanges :
    let c : Catalog := { constraints := ["fk_a", "fk_b"] }
    let changes : List AlterTable :=
      [⟨"t", [⟨"x", ["INT"]⟩], [], [], [], ["fk_a", "fk_d"]⟩,
        ⟨"t", [], ["y"], [], [⟨"fk_a", ["(a)"]⟩, ⟨"fk_c", ["(c)"]⟩], []⟩]
    let ran := runCommands Catalog.backend "versions" 0 "1" (changes.map .alterTable) c
    (c.failingStatement = none ∧ c.failingQueries = none ∧
      Sql.isPlainIdentifier "versions" = true ∧ Version.check "1" = .ok () ∧
      ∀ a ∈ changes, a.HasPlainNames) ∧
    ((∃ report, ran.result = .ok report) ∧
      "fk_a" ∉ ran.state.constraints ∧ "fk_b" ∈ ran.state.constraints ∧
      "fk_c" ∈ ran.state.constraints ∧ "fk_d" ∉ ran.state.constraints) := by
  intro c changes ran
  have hnames : ∀ a ∈ changes, a.HasPlainNames := by
    intro a ha
    simp only [changes, List.mem_cons, List.not_mem_nil, or_false] at ha
    rcases ha with rfl | rfl
    · exact ⟨by decide, by decide, by decide⟩
    · exact ⟨by decide, by decide, by decide⟩
  have ht : Sql.isPlainIdentifier "versions" = true := by decide
  have hv : Version.check "1" = .ok () := rfl
  obtain ⟨hresult, hkeys, -⟩ := runCommands_foreignKeys (c := c) 0 rfl rfl ht hv hnames
  refine ⟨⟨rfl, rfl, ht, hv, hnames⟩, hresult, ?_⟩
  simp only [ran, hkeys]
  simp [c, changes, AlterTable.Drops, AlterTable.Adds]

/-- A foreign key that a change drops and adds is not there after the run, although its addition
stands after its drop: it was there when the look-ups were made, so the addition was left out. -/
theorem redefinedKey_lost :
    let c : Catalog := { tables := ["schema_versions"], constraints := ["fk"] }
    let change : AlterTable := ⟨"t", [], [], [], [⟨"fk", ["(a)", "REFERENCES u(id)"]⟩], ["fk"]⟩
    let ran := runCommands Catalog.backend "schema_versions" 0 "20240101000000"
      [.alterTable change] c
    (c.failingStatement = none ∧ c.failingQueries = none ∧
      Sql.isPlainIdentifier "schema_versions" = true ∧
      Version.check "20240101000000" = .ok () ∧ change.HasPlainNames) ∧
    (∃ report, ran.result = .ok report) ∧ change.Adds "fk" ∧
    "fk" ∈ change.applyTo c.constraints ∧ "fk" ∉ ran.state.constraints := by
  intro c change ran
  have ht : Sql.isPlainIdentifier "schema_versions" = true := by decide
  have hv : Version.check "20240101000000" = .ok () := rfl
  have hrun := Catalog.runCommands_catalog (c := c) 0 [.alterTable change] rfl rfl ht hv
  refine ⟨⟨rfl, rfl, ht, hv, by decide, by decide, by decide⟩, ⟨_, hrun.1⟩,
    ⟨_, List.mem_cons_self, rfl⟩, by decide, ?_⟩
  simp only [ran, hrun.2]
  decide

end SchemaMigration
