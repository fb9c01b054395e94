import SchemaMigration.Proofs.Contribution
import SchemaMigration.Proofs.ForeignKeys

/-!
# Running changes of foreign keys again

Foreign keys *satisfy* changes when nothing that a change drops is there and everything that it adds
is. A run leaves foreign keys that satisfy its changes, unless a name is both dropped and added; and
where the changes are satisfied already, a run writes nothing but its version:

> `satisfies_planned`: what a run leaves satisfies its changes.
> `planned_of_satisfies`: the plan of changes that are satisfied has no statement, and skips each
> change once, in order.
> `runCommands_again`: a second run of the same changes changes no foreign key.
-/

namespace SchemaMigration

namespace AlterTable

/-- The change names no columns. -/
structure KeysOnly (a : AlterTable) : Prop where
  addColumns : a.addColumns = []
  dropColumns : a.dropColumns = []
  modifyColumns : a.modifyColumns = []

/-- Nothing that the change drops is among the foreign keys, and everything that it adds is. -/
structure SatisfiedBy (names : List String) (a : AlterTable) : Prop where
  dropped : ∀ n, a.Drops n → n ∉ names
  added : ∀ n, a.Adds n → n ∈ names

/-- What is skipped of a change that is satisfied already: all drops, then all additions. -/
def allLeftOut (a : AlterTable) : List Skip :=
  a.dropConstraints.map (fun n => ⟨a.table, n, .notPresent, none⟩) ++
    a.addConstraints.map fun con =>
      ⟨a.table, con.name, .alreadyPresent, some (Wording.definition con)⟩

end AlterTable

/-- No foreign key is dropped by one of the changes and added by one of them. -/
def DropsApartFromAdds (changes : List AlterTable) : Prop :=
  ∀ n, (∃ a ∈ changes, a.Drops n) → ¬ ∃ a ∈ changes, a.Adds n

/-! ## Changes that are satisfied already -/

/-- A change of foreign keys that is satisfied contributes skips only, one for each request. -/
theorem AlterTable.contribution_of_satisfied {a : AlterTable} {names : List String}
    (hkeys : a.KeysOnly) (h : a.SatisfiedBy names) :
    a.contribution (fun n => decide (n ∈ names)) = ⟨[], a.allLeftOut⟩ := by
  have hdrops : ∀ n ∈ a.dropConstraints, n ∉ names := h.dropped
  have hadds : ∀ con ∈ a.addConstraints, con.name ∈ names :=
    fun con hcon => h.added con.name ⟨con, hcon, rfl⟩
  have hdropped : a.dropConstraints.filter (fun n => decide (n ∈ names)) = [] := by
    simpa using hdrops
  have hmissing : (a.dropConstraints.filter fun n => !decide (n ∈ names)) = a.dropConstraints := by
    simpa using hdrops
  have hadded : (a.addConstraints.filter fun con => !decide (con.name ∈ names)) = [] := by
    simpa using hadds
  have hpresent : (a.addConstraints.filter fun con => decide (con.name ∈ names)) =
      a.addConstraints := by
    simpa using hadds
  unfold contribution allLeftOut
  rw [hdropped, hmissing, hadded, hpresent, hkeys.addColumns, hkeys.dropColumns,
    hkeys.modifyColumns]
  rfl

namespace Catalog

/-- The plan of changes that are satisfied has no statement, and skips each change once, in
order. -/
theorem planned_of_satisfies {c : Catalog} {changes : List AlterTable}
    (hkeys : ∀ a ∈ changes, a.KeysOnly) (h : ∀ a ∈ changes, a.SatisfiedBy c.constraints) :
    c.planned (changes.map .alterTable) = ⟨[], changes.flatMap AlterTable.allLeftOut⟩ := by
  unfold planned
  rw [Plan.ofAnswers_commands]
  induction changes with
  | nil => rfl
  | cons a rest ih =>
    have hrest := ih (fun b hb => hkeys b (List.mem_cons_of_mem _ hb))
      (fun b hb => h b (List.mem_cons_of_mem _ hb))
    have ha : (Command.alterTable a).contribution (fun n => decide (n ∈ c.constraints)) =
        ⟨[], a.allLeftOut⟩ :=
      AlterTable.contribution_of_satisfied (hkeys a List.mem_cons_self) (h a List.mem_cons_self)
    rw [Plan.mk.injEq] at hrest ⊢
    simp only [List.map_cons, List.flatMap_cons, ha, hrest.1, hrest.2, List.nil_append, and_self]

/-! ## What a run leaves -/

/-- Unless a name is both dropped and added, the foreign keys after the statements of a plan satisfy
the changes that were planned. -/
theorem satisfies_planned (c : Catalog) {changes : List AlterTable}
    (hnames : ∀ a ∈ changes, a.HasPlainNames) (hapart : DropsApartFromAdds changes) :
    ∀ a ∈ changes, a.SatisfiedBy
      ((c.planned (changes.map .alterTable)).statements.foldl after c).constraints := by
  have hmem := mem_constraints_of_changes c changes hnames
  intro a ha
  constructor
  · intro n hdrops hn
    rcases (hmem n).1 hn with ⟨-, hkept⟩ | ⟨-, hadded⟩
    · exact hkept a ha hdrops
    · exact hapart n ⟨a, ha, hdrops⟩ hadded
  · intro n hadds
    have hkept : ∀ b ∈ changes, ¬ b.Drops n :=
      fun b hb hdrops => hapart n ⟨b, hb, hdrops⟩ ⟨a, ha, hadds⟩
    by_cases hn : n ∈ c.constraints
    · exact (hmem n).2 (.inl ⟨hn, hkept⟩)
    · exact (hmem n).2 (.inr ⟨hn, a, ha, hadds⟩)

end Catalog

/-- A run of changes of foreign keys, of which no name is both dropped and added, succeeds where
nothing fails; and then so does a second run of the same changes. The second one sends no statement
of a plan, skips every change once in the order of the plan, and adds to the catalog its version row
alone. -/
theorem runCommands_again {c : Catalog} {table version version' : String} (now now' : Int)
    {changes : List AlterTable} (hs : c.failingStatement = none) (hq : c.failingQueries = none)
    (ht : Sql.isPlainIdentifier table = true) (hv : Version.check version = .ok ())
    (hv' : Version.check version' = .ok ()) (hnames : ∀ a ∈ changes, a.HasPlainNames)
    (hkeys : ∀ a ∈ changes, a.KeysOnly) (hapart : DropsApartFromAdds changes) :
    let commands := changes.map Command.alterTable
    let first := runCommands Catalog.backend table now version commands c
    let second := runCommands Catalog.backend table now' version' commands first.state
    (∃ report, first.result = .ok report) ∧
    second.result = .ok ⟨version', [], changes.flatMap AlterTable.allLeftOut, now'⟩ ∧
    second.state = first.state.recorded table ⟨version', now'⟩ ∧
    second.state.constraints = first.state.constraints := by
  intro commands first second
  obtain ⟨hfirst, hafter⟩ := Catalog.runCommands_catalog now commands hs hq ht hv
  -- recording the version leaves the foreign keys, so they are those after the statements
  have hsatisfied : ∀ a ∈ changes, a.SatisfiedBy first.state.constraints := by
    have hkeysAfter : first.state.constraints =
        ((c.planned commands).statements.foldl Catalog.after c).constraints := by
      simp only [first, hafter]
      rfl
    rw [hkeysAfter]
    exact Catalog.satisfies_planned c hnames hapart
  have hsame := Catalog.sameRows_foldl_after (c.planned commands).statements c
  have hs' : first.state.failingStatement = none := by
    simp only [first, hafter]
    exact hsame.failingStatement.trans hs
  have hq' : first.state.failingQueries = none := by
    simp only [first, hafter]
    exact hsame.failingQueries.trans hq
  obtain ⟨hsecond, hlast⟩ := Catalog.runCommands_catalog now' commands hs' hq' ht hv'
  rw [Catalog.planned_of_satisfies hkeys hsatisfied] at hsecond hlast
  have hrecorded : second.state = first.state.recorded table ⟨version', now'⟩ := hlast
  refine ⟨⟨_, hfirst⟩, hsecond, hrecorded, ?_⟩
  rw [hrecorded]
  rfl

/-- Two changes of two tables, one of which names `fk_b` twice. The second run skips all five
requests. -/
theorem fiveRequests_leftOut :
    let c : Catalog := { constraints := ["fk_a", "fk_x"] }
    let changes : List AlterTable :=
      [⟨"t", [], [], [], [⟨"fk_b", ["(b)"]⟩, ⟨"fk_b", ["(c)", "REFERENCES v"]⟩], ["fk_a"]⟩,
        ⟨"u", [], [], [], [⟨"fk_x", ["(x)"]⟩], ["fk_z"]⟩]
    (c.failingStatement = none ∧ c.failingQueries = none ∧
      Sql.isPlainIdentifier "versions" = true ∧ Version.check "1" = .ok () ∧
      Version.check "2" = .ok () ∧ (∀ a ∈ changes, a.HasPlainNames) ∧
      (∀ a ∈ changes, a.KeysOnly) ∧ DropsApartFromAdds changes) ∧
    changes.flatMap AlterTable.allLeftOut =
      [⟨"t", "fk_a", .notPresent, none⟩, ⟨"t", "fk_b", .alreadyPresent, some "(b)"⟩,
        ⟨"t", "fk_b", .alreadyPresent, some "(c) REFERENCES v"⟩,
        ⟨"u", "fk_z", .notPresent, none⟩, ⟨"u", "fk_x", .alreadyPresent, some "(x)"⟩] ∧
    let commands := changes.map Command.alterTable
    let first := runCommands Catalog.backend "versions" 0 "1" commands c
    let second := runCommands Catalog.backend "versions" 5 "2" commands first.state
    (∃ report, first.result = .ok report) ∧
    second.result = .ok ⟨"2", [], changes.flatMap AlterTable.allLeftOut, 5⟩ ∧
    second.state = first.state.recorded "versions" ⟨"2", 5⟩ ∧
    second.state.constraints = first.state.constraints := by
  intro c changes
  have hnames : ∀ a ∈ changes, a.HasPlainNames := by
    intro a ha
    simp only [changes, List.mem_cons, List.not_mem_nil, or_false] at ha
    rcases ha with rfl | rfl
    · exact ⟨by decide, by decide, by decide⟩
    · exact ⟨by decide, by decide, by decide⟩
  have hkeys : ∀ a ∈ changes, a.KeysOnly := by
    intro a ha
    simp only [changes, List.mem_cons, List.not_mem_nil, or_false] at ha
    rcases ha with rfl | rfl
    · exact ⟨rfl, rfl, rfl⟩
    · exact ⟨rfl, rfl, rfl⟩
  have hapart : DropsApartFromAdds changes := by
    have hall : ∀ a ∈ changes, ∀ b ∈ changes, ∀ con ∈ b.addConstraints,
        con.name ∉ a.dropConstraints := by decide
    rintro n ⟨a, ha, hdrops⟩ ⟨b, hb, con, hcon, rfl⟩
    exact hall a ha b hb con hcon hdrops
  have ht : Sql.isPlainIdentifier "versions" = true := by decide
  have hv : Version.check "1" = .ok () := rfl
  have hv' : Version.check "2" = .ok () := rfl
  exact ⟨⟨rfl, rfl, ht, hv, hv', hnames, hkeys, hapart⟩, by decide,
    runCommands_again 0 5 rfl rfl ht hv hv' hnames hkeys hapart⟩

end SchemaMigration
