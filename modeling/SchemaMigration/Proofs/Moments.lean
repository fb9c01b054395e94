import SchemaMigration.Proofs.Extension
import SchemaMigration.Proofs.KeyStatements
import SchemaMigration.Proofs.VersionRows

/-!
# The moments of a run

A *moment* is a statement together with the state that it is executed in. A watched backend answers
as the backend it is made from and keeps its moments, so a run against it is the plain run, seen
statement by statement:

> `Watched.follows_preserved`: what one more statement keeps true of the moments before it.
> `statements_watched`: which statements a run executes.

The look-ups of a run are answered before its first statement. The first addition of a foreign key
is therefore executed when the foreign key is not there, and its first drop when it is; later ones
are not valid any more:

> `runCommands_moments`: what is there at each moment of a run, and when all its moments are valid.
-/

namespace SchemaMigration

/-! ## Watched backends -/

/-- A statement, and the state that it is executed in. -/
structure Moment (σ : Type) where
  statement : String
  state : σ

/-- The state of a backend, and its moments so far. -/
structure Watched (σ : Type) where
  base : σ
  moments : List (Moment σ)

/-- The statements so far. -/
def Watched.statements {σ : Type} (t : Watched σ) : List String := t.moments.map Moment.statement

/-- The backend that answers as `b` and keeps its moments. -/
def Backend.watched {σ : Type} (b : Backend σ) : Backend (Watched σ) where
  execute sql params t :=
    ((b.execute sql params t.base).1,
      ⟨(b.execute sql params t.base).2, t.moments ++ [⟨sql, t.base⟩]⟩)
  query sql params t :=
    ((b.query sql params t.base).1, ⟨(b.query sql params t.base).2, t.moments⟩)

theorem Watched.extends_base {σ : Type} (b : Backend σ) :
    Backend.Extends Watched.base b.watched b where
  execute := fun _ _ _ => rfl
  query := fun _ _ _ => rfl

/-! ## The moments of a catalog -/

/-- Every moment has the foreign keys that the statements before it leave, and so has the state at
the end. -/
structure Watched.Follows (c : Catalog) (t : Watched Catalog) : Prop where
  failingStatement : t.base.failingStatement = none
  executed : t.base.executed = c.executed ++ t.statements
  keys : t.base.constraints = Catalog.keysAfter c.constraints t.statements
  each : ∀ before m later, t.moments = before ++ m :: later →
    m.state.constraints = Catalog.keysAfter c.constraints (before.map Moment.statement)

/-- One more element in a split list is either the one at the place or behind it. -/
theorem concat_eq_split {α : Type} {xs before later : List α} {x y : α}
    (h : xs ++ [x] = before ++ y :: later) :
    (xs = before ∧ x = y) ∨ ∃ rest, xs = before ++ y :: rest := by
  rcases later.eq_nil_or_concat with rfl | ⟨rest, z, rfl⟩
  · obtain ⟨rfl, hxy⟩ := List.append_inj' h rfl
    exact .inl ⟨rfl, List.head_eq_of_cons_eq hxy⟩
  · have hlast : xs ++ [x] = (before ++ y :: rest) ++ [z] := by simpa using h
    exact .inr ⟨rest, (List.append_inj' hlast rfl).1⟩

/-- One more statement is met by the state that the others left, and leaves its own effect. -/
theorem Watched.follows_preserved (c : Catalog) :
    Catalog.backend.watched.Preserves (Watched.Follows c) where
  execute := by
    intro sql params t h
    have hafter : (Catalog.backend.execute sql params t.base).2 =
        Catalog.apply params { t.base with executed := t.base.executed ++ [sql] }
          (Catalog.effectOf sql) := by
      simp only [Catalog.backend, Catalog.execute, Catalog.failureOf_eq_none h.failingStatement]
    have hstatements :
        (Catalog.backend.watched.execute sql params t).2.statements = t.statements ++ [sql] := by
      simp [Backend.watched, Watched.statements]
    constructor
    · have hkept := Catalog.keeps_failures.execute sql params t.base
      exact (congrArg Prod.fst hkept).trans h.failingStatement
    · rw [hstatements, ← List.append_assoc, ← h.executed]
      exact (congrArg Catalog.executed hafter).trans (Catalog.executed_apply _ _ _)
    · rw [hstatements, Catalog.keysAfter_concat, ← h.keys]
      exact (congrArg Catalog.constraints hafter).trans (Catalog.constraints_apply _ _ _)
    · intro before m later hsplit
      rcases concat_eq_split hsplit with ⟨rfl, rfl⟩ | ⟨rest, hearlier⟩
      · exact h.keys
      · exact h.each before m rest hearlier
  query := fun _ _ _ h => ⟨h.failingStatement, h.executed, h.keys, h.each⟩

/-! ## Valid moments -/

/-- A foreign key that the statement adds is not there, and one that it drops is. -/
structure Moment.IsValid (m : Moment Catalog) : Prop where
  adds : ∀ n, Sql.Adds m.statement n → n ∉ m.state.constraints
  drops : ∀ n, Sql.Drops m.statement n → n ∈ m.state.constraints

/-- A relation holds of all pairs when it holds between each element and the ones before it. -/
theorem pairwise_iff_split {α : Type} {R : α → α → Prop} {xs : List α} :
    xs.Pairwise R ↔
      ∀ before x later, xs = before ++ x :: later → ∀ y ∈ before, R y x := by
  constructor
  · rintro h before x later rfl y hy
    exact (List.pairwise_append.1 h).2.2 y hy x List.mem_cons_self
  · intro h
    induction xs with
    | nil => exact .nil
    | cons x rest ih =>
      refine List.pairwise_cons.2 ⟨fun y hy => ?_, ih fun before z later hsplit w hw => ?_⟩
      · obtain ⟨before, later, rfl⟩ := List.append_of_mem hy
        exact h (x :: before) y later rfl x List.mem_cons_self
      · exact h (x :: before) z later (by rw [hsplit]; rfl) w (List.mem_cons_of_mem x hw)

namespace Watched.Follows

open Catalog

variable {c : Catalog} {t : Watched Catalog} {before later : List (Moment Catalog)}
  {m : Moment Catalog}

theorem statement_mem (hsplit : t.moments = before ++ m :: later) :
    m.statement ∈ t.statements ∧ ∀ m' ∈ before, m'.statement ∈ t.statements := by
  unfold Watched.statements
  rw [hsplit]
  constructor
  · simp
  · intro m' hm'
    exact List.mem_map_of_mem (List.mem_append_left _ hm')

/-- What is there at a moment, by what was there before the run and by the statements before. -/
theorem mem_constraints (h : t.Follows c)
    (hfit : ∀ sql ∈ t.statements, FitsKeys c.constraints sql)
    (hsplit : t.moments = before ++ m :: later) (n : String) :
    n ∈ m.state.constraints ↔
      if n ∈ c.constraints then ¬ ∃ m' ∈ before, Sql.Drops m'.statement n
      else ∃ m' ∈ before, Sql.Adds m'.statement n := by
  have hbefore : ∀ sql ∈ before.map Moment.statement, FitsKeys c.constraints sql := by
    intro sql hsql
    obtain ⟨m', hm', rfl⟩ := List.mem_map.1 hsql
    exact hfit _ ((statement_mem hsplit).2 m' hm')
  rw [h.each before m later hsplit, mem_keysAfter_of_fit hbefore]
  simp only [List.mem_map, exists_exists_and_eq_and]

theorem adds_iff (h : t.Follows c) (hfit : ∀ sql ∈ t.statements, FitsKeys c.constraints sql)
    (hsplit : t.moments = before ++ m :: later) {n : String} (hn : Sql.Adds m.statement n) :
    n ∈ m.state.constraints ↔ ∃ m' ∈ before, Sql.Adds m'.statement n := by
  have habsent : n ∉ c.constraints :=
    ((hfit _ (statement_mem hsplit).1).adds_iff.1 hn.effect).2
  rw [h.mem_constraints hfit hsplit, if_neg habsent]

theorem drops_iff (h : t.Follows c) (hfit : ∀ sql ∈ t.statements, FitsKeys c.constraints sql)
    (hsplit : t.moments = before ++ m :: later) {n : String} (hn : Sql.Drops m.statement n) :
    n ∈ m.state.constraints ↔ ¬ ∃ m' ∈ before, Sql.Drops m'.statement n := by
  have hpresent : n ∈ c.constraints :=
    ((hfit _ (statement_mem hsplit).1).drops_iff.1 hn.effect).2
  rw [h.mem_constraints hfit hsplit, if_pos hpresent]

/-- All moments are valid exactly when no name is added twice and none is dropped twice. -/
theorem forall_isValid_iff (h : t.Follows c)
    (hfit : ∀ sql ∈ t.statements, FitsKeys c.constraints sql) :
    (∀ m ∈ t.moments, m.IsValid) ↔
      (t.statements.filterMap fun sql => (effectOf sql).added?).Nodup ∧
      (t.statements.filterMap fun sql => (effectOf sql).dropped?).Nodup := by
  let Apart : String → String → Prop := fun x y =>
    (∀ n, Sql.Adds x n → ∀ n', Sql.Adds y n' → n ≠ n') ∧
      ∀ n, Sql.Drops x n → ∀ n', Sql.Drops y n' → n ≠ n'
  have hvalid : (∀ m ∈ t.moments, m.IsValid) ↔ t.statements.Pairwise Apart := by
    rw [Watched.statements, List.pairwise_map, pairwise_iff_split]
    constructor
    · intro hall before m later hsplit m' hm'
      have hm : m.IsValid := hall m (by rw [hsplit]; simp)
      constructor
      · rintro n hn _ hn' rfl
        exact hm.adds n hn' ((h.adds_iff hfit hsplit hn').2 ⟨m', hm', hn⟩)
      · rintro n hn _ hn' rfl
        exact (h.drops_iff hfit hsplit hn').1 (hm.drops n hn') ⟨m', hm', hn⟩
    · intro hapart m hm
      obtain ⟨before, later, hsplit⟩ := List.append_of_mem hm
      constructor
      · intro n hn hthere
        obtain ⟨m', hm', hn'⟩ := (h.adds_iff hfit hsplit hn).1 hthere
        exact (hapart before m later hsplit m' hm').1 n hn' n hn rfl
      · intro n hn
        refine (h.drops_iff hfit hsplit hn).2 ?_
        rintro ⟨m', hm', hn'⟩
        exact (hapart before m later hsplit m' hm').2 n hn' n hn rfl
  have hnodup : ∀ names : List String, names.Nodup ↔ names.Pairwise (· ≠ ·) := fun _ => Iff.rfl
  rw [hvalid, hnodup, hnodup, List.pairwise_filterMap, List.pairwise_filterMap,
    ← List.pairwise_and_iff]
  refine List.Pairwise.iff_of_mem fun {x y} hx hy => ?_
  simp only [(hfit x hx).added?_eq_some, (hfit y hy).added?_eq_some, (hfit x hx).dropped?_eq_some,
    (hfit y hy).dropped?_eq_some, Apart]

end Watched.Follows

/-! ## Runs -/

/-- The state that is watched follows the catalog that it starts from. -/
theorem Watched.follows_start {c : Catalog} (hs : c.failingStatement = none) :
    Watched.Follows c ⟨c, []⟩ where
  failingStatement := hs
  executed := (List.append_nil _).symm
  keys := rfl
  each := by
    intro before m later hsplit
    exact absurd hsplit.symm (List.append_ne_nil_of_right_ne_nil _ (List.cons_ne_nil m later))

section Runs

variable {c : Catalog} {table : String} {cs : List Command}

/-- A watched run follows the catalog that it starts from. It executes its plan and the record of
its version, or nothing if its version is refused. -/
theorem statements_watched (now : Int) (version : String) (cs : List Command)
    (hs : c.failingStatement = none) (hq : c.failingQueries = none)
    (ht : Sql.isPlainIdentifier table = true) :
    let watched := runCommands Catalog.backend.watched table now version cs ⟨c, []⟩
    watched.state.Follows c ∧
    (Version.check version = .ok () →
      watched.state.statements = (c.planned cs).statements ++ [insertVersion table]) ∧
    (Version.check version ≠ .ok () → watched.state.statements = []) := by
  intro watched
  have hfollows : watched.state.Follows c :=
    (Watched.follows_preserved c).runCommands table now version cs (Watched.follows_start hs)
  have hbase : (runCommands Catalog.backend table now version cs c).state = watched.state.base :=
    ((Watched.extends_base Catalog.backend).runCommands table now version cs).state_eq ⟨c, []⟩
  -- what was executed in all is known from the run that is not watched
  have hexecuted := hfollows.executed
  rw [← hbase] at hexecuted
  refine ⟨hfollows, fun hv => ?_, fun hv => ?_⟩
  · rw [(Catalog.runCommands_catalog now cs hs hq ht hv).2] at hexecuted
    have hall : c.executed ++ (c.planned cs).statements ++ [insertVersion table] =
        c.executed ++ watched.state.statements := by
      rw [← hexecuted, ← Catalog.executed_foldl_after]
      rfl
    rw [List.append_assoc] at hall
    exact (List.append_cancel_left hall).symm
  · obtain ⟨e, he⟩ : ∃ e, Version.check version = .error e := by
      cases hcheck : Version.check version with
      | error e => exact ⟨e, rfl⟩
      | ok u => exact absurd hcheck hv
    have hrefused : (runCommands Catalog.backend table now version cs c).state = c := by
      rw [runCommands, he, Session.bind_of_error (Session.ofExcept_apply _ _)]
    rw [hrefused] at hexecuted
    exact List.self_eq_append_right.1 hexecuted

/-- Every statement of a watched run fits the foreign keys that its look-ups found. -/
theorem fitsKeys_watched (now : Int) (version : String) (hs : c.failingStatement = none)
    (hq : c.failingQueries = none) (ht : Sql.isPlainIdentifier table = true)
    (hnames : ∀ a, Command.alterTable a ∈ cs → a.HasPlainNames) :
    ∀ sql ∈ (runCommands Catalog.backend.watched table now version cs ⟨c, []⟩).state.statements,
      Catalog.FitsKeys c.constraints sql := by
  intro sql hsql
  obtain ⟨-, hok, hrefused⟩ := statements_watched now version cs hs hq ht
  by_cases hv : Version.check version = .ok ()
  · rw [hok hv, List.mem_append, List.mem_singleton] at hsql
    rcases hsql with hsql | rfl
    · exact Catalog.fitsKeys_planned hnames sql hsql
    · refine .spares ?_
      rw [Catalog.effectOf_insertVersion ht]
      trivial
  · rw [hrefused hv] at hsql
    cases hsql

/-- While a run executes its statements, a foreign key that a statement adds is there exactly when
an earlier statement of the run added it, and one that a statement drops is there unless an earlier
statement dropped it. So all statements are valid when they are executed exactly when no name that
was absent before the run is to be added twice, and none that was present is to be dropped twice. -/
theorem runCommands_moments (now : Int) (version : String) (hs : c.failingStatement = none)
    (hq : c.failingQueries = none) (ht : Sql.isPlainIdentifier table = true)
    (hnames : ∀ a, Command.alterTable a ∈ cs → a.HasPlainNames) :
    let ran := runCommands Catalog.backend table now version cs c
    let watched := runCommands Catalog.backend.watched table now version cs ⟨c, []⟩
    (watched.result = ran.result ∧ watched.state.base = ran.state) ∧
    ran.state.executed = c.executed ++ watched.state.statements ∧
    (∀ before m later n, watched.state.moments = before ++ m :: later →
      (Sql.Adds m.statement n →
        (n ∈ m.state.constraints ↔ ∃ m' ∈ before, Sql.Adds m'.statement n)) ∧
      (Sql.Drops m.statement n →
        (n ∈ m.state.constraints ↔ ¬ ∃ m' ∈ before, Sql.Drops m'.statement n))) ∧
    (Version.check version = .ok () →
      ((∀ m ∈ watched.state.moments, m.IsValid) ↔
        ((cs.flatMap Command.addedNames).filter fun n => decide (n ∉ c.constraints)).Nodup ∧
        ((cs.flatMap Command.droppedNames).filter fun n => decide (n ∈ c.constraints)).Nodup)) := by
  intro ran watched
  have hwatched :=
    (Watched.extends_base Catalog.backend).runCommands table now version cs
  obtain ⟨hfollows, hok, -⟩ := statements_watched now version cs hs hq ht
  have hfit := fitsKeys_watched now version hs hq ht hnames
  have hbase : ran.state = watched.state.base := hwatched.state_eq ⟨c, []⟩
  refine ⟨⟨(hwatched.result_eq ⟨c, []⟩).symm, hbase.symm⟩, ?_, ?_, ?_⟩
  · rw [hbase]
    exact hfollows.executed
  · intro before m later n hsplit
    exact ⟨hfollows.adds_iff hfit hsplit, hfollows.drops_iff hfit hsplit⟩
  · intro hv
    have hspares := Catalog.effectOf_insertVersion ht
    rw [hfollows.forall_isValid_iff hfit, hok hv, List.filterMap_append, List.filterMap_append,
      Catalog.added_planned hnames, Catalog.dropped_planned hnames]
    simp [hspares, CatalogEffect.added?, CatalogEffect.dropped?]

/-- Without a name that is asked for twice all statements are valid, and with one they are not. -/
theorem moments_ofRepeatedName :
    let c : Catalog := { constraints := ["fk_old"] }
    let first : AlterTable :=
      ⟨"t", [], [], [], [⟨"fk_new", ["(a)", "REFERENCES u(id)"]⟩], ["fk_old", "fk_gone"]⟩
    let second : AlterTable := ⟨"v", [], [], [], [⟨"fk_new", ["(b)", "REFERENCES u(id)"]⟩], []⟩
    let once : List Command := [.alterTable first, .dropTable "w"]
    let twice : List Command := [.alterTable first, .dropTable "w", .alterTable second]
    let watched := fun cs => runCommands Catalog.backend.watched "versions" 0 "1" cs ⟨c, []⟩
    (c.failingStatement = none ∧ c.failingQueries = none ∧
      Sql.isPlainIdentifier "versions" = true ∧ Version.check "1" = .ok () ∧
      (∀ a, Command.alterTable a ∈ once → a.HasPlainNames) ∧
      ∀ a, Command.alterTable a ∈ twice → a.HasPlainNames) ∧
    (∀ m ∈ (watched once).state.moments, m.IsValid) ∧
    ¬ ∀ m ∈ (watched twice).state.moments, m.IsValid := by
  intro c first second once twice watched
  have hfirst : first.HasPlainNames := ⟨by decide, by decide, by decide⟩
  have hsecond : second.HasPlainNames := ⟨by decide, by decide, by decide⟩
  have honce : ∀ a, Command.alterTable a ∈ once → a.HasPlainNames := by
    intro a ha
    simp only [once, List.mem_cons, Command.alterTable.injEq, reduceCtorEq, List.not_mem_nil,
      or_false] at ha
    rw [ha]
    exact hfirst
  have htwice : ∀ a, Command.alterTable a ∈ twice → a.HasPlainNames := by
    intro a ha
    simp only [twice, List.mem_cons, Command.alterTable.injEq, reduceCtorEq, List.not_mem_nil,
      or_false, false_or] at ha
    rcases ha with rfl | rfl
    · exact hfirst
    · exact hsecond
  have ht : Sql.isPlainIdentifier "versions" = true := by decide
  obtain ⟨-, -, -, hvalid⟩ := runCommands_moments (c := c) 0 "1" rfl rfl ht honce
  obtain ⟨-, -, -, hinvalid⟩ := runCommands_moments (c := c) 0 "1" rfl rfl ht htwice
  refine ⟨⟨rfl, rfl, ht, rfl, honce, htwice⟩, (hvalid rfl).2 ⟨by decide, by decide⟩, fun hall => ?_⟩
  exact absurd ((hinvalid rfl).1 hall).1 (by decide)

/-- A change asks twice for a foreign key. Its second addition is executed when the foreign key is
there, since both look-ups were answered before the first addition. -/
theorem secondAddition_present :
    let change : AlterTable :=
      ⟨"t", [], [], [],
        [⟨"fk", ["(a)", "REFERENCES u(id)"]⟩, ⟨"fk", ["(b)", "REFERENCES u(id)"]⟩], []⟩
    let watched := runCommands Catalog.backend.watched "schema_versions" 0 "20240101000000"
      [.alterTable change] ⟨{ tables := ["schema_versions"] }, []⟩
    change.HasPlainNames ∧
    ∃ before m later, watched.state.moments = before ++ m :: later ∧
      Sql.Adds m.statement "fk" ∧ "fk" ∈ m.state.constraints := by
  intro change watched
  have hchange : change.HasPlainNames := ⟨by decide, by decide, by decide⟩
  have ht : Sql.isPlainIdentifier "schema_versions" = true := by decide
  obtain ⟨hfollows, hok, -⟩ := statements_watched (c := { tables := ["schema_versions"] }) 0
    "20240101000000" [.alterTable change] rfl rfl ht
  have hstatements := hok rfl
  obtain ⟨m₁, rest, hmoments, h₁, hrest⟩ := List.map_eq_cons_iff.1 hstatements
  obtain ⟨m₂, later, rfl, h₂, -⟩ := List.map_eq_cons_iff.1 hrest
  refine ⟨hchange, [m₁], m₂, later, hmoments, ?_, ?_⟩
  · rw [h₂]
    exact ⟨"t", ["(b)", "REFERENCES u(id)"], by decide, by decide, rfl⟩
  · rw [hfollows.each [m₁] m₂ later hmoments, List.map_singleton, h₁]
    decide +kernel

end Runs

end SchemaMigration
