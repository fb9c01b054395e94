import Mathlib.Data.List.Forall2
import SchemaMigration.Command.Reading

/-!
# How commands are spelled

A command map *spells* a command when its keys belong to the command's kind and every field holds
what it has in the command, in one of the ways in which that may be written. `Spells` says so
without reading anything, and the reader of command maps finds exactly the commands that are
spelled:

> `ofFields_eq_ok_iff`: a map is read as a command exactly when it spells that command.

Each reader of a field has one lemma of this form, for the relation of its field.
-/

namespace SchemaMigration

open Json

/-! ## What a field can spell -/

/-- The value is a string that is not blank: this name. -/
def SpellsName (v : Value) (s : String) : Prop := v = .string s ∧ Text.isBlankText s = false

/-- The value is a part of a definition: this text, or a number that is written so. -/
inductive SpellsPart : Value → String → Prop
  | text (s : String) : SpellsPart (.string s) s
  | number (n : Numeral) : SpellsPart (.number n) n.text

/-- The value is an array of this name and the parts of this definition. -/
inductive SpellsSpec : Value → String → List String → Prop
  | array {head : Value} {parts : List Value} {name : String} {definition : List String}
      (hname : SpellsName head name) (hparts : List.Forall₂ SpellsPart parts definition) :
    SpellsSpec (.array (head :: parts)) name definition

/-- The value is this column. -/
def SpellsColumn (v : Value) (c : Column) : Prop := SpellsSpec v c.name c.definition

/-- The value is this constraint, which has a definition. -/
def SpellsConstraint (v : Value) (c : Constraint) : Prop :=
  SpellsSpec v c.name c.definition ∧ c.definition ≠ []

/-- The value is this row, which is not empty. -/
def SpellsRow (v : Value) (row : List Value) : Prop := v = .array row ∧ row ≠ []

/-- The field is an array of these elements in this order. Without any element the field may as well
be null or left out. -/
inductive SpellsList {α : Type} (R : Value → α → Prop) : Option Value → List α → Prop
  | array {items : List Value} {xs : List α} (h : List.Forall₂ R items xs) :
    SpellsList R (some (.array items)) xs
  | null : SpellsList R (some .null) []
  | absent : SpellsList R none []

/-- The field is this primary key: an array of names, or one name by itself. -/
inductive SpellsKey : Option Value → List String → Prop
  | list {field : Option Value} {names : List String} (h : SpellsList SpellsName field names) :
    SpellsKey field names
  | name {v : Value} {s : String} (h : SpellsName v s) : SpellsKey (some v) [s]

/-- The field is this flag. Without it the flag is off. -/
inductive SpellsFlag : Option Value → Bool → Prop
  | bool (b : Bool) : SpellsFlag (some (.bool b)) b
  | null : SpellsFlag (some .null) false
  | absent : SpellsFlag none false

/-- The field is this name. -/
def SpellsSubject (field : Option Value) (s : String) : Prop := ∃ v, field = some v ∧ SpellsName v s

/-! ## What a map can spell -/

/-- What the key of a command's kind names. -/
def Command.subject : Command → String
  | .createTable table .. => table
  | .dropTable table => table
  | .alterTable change => change.table
  | .createIndex name .. => name
  | .dropIndex name _ => name
  | .insertInto table _ => table

/-- The map has no keys but those of this kind. -/
def KeepsTo (kind : Kind) (fields : Fields) : Prop :=
  ∀ f ∈ fields, f.1 = kind.key ∨ f.1 ∈ kind.fieldKeys

/-- The fields of the command are in the map, each under its own key. -/
def SpellsFields (fields : Fields) : Command → Prop
  | .createTable _ columns primaryKey constraints =>
    (SpellsList SpellsColumn (fields.find? "columns") columns ∧ columns ≠ []) ∧
    SpellsKey (fields.find? "primary-key") primaryKey ∧
    SpellsList SpellsConstraint (fields.find? "constraints") constraints
  | .dropTable _ => True
  | .alterTable change =>
    SpellsList SpellsColumn (fields.find? "add-columns") change.addColumns ∧
    SpellsList SpellsName (fields.find? "drop-columns") change.dropColumns ∧
    SpellsList SpellsColumn (fields.find? "modify-columns") change.modifyColumns ∧
    SpellsList SpellsConstraint (fields.find? "add-constraints") change.addConstraints ∧
    SpellsList SpellsName (fields.find? "drop-constraints") change.dropConstraints
  | .createIndex _ table columns unique =>
    SpellsSubject (fields.find? "on") table ∧
    (SpellsList SpellsName (fields.find? "columns") columns ∧ columns ≠ []) ∧
    SpellsFlag (fields.find? "unique") unique
  | .dropIndex _ table => SpellsSubject (fields.find? "on") table
  | .insertInto _ rows => SpellsList SpellsRow (fields.find? "values") rows ∧ rows ≠ []

/-- The map spells the command. -/
structure Spells (fields : Fields) (c : Command) : Prop where
  keys : KeepsTo c.kind fields
  subject : SpellsSubject (fields.find? c.kind.key) c.subject
  fields : SpellsFields fields c

/-! ## Readers -/

namespace Reading

theorem bind_eq_ok {ε α β : Type} {m : Except ε α} {f : α → Except ε β} {b : β} :
    (m >>= f) = .ok b ↔ ∃ a, m = .ok a ∧ f a = .ok b := by
  cases m with
  | error e =>
    constructor
    · intro h
      cases h
    · rintro ⟨a, ha, -⟩
      cases ha
  | ok a =>
    constructor
    · exact fun h => ⟨a, rfl, h⟩
    · rintro ⟨a', ha, h⟩
      cases ha
      exact h

/-- A reader of elements reads a list one by one. -/
theorem each_eq_ok {ε α β : Type} {f : α → Except ε β} {R : α → β → Prop}
    (h : ∀ x y, f x = .ok y ↔ R x y) {xs : List α} {ys : List β} :
    each f xs = .ok ys ↔ List.Forall₂ R xs ys := by
  induction xs generalizing ys with
  | nil =>
    rw [List.forall₂_nil_left_iff, each, Except.ok.injEq]
    exact eq_comm
  | cons x xs ih =>
    rw [List.forall₂_cons_left_iff, each]
    constructor
    · intro hr
      split at hr
      · cases hr
      · next y hx =>
        split at hr
        · cases hr
        · next ys' hxs =>
          cases hr
          exact ⟨y, ys', (h x y).1 hx, ih.1 hxs, rfl⟩
    · rintro ⟨y, ys', hx, hxs, rfl⟩
      rw [(h x y).2 hx, ih.2 hxs]

theorem name?_eq_some {v : Value} {s : String} : name? v = some s ↔ SpellsName v s := by
  unfold name?
  split
  · next t =>
    cases hb : Text.isBlankText t with
    | true =>
      refine iff_of_false (by simp) ?_
      rintro ⟨ht, hs⟩
      cases ht
      rw [hb] at hs
      cases hs
    | false =>
      rw [if_neg (by simp), Option.some.injEq]
      constructor
      · rintro rfl
        exact ⟨rfl, hb⟩
      · rintro ⟨ht, -⟩
        cases ht
        rfl
  · next hstring =>
    refine iff_of_false (by simp) ?_
    rintro ⟨rfl, -⟩
    exact hstring s rfl

theorem name_eq_ok {fields : Fields} {key s : String} :
    name fields key = .ok s ↔ SpellsSubject (fields.find? key) s := by
  rw [name]
  cases fields.find? key with
  | none => simp [SpellsSubject]
  | some v =>
    simp only [SpellsSubject, Option.some.injEq, exists_eq_left', ← name?_eq_some]
    cases name? v with
    | none => simp
    | some t => simp

theorem entry_eq_ok {key : String} {v : Value} {s : String} :
    entry key v = .ok s ↔ SpellsName v s := by
  rw [entry, ← name?_eq_some]
  cases name? v with
  | none => simp
  | some t => simp

theorem part_eq_ok {key name : String} {v : Value} {s : String} :
    part key name v = .ok s ↔ SpellsPart v s := by
  constructor
  · intro h
    unfold part at h
    split at h
    · cases h
      exact .text s
    · cases h
      exact .number _
    · cases h
  · intro h
    cases h with
    | text => rfl
    | number n => rfl

theorem spec_eq_ok {key : String} {v : Value} {s : String × List String} :
    spec key v = .ok s ↔ SpellsSpec v s.1 s.2 := by
  constructor
  · intro h
    unfold spec at h
    split at h
    · next head parts =>
      split at h
      · cases h
      · next name hname =>
        split at h
        · cases h
        · next definition hparts =>
          cases h
          exact .array (name?_eq_some.1 hname) ((each_eq_ok fun _ _ => part_eq_ok).1 hparts)
    · cases h
  · intro h
    obtain ⟨name, definition⟩ := s
    cases h with
    | array hname hparts =>
      simp only [spec, name?_eq_some.2 hname, (each_eq_ok fun _ _ => part_eq_ok).2 hparts]

/-- An array is read element by element. Where it is required, the empty list of a missing field is
not among the readings. -/
theorem array_each_eq_ok {α : Type} {f : Value → Read α} {R : Value → α → Prop}
    (h : ∀ v x, f v = .ok x ↔ R v x) {fields : Fields} {key : String} {required : Bool}
    {xs : List α} (hne : required = true → xs ≠ []) :
    (array fields key required >>= each f) = .ok xs ↔ SpellsList R (fields.find? key) xs := by
  rw [bind_eq_ok]
  have hmissing : (∃ items, (if required then .error (.missingKey key) else .ok [] : Read _) =
      .ok items ∧ each f items = .ok xs) ↔ xs = [] := by
    cases required with
    | true => simp [hne rfl]
    | false => simp [each, eq_comm]
  unfold array
  generalize fields.find? key = field
  cases field with
  | none =>
    rw [hmissing]
    constructor
    · rintro rfl
      exact .absent
    · intro hs
      cases hs
      rfl
  | some v =>
    cases v with
    | null =>
      rw [hmissing]
      constructor
      · rintro rfl
        exact .null
      · intro hs
        cases hs
        rfl
    | array items =>
      simp only [Except.ok.injEq, exists_eq_left', each_eq_ok h]
      constructor
      · exact .array
      · intro hs
        cases hs with
        | array hs => exact hs
    | _ =>
      refine iff_of_false (by simp) fun hs => ?_
      cases hs

theorem names_eq_ok {fields : Fields} {key : String} {ns : List String} :
    names fields key false = .ok ns ↔ SpellsList SpellsName (fields.find? key) ns :=
  array_each_eq_ok (fun _ _ => entry_eq_ok) (by simp)

theorem columnNames_eq_ok {fields : Fields} {key : String} {ns : List String} :
    columnNames fields key = .ok ns ↔
      SpellsList SpellsName (fields.find? key) ns ∧ ns ≠ [] := by
  have hnames : ∀ all, all ≠ [] → (names fields key true = .ok all ↔
      SpellsList SpellsName (fields.find? key) all) :=
    fun all hne => array_each_eq_ok (fun _ _ => entry_eq_ok) fun _ => hne
  rw [columnNames, bind_eq_ok]
  constructor
  · rintro ⟨all, hall, h⟩
    cases all with
    | nil => cases h
    | cons n ns =>
      cases h
      exact ⟨(hnames _ (List.cons_ne_nil n ns)).1 hall, List.cons_ne_nil n ns⟩
  · rintro ⟨h, hne⟩
    refine ⟨ns, (hnames ns hne).2 h, ?_⟩
    cases ns with
    | nil => exact absurd rfl hne
    | cons n ns => rfl

/-- An array of names with definitions, read as the pairs of another list. -/
theorem specs_eq_ok {α : Type} {fields : Fields} {key : String} {required : Bool}
    (pair : α → String × List String) {xs : List α} (hne : required = true → xs ≠ []) :
    specs fields key required = .ok (xs.map pair) ↔
      SpellsList (fun v x => SpellsSpec v (pair x).1 (pair x).2) (fields.find? key) xs := by
  have hpairs : specs fields key required = .ok (xs.map pair) ↔
      SpellsList (fun v s => SpellsSpec v s.1 s.2) (fields.find? key) (xs.map pair) :=
    array_each_eq_ok (fun _ _ => spec_eq_ok) (by simpa using hne)
  rw [hpairs]
  generalize fields.find? key = field
  constructor
  · intro h
    generalize hys : xs.map pair = ys at h
    cases h with
    | array h =>
      subst hys
      exact .array (List.forall₂_map_right_iff.1 h)
    | null =>
      cases List.map_eq_nil_iff.1 hys
      exact .null
    | absent =>
      cases List.map_eq_nil_iff.1 hys
      exact .absent
  · intro h
    cases h with
    | array h => exact .array (List.forall₂_map_right_iff.2 h)
    | null => exact .null
    | absent => exact .absent

/-- The name and the definition of a column. -/
def columnPair (c : Column) : String × List String := (c.name, c.definition)

/-- The name and the definition of a constraint. -/
def constraintPair (c : Constraint) : String × List String := (c.name, c.definition)

theorem columns_eq_ok {fields : Fields} {key : String} {required : Bool} {cs : List Column} :
    columns fields key required = .ok cs ↔
      SpellsList SpellsColumn (fields.find? key) cs ∧ (required = true → cs ≠ []) := by
  rw [columns, bind_eq_ok]
  constructor
  · rintro ⟨all, hall, h⟩
    have hsplit : cs = all.map (fun s => ⟨s.1, s.2⟩) ∧ (required = true → all ≠ []) := by
      split at h
      · cases h
      · next hne =>
        cases h
        exact ⟨rfl, fun hr hn => hne hr hn⟩
    obtain ⟨rfl, hne⟩ := hsplit
    have hback : (all.map fun s : String × List String => (⟨s.1, s.2⟩ : Column)).map columnPair =
        all := by
      simp [columnPair, Function.comp_def]
    have hne' : required = true →
        (all.map fun s : String × List String => (⟨s.1, s.2⟩ : Column)) ≠ [] := by simpa using hne
    rw [← hback] at hall
    exact ⟨(specs_eq_ok columnPair hne').1 hall, hne'⟩
  · rintro ⟨h, hne⟩
    refine ⟨cs.map columnPair, (specs_eq_ok columnPair hne).2 h, ?_⟩
    split
    · next hmap => exact absurd (List.map_eq_nil_iff.1 hmap) (hne rfl)
    · simp [columnPair, Function.comp_def]

theorem constraint_eq_ok {s : String × List String} {c : Constraint} :
    constraint s = .ok c ↔ s = constraintPair c ∧ c.definition ≠ [] := by
  obtain ⟨name, definition⟩ := s
  obtain ⟨name', definition'⟩ := c
  cases definition with
  | nil => simp +contextual [constraint, constraintPair, eq_comm]
  | cons d ds =>
    simp only [constraint, constraintPair, List.isEmpty_cons, Bool.false_eq_true, if_false,
      Except.ok.injEq, Constraint.mk.injEq, Prod.mk.injEq]
    constructor
    · rintro ⟨rfl, rfl⟩
      exact ⟨⟨rfl, rfl⟩, List.cons_ne_nil d ds⟩
    · exact fun h => h.1

theorem each_constraint_eq_ok {ss : List (String × List String)} {cs : List Constraint} :
    each constraint ss = .ok cs ↔ ss = cs.map constraintPair ∧ ∀ c ∈ cs, c.definition ≠ [] := by
  rw [each_eq_ok fun _ _ => constraint_eq_ok]
  constructor
  · intro h
    induction h with
    | nil => simp
    | cons hc _ ih =>
      obtain ⟨hall, hdef⟩ := ih
      refine ⟨by rw [List.map_cons, hc.1, hall], ?_⟩
      intro c hmem
      rcases List.mem_cons.1 hmem with rfl | hmem
      · exact hc.2
      · exact hdef c hmem
  · rintro ⟨rfl, hdef⟩
    rw [List.forall₂_map_left_iff, List.forall₂_same]
    exact fun c hc => ⟨rfl, hdef c hc⟩

end Reading

/-- A list is spelled by elements with a property when it is spelled, and all of it has the
property. -/
theorem spellsList_and {α : Type} {R : Value → α → Prop} {P : α → Prop} {field : Option Value}
    {xs : List α} : SpellsList (fun v x => R v x ∧ P x) field xs ↔
      SpellsList R field xs ∧ ∀ x ∈ xs, P x := by
  constructor
  · intro h
    cases h with
    | array h =>
      refine ⟨.array (h.imp fun _ _ => And.left), ?_⟩
      induction h with
      | nil => simp
      | cons hx _ ih => simpa using ⟨hx.2, ih⟩
    | null => exact ⟨.null, by simp⟩
    | absent => exact ⟨.absent, by simp⟩
  · rintro ⟨h, hp⟩
    cases h with
    | array h =>
      refine .array ?_
      induction h with
      | nil => exact .nil
      | cons hx _ ih =>
        obtain ⟨hpx, hps⟩ := List.forall_mem_cons.1 hp
        exact .cons ⟨hx, hpx⟩ (ih hps)
    | null => exact .null
    | absent => exact .absent

namespace Reading

theorem constraints_eq_ok {fields : Fields} {key : String} {cs : List Constraint} :
    constraints fields key = .ok cs ↔ SpellsList SpellsConstraint (fields.find? key) cs := by
  have hand : SpellsList SpellsConstraint (fields.find? key) cs ↔
      SpellsList (fun v c => SpellsSpec v c.name c.definition) (fields.find? key) cs ∧
        ∀ c ∈ cs, c.definition ≠ [] := spellsList_and
  have hspecs : specs fields key false = .ok (cs.map constraintPair) ↔
      SpellsList (fun v c => SpellsSpec v c.name c.definition) (fields.find? key) cs :=
    specs_eq_ok constraintPair (by simp)
  rw [constraints, bind_eq_ok, hand]
  constructor
  · rintro ⟨ss, hss, h⟩
    obtain ⟨rfl, hdef⟩ := each_constraint_eq_ok.1 h
    exact ⟨hspecs.1 hss, hdef⟩
  · rintro ⟨hss, hdef⟩
    exact ⟨_, hspecs.2 hss, each_constraint_eq_ok.2 ⟨rfl, hdef⟩⟩

theorem primaryKey_eq_ok {fields : Fields} {ns : List String} :
    primaryKey fields = .ok ns ↔ SpellsKey (fields.find? "primary-key") ns := by
  unfold primaryKey
  split
  · next s hfield =>
    rw [hfield]
    constructor
    · intro h
      split at h
      · cases h
      · next hb =>
        cases h
        exact .name ⟨rfl, by simpa using hb⟩
    · intro h
      cases h with
      | list h => cases h
      | name h =>
        obtain ⟨hs, hb⟩ := h
        cases hs
        rw [if_neg (by simp [hb])]
  · next hstring =>
    rw [names_eq_ok]
    constructor
    · exact .list
    · intro h
      generalize hfield : fields.find? "primary-key" = field at h hstring
      cases h with
      | list h => exact h
      | name h =>
        obtain ⟨rfl, -⟩ := h
        exact absurd rfl (hstring _)

theorem flag_eq_ok {fields : Fields} {key : String} {b : Bool} :
    flag fields key = .ok b ↔ SpellsFlag (fields.find? key) b := by
  unfold flag
  generalize fields.find? key = field
  constructor
  · intro h
    split at h
    · cases h
      exact .absent
    · cases h
      exact .null
    · cases h
      exact .bool _
    · cases h
  · intro h
    cases h <;> rfl

theorem rowsFrom_eq_ok {items : List Value} {rs : List (List Value)} : ∀ {position : Nat},
    rowsFrom position items = .ok rs ↔ List.Forall₂ SpellsRow items rs := by
  induction items generalizing rs with
  | nil =>
    intro position
    rw [List.forall₂_nil_left_iff, rowsFrom, Except.ok.injEq]
    exact eq_comm
  | cons v rest ih =>
    intro position
    rw [List.forall₂_cons_left_iff]
    constructor
    · intro h
      unfold rowsFrom at h
      split at h
      · next hcons => cases hcons
      · next w ws rest' hcons =>
        cases hcons
        split at h
        · cases h
        · next rs' hrest =>
          cases h
          exact ⟨_, rs', ⟨rfl, List.cons_ne_nil w ws⟩, ih.1 hrest, rfl⟩
      · cases h
    · rintro ⟨row, rs', ⟨rfl, hne⟩, hrest, rfl⟩
      cases row with
      | nil => exact absurd rfl hne
      | cons w ws => rw [rowsFrom, ih.2 hrest]

theorem rows_eq_ok {fields : Fields} {rs : List (List Value)} :
    rows fields = .ok rs ↔ SpellsList SpellsRow (fields.find? "values") rs ∧ rs ≠ [] := by
  rw [rows, bind_eq_ok, array]
  generalize fields.find? "values" = field
  constructor
  · rintro ⟨items, harray, h⟩
    split at harray
    · cases harray
    · cases harray
    · cases harray
      split at h
      · cases h
      · next hne =>
        have hrows := rowsFrom_eq_ok.1 h
        refine ⟨.array hrows, ?_⟩
        rintro rfl
        exact hne (List.forall₂_nil_right_iff.1 hrows)
    · cases harray
  · rintro ⟨h, hne⟩
    cases h with
    | array h =>
      refine ⟨_, rfl, ?_⟩
      split
      · exact absurd (List.forall₂_nil_left_iff.1 h) hne
      · exact rowsFrom_eq_ok.2 h
    | null => exact absurd rfl hne
    | absent => exact absurd rfl hne

theorem allowOnly_eq_ok {kind : Kind} {fields : Fields} {u : Unit} :
    allowOnly kind fields = .ok u ↔ KeepsTo kind fields := by
  unfold allowOnly KeepsTo
  split
  · next f hf =>
    refine iff_of_false (by simp) fun h => ?_
    have hmem := List.mem_of_find?_eq_some hf
    have hbad := List.find?_some hf
    rcases h f hmem with hkey | hkey <;> simp [hkey] at hbad
  · next hnone =>
    refine iff_of_true rfl fun f hf => ?_
    have hgood := List.find?_eq_none.1 hnone f hf
    by_cases hkey : f.1 = kind.key
    · exact .inl hkey
    · exact .inr (by simpa [hkey] using hgood)

/-- A map of a kind is read as the command of that kind that it spells. -/
theorem body_eq_ok {fields : Fields} {kind : Kind} {c : Command} :
    body fields kind = .ok c ↔ c.kind = kind ∧ Spells fields c := by
  simp only [body, bind_eq_ok, allowOnly_eq_ok, name_eq_ok]
  constructor
  · rintro ⟨-, hkeys, subject, hsubject, h⟩
    cases kind with
    | createTable =>
      simp only [bind_eq_ok, columns_eq_ok, primaryKey_eq_ok, constraints_eq_ok] at h
      obtain ⟨cols, ⟨hcols, hne⟩, key, hkey, keys, hkeys', h⟩ := h
      cases h
      exact ⟨rfl, hkeys, hsubject, ⟨hcols, hne trivial⟩, hkey, hkeys'⟩
    | dropTable =>
      cases h
      exact ⟨rfl, hkeys, hsubject, trivial⟩
    | alterTable =>
      simp only [bind_eq_ok, columns_eq_ok, names_eq_ok, constraints_eq_ok] at h
      obtain ⟨_, ⟨hadd, -⟩, _, hdrop, _, ⟨hmodify, -⟩, _, haddKeys, _, hdropKeys, h⟩ := h
      cases h
      exact ⟨rfl, hkeys, hsubject, hadd, hdrop, hmodify, haddKeys, hdropKeys⟩
    | createIndex =>
      simp only [bind_eq_ok, name_eq_ok, columnNames_eq_ok, flag_eq_ok] at h
      obtain ⟨_, htable, _, hcols, _, hunique, h⟩ := h
      cases h
      exact ⟨rfl, hkeys, hsubject, htable, hcols, hunique⟩
    | dropIndex =>
      simp only [bind_eq_ok, name_eq_ok] at h
      obtain ⟨_, htable, h⟩ := h
      cases h
      exact ⟨rfl, hkeys, hsubject, htable⟩
    | insertInto =>
      simp only [bind_eq_ok, rows_eq_ok] at h
      obtain ⟨_, hrows, h⟩ := h
      cases h
      exact ⟨rfl, hkeys, hsubject, hrows⟩
  · rintro ⟨rfl, hkeys, hsubject, hfields⟩
    refine ⟨(), hkeys, c.subject, hsubject, ?_⟩
    cases c with
    | createTable table cols key keys =>
      obtain ⟨⟨hcols, hne⟩, hkey, hkeys'⟩ := hfields
      simp only [Command.kind, bind_eq_ok, columns_eq_ok, primaryKey_eq_ok, constraints_eq_ok]
      exact ⟨cols, ⟨hcols, fun _ => hne⟩, key, hkey, keys, hkeys', rfl⟩
    | dropTable table => rfl
    | alterTable change =>
      obtain ⟨hadd, hdrop, hmodify, haddKeys, hdropKeys⟩ := hfields
      simp only [Command.kind, bind_eq_ok, columns_eq_ok, names_eq_ok, constraints_eq_ok]
      exact ⟨_, ⟨hadd, by simp⟩, _, hdrop, _, ⟨hmodify, by simp⟩, _, haddKeys, _, hdropKeys, rfl⟩
    | createIndex name table cols unique =>
      obtain ⟨htable, hcols, hunique⟩ := hfields
      simp only [Command.kind, bind_eq_ok, name_eq_ok, columnNames_eq_ok, flag_eq_ok]
      exact ⟨table, htable, cols, hcols, unique, hunique, rfl⟩
    | dropIndex name table =>
      simp only [Command.kind, bind_eq_ok, name_eq_ok]
      exact ⟨table, hfields, rfl⟩
    | insertInto table rs =>
      simp only [Command.kind, bind_eq_ok, rows_eq_ok]
      exact ⟨rs, hfields, rfl⟩

end Reading

/-! ## Maps -/

theorem Fields.isSome_find?_iff {fields : Fields} {key : String} :
    (fields.find? key).isSome = true ↔ ∃ f ∈ fields, f.1 = key := by
  rw [Fields.find?, Entries.get?, Option.isSome_map, List.find?_isSome]
  simp

/-- No kind is marked by a key that another kind has for a field. -/
theorem Kind.key_notMem_fieldKeys (k l : Kind) : k.key ∉ l.fieldKeys := by
  cases k <;> cases l <;> decide

/-- A map that keeps to the keys of a kind has no key of another kind. -/
theorem KeepsTo.eq_of_isSome {kind k : Kind} {fields : Fields} (h : KeepsTo kind fields)
    (hk : (fields.find? k.key).isSome = true) : k = kind := by
  obtain ⟨f, hf, hkey⟩ := Fields.isSome_find?_iff.1 hk
  rcases h f hf with h | h
  · exact Kind.key_injective (hkey.symm.trans h)
  · rw [hkey] at h
    exact absurd h (Kind.key_notMem_fieldKeys k kind)

/-- A map is of the kind that it keeps to, if it has the key of that kind. -/
theorem KeepsTo.ofFields?_eq {kind : Kind} {fields : Fields} (h : KeepsTo kind fields)
    (hk : (fields.find? kind.key).isSome = true) : Kind.ofFields? fields = some kind := by
  cases hfound : Kind.ofFields? fields with
  | none =>
    have := List.find?_eq_none.1 hfound kind (Kind.mem_all kind)
    exact absurd hk this
  | some k =>
    have hk' := List.find?_some hfound
    rw [h.eq_of_isSome hk']

/-- A map of a known kind is read by the reader of that kind, whose fault is about the kind. -/
theorem ofFields_of_kind {fields : Fields} {kind : Kind} (h : Kind.ofFields? fields = some kind) :
    Command.ofFields fields =
      (Reading.body fields kind).mapError fun fault => .validation (.field kind fault) := by
  rw [Command.ofFields, h]

/-- **What a map is read as.** A map is read as a command exactly when it spells that command. -/
theorem ofFields_eq_ok_iff {fields : Fields} {c : Command} :
    Command.ofFields fields = .ok c ↔ Spells fields c := by
  have hbody : ∀ kind, Kind.ofFields? fields = some kind →
      (Command.ofFields fields = .ok c ↔ c.kind = kind ∧ Spells fields c) := by
    intro kind hkind
    rw [ofFields_of_kind hkind, ← Reading.body_eq_ok]
    generalize Reading.body fields kind = read
    cases read with
    | error fault => exact iff_of_false (fun h => by cases h) (fun h => by cases h)
    | ok c' => exact ⟨fun h => by cases h; rfl, fun h => by cases h; rfl⟩
  constructor
  · intro h
    cases hkind : Kind.ofFields? fields with
    | none =>
      rw [Command.ofFields, hkind] at h
      cases h
    | some kind => exact ((hbody kind hkind).1 h).2
  · intro h
    obtain ⟨v, hv, -⟩ := h.subject
    exact (hbody _ (h.keys.ofFields?_eq (by rw [hv]; rfl))).2 ⟨rfl, h⟩

end SchemaMigration
