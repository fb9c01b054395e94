import Mathlib.Data.List.Induction
import SchemaMigration.Settings.Source

/-!
# What a tree of settings holds

Sources are put into a tree one value after the other, and what is there is merged, replaced or
wiped on the way. This file says without the tree what it then holds under the names of a key: each
source is a list of *leaves*, values at the end of some steps, and of all leaves the last one counts
that is at these names or hides them.

> `Record.value_eq_some_iff`: the last leaf that counts.
> `agrees_putUnder`: putting one value into a tree is recording its leaves.
> `agrees_layer`: a tree agrees with the record of its sources.
-/

namespace SchemaMigration.Settings

/-! ## Leaves -/

/-- The step as a tree takes it: a name is in lower case. -/
def Step.normal : Step → Step
  | .child key => .child (Tree.normal key)
  | .item index => .item index

/-- Is the step a name? -/
def Step.isChild : Step → Bool
  | .child _ => true
  | .item _ => false

/-- A value at the end of some steps. -/
structure Leaf where
  steps : List Step
  value : Tree

/-- The leaf with more steps before it. -/
def Leaf.under (steps : List Step) (l : Leaf) : Leaf := ⟨steps ++ l.steps, l.value⟩

namespace Tree

mutual

/-- The leaves of a tree. A table has those of its fields, and anything else is one. -/
def leaves : Tree → List Leaf
  | table es => fieldLeaves es
  | t => [⟨[], t⟩]

/-- The leaves of the fields of a table. -/
def fieldLeaves : List (String × Tree) → List Leaf
  | [] => []
  | (k, t) :: rest => (leaves t).map (.under [.child (normal k)]) ++ fieldLeaves rest

end

/-- The leaves of a value that is put at the end of some steps. Behind an index it is one leaf, even
if it is a table. -/
def leavesUnder (steps : List Step) (t : Tree) : List Leaf :=
  if steps.all Step.isChild then t.leaves.map (.under steps) else [⟨steps, t⟩]

/-- What stands under some names. -/
def find? (t : Tree) : List String → Option Tree
  | [] => some t
  | name :: names => (Entries.get? t.entries name).bind fun u => u.find? names

end Tree

/-- The steps of a key. -/
def stepsOfKey (key : String) : List Step :=
  let path := KeyPath.ofString (Tree.normal key)
  (.child path.head :: path.rest).map Step.normal

/-- The leaves of a source. -/
def Source.leaves (s : Source) : List Leaf := s.flatMap fun e => e.2.leavesUnder (stepsOfKey e.1)

/-! ## Records of leaves -/

/-- Does a value at the end of the steps stand in the way of the names? So does anything but a table
where the names lead on. -/
def hides : List Step → List String → Bool
  | [], _ :: _ => true
  | .item _ :: _, _ :: _ => true
  | .child key :: steps, name :: names => key == name && hides steps names
  | _, [] => false

/-- Do the steps go through an item of what stands under the names? -/
def indexes : List Step → List String → Bool
  | .item _ :: _, [] => true
  | .child key :: steps, name :: names => key == name && indexes steps names
  | _, _ => false

/-- What is known of each key: its value, and whether there was an item of it. -/
structure Record where
  value : List String → Option Tree
  indexed : List String → Bool

namespace Record

/-- Nothing is known. -/
def empty : Record := ⟨fun _ => none, fun _ => false⟩

/-- The record with one more leaf. -/
def add (r : Record) (l : Leaf) : Record where
  value names :=
    if l.steps = names.map .child then some l.value
    else if hides l.steps names then none
    else r.value names
  indexed names := r.indexed names || indexes l.steps names

/-- The record with more leaves, in order. -/
def addAll (r : Record) (ls : List Leaf) : Record := ls.foldl add r

/-- What is known of the keys that start with a name. -/
def below (r : Record) (name : String) : Record :=
  ⟨fun names => r.value (name :: names), fun names => r.indexed (name :: names)⟩

theorem addAll_append (r : Record) (ls ls' : List Leaf) :
    r.addAll (ls ++ ls') = (r.addAll ls).addAll ls' := List.foldl_append

theorem add_below_self (r : Record) (name : String) (l : Leaf) :
    (r.add (l.under [.child name])).below name = (r.below name).add l := by
  simp [add, below, Leaf.under, hides, indexes]

theorem add_below_of_ne (r : Record) {name other : String} (l : Leaf) (h : other ≠ name) :
    (r.add (l.under [.child name])).below other = r.below other := by
  simp [add, below, Leaf.under, hides, indexes, h.symm, beq_false_of_ne h.symm]

theorem addAll_below_self (name : String) (ls : List Leaf) : ∀ r : Record,
    (r.addAll (ls.map (.under [.child name]))).below name = (r.below name).addAll ls := by
  induction ls with
  | nil => exact fun _ => rfl
  | cons l ls ih =>
    intro r
    rw [List.map_cons, addAll, List.foldl_cons]
    exact (ih _).trans (congrArg (addAll · ls) (add_below_self r name l))

theorem addAll_below_of_ne {name other : String} (h : other ≠ name) (ls : List Leaf) :
    ∀ r : Record, (r.addAll (ls.map (.under [.child name]))).below other = r.below other := by
  induction ls with
  | nil => exact fun _ => rfl
  | cons l ls ih =>
    intro r
    rw [List.map_cons, addAll, List.foldl_cons]
    exact (ih _).trans (add_below_of_ne r l h)

end Record

/-! ## The last leaf that counts -/

/-- The value of a key in a source: that of its last leaf that counts. -/
def Source.value? (s : Source) (names : List String) : Option Tree :=
  (Record.empty.addAll s.leaves).value names

namespace Record

variable {ls : List Leaf} {names : List String}

theorem addAll_concat (r : Record) (ls : List Leaf) (l : Leaf) :
    r.addAll (ls ++ [l]) = (r.addAll ls).add l := addAll_append r ls [l]

/-- Leaves that do not hide a key let its earlier value through. -/
theorem value_addAll (r : Record) (h : ∀ l ∈ ls, hides l.steps names = false) :
    (r.addAll ls).value names = ((empty.addAll ls).value names).or (r.value names) := by
  induction ls using List.reverseRecOn with
  | nil => rfl
  | append_singleton ls l ih =>
    have hlast := h l (List.mem_append_right ls (List.mem_singleton_self l))
    have hfirst := ih fun l' hl' => h l' (List.mem_append_left [l] hl')
    rw [addAll_concat, addAll_concat]
    simp only [add, hlast, Bool.false_eq_true, if_false, hfirst]
    by_cases hat : l.steps = names.map .child
    · rw [if_pos hat, if_pos hat]
      rfl
    · rw [if_neg hat, if_neg hat]

/-- The leaf is at the key, and the leaves after it neither are nor hide it. -/
def Counts (ls : List Leaf) (names : List String) (l : Leaf) : Prop :=
  ∃ before after, ls = before ++ l :: after ∧ l.steps = names.map .child ∧
    ∀ l' ∈ after, l'.steps ≠ names.map .child ∧ hides l'.steps names = false

theorem counts_concat {last l : Leaf} :
    Counts (ls ++ [last]) names l ↔
      (l = last ∧ last.steps = names.map .child) ∨
      (Counts ls names l ∧ last.steps ≠ names.map .child ∧ hides last.steps names = false) := by
  constructor
  · rintro ⟨before, after, hsplit, hat, hafter⟩
    rcases List.eq_nil_or_concat after with rfl | ⟨after', l', rfl⟩
    · obtain ⟨rfl, hlast⟩ := List.append_inj' hsplit rfl
      cases hlast
      exact .inl ⟨rfl, hat⟩
    · rw [List.concat_eq_append, ← List.cons_append, ← List.append_assoc] at hsplit
      obtain ⟨rfl, hlast⟩ := List.append_inj' hsplit rfl
      cases hlast
      refine .inr ⟨⟨before, after', rfl, hat, fun l' hl' => hafter l' ?_⟩, hafter last ?_⟩
      · simp [hl']
      · simp
  · rintro (⟨rfl, hat⟩ | ⟨⟨before, after, rfl, hat, hafter⟩, hlast⟩)
    · exact ⟨ls, [], rfl, hat, fun _ hl' => nomatch hl'⟩
    · refine ⟨before, after ++ [last], by simp, hat, fun l' hl' => ?_⟩
      rcases List.mem_append.1 hl' with hl' | hl'
      · exact hafter l' hl'
      · rw [List.mem_singleton.1 hl']
        exact hlast

/-- The value of a key is that of the last leaf that counts. -/
theorem value_eq_some_iff {v : Tree} :
    (empty.addAll ls).value names = some v ↔ ∃ l, Counts ls names l ∧ l.value = v := by
  induction ls using List.reverseRecOn with
  | nil => simp [addAll, empty, Counts]
  | append_singleton ls last ih =>
    simp only [addAll_concat, add, counts_concat]
    by_cases hat : last.steps = names.map .child
    · simp [hat]
    · cases hhides : hides last.steps names with
      | true => simp [hat]
      | false => simp [hat, ih]

/-- An item of a key is known when one of the leaves goes through it. -/
theorem indexed_addAll (r : Record) :
    (r.addAll ls).indexed names = true ↔
      r.indexed names = true ∨ ∃ l ∈ ls, indexes l.steps names = true := by
  induction ls using List.reverseRecOn with
  | nil => simp [addAll]
  | append_singleton ls l ih =>
    rw [addAll_concat, add]
    simp only [Bool.or_eq_true, ih, List.mem_append, List.mem_singleton]
    simp [or_and_right, exists_or, or_assoc]

end Record

/-! ## Agreement -/

/-- Is it an array? -/
def Tree.isArray : Tree → Bool
  | .array _ => true
  | _ => false

/-- What a record tells of what was found under some names: it knows the value, or a table was
found, or an array that an index has made. -/
def Record.Tells (r : Record) (names : List String) : Option Tree → Prop
  | none => r.value names = none
  | some t => r.value names = some t ∨ t.isTable = true ∨
      (t.isArray = true ∧ r.indexed names = true)

/-- The record tells what the tree holds under each key. -/
def Agrees (t : Tree) (r : Record) : Prop :=
  ∀ name names, r.Tells (name :: names) (t.find? (name :: names))

variable {t u v : Tree} {r r' : Record} {name : String}

theorem Tree.find?_of_entries_eq_nil (h : t.entries = []) (name : String) (names : List String) :
    t.find? (name :: names) = none := by
  rw [find?, h]
  rfl

/-- A tree without entries agrees with a record that knows no value. -/
theorem agrees_of_entries_eq_nil (h : t.entries = [])
    (hr : ∀ name names, r.value (name :: names) = none) : Agrees t r := by
  intro name names
  rw [Tree.find?_of_entries_eq_nil h]
  exact hr name names

theorem Agrees.below (h : Agrees t r) (name : String) {fallback : Tree}
    (hf : fallback.entries = []) :
    Agrees ((Entries.get? t.entries name).getD fallback) (r.below name) := by
  intro first names
  have hfound := h name (first :: names)
  rw [Tree.find?] at hfound
  cases hget : Entries.get? t.entries name with
  | none =>
    rw [hget] at hfound
    rw [Option.getD_none, Tree.find?_of_entries_eq_nil hf]
    exact hfound
  | some u =>
    rw [hget] at hfound
    exact hfound

/-- Setting one entry keeps agreement, when the record changes below its name alone, and tells of
the new entry. -/
theorem Agrees.set (h : Agrees t r)
    (hother : ∀ other, other ≠ name → r'.below other = r.below other)
    (hself : r'.Tells [name] (some u)) (hbelow : Agrees u (r'.below name)) :
    Agrees (.table (Entries.set t.entries name u)) r' := by
  intro first names
  rw [Tree.find?, Tree.entries]
  by_cases hfirst : first = name
  · subst hfirst
    rw [Entries.get?_set_self]
    cases names with
    | nil => exact hself
    | cons second names => exact hbelow second names
  · rw [Entries.get?_set_of_ne _ _ hfirst]
    have hfound : (r.below first).Tells names (t.find? (first :: names)) := h first names
    rw [← hother first hfirst] at hfound
    exact hfound

/-! ## Assigning -/

theorem Tree.leaves_of_not_isTable (h : v.isTable = false) : v.leaves = [⟨[], v⟩] := by
  cases v with
  | table es => cases h
  | _ => rfl

theorem Tree.entries_of_not_isTable (h : v.isTable = false) : v.entries = [] := by
  cases v with
  | table es => cases h
  | _ => rfl

/-- Assigning fields leaves a table, unless there are none. -/
theorem Tree.isTable_assignAll (es : List (String × Tree)) (hne : es ≠ []) : ∀ t : Tree,
    (t.assignAll es).isTable = true := by
  induction es with
  | nil => exact absurd rfl hne
  | cons e rest ih =>
    intro t
    obtain ⟨key, v⟩ := e
    rw [assignAll]
    cases rest with
    | cons e rest => exact ih (List.cons_ne_nil e rest) _
    | nil => cases v <;> simp only [assignAll, assign, isTable]

/-- A value that is no table is one leaf, and replaces what was there. -/
theorem agrees_assign_leaf (h : Agrees t r) (key : String) (hv : v.isTable = false) :
    Agrees (t.assign key v) (r.addAll (v.leaves.map (.under [.child (Tree.normal key)]))) := by
  rw [Tree.assign_leaf t key hv, Tree.leaves_of_not_isTable hv]
  refine h.set (fun _ hne => Record.addAll_below_of_ne hne _ r) (.inl ?_) ?_
  · simp [Record.addAll, Record.add, Leaf.under]
  · rw [Record.addAll_below_self]
    refine agrees_of_entries_eq_nil (Tree.entries_of_not_isTable hv) fun name names => ?_
    simp [Record.addAll, Record.add, hides]

/-- Where fields are assigned there is a table, or what was there if there are no fields. -/
theorem Agrees.tells_assignAll (h : Agrees t r) (key : String) (es : List (String × Tree)) :
    (r.addAll ((Tree.table es).leaves.map (.under [.child key]))).Tells [key]
      (some (((Entries.get? t.entries key).getD (.table [])).assignAll es)) := by
  by_cases hes : es = []
  · -- without fields a value that is no table stays what it was
    subst hes
    have hfound := h key []
    rw [Tree.assignAll]
    rw [Tree.find?] at hfound
    cases hget : Entries.get? t.entries key with
    | none => exact .inr (.inl rfl)
    | some u =>
      rw [hget] at hfound
      exact hfound
  · exact .inr (.inl (Tree.isTable_assignAll es hes _))

mutual

/-- Assigning a value is recording its leaves. -/
theorem agrees_assign (key : String) : ∀ (v : Tree) {t : Tree} {r : Record}, Agrees t r →
    Agrees (t.assign key v) (r.addAll (v.leaves.map (.under [.child (Tree.normal key)])))
  | .table es, t, r, h => by
    -- the fields go into what stands under the key, or into a new table
    rw [Tree.assign]
    refine h.set (fun _ hne => Record.addAll_below_of_ne hne _ r) (h.tells_assignAll _ es) ?_
    · rw [Record.addAll_below_self, Tree.leaves]
      exact agrees_assignAll es (h.below _ rfl)
  | .absent, _, _, h => agrees_assign_leaf h key rfl
  | .text _, _, _, h => agrees_assign_leaf h key rfl
  | .integer _, _, _, h => agrees_assign_leaf h key rfl
  | .float _, _, _, h => agrees_assign_leaf h key rfl
  | .boolean _, _, _, h => agrees_assign_leaf h key rfl
  | .array _, _, _, h => agrees_assign_leaf h key rfl

/-- Assigning fields is recording their leaves. -/
theorem agrees_assignAll : ∀ (es : List (String × Tree)) {t : Tree} {r : Record}, Agrees t r →
    Agrees (t.assignAll es) (r.addAll (Tree.fieldLeaves es))
  | [], _, _, h => h
  | (key, v) :: rest, t, r, h => by
    rw [Tree.assignAll, Tree.fieldLeaves, Record.addAll_append]
    exact agrees_assignAll rest (agrees_assign key v h)

end

/-! ## Putting a value under a path -/

theorem Tree.leavesUnder_child (key : String) (steps : List Step) (v : Tree) :
    v.leavesUnder (.child key :: steps) = (v.leavesUnder steps).map (.under [.child key]) := by
  unfold leavesUnder
  by_cases h : steps.all Step.isChild = true
  · rw [if_pos h, if_pos (by simpa [Step.isChild] using h), List.map_map]
    rfl
  · rw [if_neg h, if_neg (by simpa [Step.isChild] using h)]
    rfl

theorem Tree.leavesUnder_item (index : Int) (steps : List Step) (v : Tree) :
    v.leavesUnder (.item index :: steps) = [⟨.item index :: steps, v⟩] := by
  rw [leavesUnder, if_neg (by simp [Step.isChild])]

/-- A value behind an index makes an array, in which there is nothing under any name. -/
theorem agrees_array (items : List Tree) (index : Int) (steps : List Step) (v : Tree) :
    Agrees (.array items) (r.addAll (v.leavesUnder (.item index :: steps))) := by
  refine agrees_of_entries_eq_nil rfl fun name names => ?_
  rw [Tree.leavesUnder_item]
  simp [Record.addAll, Record.add, hides]

/-- Where a value is put further below there is a table, or an array if an index comes first. -/
theorem tells_putUnder (key : String) (next : Step) (rest : List Step) :
    (r.addAll (v.leavesUnder (.child key :: (next :: rest).map Step.normal))).Tells [key]
      (some (Tree.putUnder v next rest t)) := by
  cases next with
  | child second =>
    refine .inr (.inl ?_)
    cases rest with
    | nil => cases v <;> simp only [Tree.putUnder, Tree.assign, Tree.isTable]
    | cons _ _ => rfl
  | item index =>
    refine .inr (.inr ⟨by cases rest <;> rfl, ?_⟩)
    rw [Tree.leavesUnder_child, List.map_cons, Step.normal, Tree.leavesUnder_item]
    simp [Record.addAll, Record.add, Leaf.under, indexes]

/-- Putting a value under some steps is recording its leaves. -/
theorem agrees_putUnder (v : Tree) (rest : List Step) : ∀ (first : Step) {t : Tree} {r : Record},
    Agrees t r → Agrees (Tree.putUnder v first rest t)
      (r.addAll (v.leavesUnder ((first :: rest).map Step.normal))) := by
  induction rest with
  | nil =>
    intro first t r h
    cases first with
    | child key => exact agrees_assign key v h
    | item index => exact agrees_array _ index [] v
  | cons next rest ih =>
    intro first t r h
    cases first with
    | item index => exact agrees_array _ index _ v
    | child key =>
      -- the other names keep their entries, and below this one the rest of the steps is put
      rw [Tree.putUnder, Tree.changeStep]
      have htells := tells_putUnder (r := r) (v := v)
        (t := (Entries.get? t.entries (Tree.normal key)).getD .absent) (Tree.normal key) next rest
      rw [List.map_cons, Step.normal]
      rw [Tree.leavesUnder_child] at htells ⊢
      refine h.set (fun _ hne => Record.addAll_below_of_ne hne _ r) htells ?_
      rw [Record.addAll_below_self]
      exact ih next (h.below _ rfl)

/-- A tree into which a source is put agrees with the record of its leaves. -/
theorem agrees_layer (s : Source) : ∀ {t : Tree} {r : Record}, Agrees t r →
    Agrees (t.layer s) (r.addAll s.leaves) := by
  induction s with
  | nil => exact fun h => h
  | cons e rest ih =>
    intro t r h
    rw [Source.leaves, List.flatMap_cons, Record.addAll_append]
    exact ih (agrees_putUnder e.2 _ _ h)

/-- A tree of sources agrees with the record of their leaves. -/
theorem agrees_sources (file env : Source) :
    Agrees (((Tree.table []).layer file).layer env)
      ((Record.empty.addAll file.leaves).addAll env.leaves) := by
  have hempty : Agrees (.table []) Record.empty := fun _ _ => rfl
  exact agrees_layer env (agrees_layer file hempty)

end SchemaMigration.Settings
