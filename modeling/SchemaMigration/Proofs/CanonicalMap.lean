import SchemaMigration.Proofs.Grammar

/-!
# Canonical command maps

A command can be written down in more than one way. Its *canonical map* is one of them: every field
is there, as a name, a boolean or an array. A map is *respelled* when a null is left out, when a
primary key that is one name is put in an array, and when numbers in definitions become text.

> `Spells.wellFormed`: what a map spells is a well-formed command.
> `spells_canonical`: the canonical map of a well-formed command spells it.
> `Respelled.spells_iff`: a respelled map spells what the map spells.
> `ofFields_image`: so exactly the well-formed commands are read, and all spellings read the same.
-/

namespace SchemaMigration

open Json

/-! ## Well-formed commands -/

/-- The text is not blank. -/
def Nonblank (s : String) : Prop := Text.isBlankText s = false

/-- The column has a name. -/
def Column.WellFormed (c : Column) : Prop := Nonblank c.name

/-- The constraint has a name and a definition. -/
def Constraint.WellFormed (c : Constraint) : Prop := Nonblank c.name ∧ c.definition ≠ []

/-- The fields of the command hold what they have to hold at least, and only well-formed entries. -/
def Command.FieldsWellFormed : Command → Prop
  | .createTable _ columns primaryKey constraints =>
    (columns ≠ [] ∧ ∀ c ∈ columns, c.WellFormed) ∧ (∀ n ∈ primaryKey, Nonblank n) ∧
    ∀ c ∈ constraints, c.WellFormed
  | .dropTable _ => True
  | .alterTable change =>
    (∀ c ∈ change.addColumns, c.WellFormed) ∧ (∀ n ∈ change.dropColumns, Nonblank n) ∧
    (∀ c ∈ change.modifyColumns, c.WellFormed) ∧ (∀ c ∈ change.addConstraints, c.WellFormed) ∧
    ∀ n ∈ change.dropConstraints, Nonblank n
  | .createIndex _ table columns _ =>
    Nonblank table ∧ columns ≠ [] ∧ ∀ n ∈ columns, Nonblank n
  | .dropIndex _ table => Nonblank table
  | .insertInto _ rows => rows ≠ [] ∧ ∀ r ∈ rows, r ≠ []

/-- The command has a subject, and its fields are well formed. -/
structure Command.WellFormed (c : Command) : Prop where
  subject : Nonblank c.subject
  fields : c.FieldsWellFormed

/-! ## Canonical maps -/

/-- An array of a name and the parts of its definition, all of them as text. -/
def specValue (name : String) (definition : List String) : Value :=
  .array (.string name :: definition.map .string)

/-- A column, as it stands in a canonical map. -/
def Column.value (c : Column) : Value := specValue c.name c.definition

/-- A constraint, as it stands in a canonical map. -/
def Constraint.value (c : Constraint) : Value := specValue c.name c.definition

/-- Every field of the command under its own key. -/
def Command.canonicalFields : Command → Fields
  | .createTable _ columns primaryKey constraints =>
    [("columns", .array (columns.map Column.value)),
      ("primary-key", .array (primaryKey.map .string)),
      ("constraints", .array (constraints.map Constraint.value))]
  | .dropTable _ => []
  | .alterTable change =>
    [("add-columns", .array (change.addColumns.map Column.value)),
      ("drop-columns", .array (change.dropColumns.map .string)),
      ("modify-columns", .array (change.modifyColumns.map Column.value)),
      ("add-constraints", .array (change.addConstraints.map Constraint.value)),
      ("drop-constraints", .array (change.dropConstraints.map .string))]
  | .createIndex _ table columns unique =>
    [("on", .string table), ("columns", .array (columns.map .string)), ("unique", .bool unique)]
  | .dropIndex _ table => [("on", .string table)]
  | .insertInto _ rows => [("values", .array (rows.map .array))]

/-- The canonical map of a command: the key of its kind with the subject, and every field. -/
def Command.canonical (c : Command) : Fields := (c.kind.key, .string c.subject) :: c.canonicalFields

/-! ## What is spelled is well formed -/

theorem SpellsSubject.nonblank {field : Option Value} {s : String} (h : SpellsSubject field s) :
    Nonblank s := by
  obtain ⟨v, -, hname⟩ := h
  exact hname.2

theorem SpellsSpec.nonblank {v : Value} {name : String} {definition : List String}
    (h : SpellsSpec v name definition) : Nonblank name := by
  cases h with
  | array hname hparts => exact hname.2

/-- What holds of every element that can be spelled holds of all elements of a list. -/
theorem SpellsList.forall_mem {α : Type} {R : Value → α → Prop} {P : α → Prop}
    {field : Option Value} {xs : List α} (h : SpellsList R field xs) (hP : ∀ v x, R v x → P x) :
    ∀ x ∈ xs, P x := by
  have hand : SpellsList (fun v x => R v x ∧ P x) field xs := by
    cases h with
    | array h => exact .array (h.imp fun v x hx => ⟨hx, hP v x hx⟩)
    | null => exact .null
    | absent => exact .absent
  exact (spellsList_and.1 hand).2

theorem SpellsKey.nonblank {field : Option Value} {names : List String}
    (h : SpellsKey field names) : ∀ n ∈ names, Nonblank n := by
  cases h with
  | list h => exact h.forall_mem fun _ _ hn => hn.2
  | name h => exact List.forall_mem_singleton.2 h.2

/-- What a map spells is well formed. -/
theorem Spells.wellFormed {fields : Fields} {c : Command} (h : Spells fields c) :
    c.WellFormed := by
  have columns : ∀ {field : Option Value} {cs : List Column}, SpellsList SpellsColumn field cs →
      ∀ c ∈ cs, c.WellFormed := fun hcs => hcs.forall_mem fun _ _ hc => hc.nonblank
  have constraints : ∀ {field : Option Value} {cs : List Constraint},
      SpellsList SpellsConstraint field cs → ∀ c ∈ cs, c.WellFormed :=
    fun hcs => hcs.forall_mem fun _ _ hc => ⟨hc.1.nonblank, hc.2⟩
  have names : ∀ {field : Option Value} {ns : List String}, SpellsList SpellsName field ns →
      ∀ n ∈ ns, Nonblank n := fun hns => hns.forall_mem fun _ _ hn => hn.2
  refine ⟨h.subject.nonblank, ?_⟩
  have hfields := h.fields
  cases c with
  | createTable =>
    obtain ⟨⟨hcolumns, hne⟩, hkey, hconstraints⟩ := hfields
    exact ⟨⟨hne, columns hcolumns⟩, hkey.nonblank, constraints hconstraints⟩
  | dropTable => trivial
  | alterTable =>
    obtain ⟨hadd, hdrop, hmodify, haddKeys, hdropKeys⟩ := hfields
    exact ⟨columns hadd, names hdrop, columns hmodify, constraints haddKeys, names hdropKeys⟩
  | createIndex =>
    obtain ⟨htable, ⟨hcolumns, hne⟩, -⟩ := hfields
    exact ⟨htable.nonblank, hne, names hcolumns⟩
  | dropIndex => exact SpellsSubject.nonblank hfields
  | insertInto =>
    obtain ⟨hrows, hne⟩ := hfields
    exact ⟨hne, hrows.forall_mem fun _ _ hr => hr.2⟩

/-! ## What is well formed is spelled -/

theorem spellsSpec_specValue {name : String} (h : Nonblank name) (definition : List String) :
    SpellsSpec (specValue name definition) name definition :=
  .array ⟨rfl, h⟩ (List.forall₂_map_left_iff.2 (List.forall₂_same.2 fun s _ => .text s))

/-- A list is spelled by the array of its elements, each as it is written. -/
theorem spellsList_map {α : Type} {R : Value → α → Prop} {P : α → Prop} {write : α → Value}
    (hwrite : ∀ x, P x → R (write x) x) {xs : List α} (h : ∀ x ∈ xs, P x) :
    SpellsList R (some (.array (xs.map write))) xs :=
  .array (List.forall₂_map_left_iff.2 (List.forall₂_same.2 fun x hx => hwrite x (h x hx)))

theorem spellsSubject_string {s : String} (h : Nonblank s) :
    SpellsSubject (some (.string s)) s := ⟨_, rfl, rfl, h⟩

theorem keepsTo_canonical (c : Command) : KeepsTo c.kind c.canonical := by
  refine List.forall_mem_cons.2 ⟨.inl rfl, fun f hf => .inr ?_⟩
  have hkeys : c.canonicalFields.map Prod.fst = c.kind.fieldKeys := by cases c <;> rfl
  rw [← hkeys]
  exact List.mem_map_of_mem hf

/-- The canonical map of a well-formed command spells it. -/
theorem spells_canonical {c : Command} (h : c.WellFormed) : Spells c.canonical c := by
  have columns : ∀ {cs : List Column}, (∀ c ∈ cs, c.WellFormed) →
      SpellsList SpellsColumn (some (.array (cs.map Column.value))) cs :=
    spellsList_map fun c hc => spellsSpec_specValue hc c.definition
  have constraints : ∀ {cs : List Constraint}, (∀ c ∈ cs, c.WellFormed) →
      SpellsList SpellsConstraint (some (.array (cs.map Constraint.value))) cs :=
    spellsList_map fun c hc => ⟨spellsSpec_specValue hc.1 c.definition, hc.2⟩
  have names : ∀ {ns : List String}, (∀ n ∈ ns, Nonblank n) →
      SpellsList SpellsName (some (.array (ns.map .string))) ns :=
    spellsList_map fun _ hn => ⟨rfl, hn⟩
  refine ⟨keepsTo_canonical c, ?_, ?_⟩
  · have hsubject : c.canonical.find? c.kind.key = some (.string c.subject) := by
      rw [Fields.find?, Command.canonical, Entries.get?_cons, if_pos rfl]
    rw [hsubject]
    exact spellsSubject_string h.subject
  have hfields := h.fields
  -- every look-up in a canonical map is decided by comparing two known keys
  cases c <;> simp only [SpellsFields, Command.canonical, Command.kind, Kind.key,
    Command.canonicalFields, Fields.find?, Entries.get?_cons, String.reduceEq, if_true, if_false]
  case createTable =>
    obtain ⟨⟨hne, hcolumns⟩, hkey, hconstraints⟩ := hfields
    exact ⟨⟨columns hcolumns, hne⟩, .list (names hkey), constraints hconstraints⟩
  case alterTable =>
    obtain ⟨hadd, hdrop, hmodify, haddKeys, hdropKeys⟩ := hfields
    exact ⟨columns hadd, names hdrop, columns hmodify, constraints haddKeys, names hdropKeys⟩
  case createIndex =>
    obtain ⟨htable, hne, hcolumns⟩ := hfields
    exact ⟨spellsSubject_string htable, ⟨names hcolumns, hne⟩, .bool _⟩
  case dropIndex => exact spellsSubject_string hfields
  case insertInto =>
    obtain ⟨hne, hrows⟩ := hfields
    exact ⟨spellsList_map (fun _ hr => ⟨rfl, hr⟩) hrows, hne⟩

/-! ## Respelled maps -/

/-- The part of a definition is kept, or is a number and becomes its text. -/
inductive RespelledPart : Value → Value → Prop
  | same (v : Value) : RespelledPart v v
  | text (n : Numeral) : RespelledPart (.number n) (.string n.text)

/-- The name is kept, and so is every part of the definition, or becomes its text. -/
inductive RespelledSpec : Value → Value → Prop
  | array (head : Value) {parts parts' : List Value} (h : List.Forall₂ RespelledPart parts parts') :
    RespelledSpec (.array (head :: parts)) (.array (head :: parts'))

/-- A field of this shape, and another way to write it. -/
inductive Respelling : Shape → Option Value → Option Value → Prop
  | same (shape : Shape) (field : Option Value) : Respelling shape field field
  | leftOut (shape : Shape) : Respelling shape (some .null) none
  | inArray (s : String) : Respelling .names (some (.string s)) (some (.array [.string s]))
  | definitions (required : Bool) (least : Nat) {items items' : List Value}
      (h : List.Forall₂ RespelledSpec items items') :
    Respelling (.list required (.spec least)) (some (.array items)) (some (.array items'))

/-- Every field of the kind may be written in another way; what is under other keys is the same. -/
structure Respelled (kind : Kind) (fields fields' : Fields) : Prop where
  shaped : ∀ s ∈ kind.shapes, Respelling s.2 (fields.find? s.1) (fields'.find? s.1)
  others : ∀ key, (∀ s ∈ kind.shapes, key ≠ s.1) → fields'.find? key = fields.find? key

theorem Respelled.of_find?_eq {kind : Kind} {fields fields' : Fields}
    (h : ∀ key, fields'.find? key = fields.find? key) : Respelled kind fields fields' where
  shaped := fun s _ => (h s.1).symm ▸ .same s.2 _
  others := fun key _ => h key

/-- Lists whose elements are related one by one spell the same, if related elements do. -/
theorem forall₂_iff_of_forall₂ {α β : Type} {Q : α → α → Prop} {R : α → β → Prop} {xs xs' : List α}
    (h : List.Forall₂ Q xs xs') (hR : ∀ x x', Q x x' → ∀ y, R x' y ↔ R x y) (ys : List β) :
    List.Forall₂ R xs' ys ↔ List.Forall₂ R xs ys := by
  induction h generalizing ys with
  | nil => exact Iff.rfl
  | cons hx _ ih => simp only [List.forall₂_cons_left_iff, ih, hR _ _ hx]

theorem RespelledPart.spells_iff {v v' : Value} (h : RespelledPart v v') (s : String) :
    SpellsPart v' s ↔ SpellsPart v s := by
  cases h with
  | same => exact Iff.rfl
  | text n =>
    constructor
    · intro hs
      cases hs
      exact .number n
    · intro hs
      cases hs
      exact .text n.text

theorem spellsSpec_array_iff {head : Value} {parts : List Value} {name : String}
    {definition : List String} : SpellsSpec (.array (head :: parts)) name definition ↔
      SpellsName head name ∧ List.Forall₂ SpellsPart parts definition := by
  constructor
  · intro h
    cases h with
    | array hname hparts => exact ⟨hname, hparts⟩
  · exact fun h => .array h.1 h.2

theorem spellsList_array_iff {α : Type} {R : Value → α → Prop} {items : List Value} {xs : List α} :
    SpellsList R (some (.array items)) xs ↔ List.Forall₂ R items xs := by
  constructor
  · intro h
    cases h with
    | array h => exact h
  · exact .array

theorem RespelledSpec.spells_iff {v v' : Value} (h : RespelledSpec v v') (name : String)
    (definition : List String) : SpellsSpec v' name definition ↔ SpellsSpec v name definition := by
  cases h with
  | array head h =>
    rw [spellsSpec_array_iff, spellsSpec_array_iff,
      forall₂_iff_of_forall₂ h fun _ _ hp => hp.spells_iff]

theorem spellsList_null_iff {α : Type} {R : Value → α → Prop} {xs : List α} :
    SpellsList R none xs ↔ SpellsList R (some .null) xs := by
  constructor
  · intro h
    cases h
    exact .null
  · intro h
    cases h
    exact .absent

theorem Respelling.spellsSubject_iff {field field' : Option Value}
    (h : Respelling .name field field') (s : String) :
    SpellsSubject field' s ↔ SpellsSubject field s := by
  cases h with
  | same => exact Iff.rfl
  | leftOut => simp [SpellsSubject, SpellsName]

/-- A list spells the same if its elements do, where they are written in another way. -/
theorem Respelling.spellsList_iff {α : Type} {R : Value → α → Prop} {required : Bool}
    {element : Element} {field field' : Option Value}
    (h : Respelling (.list required element) field field')
    (hR : ∀ least, element = .spec least → ∀ v v', RespelledSpec v v' → ∀ x, R v' x ↔ R v x)
    (xs : List α) : SpellsList R field' xs ↔ SpellsList R field xs := by
  cases h with
  | same => exact Iff.rfl
  | leftOut => exact spellsList_null_iff
  | definitions _ least h =>
    rw [spellsList_array_iff, spellsList_array_iff, forall₂_iff_of_forall₂ h (hR least rfl)]

theorem Respelling.spellsKey_iff {field field' : Option Value}
    (h : Respelling .names field field') (ns : List String) :
    SpellsKey field' ns ↔ SpellsKey field ns := by
  cases h with
  | same => exact Iff.rfl
  | leftOut =>
    constructor
    · intro hs
      cases hs with
      | list hs => exact .list (spellsList_null_iff.1 hs)
    · intro hs
      cases hs with
      | list hs => exact .list (spellsList_null_iff.2 hs)
      | name hs => cases hs.1
  | inArray s =>
    constructor
    · intro hs
      cases hs with
      | list hs =>
        -- an array of one element spells one name
        obtain ⟨n, _, hn, hnil, rfl⟩ := List.forall₂_cons_left_iff.1 (spellsList_array_iff.1 hs)
        cases hnil
        exact .name hn
      | name hs => cases hs.1
    · intro hs
      cases hs with
      | list hs => cases hs
      | name hs => exact .list (.array (.cons hs .nil))

theorem Respelling.spellsFlag_iff {field field' : Option Value}
    (h : Respelling .flag field field') (b : Bool) : SpellsFlag field' b ↔ SpellsFlag field b := by
  cases h with
  | same => exact Iff.rfl
  | leftOut =>
    constructor
    · intro hs
      cases hs
      exact .null
    · intro hs
      cases hs
      exact .absent

theorem keepsTo_iff {kind : Kind} {fields : Fields} : KeepsTo kind fields ↔
    ∀ key, (∀ s ∈ kind.shapes, key ≠ s.1) → fields.find? key = none := by
  have hkey : ∀ key, (∀ s ∈ kind.shapes, key ≠ s.1) ↔ ¬ (key = kind.key ∨ key ∈ kind.fieldKeys) :=
    fun key => by simp only [← Kind.exists_shape_iff, not_exists, not_and, ne_eq]
  simp only [hkey]
  constructor
  · intro h key hforeign
    rw [← Option.not_isSome_iff_eq_none, Fields.isSome_find?_iff]
    rintro ⟨f, hf, rfl⟩
    exact hforeign (h f hf)
  · intro h f hf
    by_contra hforeign
    have hfound : (fields.find? f.1).isSome = true := Fields.isSome_find?_iff.2 ⟨f, hf, rfl⟩
    rw [h f.1 hforeign] at hfound
    cases hfound

/-- A respelled map spells what the map spells. -/
theorem Respelled.spells_iff {c : Command} {fields fields' : Fields}
    (h : Respelled c.kind fields fields') : Spells fields' c ↔ Spells fields c := by
  have hkeys : KeepsTo c.kind fields' ↔ KeepsTo c.kind fields := by
    rw [keepsTo_iff, keepsTo_iff]
    exact forall₂_congr fun key hkey => by rw [h.others key hkey]
  have hsubject := (h.shaped (c.kind.key, .name) List.mem_cons_self).spellsSubject_iff c.subject
  have hfields : SpellsFields fields' c ↔ SpellsFields fields c := by
    have columns : ∀ {required : Bool} {field field' : Option Value},
        Respelling (.list required (.spec 0)) field field' →
        ∀ cs, SpellsList SpellsColumn field' cs ↔ SpellsList SpellsColumn field cs :=
      fun hf => hf.spellsList_iff fun _ _ _ _ hv c => hv.spells_iff c.name c.definition
    have constraints : ∀ {field field' : Option Value},
        Respelling (.list false (.spec 1)) field field' →
        ∀ cs, SpellsList SpellsConstraint field' cs ↔ SpellsList SpellsConstraint field cs :=
      fun hf => hf.spellsList_iff fun _ _ _ _ hv c =>
        and_congr_left' (hv.spells_iff c.name c.definition)
    have names : ∀ {required : Bool} {field field' : Option Value},
        Respelling (.list required .name) field field' →
        ∀ ns, SpellsList SpellsName field' ns ↔ SpellsList SpellsName field ns :=
      fun hf => hf.spellsList_iff fun _ hspec => by cases hspec
    -- the table of shapes says, kind by kind, how each field may have been respelled
    have shaped := h.shaped
    cases c <;> simp only [Command.kind, Kind.shapes, Kind.fieldShapes, List.forall_mem_cons,
      List.not_mem_nil, false_imp_iff, implies_true, and_true] at shaped
    case createTable =>
      obtain ⟨-, hcolumns, hkey, hconstraints⟩ := shaped
      exact and_congr (and_congr_left' (columns hcolumns _))
        (and_congr (hkey.spellsKey_iff _) (constraints hconstraints _))
    case dropTable => exact Iff.rfl
    case alterTable =>
      obtain ⟨-, hadd, hdrop, hmodify, haddKeys, hdropKeys⟩ := shaped
      exact and_congr (columns hadd _) (and_congr (names hdrop _) (and_congr (columns hmodify _)
        (and_congr (constraints haddKeys _) (names hdropKeys _))))
    case createIndex =>
      obtain ⟨-, htable, hcolumns, hunique⟩ := shaped
      exact and_congr (htable.spellsSubject_iff _) (and_congr (and_congr_left' (names hcolumns _))
        (hunique.spellsFlag_iff _))
    case dropIndex => exact shaped.2.spellsSubject_iff _
    case insertInto =>
      exact and_congr_left' (shaped.2.spellsList_iff (fun _ hspec => by cases hspec) _)
  constructor
  · exact fun hs => ⟨hkeys.1 hs.keys, hsubject.1 hs.subject, hfields.1 hs.fields⟩
  · exact fun hs => ⟨hkeys.2 hs.keys, hsubject.2 hs.subject, hfields.2 hs.fields⟩

/-! ## What is read -/

/-- Exactly the well-formed commands are read from maps. A well-formed command is read from its
canonical map, in whatever order its fields stand, and a map is read as the command exactly when
the respelled map is. -/
theorem ofFields_image (c : Command) :
    (∀ fields, Command.ofFields fields = .ok c → c.WellFormed) ∧
    (c.WellFormed → ∀ fields : Fields, (∀ key, fields.find? key = c.canonical.find? key) →
      Command.ofFields fields = .ok c) ∧
    ∀ fields fields', Respelled c.kind fields fields' →
      (Command.ofFields fields' = .ok c ↔ Command.ofFields fields = .ok c) := by
  simp only [ofFields_eq_ok_iff]
  refine ⟨fun fields h => h.wellFormed, ?_, fun fields fields' h => h.spells_iff⟩
  intro h fields hfind
  exact (Respelled.of_find?_eq hfind).spells_iff.2 (spells_canonical h)

/-- A table with a null for its constraints, a single name for its primary key and a number in a
definition is the table without them. -/
theorem ofFields_respelledTable :
    Command.ofFields [("create-table", .string "t"),
      ("columns", .array [.array [.string "id", .string "INT", .number (.whole 10)]]),
      ("primary-key", .string "id"), ("constraints", .null)] =
    .ok (.createTable "t" [⟨"id", ["INT", "10"]⟩] ["id"] []) := by
  have hten : (Numeral.whole 10).text = "10" := by decide +kernel
  have hpart : RespelledPart (.number (.whole 10)) (.string "10") := hten ▸ .text (.whole 10)
  refine ((ofFields_image (.createTable "t" [⟨"id", ["INT", "10"]⟩] ["id"] [])).2.2 _
    [("create-table", .string "t"),
      ("columns", .array [.array [.string "id", .string "INT", .string "10"]]),
      ("primary-key", .array [.string "id"])] ⟨?_, ?_⟩).1 rfl
  · simp only [Command.kind, Kind.shapes, Kind.fieldShapes, List.forall_mem_cons]
    exact ⟨.same _ _, .definitions _ _ (.cons (.array _ (.cons (.same _) (.cons hpart .nil))) .nil),
      .inArray "id", .leftOut _, by simp⟩
  · intro key hkey
    simp only [Command.kind, Kind.shapes, Kind.fieldShapes, List.forall_mem_cons] at hkey
    obtain ⟨-, hcolumns, hprimary, hconstraints, -⟩ := hkey
    simp only [Fields.find?, Entries.get?_cons, if_neg hcolumns.symm, if_neg hprimary.symm,
      if_neg hconstraints.symm]

end SchemaMigration
