import SchemaMigration.Toml.Value

/-!
# Equality of TOML values

Whether two values are equal is decided along both of them at once, so that a document that is read
can be compared with the table that is expected.

> `Value.same_iff_eq`: the comparison is equality.
-/

namespace SchemaMigration.Toml

mutual

/-- Are two values equal? -/
def Value.same : Value → Value → Bool
  | .string a, .string b => a == b
  | .integer a, .integer b => a == b
  | .float a, .float b => a == b
  | .boolean a, .boolean b => a == b
  | .datetime a, .datetime b => a == b
  | .array items, .array items' => sameItems items items'
  | .table fields, .table fields' => sameFields fields fields'
  | _, _ => false

/-- Are the items of two arrays equal, one by one? -/
def sameItems : List Value → List Value → Bool
  | [], [] => true
  | v :: vs, v' :: vs' => v.same v' && sameItems vs vs'
  | _, _ => false

/-- Are the fields of two tables equal, one by one? -/
def sameFields : List (String × Value) → List (String × Value) → Bool
  | [], [] => true
  | (k, v) :: rest, (k', v') :: rest' => k == k' && v.same v' && sameFields rest rest'
  | _, _ => false

end

mutual

theorem Value.same_iff_eq : ∀ a b : Value, a.same b = true ↔ a = b
  | .array items, b => by
    cases b with
    | array items' => simp [Value.same, sameItems_iff_eq items items']
    | _ => simp [Value.same]
  | .table fields, b => by
    cases b with
    | table fields' => simp [Value.same, sameFields_iff_eq fields fields']
    | _ => simp [Value.same]
  | .string _, b | .integer _, b | .float _, b | .boolean _, b | .datetime _, b => by
    cases b <;> simp [Value.same]

theorem sameItems_iff_eq : ∀ a b : List Value, sameItems a b = true ↔ a = b
  | [], b => by cases b <;> simp [sameItems]
  | _ :: _, [] => by simp [sameItems]
  | v :: vs, v' :: vs' => by simp [sameItems, v.same_iff_eq v', sameItems_iff_eq vs vs']

theorem sameFields_iff_eq : ∀ a b : List (String × Value), sameFields a b = true ↔ a = b
  | [], b => by cases b <;> simp [sameFields]
  | _ :: _, [] => by simp [sameFields]
  | (k, v) :: rest, (k', v') :: rest' => by
    simp [sameFields, v.same_iff_eq v', sameFields_iff_eq rest rest', and_assoc]

end

instance : DecidableEq Value := fun a b => decidable_of_iff _ (Value.same_iff_eq a b)

end SchemaMigration.Toml
