/-!
# Named entries

A list of pairs of a name and a value, read as a finite map: the first pair of a name counts.

> `get?_set_self`, `get?_set_of_ne`: what is found after a name was set.
> `set_of_get?_none`: where a new name is put.
-/

namespace SchemaMigration.Entries

variable {α : Type}

/-- The value of a name. -/
def get? (es : List (String × α)) (name : String) : Option α :=
  (es.find? fun e => e.1 == name).map (·.2)

/-- Sets the value of a name. A new name comes last. -/
def set : List (String × α) → String → α → List (String × α)
  | [], name, a => [(name, a)]
  | e :: es, name, a => if e.1 = name then (name, a) :: es else e :: set es name a

@[simp] theorem get?_nil (name : String) : get? ([] : List (String × α)) name = none := rfl

theorem get?_cons (e : String × α) (es : List (String × α)) (name : String) :
    get? (e :: es) name = if e.1 = name then some e.2 else get? es name := by
  rw [get?, List.find?_cons]
  by_cases h : e.1 = name
  · simp [h]
  · rw [if_neg h, beq_false_of_ne h, get?]

@[simp] theorem get?_set_self (es : List (String × α)) (name : String) (a : α) :
    get? (set es name a) name = some a := by
  induction es with
  | nil => simp [set, get?_cons]
  | cons e es ih =>
    rw [set]
    split
    · simp [get?_cons]
    · next h => rw [get?_cons, if_neg h, ih]

theorem get?_set_of_ne (es : List (String × α)) {name other : String} (a : α) (h : other ≠ name) :
    get? (set es name a) other = get? es other := by
  induction es with
  | nil => simp [set, get?_cons, Ne.symm h]
  | cons e es ih =>
    rw [set]
    split
    · next he => rw [get?_cons, get?_cons, if_neg (Ne.symm h), if_neg (he ▸ Ne.symm h)]
    · rw [get?_cons, get?_cons, ih]

/-- A new name comes last. -/
theorem set_of_get?_none {es : List (String × α)} {name : String} (a : α)
    (h : get? es name = none) : set es name a = es ++ [(name, a)] := by
  induction es with
  | nil => rfl
  | cons e es ih =>
    rw [get?_cons] at h
    split at h
    · cases h
    · next hne => rw [set, if_neg hne, ih h, List.cons_append]

end SchemaMigration.Entries
