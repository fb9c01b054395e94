import SchemaMigration.Text.Blank
import SchemaMigration.Text.Hexadecimal

/-!
# Tables of code points

The long tables of the character properties are written as lines of text. A line holds entries with
blanks between them, and an entry is a code point in hexadecimal, `AA`, or a closed range of them,
`41-5A`. In a table of replacements there may be a stride after the range, and the code points that
stand for the first one follow: `41-5A:61`, `100-12E/2:101`, `BC:31,2044,34`. Along a range the
replacement moves with the code point.

> `Replacement.of?_eq_none_iff`: what is outside the range, or between its strides, is not replaced.
-/

namespace SchemaMigration.Text

/-! ## Ranges -/

/-- The closed range that an entry writes. -/
def rangeOf (entry : List Char) : Nat × Nat :=
  match pieces (· == '-') entry with
  | [first, last] => (ofHexDigits first, ofHexDigits last)
  | _ => (ofHexDigits entry, ofHexDigits entry)

/-- The closed ranges that lines of a table write. -/
def rangesOf (lines : List String) : List (Nat × Nat) :=
  lines.flatMap fun line => (words line.toList).map rangeOf

/-! ## Classes -/

/-- The classes of a table whose lines each belong to one. -/
def classesOf {α : Type} (lines : List (α × String)) : List (α × List (Nat × Nat)) :=
  lines.map fun line => (line.1, rangesOf [line.2])

/-- The class of a code point; none if the table does not have it. -/
def classOf? {α : Type} (classes : List (α × List (Nat × Nat))) (n : Nat) : Option α :=
  (classes.find? fun c => inRanges c.2 n).map (·.1)

/-! ## Replacements -/

/-- The replacement of some code points: every one of a range, or every one at a stride of it. -/
structure Replacement where
  first : Nat
  last : Nat
  stride : Nat
  /-- What stands for the first code point. -/
  target : List Nat
deriving DecidableEq, Repr

/-- The replacement that an entry writes. -/
def Replacement.ofEntry (entry : List Char) : Replacement :=
  let (head, target) := match pieces (· == ':') entry with
    | [head, target] => (head, target)
    | _ => (entry, [])
  let (range, stride) := match pieces (· == '/') head with
    | [range, stride] => (range, ofHexDigits stride)
    | _ => (head, 1)
  let r := rangeOf range
  ⟨r.1, r.2, stride, (pieces (· == ',') target).map ofHexDigits⟩

/-- The replacements that lines of a table write. -/
def replacementsOf (lines : List String) : List Replacement :=
  lines.flatMap fun line => (words line.toList).map Replacement.ofEntry

/-- What stands for a code point, if it is replaced. -/
def Replacement.of? (r : Replacement) (n : Nat) : Option (List Nat) :=
  if r.first ≤ n ∧ n ≤ r.last ∧ (n - r.first) % r.stride = 0 then
    some (r.target.map (· + (n - r.first)))
  else none

theorem Replacement.of?_eq_none_iff (r : Replacement) (n : Nat) :
    r.of? n = none ↔ ¬(r.first ≤ n ∧ n ≤ r.last ∧ (n - r.first) % r.stride = 0) := by
  rw [Replacement.of?]
  split <;> simp_all

/-- What stands for a code point by the first replacement that has it. -/
def replacement? (rs : List Replacement) (n : Nat) : Option (List Nat) :=
  rs.findSome? fun r => r.of? n

end SchemaMigration.Text
