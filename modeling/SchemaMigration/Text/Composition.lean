import SchemaMigration.Text.Combining
import SchemaMigration.Text.Composite

/-!
# Composed text

Texts that differ only in the order of marks, or in whether a letter and its mark are one character,
mean the same. Composing a text takes its composites apart, puts the marks after each letter in the
order of their classes, and joins what can be joined.

> `ordered_perm`: putting in order neither loses nor adds a character.
-/

namespace SchemaMigration.Text

/-! ## Taking apart -/

/-- How often a composite can be taken apart. -/
def compositeDepth : Nat := 3

/-- The characters of a composite, taken apart up to `rounds` times. The second part never falls
apart. -/
def decomposedChar : (rounds : Nat) → Char → List Char
  | 0, c => [c]
  | rounds + 1, c =>
    match parts? c with
    | some (a, b) => decomposedChar rounds a ++ [b]
    | none => [c]

/-- A text with its composites taken apart. -/
def decomposed (s : List Char) : List Char := s.flatMap (decomposedChar compositeDepth)

/-! ## Order of marks -/

/-- Puts a character before a text whose marks are in order, behind the marks of lower classes. -/
def insertMark (c : Char) : List Char → List Char
  | [] => [c]
  | d :: r =>
    if 0 < combiningClass d ∧ combiningClass d < combiningClass c then d :: insertMark c r
    else c :: d :: r

/-- A text with the marks after each letter in the order of their classes. Marks of the same class
keep their order. -/
def ordered (s : List Char) : List Char := s.foldr insertMark []

theorem insertMark_perm (c : Char) (s : List Char) : (insertMark c s).Perm (c :: s) := by
  induction s with
  | nil => exact .refl _
  | cons d r ih =>
    rw [insertMark]
    split
    · exact (ih.cons d).trans (.swap c d r)
    · exact .refl _

/-- Putting in order neither loses nor adds a character. -/
theorem ordered_perm (s : List Char) : (ordered s).Perm s := by
  induction s with
  | nil => exact .refl _
  | cons c r ih => exact (insertMark_perm c _).trans (ih.cons c)

/-! ## Joining -/

/-- Joins what can be joined in a text after a letter and the marks that did not join it. A mark is
hindered by a mark before it that is not of a lower class. -/
def composeFrom (letter : Char) (marks : List Char) : List Char → List Char
  | [] => letter :: marks
  | c :: r =>
    let apart :=
      if combiningClass c = 0 then letter :: marks ++ composeFrom c [] r
      else composeFrom letter (marks ++ [c]) r
    if marks.all fun m => decide (combiningClass m < combiningClass c) then
      match composite? letter c with
      | some d => composeFrom d marks r
      | none => apart
    else apart

/-- Joins what can be joined in a text that is in order. Marks without a letter stay. -/
def compose : List Char → List Char
  | [] => []
  | c :: r => if combiningClass c = 0 then composeFrom c [] r else c :: compose r

/-- The text with its composites joined. -/
def composed (s : List Char) : List Char := compose (ordered (decomposed s))

end SchemaMigration.Text
