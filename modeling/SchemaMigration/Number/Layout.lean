import SchemaMigration.Number.Shortest

/-!
# Layouts of decimal text

A `Layout` fixes how a shortest decimal is laid out: where positional notation ends, whether a whole
number keeps a fraction, and which way a tie between two shortest candidates goes.

> `Layout.finite_ne_nil`, `Layout.finite_numeric`: the text of a finite number is not empty and
> uses only digits, signs, the point and the letter `e`.
-/

namespace SchemaMigration.Number

open Text

/-- How a finite number is written. -/
structure Layout where
  /-- The least place of the point that is still written positionally; none means always. -/
  least : Option Int
  /-- The greatest place of the point that is still written positionally; none means always. -/
  greatest : Option Int
  /-- Does a positional whole number end in a point and a zero? -/
  fraction : Bool
  /-- Which of two equally near shortest candidates is written. -/
  tie : Tie

namespace Layout

/-- Positional between a hundred-thousandth and ten thousand million million, with at least one
digit after the point; beyond that with an exponent that carries its sign. -/
def json : Layout := ⟨some (-4), some 16, true, .even⟩

/-- Always positional, and whole numbers without a point. -/
def plain : Layout := ⟨none, none, false, .up⟩

/-- Always positional, and whole numbers end in a point and a zero. -/
def pointed : Layout := ⟨none, none, true, .up⟩

/-- Is the place of the point in the positional range? -/
def positional (l : Layout) (place : Int) : Bool :=
  (match l.least with | none => true | some k => decide (k ≤ place)) &&
    match l.greatest with | none => true | some k => decide (place ≤ k)

/-- The digits without the zeros at their end, and how many there were. -/
def stripZeros (ds : List Char) : List Char × Nat :=
  let zeros := (ds.reverse.takeWhile (· == '0')).length
  (ds.take (ds.length - zeros), zeros)

/-- Digits with the point after the first `place` of them, filled up with zeros. -/
def place (l : Layout) (ds : List Char) (point : Int) : List Char :=
  if point ≤ 0 then '0' :: '.' :: List.replicate (-point).toNat '0' ++ ds
  else if (ds.length : Int) ≤ point then
    ds ++ List.replicate (point.toNat - ds.length) '0' ++ if l.fraction then ['.', '0'] else []
  else ds.take point.toNat ++ '.' :: ds.drop point.toNat

/-- Digits with the point after the first one, and the exponent that this needs. -/
def scientific (ds : List Char) (point : Int) : List Char :=
  let e := point - 1
  let tail := ds.drop 1
  ds.take 1 ++ (if tail.isEmpty then [] else '.' :: tail) ++
    'e' :: (if e < 0 then '-' else '+') :: digits e.natAbs

/-- The magnitude of a decimal in this layout. -/
def magnitude (l : Layout) (d : Decimal) : List Char :=
  if d.significand = 0 then '0' :: if l.fraction then ['.', '0'] else []
  else
    let all := digits d.significand
    let (ds, zeros) := stripZeros all
    let point : Int := ds.length + zeros + d.exponent
    if l.positional point then l.place ds point else scientific ds point

/-- The text of a finite number of a format in this layout. -/
def finite (l : Layout) (f : Format) (x : Binary) : List Char :=
  (if x.negative then ['-'] else []) ++ l.magnitude (f.shortest l.tie x)

/-- The characters that the text of a finite number is made of. -/
def isNumeric (c : Char) : Bool :=
  c.isDigit || c == '-' || c == '+' || c == '.' || c == 'e'

/-! ## The alphabet of a number -/

theorem isNumeric_of_isDigit {c : Char} (h : c.isDigit = true) : isNumeric c = true := by
  simp [isNumeric, h]

theorem isNumeric_of_mem_digits {n : Nat} {c : Char} (h : c ∈ digits n) : isNumeric c = true :=
  isNumeric_of_isDigit (isDigit_of_mem_digits n c h)

theorem isNumeric_of_mem_replicate {n : Nat} {c : Char} (h : c ∈ List.replicate n '0') :
    isNumeric c = true := by
  rw [(List.mem_replicate.1 h).2]
  decide

theorem isNumeric_of_mem_stripZeros {n : Nat} {c : Char} (h : c ∈ (stripZeros (digits n)).1) :
    isNumeric c = true :=
  isNumeric_of_mem_digits (List.mem_of_mem_take h)

theorem isNumeric_of_mem_place {l : Layout} {ds : List Char} {point : Int}
    (hds : ∀ c ∈ ds, isNumeric c = true) : ∀ c ∈ l.place ds point, isNumeric c = true := by
  intro c hc
  rw [place] at hc
  split at hc
  · simp only [List.cons_append, List.mem_cons, List.mem_append] at hc
    rcases hc with rfl | rfl | h | h
    · decide
    · decide
    · exact isNumeric_of_mem_replicate h
    · exact hds c h
  · split at hc
    · rcases List.mem_append.1 hc with h | h
      · rcases List.mem_append.1 h with h | h
        · exact hds c h
        · exact isNumeric_of_mem_replicate h
      · split at h
        · simp only [List.mem_cons, List.not_mem_nil, or_false] at h
          rcases h with rfl | rfl <;> decide
        · cases h
    · rcases List.mem_append.1 hc with h | h
      · exact hds c (List.mem_of_mem_take h)
      · rcases List.mem_cons.1 h with rfl | h
        · decide
        · exact hds c (List.mem_of_mem_drop h)

theorem isNumeric_of_mem_scientific {ds : List Char} {point : Int}
    (hds : ∀ c ∈ ds, isNumeric c = true) : ∀ c ∈ scientific ds point, isNumeric c = true := by
  intro c hc
  simp only [scientific, List.mem_append, List.mem_cons] at hc
  rcases hc with (h | h) | rfl | h | h
  · exact hds c (List.mem_of_mem_take h)
  · split at h
    · cases h
    · rcases List.mem_cons.1 h with rfl | h
      · decide
      · exact hds c (List.mem_of_mem_drop h)
  · decide
  · split at h
    · subst h; decide
    · subst h; decide
  · exact isNumeric_of_mem_digits h

/-- The text of a finite number uses only digits, signs, the point and the letter `e`. -/
theorem finite_numeric (l : Layout) (f : Format) (x : Binary) :
    ∀ c ∈ l.finite f x, isNumeric c = true := by
  intro c hc
  rcases List.mem_append.1 hc with h | h
  · split at h
    · rw [List.mem_singleton.1 h]; decide
    · cases h
  · rw [magnitude] at h
    split at h
    · rcases List.mem_cons.1 h with rfl | h
      · decide
      · split at h
        · simp only [List.mem_cons, List.not_mem_nil, or_false] at h
          rcases h with rfl | rfl <;> decide
        · cases h
    · dsimp only at h
      split at h
      · exact isNumeric_of_mem_place (fun c h => isNumeric_of_mem_stripZeros h) c h
      · exact isNumeric_of_mem_scientific (fun c h => isNumeric_of_mem_stripZeros h) c h

theorem place_ne_nil {l : Layout} {ds : List Char} {point : Int} : l.place ds point ≠ [] := by
  rw [place]
  split
  · simp
  · split
    · next h0 h =>
      intro h'
      simp only [List.append_eq_nil_iff, List.replicate_eq_nil_iff] at h'
      have : ds.length = 0 := by rw [h'.1.1]; rfl
      omega
    · simp

theorem finite_ne_nil (l : Layout) (f : Format) (x : Binary) : l.finite f x ≠ [] := by
  have hm : l.magnitude (f.shortest l.tie x) ≠ [] := by
    rw [magnitude]
    split
    · simp
    · dsimp only
      split
      · exact place_ne_nil
      · simp [scientific]
  intro h
  exact hm (List.append_eq_nil_iff.1 h).2

end Layout

/-! ## Any value of a format -/

/-- The text of any value of a format: infinities and not-a-number by name. -/
def Layout.floating (l : Layout) (f : Format) (nan : String) : Floating → List Char
  | .finite x => l.finite f x
  | .infinite negative => (if negative then ['-'] else []) ++ ['i', 'n', 'f']
  | .nan => nan.toList

end SchemaMigration.Number
