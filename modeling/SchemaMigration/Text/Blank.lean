/-!
# White space

A character is *blank* when it has the Unicode property White_Space. Names must hold a character
that is not blank, backend messages are trimmed, and the catalog reads a statement as its words.

> `isTrimmed_trimChar`, `IsTrimmed.trimChar_eq`: trimming one character leaves a trimmed text, and
> such a text stays as it is.
> `pieces_append_cons`, `exists_cut_of_pieces`: a text is cut into the pieces before a cut and those
> after it, and two neighbours have a cut between them.
> `words_nonempty`: no word is empty.
> `not_isBlank_of_mem_words`: no word holds a blank.
-/

namespace SchemaMigration.Text

/-- The code points with the property White_Space, as closed ranges in ascending order. -/
def blankRanges : List (Nat × Nat) :=
  [(0x09, 0x0D), (0x20, 0x20), (0x85, 0x85), (0xA0, 0xA0), (0x1680, 0x1680), (0x2000, 0x200A),
    (0x2028, 0x2029), (0x202F, 0x202F), (0x205F, 0x205F), (0x3000, 0x3000)]

/-- Is the code point in one of the closed ranges? -/
def inRanges (ranges : List (Nat × Nat)) (n : Nat) : Bool :=
  ranges.any fun r => decide (r.1 ≤ n) && decide (n ≤ r.2)

/-- Has the character the property White_Space? -/
def isBlank (c : Char) : Bool := inRanges blankRanges c.toNat

/-- Core's white space is blank. -/
theorem isBlank_of_isWhitespace {c : Char} (h : c.isWhitespace = true) : isBlank c = true := by
  simp only [Char.isWhitespace, Bool.or_eq_true, decide_eq_true_eq] at h
  rcases h with ((rfl | rfl) | rfl) | rfl <;> decide

/-! ## Trimming -/

/-- The text without the blanks at both ends. -/
def trim (s : List Char) : List Char :=
  ((s.dropWhile isBlank).reverse.dropWhile isBlank).reverse

/-- The text without the blanks at its end. -/
def trimEnd (s : List Char) : List Char :=
  (s.reverse.dropWhile isBlank).reverse

/-- The text without every `q` at both ends. -/
def trimChar (q : Char) (s : List Char) : List Char :=
  ((s.dropWhile (· == q)).reverse.dropWhile (· == q)).reverse

/-- A text is blank when it holds no other character. -/
def isBlankText (s : String) : Bool := s.toList.all isBlank

/-! ## Trimming one character -/

/-- Neither end of the text is the character. -/
structure IsTrimmed (q : Char) (s : List Char) : Prop where
  first : s.head? ≠ some q
  last : s.getLast? ≠ some q

section Trimmed

variable {q : Char} {s : List Char}

theorem head?_dropWhile_ne (q : Char) (s : List Char) :
    (s.dropWhile (· == q)).head? ≠ some q := by
  have h := List.head?_dropWhile_not (· == q) s
  intro hq
  rw [hq] at h
  exact absurd h (by simp)

theorem dropWhile_cons_self (q : Char) (s : List Char) :
    (q :: s).dropWhile (· == q) = s.dropWhile (· == q) :=
  List.dropWhile_cons_of_pos (beq_self_eq_true q)

theorem dropWhile_of_head?_ne (h : s.head? ≠ some q) : s.dropWhile (· == q) = s := by
  cases s with
  | nil => rfl
  | cons c s =>
    apply List.dropWhile_cons_of_neg
    intro hc
    exact h (congrArg some (beq_iff_eq.1 hc))

/-- Trimming leaves a trimmed text. -/
theorem isTrimmed_trimChar (q : Char) (s : List Char) : IsTrimmed q (trimChar q s) where
  first := by
    -- what the second pass leaves ends, read backwards, where the first pass stopped
    have hsplit : ((s.dropWhile (· == q)).reverse.takeWhile (· == q)) ++
        ((s.dropWhile (· == q)).reverse.dropWhile (· == q)) = (s.dropWhile (· == q)).reverse :=
      List.takeWhile_append_dropWhile
    intro hq
    rw [trimChar, List.head?_reverse] at hq
    have hlast := congrArg List.getLast? hsplit
    rw [List.getLast?_append, hq, List.getLast?_reverse] at hlast
    exact head?_dropWhile_ne q s hlast.symm
  last := by
    rw [trimChar, List.getLast?_reverse]
    exact head?_dropWhile_ne q _

/-- A trimmed text stays as it is. -/
theorem IsTrimmed.trimChar_eq (h : IsTrimmed q s) : trimChar q s = s := by
  have hlast : s.reverse.head? ≠ some q := by
    rw [List.head?_reverse]
    exact h.last
  rw [trimChar, dropWhile_of_head?_ne h.first, dropWhile_of_head?_ne hlast, List.reverse_reverse]

theorem trimChar_trimChar (q : Char) (s : List Char) : trimChar q (trimChar q s) = trimChar q s :=
  (isTrimmed_trimChar q s).trimChar_eq

theorem trimChar_of_notMem (h : q ∉ s) : trimChar q s = s := by
  apply IsTrimmed.trimChar_eq
  exact ⟨fun hq => h (List.mem_of_head? hq), fun hq => h (List.mem_of_getLast? hq)⟩

theorem mem_of_mem_trimChar {c : Char} (h : c ∈ trimChar q s) : c ∈ s := by
  have hsecond := (List.dropWhile_sublist _).subset (List.mem_reverse.1 h)
  exact (List.dropWhile_sublist _).subset (List.mem_reverse.1 hsecond)

/-- One more of the character in front is trimmed as well. -/
theorem trimChar_cons_self (q : Char) (s : List Char) : trimChar q (q :: s) = trimChar q s := by
  rw [trimChar, dropWhile_cons_self, trimChar]

/-- So is one more of it at the end. -/
theorem trimChar_concat_self (q : Char) (s : List Char) : trimChar q (s ++ [q]) = trimChar q s := by
  rw [trimChar, trimChar, List.dropWhile_append]
  by_cases hs : (s.dropWhile (· == q)).isEmpty = true
  · rw [if_pos hs, dropWhile_cons_self, List.isEmpty_iff.1 hs, List.dropWhile_nil]
  · rw [if_neg hs, List.reverse_append, List.reverse_singleton, List.singleton_append,
      dropWhile_cons_self]

end Trimmed

/-! ## Words -/

/-- Cuts at every character that satisfies `p`. Adjacent cuts leave empty pieces. -/
def pieces (p : Char → Bool) : List Char → List (List Char)
  | [] => [[]]
  | c :: r =>
    if p c then [] :: pieces p r
    else match pieces p r with
      | [] => [[c]]
      | w :: ws => (c :: w) :: ws

/-- The maximal runs of characters that are not blank, in order. -/
def words (s : List Char) : List (List Char) :=
  (pieces isBlank s).filter fun w => !w.isEmpty

theorem not_of_mem_pieces {p : Char → Bool} {s w : List Char} {c : Char}
    (hw : w ∈ pieces p s) (hc : c ∈ w) : p c = false := by
  induction s generalizing w with
  | nil =>
    simp only [pieces, List.mem_singleton] at hw
    subst hw
    cases hc
  | cons d r ih =>
    rw [pieces] at hw
    split at hw
    · rcases List.mem_cons.1 hw with rfl | h
      · cases hc
      · exact ih h hc
    · next hd =>
      split at hw
      · rw [List.mem_singleton.1 hw, List.mem_singleton] at hc
        subst hc
        simpa using hd
      · next v vs heq =>
        rcases List.mem_cons.1 hw with rfl | h
        · rcases List.mem_cons.1 hc with rfl | h'
          · simpa using hd
          · exact ih (heq ▸ List.mem_cons_self) h'
        · exact ih (heq ▸ List.mem_cons_of_mem _ h) hc

theorem pieces_ne_nil (p : Char → Bool) (s : List Char) : pieces p s ≠ [] := by
  cases s with
  | nil => exact List.cons_ne_nil _ _
  | cons c r =>
    rw [pieces]
    split
    · exact List.cons_ne_nil _ _
    · split
      · exact List.cons_ne_nil _ _
      · exact List.cons_ne_nil _ _

theorem pieces_of_none {p : Char → Bool} {w : List Char} (h : ∀ c ∈ w, p c = false) :
    pieces p w = [w] := by
  induction w with
  | nil => rfl
  | cons c w ih =>
    have hc := h c List.mem_cons_self
    have hw := ih fun d hd => h d (List.mem_cons_of_mem _ hd)
    rw [pieces, if_neg (by simp [hc]), hw]

/-- The pieces on both sides of a cut. -/
theorem pieces_append_cons {p : Char → Bool} (s : List Char) {b : Char} (r : List Char)
    (hb : p b = true) : pieces p (s ++ b :: r) = pieces p s ++ pieces p r := by
  induction s with
  | nil =>
    show pieces p (b :: r) = [] :: pieces p r
    rw [pieces, if_pos hb]
  | cons c s ih =>
    rw [List.cons_append, pieces, pieces, ih]
    split
    · rfl
    · rcases h : pieces p s with _ | ⟨w, ws⟩
      · exact absurd h (pieces_ne_nil p s)
      · rfl

/-- Only the empty text has no piece but an empty one. -/
theorem eq_nil_of_pieces {p : Char → Bool} {s : List Char} (h : pieces p s = [[]]) : s = [] := by
  cases s with
  | nil => rfl
  | cons c r =>
    rw [pieces] at h
    split at h
    · exact absurd (List.cons.inj h).2 (pieces_ne_nil p r)
    · split at h <;> cases h

/-- Behind the first of two pieces is a cut. -/
theorem exists_cut_of_pieces {p : Char → Bool} {s w v : List Char} {ws : List (List Char)}
    (h : pieces p s = w :: v :: ws) :
    ∃ b r, p b = true ∧ s = w ++ b :: r ∧ pieces p r = v :: ws := by
  induction s generalizing w with
  | nil => cases h
  | cons c r ih =>
    rw [pieces] at h
    split at h
    · next hc =>
      obtain ⟨rfl, hr⟩ := List.cons.inj h
      exact ⟨c, r, hc, rfl, hr⟩
    · split at h
      · cases h
      · next u us hr =>
        obtain ⟨rfl, rfl⟩ := List.cons.inj h
        obtain ⟨b, r', hb, rfl, hr'⟩ := ih hr
        exact ⟨b, r', hb, rfl, hr'⟩

theorem words_nonempty {s w : List Char} (h : w ∈ words s) : w ≠ [] := by
  have := (List.mem_filter.1 h).2
  rintro rfl
  simp at this

theorem not_isBlank_of_mem_words {s w : List Char} {c : Char} (hw : w ∈ words s) (hc : c ∈ w) :
    isBlank c = false :=
  not_of_mem_pieces (List.mem_filter.1 hw).1 hc

end SchemaMigration.Text
