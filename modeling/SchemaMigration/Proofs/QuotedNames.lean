import SchemaMigration.Proofs.StatementEffects

/-!
# Quoted names in a statement

A database name stands in its statements between backticks, with every backtick inside doubled. The
catalog reads the word after `CREATE DATABASE`, takes the backticks at its ends away and cuts it at
the first opening bracket. Both are stated on characters: doubling commutes with reversing a text,
with trimming it and with cutting it at a blank, so what is read back has a closed form.

> `trimChar_doubleBackticks`: doubling commutes with trimming.
> `words_cons`: the first word of a text that does not start with a blank.
> `effectOf_createDatabase`: the name (`keptName`) under which a database is kept, for any name.
-/

namespace SchemaMigration

/-! ## The first word -/

namespace Text

/-- A text that does not start with a blank starts with its first word, which the first blank
ends. -/
theorem words_cons {c : Char} (s : List Char) (hc : isBlank c = false) :
    ∃ rest, words (c :: s) = (c :: s.takeWhile fun d => !isBlank d) :: rest := by
  have hword : IsWord (c :: s.takeWhile fun d => !isBlank d) := by
    refine ⟨List.cons_ne_nil _ _, ?_⟩
    intro d hd
    rcases List.mem_cons.1 hd with rfl | hd
    · exact hc
    · simpa using List.mem_takeWhile_imp hd
  have hsplit : s.takeWhile (fun d => !isBlank d) ++ s.dropWhile (fun d => !isBlank d) = s :=
    List.takeWhile_append_dropWhile
  cases hrest : s.dropWhile fun d => !isBlank d with
  | nil =>
    rw [hrest, List.append_nil] at hsplit
    rw [hsplit] at hword ⊢
    exact ⟨[], words_of_isWord hword⟩
  | cons b rest =>
    have hb : isBlank b = true := by
      have h := List.head?_dropWhile_not (fun d => !isBlank d) s
      rw [hrest] at h
      simpa using h
    refine ⟨words rest, ?_⟩
    have hwhole : c :: s = (c :: s.takeWhile fun d => !isBlank d) ++ b :: rest := by
      rw [List.cons_append, ← hrest, hsplit]
    rw [hwhole, words, pieces_append_cons _ rest hb, List.filter_append]
    show words _ ++ words rest = _
    rw [words_of_isWord hword, List.singleton_append]

end Text

/-! ## Doubling backticks -/

namespace Sql

open Text

variable {s : List Char}

theorem doubleBackticks_eq_flatMap (s : List Char) :
    doubleBackticks s = s.flatMap fun c => if c = '\x60' then [c, c] else [c] := by
  induction s with
  | nil => rfl
  | cons c s ih =>
    rw [doubleBackticks, List.flatMap_cons, ih]
    by_cases hc : c = '\x60'
    · rw [if_pos hc, if_pos hc, List.cons_append, List.singleton_append]
    · rw [if_neg hc, if_neg hc, List.singleton_append]

theorem mem_doubleBackticks {c : Char} : c ∈ doubleBackticks s ↔ c ∈ s := by
  rw [doubleBackticks_eq_flatMap, List.mem_flatMap]
  constructor
  · intro h
    obtain ⟨d, hd, hc⟩ := h
    split at hc
    · simp only [List.mem_cons, List.not_mem_nil, or_false, or_self] at hc
      rwa [hc]
    · rwa [List.mem_singleton.1 hc]
  · intro h
    refine ⟨c, h, ?_⟩
    split
    · exact List.mem_cons_self
    · exact List.mem_cons_self

theorem doubleBackticks_reverse (s : List Char) :
    doubleBackticks s.reverse = (doubleBackticks s).reverse := by
  have hdouble : (List.reverse ∘ fun c : Char => if c = '\x60' then [c, c] else [c]) =
      fun c => if c = '\x60' then [c, c] else [c] := by
    funext c
    show (if c = '\x60' then [c, c] else [c]).reverse = _
    split
    · rfl
    · rfl
  rw [doubleBackticks_eq_flatMap, doubleBackticks_eq_flatMap, List.reverse_flatMap, hdouble]

/-- Doubling changes exactly the texts with a backtick. -/
theorem doubleBackticks_eq_self_iff : doubleBackticks s = s ↔ '\x60' ∉ s := by
  have hlength : ∀ t : List Char, t.length ≤ (doubleBackticks t).length := by
    intro t
    induction t with
    | nil => exact Nat.le_refl 0
    | cons c t ih =>
      rw [doubleBackticks]
      split
      · simp only [List.length_cons]
        omega
      · simp only [List.length_cons]
        omega
  induction s with
  | nil => simp [doubleBackticks]
  | cons c s ih =>
    rw [doubleBackticks]
    by_cases hc : c = '\x60'
    · rw [if_pos hc, hc]
      refine iff_of_false ?_ fun h => h List.mem_cons_self
      intro h
      have hlong := congrArg List.length h
      have := hlength s
      simp only [List.length_cons] at hlong
      omega
    · rw [if_neg hc, List.cons_inj_right, List.mem_cons, not_or, and_iff_right (Ne.symm hc)]
      exact ih

theorem dropWhile_doubleBackticks (s : List Char) :
    (doubleBackticks s).dropWhile (· == '\x60') = doubleBackticks (s.dropWhile (· == '\x60')) := by
  induction s with
  | nil => rfl
  | cons c s ih =>
    by_cases hc : c = '\x60'
    · rw [doubleBackticks, if_pos hc, hc, dropWhile_cons_self, dropWhile_cons_self,
        dropWhile_cons_self, ih]
    · have hfirst : ∀ t : List Char, (c :: t).head? ≠ some '\x60' :=
        fun t h => hc (Option.some.inj h)
      rw [doubleBackticks, if_neg hc, dropWhile_of_head?_ne (hfirst _),
        dropWhile_of_head?_ne (hfirst _), doubleBackticks, if_neg hc]

/-- Doubling the backticks of a text and trimming it is trimming it first. -/
theorem trimChar_doubleBackticks (s : List Char) :
    trimChar '\x60' (doubleBackticks s) = doubleBackticks (trimChar '\x60' s) := by
  rw [trimChar, dropWhile_doubleBackticks, ← doubleBackticks_reverse, dropWhile_doubleBackticks,
    ← doubleBackticks_reverse, trimChar]

/-- No backtick is a blank, so a doubled text is cut at its first blank as the text is. -/
theorem takeWhile_doubleBackticks (s : List Char) :
    (doubleBackticks s).takeWhile (fun c => !isBlank c) =
      doubleBackticks (s.takeWhile fun c => !isBlank c) := by
  induction s with
  | nil => rfl
  | cons c s ih =>
    by_cases hblank : isBlank c = true
    · have hc : c ≠ '\x60' := by
        intro hc
        rw [hc] at hblank
        exact absurd hblank (by decide)
      have hcut : ∀ t : List Char, (c :: t).takeWhile (fun d => !isBlank d) = [] :=
        fun t => List.takeWhile_cons_of_neg (by simp [hblank])
      rw [doubleBackticks, if_neg hc, hcut, hcut, doubleBackticks]
    · have hkept : ∀ t : List Char,
          (c :: t).takeWhile (fun d => !isBlank d) = c :: t.takeWhile fun d => !isBlank d :=
        fun t => List.takeWhile_cons_of_pos (by simp [hblank])
      rw [hkept, doubleBackticks, doubleBackticks]
      by_cases hc : c = '\x60'
      · rw [if_pos hc, if_pos hc, hkept, hkept, ih]
      · rw [if_neg hc, if_neg hc, hkept, ih]

end Sql

/-! ## Reading back -/

namespace Catalog

open Text Sql

/-- The name under which the catalog keeps a database that is created: what stands before the first
blank, without the backticks at its ends, the others doubled, cut at the first opening bracket. -/
def keptName (name : String) : String :=
  let word := name.toList.takeWhile fun c => !isBlank c
  String.ofList ((doubleBackticks (trimChar '\x60' word)).takeWhile (· != '('))

/-- The backtick that ends the quoted name is trimmed if it is in the first word at all. -/
theorem trimChar_quoted (s : List Char) :
    trimChar '\x60' ('\x60' :: (doubleBackticks s ++ ['\x60']).takeWhile fun c => !isBlank c) =
      doubleBackticks (trimChar '\x60' (s.takeWhile fun c => !isBlank c)) := by
  have hend : ['\x60'].takeWhile (fun c => !isBlank c) = ['\x60'] := by decide
  rw [trimChar_cons_self, List.takeWhile_append, hend, ← trimChar_doubleBackticks,
    ← takeWhile_doubleBackticks]
  split
  · next hall =>
    have hself : (doubleBackticks s).takeWhile (fun c => !isBlank c) = doubleBackticks s :=
      (List.takeWhile_prefix _).eq_of_length hall
    rw [trimChar_concat_self, hself]
  · rfl

/-- A database is created under the name that is kept of its own. -/
theorem effectOf_createDatabase (name : String) :
    effectOf (createDatabase name) = .createDatabase (keptName name) := by
  have hsql : (createDatabase name).toList =
      spaced ["CREATE", "DATABASE"] (quoteIdentifier name).toList := by
    unfold createDatabase
    simp [spaced]
  have hspaced : ∀ w ∈ ["CREATE", "DATABASE"], IsWord w.toList := by
    simp [-String.reduceToList, isWord_of_keyword]
  have hquote : (quoteIdentifier name).toList =
      '\x60' :: (doubleBackticks name.toList ++ ['\x60']) := by
    unfold quoteIdentifier
    rw [String.toList_ofList, List.cons_append]
  obtain ⟨rest, hwords⟩ := words_cons (doubleBackticks name.toList ++ ['\x60'])
    (show isBlank '\x60' = false by decide)
  rw [effectOf, hsql, words_spaced hspaced, hquote, hwords]
  simp [-String.reduceToList, effectOfWords, named, nameOfWord, trimChar_quoted, keptName]

end Catalog

end SchemaMigration
