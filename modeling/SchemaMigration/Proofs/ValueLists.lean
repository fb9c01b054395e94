import SchemaMigration.Plan

/-!
# Value lists

What a server makes of the rows of an insert. A *value list* is a text of rows in brackets, each of
them data separated by commas. Its reader takes one character at a time and remembers where it
stands (`Place`), so a quoted text ends exactly where a quote stands that no backslash and no second
quote takes the meaning from, whatever else is in it.

> `run_quoted`: a quoted text is read back, and the reader stands behind its closing quote.
> `run_literal`: after a literal, the next comma or bracket ends it as the datum that was written.
> `readRows_insertInto`: the rows of an insert are read back as they were given.
-/

namespace SchemaMigration.Sql

open Json

/-- What one place of a row holds. -/
inductive Datum
  | null
  | bool (value : Bool)
  | number (token : String)
  | text (value : String)
deriving DecidableEq, Repr

namespace Datum

/-- The datum that a value is stored as: arrays and objects as their compact text. -/
def ofValue : Value → Datum
  | .null => .null
  | .bool b => .bool b
  | .number n => .number n.text
  | .string s => .text s
  | .array items => .text (Value.array items).text
  | .object fields => .text (Value.object fields).text

/-- The datum that is written as a word without quotes: a keyword or a number. -/
def ofWord? (word : List Char) : Option Datum :=
  if word = ['N', 'U', 'L', 'L'] then some .null
  else if word = ['T', 'R', 'U', 'E'] then some (.bool true)
  else if word = ['F', 'A', 'L', 'S', 'E'] then some (.bool false)
  else if word ≠ [] ∧ word.all Number.Layout.isNumeric then some (.number (String.ofList word))
  else none

end Datum

/-! ## The reader -/

/-- What a backslash and the character after it stand for. Before a wildcard the backslash stays;
before a character without a meaning of its own it is dropped. -/
def unescape (c : Char) : List Char :=
  if c = 'n' then ['\n']
  else if c = 'r' then ['\r']
  else if c = 't' then ['\t']
  else if c = 'b' then ['\x08']
  else if c = '0' then ['\x00']
  else if c = 'Z' then ['\x1a']
  else if c = '%' ∨ c = '_' then ['\\', c]
  else [c]

/-- Where a reader of a value list stands. -/
inductive Place
  /-- Nothing has been read. -/
  | start
  /-- A row has ended. -/
  | rowEnd
  /-- A comma promises another row. -/
  | rowNext
  /-- A row has begun. -/
  | rowStart
  /-- A comma promises another datum. -/
  | datumNext
  /-- These characters of a word without quotes have been read. -/
  | word (read : List Char)
  /-- These characters of a quoted text have been read. -/
  | text (read : List Char)
  /-- The same, and then a backslash. -/
  | escape (read : List Char)
  /-- The same, and then a quote: the end of the text, or the first of two quotes that stand for
  one. -/
  | quote (read : List Char)
deriving DecidableEq, Repr

/-- A reader: the rows that have ended, the data of the row that has not, and the place. -/
structure Reader where
  rows : List (List Datum)
  row : List Datum
  place : Place
deriving DecidableEq, Repr

namespace Reader

/-- The reader after a row that ends with these data. -/
def close (rows : List (List Datum)) (row : List Datum) : Reader := ⟨rows ++ [row], [], .rowEnd⟩

/-- A datum is over: a comma or a closing bracket has to follow. -/
def finish (rows : List (List Datum)) (row : List Datum) (d : Datum) (c : Char) : Option Reader :=
  if c = ',' then some ⟨rows, row ++ [d], .datumNext⟩
  else if c = ')' then some (close rows (row ++ [d]))
  else none

/-- The first character of a datum. -/
def begin (rows : List (List Datum)) (row : List Datum) (c : Char) : Option Reader :=
  if c = '"' then some ⟨rows, row, .text []⟩
  else if c = ',' ∨ c = ')' then none
  else some ⟨rows, row, .word [c]⟩

/-- Reads one character; none if it cannot stand here. -/
def step : Reader → Char → Option Reader
  | ⟨rows, row, .start⟩, c | ⟨rows, row, .rowNext⟩, c =>
    if c = '(' then some ⟨rows, row, .rowStart⟩ else none
  | ⟨rows, row, .rowEnd⟩, c => if c = ',' then some ⟨rows, row, .rowNext⟩ else none
  | ⟨rows, row, .rowStart⟩, c => if c = ')' then some (close rows row) else begin rows row c
  | ⟨rows, row, .datumNext⟩, c => begin rows row c
  | ⟨rows, row, .word read⟩, c =>
    if c = ',' ∨ c = ')' then (Datum.ofWord? read).bind fun d => finish rows row d c
    else some ⟨rows, row, .word (read ++ [c])⟩
  | ⟨rows, row, .text read⟩, c =>
    if c = '"' then some ⟨rows, row, .quote read⟩
    else if c = '\\' then some ⟨rows, row, .escape read⟩
    else some ⟨rows, row, .text (read ++ [c])⟩
  | ⟨rows, row, .escape read⟩, c => some ⟨rows, row, .text (read ++ unescape c)⟩
  | ⟨rows, row, .quote read⟩, c =>
    if c = '"' then some ⟨rows, row, .text (read ++ ['"'])⟩
    else finish rows row (.text (String.ofList read)) c

/-- Reads characters in order, up to the first that cannot stand where it does. -/
def run (r : Reader) (s : List Char) : Option Reader := s.foldlM step r

end Reader

/-- The rows of a value list, if the whole text is one. -/
def readRows? (s : List Char) : Option (List (List Datum)) :=
  match Reader.run ⟨[], [], .start⟩ s with
  | some r => if r.place = .start ∨ r.place = .rowEnd then some r.rows else none
  | none => none

namespace Reader

@[simp] theorem run_nil (r : Reader) : r.run [] = some r := rfl

theorem run_cons (r : Reader) (c : Char) (s : List Char) :
    r.run (c :: s) = (r.step c).bind fun r' => r'.run s := rfl

theorem run_append (r : Reader) (s t : List Char) :
    r.run (s ++ t) = (r.run s).bind fun r' => r'.run t := List.foldlM_append

theorem run_singleton (r : Reader) (c : Char) : r.run [c] = r.step c := by
  rw [run_cons]
  exact Option.bind_fun_some _

variable (rows : List (List Datum)) (row : List Datum)

/-! ## Quoted texts -/

/-- What is written for one character inside quotes is read as that character. -/
theorem run_escapeChar (c : Char) (read : List Char) :
    run ⟨rows, row, .text read⟩ (escapeChar c) = some ⟨rows, row, .text (read ++ [c])⟩ := by
  unfold escapeChar
  -- a character with an escape of its own is read in two steps
  split
  · next h => subst h; rfl
  split
  · next h => subst h; rfl
  split
  · next h => subst h; rfl
  split
  · next h => subst h; rfl
  split
  · next h => subst h; rfl
  split
  · next h => subst h; rfl
  split
  · next h => subst h; rfl
  · next hquote hbackslash _ _ _ _ _ => rw [run_singleton, step, if_neg hquote, if_neg hbackslash]

theorem run_flatMap_escapeChar (s : List Char) : ∀ read : List Char,
    run ⟨rows, row, .text read⟩ (s.flatMap escapeChar) =
      some ⟨rows, row, .text (read ++ s)⟩ := by
  induction s with
  | nil => intro read; simp
  | cons c s ih =>
    intro read
    rw [List.flatMap_cons, run_append, run_escapeChar, Option.bind_some, ih, List.append_assoc]
    rfl

/-- A quoted text is read back, and the reader stands behind its closing quote. -/
theorem run_quoted (s : List Char) :
    run ⟨rows, row, .text []⟩ (s.flatMap escapeChar ++ ['"']) = some ⟨rows, row, .quote s⟩ := by
  rw [run_append, run_flatMap_escapeChar, Option.bind_some]
  rfl

/-! ## Words without quotes -/

/-- A character that words without quotes are made of. -/
def IsInner (c : Char) : Prop := c ≠ '"' ∧ c ≠ ',' ∧ c ≠ ')'

theorem IsInner.not_end {c : Char} (h : IsInner c) : ¬ (c = ',' ∨ c = ')') := by
  rintro (rfl | rfl)
  · exact h.2.1 rfl
  · exact h.2.2 rfl

theorem run_word {w : List Char} (h : ∀ c ∈ w, IsInner c) : ∀ read : List Char,
    run ⟨rows, row, .word read⟩ w = some ⟨rows, row, .word (read ++ w)⟩ := by
  induction w with
  | nil => intro read; simp
  | cons c w ih =>
    intro read
    have hc := (h c List.mem_cons_self).not_end
    rw [run_cons, step, if_neg hc, Option.bind_some,
      ih fun d hd => h d (List.mem_cons_of_mem _ hd), List.append_assoc]
    rfl

theorem isInner_of_isNumeric {c : Char} (h : Number.Layout.isNumeric c = true) : IsInner c := by
  refine ⟨?_, ?_, ?_⟩ <;> rintro rfl <;> exact absurd h (by decide)

/-- A number is written as a word that is read as its text. -/
theorem ofWord?_number (n : Numeral) : Datum.ofWord? n.chars = some (.number n.text) := by
  have hnumeric := n.isNumeric_of_mem_chars
  -- a keyword begins with a letter that no number has
  have hne : ∀ (k : Char) (w : List Char), Number.Layout.isNumeric k = false →
      n.chars ≠ k :: w := by
    intro k w hk hn
    have := hnumeric k (by rw [hn]; exact List.mem_cons_self)
    rw [hk] at this
    cases this
  rw [Datum.ofWord?, if_neg (hne _ _ (by decide)), if_neg (hne _ _ (by decide)),
    if_neg (hne _ _ (by decide)), if_pos ⟨n.chars_ne_nil, List.all_eq_true.2 hnumeric⟩]
  rfl

/-! ## Literals -/

/-- A place where a datum may begin. -/
def Awaits (p : Place) : Prop := p = .rowStart ∨ p = .datumNext

variable {p : Place}

theorem step_awaits (h : Awaits p) {c : Char} (hc : c ≠ ')') :
    step ⟨rows, row, p⟩ c = begin rows row c := by
  rcases h with rfl | rfl
  · rw [step, if_neg hc]
  · rfl

/-- A quoted text is a datum once something other than a quote follows. -/
theorem run_quoted_end (h : Awaits p) (s : List Char) {c : Char} (hc : c ≠ '"') :
    run ⟨rows, row, p⟩ (quoted s ++ [c]) = finish rows row (.text (String.ofList s)) c := by
  have hbegin : step ⟨rows, row, p⟩ '"' = some ⟨rows, row, .text []⟩ :=
    step_awaits rows row h (by decide)
  rw [run_append, quoted, List.cons_append, run_cons, hbegin, Option.bind_some, run_quoted,
    Option.bind_some, run_singleton, step, if_neg hc]

/-- A word is the datum that it writes once a comma or a bracket follows. -/
theorem run_word_end (h : Awaits p) {w : List Char} {d : Datum} (hw : ∀ c ∈ w, IsInner c)
    (hne : w ≠ []) (hd : Datum.ofWord? w = some d) {c : Char} (hc : c = ',' ∨ c = ')') :
    run ⟨rows, row, p⟩ (w ++ [c]) = finish rows row d c := by
  cases w with
  | nil => exact absurd rfl hne
  | cons first w =>
    have hfirst := hw first List.mem_cons_self
    have hbegin : step ⟨rows, row, p⟩ first = some ⟨rows, row, .word [first]⟩ := by
      rw [step_awaits rows row h hfirst.2.2, begin, if_neg hfirst.1, if_neg hfirst.not_end]
    have hword := run_word rows row (fun d hd => hw d (List.mem_cons_of_mem _ hd)) [first]
    rw [run_append, run_cons, hbegin, Option.bind_some, hword, Option.bind_some, run_singleton,
      step, if_pos hc, List.singleton_append, hd, Option.bind_some]

/-- After a literal, the next comma or bracket ends it as the datum that was written. -/
theorem run_literal (h : Awaits p) (v : Value) {c : Char} (hc : c = ',' ∨ c = ')') :
    run ⟨rows, row, p⟩ (literalChars v ++ [c]) = finish rows row (.ofValue v) c := by
  have hquote : c ≠ '"' := by
    rcases hc with rfl | rfl <;> decide
  cases v with
  | null =>
    have hinner : ∀ c ∈ literalChars .null, IsInner c := by simp [literalChars, IsInner]
    exact run_word_end rows row h hinner (List.cons_ne_nil _ _) rfl hc
  | bool b =>
    have hinner : ∀ c ∈ literalChars (.bool b), IsInner c := by
      cases b <;> simp [literalChars, IsInner]
    cases b with
    | true => exact run_word_end rows row h hinner (List.cons_ne_nil _ _) rfl hc
    | false => exact run_word_end rows row h hinner (List.cons_ne_nil _ _) rfl hc
  | number n =>
    have hinner : ∀ c ∈ n.chars, IsInner c :=
      fun c hc => isInner_of_isNumeric (n.isNumeric_of_mem_chars c hc)
    exact run_word_end rows row h hinner n.chars_ne_nil (ofWord?_number n) hc
  | string s =>
    rw [literalChars, run_quoted_end rows row h s.toList hquote, String.ofList_toList]
    rfl
  | array items => exact run_quoted_end rows row h _ hquote
  | object fields => exact run_quoted_end rows row h _ hquote

/-! ## Rows -/

/-- Literals up to the closing bracket end the row with the data that were written. -/
theorem run_literals (vs : List Value) : ∀ (v : Value) (row : List Datum) {p : Place}, Awaits p →
    run ⟨rows, row, p⟩ (literalsChars (v :: vs) ++ [')']) =
      some (close rows (row ++ (v :: vs).map .ofValue)) := by
  induction vs with
  | nil =>
    intro v row p h
    exact run_literal rows row h v (.inr rfl)
  | cons w vs ih =>
    intro v row p h
    have hsplit : literalsChars (v :: w :: vs) ++ [')'] =
        (literalChars v ++ [',']) ++ (literalsChars (w :: vs) ++ [')']) := by
      simp [literalsChars]
    have hcomma : run ⟨rows, row, p⟩ (literalChars v ++ [',']) =
        some ⟨rows, row ++ [.ofValue v], .datumNext⟩ := run_literal rows row h v (.inl rfl)
    rw [hsplit, run_append, hcomma, Option.bind_some, ih w _ (.inr rfl), List.append_assoc]
    rfl

/-- A row is read back, with or without values. -/
theorem run_rowChars (r : List Value) (h : p = .start ∨ p = .rowNext) :
    run ⟨rows, [], p⟩ (rowChars r) = some ⟨rows ++ [r.map .ofValue], [], .rowEnd⟩ := by
  have hopen : step ⟨rows, [], p⟩ '(' = some ⟨rows, [], .rowStart⟩ := by
    rcases h with rfl | rfl <;> rfl
  rw [rowChars, List.cons_append, run_cons, hopen, Option.bind_some]
  cases r with
  | nil => rfl
  | cons v vs => exact run_literals rows vs v [] (.inl rfl)

theorem run_rowsChars (rs : List (List Value)) : ∀ (r : List Value) (rows : List (List Datum))
    {p : Place}, p = .start ∨ p = .rowNext →
    run ⟨rows, [], p⟩ (rowsChars (r :: rs)) =
      some ⟨rows ++ (r :: rs).map (List.map .ofValue), [], .rowEnd⟩ := by
  induction rs with
  | nil =>
    intro r rows p h
    exact run_rowChars rows r h
  | cons t rs ih =>
    intro r rows p h
    have hcomma : step ⟨rows ++ [r.map .ofValue], [], .rowEnd⟩ ',' =
        some ⟨rows ++ [r.map .ofValue], [], .rowNext⟩ := rfl
    rw [rowsChars, run_append, run_rowChars rows r h, Option.bind_some, run_cons, hcomma,
      Option.bind_some, ih t _ (.inr rfl), List.append_assoc]
    rfl

end Reader

/-- The rows that are written are the rows that are read. -/
theorem readRows?_rowsChars (rows : List (List Value)) :
    readRows? (rowsChars rows) = some (rows.map (List.map .ofValue)) := by
  cases rows with
  | nil => rfl
  | cons r rs =>
    rw [readRows?, Reader.run_rowsChars rs r [] (.inl rfl)]
    rfl

/-- Quotes, backslashes, brackets and commas inside a text do not end it. -/
example : readRows? "(\"a\\\"),(\\\\\",-1.5e3),(),(NULL)".toList =
    some [[.text "a\"),(\\", .number "-1.5e3"], [], [.null]] := by decide

end Sql

/-- The statement of an insert names its table and then holds a value list, and reading the whole of
that list gives the rows back: each value as it is, a number as its text, and an array or an object
as its compact text. -/
theorem readRows_insertInto {σ : Type} (i : Option (Introspector σ)) (table : String)
    (rows : List (List Json.Value)) (d : Drafting σ) :
    ∃ list : List Char,
      (Draft.command i (.insertInto table rows) d).result =
        .ok ["INSERT INTO " ++ table ++ " VALUES " ++ String.ofList list] ∧
      Sql.readRows? list = some (rows.map (List.map Sql.Datum.ofValue)) :=
  ⟨Sql.rowsChars rows, rfl, Sql.readRows?_rowsChars rows⟩

end SchemaMigration
