import SchemaMigration.Number.Layout
import SchemaMigration.Text.Join
import SchemaMigration.Toml.Scan.Quoted
import SchemaMigration.Toml.Value

/-!
# The text of a TOML value

A value on one line, as it is quoted in messages. Of the four ways to quote a string the first one
is taken that needs no escapes: double quotes, single quotes, triple double quotes, triple single
quotes. A string for which all of them fail is written between double quotes, with escapes.

> `quotedChars_plain`: a string of ordinary characters is written as it is, between double quotes.
-/

namespace SchemaMigration.Toml

open Number Text

/-! ## Strings and keys -/

/-- A control character of ASCII. -/
def isControl (c : Char) : Bool := decide (c.toNat < 0x20) || c == '\x7f'

/-- A hexadecimal digit in upper case. -/
def upperHexDigit (d : Nat) : Char := if d < 10 then Char.ofNat (48 + d) else Char.ofNat (55 + d)

/-- A character between double quotes. -/
def escapeChar (c : Char) : List Char :=
  if c = '\x08' then ['\\', 'b']
  else if c = '\t' then ['\\', 't']
  else if c = '\n' then ['\\', 'n']
  else if c = '\x0c' then ['\\', 'f']
  else if c = '\r' then ['\\', 'r']
  else if c = '"' then ['\\', '"']
  else if c = '\\' then ['\\', '\\']
  else if isControl c then
    ['\\', 'u', '0', '0', upperHexDigit (c.toNat / 16), upperHexDigit (c.toNat % 16)]
  else [c]

/-- A string on one line between double quotes. -/
def basicChars (s : List Char) : List Char := '"' :: s.flatMap escapeChar ++ ['"']

/-- A string on one line between single quotes, where nothing can be escaped. -/
def literalChars (s : List Char) : List Char := '\'' :: s ++ ['\'']

/-- The line end that comes before a string of several lines; it is not part of the string. -/
def leadingBreak (s : List Char) : List Char := if s.contains '\n' then ['\n'] else []

/-- The characters between triple double quotes, after `run` double quotes in a row. Line ends stay
as they are, and of three double quotes in a row the last one is escaped. -/
def multilineBody (run : Nat) : List Char → List Char
  | [] => []
  | c :: r =>
    if c = '"' then
      if run < 2 then c :: multilineBody (run + 1) r else '\\' :: c :: multilineBody 0 r
    else if c = '\n' then c :: multilineBody 0 r
    else escapeChar c ++ multilineBody 0 r

/-- A string between triple double quotes. -/
def multilineChars (s : List Char) : List Char :=
  ['"', '"', '"'] ++ leadingBreak s ++ multilineBody 0 s ++ ['"', '"', '"']

/-- A string between triple single quotes. -/
def multilineLiteralChars (s : List Char) : List Char :=
  ['\'', '\'', '\''] ++ leadingBreak s ++ s ++ ['\'', '\'', '\'']

/-- A character that can only be written with an escape wherever it stands. -/
def needsEscape (c : Char) : Bool := isControl c && c != '\t' && c != '\n'

/-- A string between the quotes that suit it. -/
def quotedChars (s : List Char) : List Char :=
  let plain := !s.any needsEscape
  if plain && !s.contains '\\' && !s.contains '"' && !s.contains '\n' then basicChars s
  else if plain && !s.contains '\'' && !s.contains '\n' then literalChars s
  else if plain && !s.contains '\\' && !occursIn ['"', '"', '"'] s then multilineChars s
  else if plain && !occursIn ['\'', '\'', '\''] s then multilineLiteralChars s
  else if s.contains '\n' then multilineChars s
  else basicChars s

/-- A key: bare if it can be, otherwise between the quotes that need no escapes if there are
such. -/
def keyChars (key : List Char) : List Char :=
  let plain := !key.any fun c => isControl c && c != '\t'
  if !key.isEmpty && key.all isBareChar then key
  else if plain && !key.contains '\\' && !key.contains '"' then basicChars key
  else if plain && !key.contains '\'' then literalChars key
  else basicChars key

/-! ## Values -/

mutual

/-- A value inside an array or a table. -/
def Value.chars : Value → List Char
  | .string s => quotedChars s.toList
  | .integer i => Text.integer i
  | .float x => Layout.pointed.floating .double "nan" x
  | .boolean true => ['t', 'r', 'u', 'e']
  | .boolean false => ['f', 'a', 'l', 's', 'e']
  | .datetime d => d.chars
  | .array items => '[' :: itemsChars items ++ [']']
  | .table [] => ['\x7b', '\x7d']
  | .table (f :: fs) => ['\x7b', ' '] ++ fieldsChars (f :: fs) ++ [' ', '\x7d']

/-- Values with commas between them. -/
def itemsChars : List Value → List Char
  | [] => []
  | [v] => v.chars
  | v :: w :: rest => v.chars ++ ',' :: ' ' :: itemsChars (w :: rest)

/-- Pairs of a key and a value with commas between them. -/
def fieldsChars : List (String × Value) → List Char
  | [] => []
  | [(k, v)] => keyChars k.toList ++ [' ', '=', ' '] ++ v.chars
  | (k, v) :: f :: rest =>
    keyChars k.toList ++ [' ', '=', ' '] ++ v.chars ++ ',' :: ' ' :: fieldsChars (f :: rest)

end

/-- The text of a value. A date or a time that stands alone is shown as a table of its text. -/
def Value.text : Value → String
  | .datetime d => String.ofList (Value.table [(datetimeKey, .string d.text)]).chars
  | v => String.ofList v.chars

/-! ## Ordinary strings -/

/-- A string without quotes, backslashes and control characters is written as it is. -/
theorem quotedChars_plain {s : List Char}
    (h : ∀ c ∈ s, isControl c = false ∧ c ≠ '"' ∧ c ≠ '\\') :
    quotedChars s = '"' :: s ++ ['"'] := by
  have hplain : s.any needsEscape = false := by
    rw [List.any_eq_false]
    intro c hc
    simp [needsEscape, (h c hc).1]
  have hquote : '"' ∉ s := fun hn => (h _ hn).2.1 rfl
  have hslash : '\\' ∉ s := fun hn => (h _ hn).2.2 rfl
  have hline : '\n' ∉ s := fun hn => absurd (h _ hn).1 (by decide)
  have hesc : s.flatMap escapeChar = s := by
    clear hplain hquote hslash hline
    induction s with
    | nil => rfl
    | cons c r ih =>
      rw [List.flatMap_cons, ih fun d hd => h d (List.mem_cons_of_mem _ hd)]
      obtain ⟨hc, hq, hb⟩ := h c List.mem_cons_self
      have hne : ∀ d, isControl d = true → c ≠ d := by
        rintro d hd rfl
        rw [hc] at hd
        cases hd
      rw [escapeChar, if_neg (hne _ (by decide)), if_neg (hne _ (by decide)),
        if_neg (hne _ (by decide)), if_neg (hne _ (by decide)), if_neg (hne _ (by decide)),
        if_neg hq, if_neg hb, if_neg (by simp [hc])]
      rfl
  simp [quotedChars, hplain, hquote, hslash, hline, basicChars, hesc]

end SchemaMigration.Toml
