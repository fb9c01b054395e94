import SchemaMigration.Number.DecimalText
import SchemaMigration.Text.Hexadecimal
import SchemaMigration.Toml.Scan.Basic
import SchemaMigration.Toml.Value

/-!
# Numbers

Whole numbers in four bases, decimals with a fraction or an exponent, and the names of infinity and
not-a-number. Single underscores may stand between digits.
-/

namespace SchemaMigration.Toml

open Text Number

/-- Digits that satisfy `p`, single underscores allowed between them. The underscores are left
out. -/
def digitsFrom (p : Char → Bool) : (rounds : Nat) → List Char → Scan (List Char)
  | 0, _ => none
  | _ + 1, [] => none
  | rounds + 1, c :: r =>
    if !p c then none
    else
      match r with
      | '_' :: r => (digitsFrom p rounds r).map fun q => (c :: q.1, q.2)
      | d :: _ =>
        if p d then (digitsFrom p rounds r).map fun q => (c :: q.1, q.2) else some ([c], r)
      | [] => some ([c], [])

/-- At least one digit that satisfies `p`, single underscores allowed between them. -/
def digitRun (p : Char → Bool) (s : List Char) : Scan (List Char) := digitsFrom p (s.length + 1) s

/-- A decimal whole number without its sign: no zero at its start but alone. -/
def wholePart (s : List Char) : Scan (List Char) :=
  match s with
  | '0' :: r => some (['0'], r)
  | _ => digitRun Char.isDigit s

/-- The digits after a point, with the point. Nothing if there is no point. -/
def fractionPart (s : List Char) : Scan (List Char) :=
  match s with
  | '.' :: r => (digitRun Char.isDigit r).map fun p => ('.' :: p.1, p.2)
  | _ => some ([], s)

/-- An exponent, with its letter and sign. Nothing if there is none. -/
def exponentPart (s : List Char) : Scan (List Char) :=
  match s with
  | c :: r =>
    if c = 'e' ∨ c = 'E' then
      match r with
      | '-' :: r => (digitRun Char.isDigit r).map fun p => ('e' :: '-' :: p.1, p.2)
      | '+' :: r => (digitRun Char.isDigit r).map fun p => ('e' :: p.1, p.2)
      | r => (digitRun Char.isDigit r).map fun p => ('e' :: p.1, p.2)
    else some ([], s)
  | [] => some ([], [])

/-- A whole number of another base, after its two leading characters. -/
def based (base : Nat) (p : Char → Bool) (s : List Char) : Scan Value :=
  match digitRun p s with
  | some (ds, r) =>
    let n : Nat := ds.foldl (fun n c => base * n + (hexValue? c).getD 0) 0
    if fitsSigned n then some (.integer n, r) else none
  | none => none

/-- Infinity or not-a-number, by name. -/
def special (negative : Bool) (s : List Char) : Scan Value :=
  match s with
  | 'i' :: 'n' :: 'f' :: r => some (.float (.infinite negative), r)
  | 'n' :: 'a' :: 'n' :: r => some (.float .nan, r)
  | _ => none

/-- A decimal number after its sign: whole without a point and an exponent, otherwise the nearest
binary number. A decimal above all of these is refused; one below all of them is minus infinity. -/
def decimal (negative : Bool) (s : List Char) : Scan Value :=
  match wholePart s with
  | none => none
  | some (ahead, r) =>
    match fractionPart r with
    | none => none
    | some (fraction, r) =>
      match exponentPart r with
      | none => none
      | some (exponent, r) =>
        if fraction.isEmpty && exponent.isEmpty then
          let n : Int := ofDigits ahead
          let i := if negative then -n else n
          if fitsSigned i then some (.integer i, r) else none
        else
          let sign := if negative then ['-'] else []
          match (DecimalText.ofChars (sign ++ ahead ++ fraction ++ exponent)).nearest with
          | .infinite false => none
          | x => some (.float x, r)

/-- A number. -/
def number (s : List Char) : Scan Value :=
  match s with
  | '0' :: 'x' :: r => based 16 (fun c => (hexValue? c).isSome) r
  | '0' :: 'o' :: r => based 8 (fun c => decide ('0' ≤ c) && decide (c ≤ '7')) r
  | '0' :: 'b' :: r => based 2 (fun c => c == '0' || c == '1') r
  | '+' :: r => (special false r).or (decimal false r)
  | '-' :: r => (special true r).or (decimal true r)
  | _ => (special false s).or (decimal false s)

end SchemaMigration.Toml
