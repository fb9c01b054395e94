import SchemaMigration.Text.Blank
import SchemaMigration.Text.Digits
import SchemaMigration.Text.Hexadecimal

/-!
# Addresses of eight groups

An address is written as eight groups of up to four hexadecimal digits with colons between them. The
last two groups may be written as four decimal bytes with points between them, and once two colons
in a row may stand for groups of zeros. When it is printed, they stand for the first of the longest
runs of at least two zeros.

> `address?_length`: an address has eight groups.
-/

namespace SchemaMigration.Host.Ipv6

open Text

/-! ## Reading -/

/-- The value of a group. -/
def group? (s : List Char) : Option Nat :=
  if !s.isEmpty && decide (s.length ≤ 4) && s.all fun c => (hexValue? c).isSome then
    some (ofHexDigits s)
  else none

/-- The value of a decimal byte, without leading zeros. -/
def byte? (s : List Char) : Option Nat :=
  if !s.isEmpty && s.all Char.isDigit && (s.length == 1 || s.head? != some '0') &&
      decide (ofDigits s ≤ 255) then
    some (ofDigits s)
  else none

/-- The two groups of four decimal bytes. -/
def bytePairs? (s : List Char) : Option (List Nat) :=
  match (pieces (· == '.') s).map byte? with
  | [some a, some b, some c, some d] => some [256 * a + b, 256 * c + d]
  | _ => none

/-- The values of groups; only the last one may be written as bytes, if that is `allowed`. -/
def groupsOf? (allowed : Bool) : List (List Char) → Option (List Nat)
  | [] => some []
  | [s] =>
    match group? s with
    | some n => some [n]
    | none => if allowed then bytePairs? s else none
  | s :: t :: rest =>
    match group? s, groupsOf? allowed (t :: rest) with
    | some n, some ns => some (n :: ns)
    | _, _ => none

/-- The values of the groups of a text, which may be empty. -/
def groups? (allowed : Bool) (s : List Char) : Option (List Nat) :=
  if s.isEmpty then some [] else groupsOf? allowed (pieces (· == ':') s)

/-- The texts before and after the first two colons in a row. -/
def cut? : List Char → Option (List Char × List Char)
  | ':' :: ':' :: r => some ([], r)
  | c :: r => (cut? r).map fun p => (c :: p.1, p.2)
  | [] => none

/-- The number of groups. -/
def groupCount : Nat := 8

/-- The groups of an address. -/
def address? (s : List Char) : Option (List Nat) :=
  match cut? s with
  | none =>
    match groups? true s with
    | some gs => if gs.length = groupCount then some gs else none
    | none => none
  | some (before, after) =>
    match groups? false before, groups? true after with
    | some high, some low =>
      if high.length + low.length < groupCount then
        some (high ++ List.replicate (groupCount - high.length - low.length) 0 ++ low)
      else none
    | _, _ => none

/-- An address has eight groups. -/
theorem address?_length {s : List Char} {gs : List Nat} (h : address? s = some gs) :
    gs.length = groupCount := by
  rw [address?] at h
  split at h
  · split at h
    · split at h
      · next hl => cases h; exact hl
      · cases h
    · cases h
  · split at h
    · split at h
      · next hl =>
        cases h
        simp only [List.length_append, List.length_replicate]
        omega
      · cases h
    · cases h

/-! ## Printing -/

/-- Where the first of the longest runs of zeros begins, and its length. -/
def longestZeros : List Nat → Nat × Nat
  | [] => (0, 0)
  | g :: rest =>
    let here := ((g :: rest).takeWhile (· == 0)).length
    let (place, length) := longestZeros rest
    if 0 < here ∧ length ≤ here then (0, here) else (place + 1, length)

/-- Groups with colons between them. -/
def groupsChars : List Nat → List Char
  | [] => []
  | [g] => hexDigits g
  | g :: h :: rest => hexDigits g ++ ':' :: groupsChars (h :: rest)

/-- The text of an address. -/
def chars (gs : List Nat) : List Char :=
  let (place, length) := longestZeros gs
  if length < 2 then groupsChars gs
  else groupsChars (gs.take place) ++ ':' :: ':' :: groupsChars (gs.drop (place + length))

end SchemaMigration.Host.Ipv6
