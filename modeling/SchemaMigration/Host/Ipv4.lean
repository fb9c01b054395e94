import SchemaMigration.Text.Blank
import SchemaMigration.Text.Digits
import SchemaMigration.Text.Hexadecimal

/-!
# Addresses of four bytes

An address is written as up to four numbers with points between them. All but the last one are
bytes; the last one fills the bytes that are left. A number may be decimal, octal after a zero, or
hexadecimal after `0x`. It is printed as four decimal numbers.

> `address?_lt`: an address has 32 bits.
-/

namespace SchemaMigration.Host.Ipv4

open Text

/-! ## Numbers -/

/-- The number that digits of a base write; no digits are zero. -/
def based? (base : Nat) (ds : List Char) : Option Nat :=
  if ds.all fun c => (hexValue? c).any fun d => decide (d < base) then
    some (ds.foldl (fun n c => base * n + (hexValue? c).getD 0) 0)
  else none

/-- The number that a part of an address writes. -/
def number? (s : List Char) : Option Nat :=
  match s with
  | [] => none
  | '0' :: 'x' :: ds => based? 16 ds
  | '0' :: 'X' :: ds => based? 16 ds
  | '0' :: d :: ds => based? 8 (d :: ds)
  | ds => based? 10 ds

/-! ## Addresses -/

/-- The parts of a text between points. A point at the end counts for nothing. -/
def parts (s : List Char) : List (List Char) :=
  let ps := pieces (· == '.') s
  if ps.getLast? == some [] then ps.dropLast else ps

/-- Is the last part of a text a number? Then the text is an address or nothing. -/
def endsInNumber (s : List Char) : Bool :=
  match (parts s).getLast? with
  | none => false
  | some last => (!last.isEmpty && last.all Char.isDigit) || (number? last).isSome

/-- The number of values of `k` bytes. -/
def byteLimit : (k : Nat) → Nat
  | 0 => 1
  | k + 1 => 256 * byteLimit k

/-- The address of numbers that fill `room` bytes, of which the last one fills what is left. -/
def fill? : (room : Nat) → List Nat → Option Nat
  | 0, _ => none
  | _ + 1, [] => none
  | room + 1, [n] => if n < byteLimit (room + 1) then some n else none
  | room + 1, n :: rest =>
    match fill? room rest with
    | some low => if n < 256 then some (n * byteLimit room + low) else none
    | none => none

/-- The numbers of parts; none if one of them is no number. -/
def numbers? : List (List Char) → Option (List Nat)
  | [] => some []
  | p :: rest =>
    match number? p, numbers? rest with
    | some n, some ns => some (n :: ns)
    | _, _ => none

/-- The address of a text. -/
def address? (s : List Char) : Option Nat := (numbers? (parts s)).bind (fill? 4)

theorem fill?_lt {room : Nat} {ns : List Nat} {a : Nat} (h : fill? room ns = some a) :
    a < byteLimit room := by
  induction room generalizing ns a with
  | zero => cases h
  | succ room ih =>
    match ns with
    | [] => cases h
    | [n] =>
      rw [fill?] at h
      split at h
      · cases h
        assumption
      · cases h
    | n :: m :: rest =>
      rw [fill?] at h
      · split at h
        · next low hl =>
          split at h
          · next hn =>
            obtain rfl := Option.some.inj h
            have hlow := ih hl
            have : (n + 1) * byteLimit room ≤ 256 * byteLimit room :=
              Nat.mul_le_mul_right _ hn
            rw [Nat.add_mul, Nat.one_mul] at this
            rw [byteLimit]
            omega
          · cases h
        · cases h
      · simp

/-- An address has 32 bits. -/
theorem address?_lt {s : List Char} {a : Nat} (h : address? s = some a) : a < 4294967296 := by
  obtain ⟨ns, _, h⟩ := Option.bind_eq_some_iff.1 h
  exact fill?_lt h

/-- The text of an address. -/
def chars (a : Nat) : List Char :=
  digits (a / 16777216 % 256) ++ '.' :: digits (a / 65536 % 256) ++
    '.' :: digits (a / 256 % 256) ++ '.' :: digits (a % 256)

end SchemaMigration.Host.Ipv4
