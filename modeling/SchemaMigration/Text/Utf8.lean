/-!
# Lenient UTF-8

Bytes as text, where every ill-formed part becomes one replacement character. A part is as long as
it could still have been the beginning of a character, and the byte after it is looked at afresh.
-/

namespace SchemaMigration.Text

/-- What stands for an ill-formed part. -/
def replacement : Char := '\ufffd'

/-- A character of which some bytes have been read: its value so far, how many bytes are missing,
and the range in which the next one has to be. -/
structure Partial8 where
  value : Nat
  missing : Nat
  low : Nat
  high : Nat

/-- What the first byte of a character begins. Overlong forms, surrogates and values above the last
code point are kept out by the range of the second byte. -/
def beginChar (b : Nat) : List Char × Option Partial8 :=
  if b < 0x80 then ([Char.ofNat b], none)
  else if 0xC2 ≤ b ∧ b ≤ 0xDF then ([], some ⟨b - 0xC0, 1, 0x80, 0xBF⟩)
  else if 0xE0 ≤ b ∧ b ≤ 0xEF then
    ([], some ⟨b - 0xE0, 2, if b = 0xE0 then 0xA0 else 0x80, if b = 0xED then 0x9F else 0xBF⟩)
  else if 0xF0 ≤ b ∧ b ≤ 0xF4 then
    ([], some ⟨b - 0xF0, 3, if b = 0xF0 then 0x90 else 0x80, if b = 0xF4 then 0x8F else 0xBF⟩)
  else ([replacement], none)

/-- Reads one byte: the characters that it completes, and the character that it leaves begun. -/
def stepByte (p : Option Partial8) (b : Nat) : List Char × Option Partial8 :=
  match p with
  | none => beginChar b
  | some p =>
    if p.low ≤ b ∧ b ≤ p.high then
      let value := 64 * p.value + (b - 0x80)
      if p.missing ≤ 1 then ([Char.ofNat value], none)
      else ([], some ⟨value, p.missing - 1, 0x80, 0xBF⟩)
    else
      let (cs, next) := beginChar b
      (replacement :: cs, next)

/-- Reads bytes after a character that was begun. -/
def lenientFrom (p : Option Partial8) : List UInt8 → List Char
  | [] => if p.isSome then [replacement] else []
  | b :: bs =>
    let (cs, next) := stepByte p b.toNat
    cs ++ lenientFrom next bs

/-- Bytes as text, with replacements. -/
def lenient (bytes : List UInt8) : String := String.ofList (lenientFrom none bytes)

end SchemaMigration.Text
