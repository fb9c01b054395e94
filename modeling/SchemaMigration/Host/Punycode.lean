/-!
# Punycode

A text of any characters, written with the letters, digits and hyphens of ASCII: first its ASCII
characters, then a hyphen, and then for each other character, in ascending order, how far it is from
the one before it, counting the places where it could stand. The distances are numbers whose digits
say themselves where a number ends; what a digit may be at most depends on the distances so far.

> `number?_length`: reading a distance takes at least one character.
-/

namespace SchemaMigration.Host.Punycode

/-! ## Digits -/

/-- The digit of a value below 36: a letter, then the digits of ten. -/
def digit (d : Nat) : Char := if d < 26 then Char.ofNat (97 + d) else Char.ofNat (22 + d)

/-- The value of a digit. -/
def digitValue? (c : Char) : Option Nat :=
  if 'a' ≤ c ∧ c ≤ 'z' then some (c.toNat - 97)
  else if 'A' ≤ c ∧ c ≤ 'Z' then some (c.toNat - 65)
  else if c.isDigit then some (c.toNat - 22)
  else none

theorem digitValue?_digit {d : Nat} (h : d < 36) : digitValue? (digit d) = some d := by
  have : ∀ e, e < 36 → digitValue? (digit e) = some e := by decide
  exact this d h

/-- The value from which on a digit does not end its number. It is between 1 and 26, and grows with
the place of the digit, which is counted in steps of 36. -/
def threshold (bias place : Nat) : Nat := max 1 (min 26 (place - bias))

theorem threshold_pos (bias place : Nat) : 0 < threshold bias place := by
  unfold threshold
  omega

theorem threshold_le (bias place : Nat) : threshold bias place ≤ 26 := by
  unfold threshold
  omega

/-- The bias that suits distances of this size. -/
def biasFrom (place distance : Nat) : Nat :=
  if 455 < distance then biasFrom (place + 36) (distance / 35)
  else place + 36 * distance / (distance + 38)
termination_by distance
decreasing_by exact Nat.div_lt_self (by omega) (by decide)

/-- The bias after a distance that has brought a text to this length. -/
def biasAfter (distance length : Nat) (isFirst : Bool) : Nat :=
  let d := if isFirst then distance / 700 else distance / 2
  biasFrom 0 (d + d / length)

/-- The bias at the beginning. -/
def firstBias : Nat := 72

/-- Is the character one of ASCII? -/
def isBasic (c : Char) : Bool := decide (c.toNat < 128)

/-! ## Writing -/

/-- The digits of a distance. -/
def numberChars (bias place n : Nat) : List Char :=
  let t := threshold bias place
  if n < t then [digit n]
  else digit (t + (n - t) % (36 - t)) :: numberChars bias (place + 36) ((n - t) / (36 - t))
termination_by n
decreasing_by
  have hp := threshold_pos bias place
  have hd := Nat.div_le_self (n - threshold bias place) (36 - threshold bias place)
  omega

/-- A text that has been written in part. -/
structure Writer where
  /-- The places that were passed since the last character. -/
  distance : Nat
  bias : Nat
  /-- The number of characters that were written. -/
  count : Nat
  output : List Char

/-- Passes one character while those of one code point are written. -/
def Writer.pass (basics code : Nat) (w : Writer) (c : Char) : Writer :=
  if c.toNat < code then { w with distance := w.distance + 1 }
  else if c.toNat = code then
    { distance := 0
      bias := biasAfter w.distance (w.count + 1) (w.count == basics)
      count := w.count + 1
      output := w.output ++ numberChars w.bias 36 w.distance }
  else w

/-- Writes the characters of ascending code points; `least` is the least one that was not looked
at. -/
def Writer.write (text : List Char) (basics : Nat) (least : Nat) (w : Writer) : List Nat → Writer
  | [] => w
  | code :: rest =>
    let w := { w with distance := w.distance + (code - least) * (w.count + 1) }
    let w := text.foldl (Writer.pass basics code) w
    Writer.write text basics (code + 1) { w with distance := w.distance + 1 } rest

/-- Adds a number to ascending ones. -/
def insertNew (n : Nat) : List Nat → List Nat
  | [] => [n]
  | m :: rest =>
    if n < m then n :: m :: rest else if n = m then m :: rest else m :: insertNew n rest

/-- The code points of a text beyond ASCII, ascending. -/
def extendedCodes (text : List Char) : List Nat :=
  ((text.filter fun c => !isBasic c).map Char.toNat).foldr insertNew []

/-- The encoded text. -/
def encode (text : List Char) : List Char :=
  let basic := text.filter isBasic
  let w : Writer := ⟨0, firstBias, basic.length, []⟩
  (if basic.isEmpty then [] else basic ++ ['-']) ++
    (w.write text basic.length 128 (extendedCodes text)).output

/-! ## Reading -/

/-- Numbers stay below this limit. -/
def numberLimit : Nat := 4294967296

/-- Reads a distance on top of `sum`. -/
def number? (bias : Nat) : (place weight sum : Nat) → List Char → Option (Nat × List Char)
  | _, _, _, [] => none
  | place, weight, sum, c :: r =>
    match digitValue? c with
    | none => none
    | some d =>
      let t := threshold bias place
      if numberLimit ≤ sum + d * weight then none
      else if d < t then some (sum + d * weight, r)
      else if numberLimit ≤ weight * (36 - t) then none
      else number? bias (place + 36) (weight * (36 - t)) (sum + d * weight) r

/-- Reading a distance takes at least one character. -/
theorem number?_length {bias place weight sum : Nat} {s : List Char} {p : Nat × List Char}
    (h : number? bias place weight sum s = some p) : p.2.length < s.length := by
  induction s generalizing place weight sum with
  | nil => cases h
  | cons c r ih =>
    rw [number?] at h
    split at h
    · cases h
    · dsimp only at h
      split at h
      · cases h
      · split at h
        · cases h
          exact Nat.lt_succ_self _
        · split at h
          · cases h
          · exact Nat.lt_succ_of_lt (ih h)

/-- Puts in the characters that the distances write. The last one was put in before `place`, and has
the code point `code`. -/
def insertRest (bias code place : Nat) (text : List Char) (s : List Char) : Option (List Char) :=
  match s with
  | [] => some text
  | c :: r =>
    match _h : number? bias 36 1 place (c :: r) with
    | none => none
    | some (n, r') =>
      let length := text.length + 1
      let code := code + n / length
      if code.isValidChar then
        insertRest (biasAfter (n - place) length (place == 0)) code (n % length + 1)
          (text.insertIdx (n % length) (Char.ofNat code)) r'
      else none
termination_by s.length
decreasing_by exact number?_length _h

/-- The text that is encoded; none if nothing encodes to this. -/
def decode? (s : List Char) : Option (List Char) :=
  let tail := (s.reverse.takeWhile (· != '-')).reverse
  let basic := s.take (s.length - tail.length - 1)
  if !s.all isBasic then none
  else if basic.isEmpty then insertRest firstBias 128 0 [] s
  else insertRest firstBias 128 0 basic tail

end SchemaMigration.Host.Punycode
