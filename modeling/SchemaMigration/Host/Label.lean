import SchemaMigration.Host.Joiner
import SchemaMigration.Host.Mapping
import SchemaMigration.Host.Punycode
import SchemaMigration.Text.Composition
import SchemaMigration.Text.Join

/-!
# Labels of host names

A label is a part of a host name between points. It has two forms, the text that it means and the
text that it is written with in ASCII; they differ only if the first one has other characters.
Either may be given.

> `Label.ofChars?`: the label of a text in its one spelling.
> `Label.ofChars?_ascii`: a label of ordinary ASCII characters is written as it is.
-/

namespace SchemaMigration.Host

open Text

/-- A label: what it means, and how it is written. -/
structure Label where
  text : List Char
  written : List Char
deriving DecidableEq, Repr

/-- Characters of ASCII beside control characters and the space that no label holds. -/
def signsDenied : List Char := "%#/:<>?@[\\]^|".toList

/-- Is the character one of ASCII that no label holds? -/
def isDenied (c : Char) : Bool := decide (c.toNat ≤ 0x20) || c == '\x7f' || signsDenied.contains c

/-- Is a text a label? It has no denied character, does not begin with a mark, and its joiners are
in place. -/
def isLabelText (s : List Char) : Bool :=
  !s.any isDenied && !s.head?.any isMark && joinersFit s

/-- What the written form of a label begins with if it differs from its text. -/
def encodedStart : List Char := ['x', 'n', '-', '-']

/-- The most characters that follow it. -/
def encodedLimit : Nat := 2000

/-- The most characters of a text that is encoded. -/
def textLimit : Nat := 1000

/-- The text of an encoded label. It has characters beyond ASCII, and is in its one spelling. -/
def decodedText? (coded : List Char) : Option (List Char) :=
  if coded.isEmpty || coded.getLast? == some '-' || decide (encodedLimit < coded.length) then none
  else
    match Punycode.decode? coded with
    | some s => if s.all isOwn && composed s == s && !s.contains '.' then some s else none
    | none => none

/-- The label of a text in its one spelling, which may be its written form. -/
def Label.ofChars? (s : List Char) : Option Label :=
  match after? encodedStart s with
  | some coded =>
    match decodedText? coded with
    | some text => if isLabelText text then some ⟨text, s⟩ else none
    | none => none
  | none =>
    if !isLabelText s then none
    else if s.all Punycode.isBasic then some ⟨s, s⟩
    else if textLimit < s.length then none
    else some ⟨s, encodedStart ++ Punycode.encode s⟩

/-- A label of ASCII characters that is not encoded is written as it is. -/
theorem Label.ofChars?_ascii {s : List Char} {l : Label} (hs : s.all Punycode.isBasic = true)
    (h0 : after? encodedStart s = none) (h : Label.ofChars? s = some l) : l = ⟨s, s⟩ := by
  rw [Label.ofChars?, h0] at h
  dsimp only at h
  split at h
  · cases h
  · exact (Option.some.inj h).symm

end SchemaMigration.Host
