import SchemaMigration.Host.Domain
import SchemaMigration.Host.Ipv4
import SchemaMigration.Host.Ipv6

/-!
# Hosts

A host is an address or a name. A text in brackets is an address of eight groups; any other text is
a domain in which percent signs may escape bytes, and a domain that ends in a number has to be an
address of four bytes. What cannot be read in this way is kept as it was given. The host of a
connection descriptor is read in this way (appendix A of the driftwood specification).

> `ofString_of_none`: what is kept.
-/

namespace SchemaMigration

open Text

/-- A host. -/
inductive Host
  | ipv4 (address : Nat)
  | ipv6 (groups : List Nat)
  | name (text : String)
deriving DecidableEq, Repr

namespace Host

/-- The text of a host. -/
def text : Host → String
  | ipv4 address => String.ofList (Ipv4.chars address)
  | ipv6 groups => String.ofList ('[' :: Ipv6.chars groups ++ [']'])
  | name text => text

/-- The byte of two hexadecimal digits. -/
def escapedByte? (a b : UInt8) : Option UInt8 :=
  match hexValue? (Char.ofNat a.toNat), hexValue? (Char.ofNat b.toNat) with
  | some high, some low => some (UInt8.ofNat (16 * high + low))
  | _, _ => none

/-- Bytes in which a percent sign and two hexadecimal digits stand for one byte. -/
def unescaped : List UInt8 → List UInt8
  | 0x25 :: a :: b :: r =>
    match escapedByte? a b with
    | some byte => byte :: unescaped r
    | none => 0x25 :: unescaped (a :: b :: r)
  | byte :: r => byte :: unescaped r
  | [] => []

/-- The host of a domain. -/
def ofDomain? (domain : String) : Option Host :=
  if domain.isEmpty then none
  else if Ipv4.endsInNumber domain.toList then (Ipv4.address? domain.toList).map ipv4
  else some (name domain)

/-- The host of a text; none if it is neither an address nor a domain. -/
def ofString? (s : String) : Option Host :=
  match s.toList with
  | '[' :: r =>
    if r.getLast? == some ']' then (Ipv6.address? r.dropLast).map ipv6 else none
  | _ =>
    match String.fromUTF8? ⟨(unescaped s.toUTF8.toList).toArray⟩ with
    | some plain => (domain? plain.toList).bind ofDomain?
    | none => none

/-- The host of a text. What is neither an address nor a domain is kept as a name. -/
def ofString (s : String) : Host := (ofString? s).getD (name s)

/-- What is neither an address nor a domain is kept. -/
theorem ofString_of_none {s : String} (h : ofString? s = none) : (ofString s).text = s := by
  rw [ofString, h]
  rfl

end Host

end SchemaMigration
