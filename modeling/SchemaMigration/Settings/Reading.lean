import SchemaMigration.Number.Binary
import SchemaMigration.Number.Layout
import SchemaMigration.Settings.Basic
import SchemaMigration.Settings.Tree

/-!
# Reading settings

The settings that a tree holds, with the defaults of appendix D of the driftwood specification. A
value that is missing has its default, one of another type is converted if it can be, and unknown
keys are ignored. The database is described by a table, or by an array of its values in their order.
-/

namespace SchemaMigration.Settings

open Number Text

/-- The text that a value stands for. -/
def textOf? : Tree → Option String
  | .text s => some s
  | .integer i => some (String.ofList (Text.integer i))
  | .float x => some (String.ofList (Layout.plain.floating .double "NaN" x))
  | .boolean b => some (if b then "true" else "false")
  | _ => none

/-- A whole number of 64 bits without a sign, from its decimal digits; a plus sign may come
first. -/
def naturalOfText? (s : List Char) : Option Nat :=
  let ds := if s.head? == some '+' then s.drop 1 else s
  if !ds.isEmpty && ds.all Char.isDigit && decide (ofDigits ds < wordLimit) then some (ofDigits ds)
  else none

/-- The whole number that a text stands for: a word for one or zero, or its digits. -/
def naturalOfWord? (s : String) : Option Nat :=
  let word := String.ofList (lower s.toList)
  if word ∈ ["true", "on", "yes"] then some 1
  else if word ∈ ["false", "off", "no"] then some 0
  else naturalOfText? s.toList

/-- The whole number nearest to a number; zero if it is negative or no number. -/
def naturalOfFloat : Floating → Nat
  | .finite x => if x.negative then 0 else x.roundedMagnitude
  | .infinite negative => if negative then 0 else wordLimit
  | .nan => 0

/-- The whole number that a value stands for. -/
def naturalOf? : Tree → Option Nat
  | .integer i => if 0 ≤ i then some i.toNat else none
  | .float x => some (naturalOfFloat x)
  | .boolean b => some (if b then 1 else 0)
  | .text s => naturalOfWord? s
  | _ => none

/-- The port that a value stands for. -/
def portOf? (t : Tree) : Option UInt16 :=
  match naturalOf? t with
  | some n => if n < 65536 then some (UInt16.ofNat n) else none
  | none => none

/-- The value of a key, or its default if the key is missing; nothing if the value cannot be
read. -/
def valueOr {α : Type} (read : Tree → Option α) (fallback : α) : Option Tree → Option α
  | none => some fallback
  | some t => read t

/-- The descriptor whose parts are found by `part`, with the defaults for those that are missing. -/
def descriptorFrom (part : (position : Nat) → (key : String) → Option Tree) : Option Descriptor :=
  let base : Descriptor := {}
  match valueOr textOf? base.host (part 0 "host"), valueOr portOf? base.port (part 1 "port"),
      valueOr textOf? base.user (part 2 "user"), valueOr textOf? base.password (part 3 "password"),
      valueOr textOf? base.database (part 4 "database") with
  | some host, some port, some user, some password, some database =>
    some ⟨host, port, user, password, database⟩
  | _, _, _, _, _ => none

/-- The descriptor that a table or an array stands for. -/
def descriptorOf? : Tree → Option Descriptor
  | .table es => descriptorFrom fun _ key => Entries.get? es key
  | .array ts => descriptorFrom fun i _ => ts[i]?
  | _ => none

/-- The settings of a tree. -/
def ofTree? (t : Tree) : Option Settings :=
  let base : Settings := {}
  match valueOr descriptorOf? base.descriptor (Entries.get? t.entries "database"),
      valueOr textOf? base.versionTable (Entries.get? t.entries "version_table") with
  | some descriptor, some versionTable => some ⟨descriptor, versionTable⟩
  | _, _ => none

end SchemaMigration.Settings
