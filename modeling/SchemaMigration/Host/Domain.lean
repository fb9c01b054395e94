import SchemaMigration.Host.Direction
import SchemaMigration.Host.Label

/-!
# Domains

A domain is a sequence of labels with points between them. A text is put into its one spelling
first, and what it becomes is cut at the points.

> `domain?`: how the domain of a text is written in ASCII.
-/

namespace SchemaMigration.Host

open Text

/-- The labels of texts; none if one of them is no label. -/
def labels? : List (List Char) → Option (List Label)
  | [] => some []
  | s :: rest =>
    match Label.ofChars? s, labels? rest with
    | some l, some ls => some (l :: ls)
    | _, _ => none

/-- Do the directions of the labels fit? They are looked at only if some character comes from the
right. -/
def directionsFit (ls : List Label) : Bool :=
  !(ls.any fun l => l.text.any fun c => (directionOf c).isFromRight) ||
    ls.all fun l => isOneWay l.text

/-- How the domain of a text is written; none if it is no domain. -/
def domain? (s : List Char) : Option String :=
  match mapped? s with
  | none => none
  | some t =>
    match labels? (pieces (· == '.') (composed t)) with
    | none => none
    | some ls =>
      if directionsFit ls then some (joinWith "." (ls.map fun l => String.ofList l.written))
      else none

end SchemaMigration.Host
