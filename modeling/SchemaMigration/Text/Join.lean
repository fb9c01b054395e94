/-!
# Joined text, and search in text

Joining with a separator, whole-text search, and splitting off a leading text, over lists of
characters and over strings.
-/

namespace SchemaMigration.Text

/-- The parts in order, with `sep` between neighbours. -/
def joinWith (sep : String) : List String → String
  | [] => ""
  | [s] => s
  | s :: t :: rest => s ++ sep ++ joinWith sep (t :: rest)

@[simp] theorem joinWith_nil (sep : String) : joinWith sep [] = "" := rfl

@[simp] theorem joinWith_singleton (sep s : String) : joinWith sep [s] = s := rfl

theorem joinWith_cons_cons (sep s t : String) (rest : List String) :
    joinWith sep (s :: t :: rest) = s ++ sep ++ joinWith sep (t :: rest) := rfl

/-- Does the pattern occur in the text? The empty pattern occurs everywhere. -/
def occursIn (pattern : List Char) : List Char → Bool
  | [] => pattern.isEmpty
  | c :: r => pattern.isPrefixOf (c :: r) || occursIn pattern r

/-- What follows the leading text `start`; none if the text does not start with it. -/
def after? (start : List Char) (s : List Char) : Option (List Char) :=
  if start.isPrefixOf s then some (s.drop start.length) else none

/-- Replaces every `old`, scanning from the left without overlaps. An empty `old` changes
nothing. -/
def replaceAll (old new : List Char) (s : List Char) : List Char :=
  match s with
  | [] => []
  | c :: r =>
    if _h : old ≠ [] ∧ old.isPrefixOf (c :: r) then
      new ++ replaceAll old new ((c :: r).drop old.length)
    else c :: replaceAll old new r
termination_by s.length
decreasing_by
  · have : 0 < old.length := List.length_pos_iff.2 _h.1
    simp only [List.length_drop, List.length_cons]
    omega
  · simp

/-- The lower case of a character, if that is an ASCII letter; any other character is unchanged.
Only the Kelvin sign gets one without being an ASCII letter itself. -/
def lowerChar (c : Char) : Char := if c = '\u212a' then 'k' else c.toLower

/-- Letters in lower case, as far as that is an ASCII letter. -/
def lower (s : List Char) : List Char := s.map lowerChar

end SchemaMigration.Text
