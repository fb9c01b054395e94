import SchemaMigration.Migration.Error
import SchemaMigration.Sql.Identifier
import SchemaMigration.Text.DecimalDigit

/-!
# Names of migration files

A migration file is named by its version, which is fourteen decimal digits of any script, an
underscore, a name of ASCII letters, digits and underscores, and the extension `.toml`. The pattern
is that of appendix H of the driftwood specification.

> `ofString_eq_ok_iff`, `ofString_eq_error_iff`: a name that cannot be taken apart is refused as it
> is, and for no other cause.
-/

namespace SchemaMigration

/-- The two parts of the name of a migration file. -/
structure FileName where
  version : String
  name : String
deriving DecidableEq, Repr

namespace FileName

/-- The extension, with its point. -/
def extension : List Char := ['.', 't', 'o', 'm', 'l']

/-- The name of the file. -/
def text (f : FileName) : String := f.version ++ "_" ++ f.name ++ String.ofList extension

/-- The text before the extension; none if it does not end with it. -/
def stem? (s : List Char) : Option (List Char) :=
  if extension.isSuffixOf s then some (s.take (s.length - extension.length)) else none

/-- The parts of the name of a file; none if it has another form. -/
def ofString? (s : String) : Option FileName :=
  let version := s.toList.take 14
  match s.toList.drop 14 with
  | '_' :: rest =>
    match stem? rest with
    | some name =>
      if version.all Text.isDecimalDigit && !name.isEmpty && name.all Sql.isPlainChar then
        some ⟨String.ofList version, String.ofList name⟩
      else none
    | none => none
  | _ => none

/-- Takes the name of a file apart. A name of another form is refused. -/
def ofString (s : String) : Except DiscoveryError FileName :=
  match ofString? s with
  | some f => .ok f
  | none => .error (.badFileName s)

theorem ofString_eq_ok_iff {s : String} {f : FileName} :
    ofString s = .ok f ↔ ofString? s = some f := by
  unfold ofString
  cases ofString? s with
  | some g => rw [Except.ok.injEq, Option.some.injEq]
  | none => exact iff_of_false nofun nofun

theorem ofString_eq_error_iff {s : String} {e : DiscoveryError} :
    ofString s = .error e ↔ ofString? s = none ∧ e = .badFileName s := by
  unfold ofString
  cases ofString? s with
  | some g => exact iff_of_false nofun (fun h => nomatch h.1)
  | none =>
    rw [Except.error.injEq]
    exact ⟨fun h => ⟨rfl, h.symm⟩, fun h => h.2.symm⟩

end FileName

end SchemaMigration
