import Mathlib.Data.List.Basic
import SchemaMigration.Proofs.ByteOrder
import SchemaMigration.Proofs.MigrationOrder

/-!
# The grammar of file names

The digits of a version and the underscore behind them may also occur in the name that follows, and
digits are counted as characters, which have one to four bytes each. File names are unambiguous all
the same: the version ends after fourteen characters, and the only point of a file name begins its
extension.

> `IsFormed.eq_of_isPrefix`: no file name is the beginning of another one.
> `fileNames_classified`: what is taken apart, into which parts, and what is refused.
-/

namespace SchemaMigration

namespace FileName

variable {f g : FileName}

/-- No file name is the beginning of another one: the extension follows the only point, and ends
both. -/
theorem IsFormed.eq_of_isPrefix (hf : f.IsFormed) (hg : g.IsFormed)
    (h : f.text.toList <+: g.text.toList) : f = g := by
  obtain ⟨more, hmore⟩ := h
  have hpoint : g.labelChars ++ '.' :: ['t', 'o', 'm', 'l'] =
      f.labelChars ++ '.' :: (['t', 'o', 'm', 'l'] ++ more) := by
    rw [toList_text_eq_labelChars, toList_text_eq_labelChars, List.append_assoc] at hmore
    exact hmore.symm
  obtain ⟨-, -, hend⟩ :=
    (List.append_cons_inj_of_notMem hg.point_notMem_labelChars (by decide)).1 hpoint
  have hnone : more = [] := List.self_eq_append_right.1 hend
  have hsame : g.text = f.text := by
    rw [hnone, List.append_nil] at hmore
    exact (String.toList_inj.1 hmore).symm
  -- one text is read once
  have hread := ofString?_eq_some_iff.2 ⟨hf, hsame⟩
  rw [ofString?_eq_some_iff.2 ⟨hg, rfl⟩] at hread
  exact (Option.some.inj hread).symm

end FileName

/-- A text is taken apart as a file name exactly when it is a version of fourteen decimal digits, an
underscore, a plain name and the extension, and these are its parts; any other text is refused as it
is. No file name is the beginning of another one, so that a text has these parts in one way only and
nothing can follow them. The version is above zero by the order of bytes, and a run accepts it. -/
theorem fileNames_classified :
    (∀ s f, FileName.ofString s = .ok f ↔ f.IsFormed ∧ s = f.text) ∧
    (∀ s, FileName.ofString s = .error (.badFileName s) ↔
      ∀ f : FileName, f.IsFormed → s ≠ f.text) ∧
    (∀ f g : FileName, f.IsFormed → g.IsFormed → f.text.toList <+: g.text.toList → f = g) ∧
    ∀ s f, FileName.ofString s = .ok f →
      Text.bytes Version.zero < Text.bytes f.version ∧ Version.check f.version = .ok () := by
  have haccepted : ∀ s f, FileName.ofString s = .ok f ↔ f.IsFormed ∧ s = f.text := fun s f =>
    FileName.ofString_eq_ok_iff.trans FileName.ofString?_eq_some_iff
  refine ⟨haccepted, fun s => ?_, fun f g hf hg => hf.eq_of_isPrefix hg, fun s f h => ?_⟩
  · rw [FileName.ofString_eq_error_iff, Option.eq_none_iff_forall_ne_some]
    constructor
    · rintro ⟨hnone, -⟩ f hf hs
      exact hnone f (FileName.ofString?_eq_some_iff.2 ⟨hf, hs⟩)
    · intro h
      refine ⟨fun f hsome => ?_, rfl⟩
      obtain ⟨hf, hs⟩ := FileName.ofString?_eq_some_iff.1 hsome
      exact h f hf hs
  · have hf := ((haccepted s f).1 h).1
    exact ⟨Text.bytes_lt_iff.2 hf.zero_lt_version, hf.check_version⟩

/-- The digits of a version have one, two, three and four bytes, and the name begins like a version.
With a line end behind it the name is refused. -/
theorem mixedDigits_classified :
    let f : FileName := ⟨"2٢२𝟿0101000000", "20240102000000_b"⟩
    f.IsFormed ∧ FileName.ofString "2٢२𝟿0101000000_20240102000000_b.toml" = .ok f ∧
    Text.bytes Version.zero < Text.bytes f.version ∧ Version.check f.version = .ok () ∧
    FileName.ofString "2٢२𝟿0101000000_20240102000000_b.toml\n" =
      .error (.badFileName "2٢२𝟿0101000000_20240102000000_b.toml\n") := by
  intro f
  obtain ⟨haccepted, hrefused, hprefix, hversion⟩ := fileNames_classified
  have hf : f.IsFormed := ⟨by decide, List.all_eq_true.1 (by decide +kernel), by decide⟩
  have htext : "2٢२𝟿0101000000_20240102000000_b.toml" = f.text := by decide
  have hread := (haccepted _ f).2 ⟨hf, htext⟩
  obtain ⟨hzero, hcheck⟩ := hversion _ f hread
  refine ⟨hf, hread, hzero, hcheck, (hrefused _).2 fun g hg hs => ?_⟩
  have hbegins : f.text.toList <+: g.text.toList := by
    rw [← htext, ← hs]
    exact ⟨['\n'], by decide⟩
  obtain rfl : f = g := hprefix f g hf hg hbegins
  rw [← htext] at hs
  exact absurd hs (by decide)

end SchemaMigration
