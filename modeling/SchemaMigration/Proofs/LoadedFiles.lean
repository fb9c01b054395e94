import SchemaMigration.Migration.File
import SchemaMigration.Version.Basic

/-!
# What a loaded file is known to have

The reader of file names accepts a name exactly when it is put together from fourteen decimal digits
and a plain name, and gives these two parts:

> `FileName.ofString?_eq_some_iff`: what is accepted, and what is read from it.

Decimal digits of any script are not blank, so a version of this form fits into the version table:

> `FileName.IsFormed.check_version`, `MigrationFile.check_version`: the version of a file name, and
> of a file that was loaded, is accepted by a run.

The content of a file that was written as a text is that text again (`load_text`).
-/

namespace SchemaMigration

namespace Text

/-- The ranges of decimal digits lie apart from those of white space. -/
theorem decimalDigitRanges_apart : ∀ d ∈ decimalDigitRanges, ∀ b ∈ blankRanges,
    d.2 < b.1 ∨ b.2 < d.1 := by decide

/-- A decimal digit of any script is not blank. -/
theorem not_isBlank_of_isDecimalDigit {c : Char} (h : isDecimalDigit c = true) :
    isBlank c = false := by
  unfold isDecimalDigit inRanges at h
  obtain ⟨d, hd, hin⟩ := List.any_eq_true.1 h
  simp only [Bool.and_eq_true, decide_eq_true_eq] at hin
  unfold isBlank inRanges
  rw [List.any_eq_false]
  intro b hb hc
  simp only [Bool.and_eq_true, decide_eq_true_eq] at hc
  have hapart := decimalDigitRanges_apart d hd b hb
  omega

end Text

namespace FileName

/-- The version is fourteen decimal digits, and the name is a plain identifier. -/
structure IsFormed (f : FileName) : Prop where
  length : f.version.toList.length = 14
  digits : ∀ c ∈ f.version.toList, Text.isDecimalDigit c = true
  name : Sql.isPlainIdentifier f.name = true

theorem toList_text (f : FileName) :
    f.text.toList = f.version.toList ++ '_' :: (f.name.toList ++ extension) := by
  unfold text
  simp [extension]

/-- What stands before the extension: the version and the name. -/
def labelChars (f : FileName) : List Char := f.version.toList ++ '_' :: f.name.toList

theorem toList_text_eq_labelChars (f : FileName) : f.text.toList = f.labelChars ++ extension := by
  rw [toList_text, labelChars, List.append_assoc, List.cons_append]

/-- No digit is a point, and a plain name has none. -/
theorem IsFormed.point_notMem_labelChars {f : FileName} (h : f.IsFormed) : '.' ∉ f.labelChars := by
  intro hpoint
  rw [labelChars, List.mem_append, List.mem_cons] at hpoint
  rcases hpoint with hpoint | hpoint | hpoint
  · exact absurd (h.digits _ hpoint) (by decide)
  · exact absurd hpoint (by decide)
  · exact absurd (Sql.isPlainChar_of_mem h.name hpoint) (by decide)

/-- The text before the extension is what stands before it. -/
theorem stem?_eq_some_iff {s name : List Char} : stem? s = some name ↔ s = name ++ extension := by
  unfold stem?
  constructor
  · intro h
    split at h
    · next hsuffix =>
      obtain ⟨before, rfl⟩ := List.isSuffixOf_iff_suffix.1 hsuffix
      have hlength : (before ++ extension).length - extension.length = before.length := by
        rw [List.length_append]
        omega
      rw [hlength, List.take_left] at h
      cases h
      rfl
    · cases h
  · rintro rfl
    have hlength : (name ++ extension).length - extension.length = name.length := by
      rw [List.length_append]
      omega
    rw [if_pos (List.isSuffixOf_iff_suffix.2 (List.suffix_append name extension)), hlength,
      List.take_left]

/-- A name is accepted exactly when it is put together from fourteen decimal digits and a plain
name, and these are the parts that are read. -/
theorem ofString?_eq_some_iff {s : String} {f : FileName} :
    ofString? s = some f ↔ f.IsFormed ∧ s = f.text := by
  constructor
  · intro h
    simp only [ofString?] at h
    split at h
    · next rest hdrop =>
      split at h
      · next name hstem =>
        split at h
        · next hall =>
          cases h
          simp only [Bool.and_eq_true, List.all_eq_true] at hall
          obtain ⟨⟨hdigits, hne⟩, hplain⟩ := hall
          -- an underscore follows, so fourteen characters were there to take
          have hlength : (s.toList.take 14).length = 14 := by
            have hlen := congrArg List.length hdrop
            rw [List.length_drop, List.length_cons] at hlen
            rw [List.length_take]
            omega
          refine ⟨⟨?_, ?_, ?_⟩, ?_⟩
          · rw [String.toList_ofList, hlength]
          · rw [String.toList_ofList]
            exact hdigits
          · unfold Sql.isPlainIdentifier
            rw [String.toList_ofList, hne, List.all_eq_true.2 hplain]
            rfl
          · rw [← String.toList_inj, toList_text, String.toList_ofList, String.toList_ofList,
              ← stem?_eq_some_iff.1 hstem, ← hdrop, List.take_append_drop]
        · cases h
      · cases h
    · cases h
  · rintro ⟨hf, rfl⟩
    have htake : f.text.toList.take 14 = f.version.toList := by
      rw [toList_text]
      exact List.take_left' hf.length
    have hdrop : f.text.toList.drop 14 = '_' :: (f.name.toList ++ extension) := by
      rw [toList_text]
      exact List.drop_left' hf.length
    have hstem : stem? (f.name.toList ++ extension) = some f.name.toList := stem?_eq_some_iff.2 rfl
    have hdigits : f.version.toList.all Text.isDecimalDigit = true := List.all_eq_true.2 hf.digits
    have hname := hf.name
    unfold Sql.isPlainIdentifier at hname
    unfold ofString?
    simp only [htake, hdrop, hstem, hdigits, Bool.true_and, hname, if_true, String.ofList_toList]

/-- A version of fourteen decimal digits is not blank and fits into the version table. -/
theorem IsFormed.check_version {f : FileName} (h : f.IsFormed) :
    Version.check f.version = .ok () := by
  have hblank : Text.isBlankText f.version = false := by
    unfold Text.isBlankText
    rw [List.all_eq_false]
    obtain ⟨c, hc⟩ : ∃ c, c ∈ f.version.toList := by
      apply List.exists_mem_of_ne_nil
      intro hnil
      have hlength := h.length
      rw [hnil] at hlength
      cases hlength
    refine ⟨c, hc, ?_⟩
    rw [Text.not_isBlank_of_isDecimalDigit (h.digits c hc)]
    exact Bool.false_ne_true
  have hfits : ¬ Version.maxLength < f.version.toList.length := by
    rw [h.length]
    decide
  unfold Version.check
  rw [hblank, decide_eq_false hfits]
  rfl

end FileName

namespace MigrationFile

/-- A text that was written is read back. -/
theorem readText_toUTF8 (text : String) : Files.Node.readText (.file text.toUTF8) = .ok text := by
  have hread : String.fromUTF8? text.toUTF8 = some text := dif_pos text.isValidUTF8
  unfold Files.Node.readText
  simp only [hread]

/-- A file that holds a text is loaded from that text. -/
theorem load_text {path : Path} {name : FileName} (text : String) (h : nameOf path = .ok name) :
    load path (.ok (.file text.toUTF8)) = (ofText path name text).mapError (.badContent path) := by
  have hread : (Except.ok (.file text.toUTF8)).bind Files.Node.readText = .ok text :=
    readText_toUTF8 text
  unfold load
  rw [h]
  simp only [hread]

/-- A file that holds a document is loaded from the fields of the document. -/
theorem load_document {path : Path} {name : FileName} {text : String} {fields : Toml.Fields}
    (h : nameOf path = .ok name) (hdocument : Toml.document text.toList = some fields) :
    load path (.ok (.file text.toUTF8)) =
      (ofFields path name fields).mapError (.badContent path) := by
  rw [load_text text h, ofText, hdocument]

/-- The version and the name of a file that was loaded are those of a file name. -/
theorem isFormed_of_load {path : Path} {found : Except Files.FileError Files.Node}
    {m : MigrationFile} (h : load path found = .ok m) : FileName.IsFormed ⟨m.version, m.name⟩ := by
  obtain ⟨f, hname, -, hversion, hrest⟩ := load_version h
  rw [hversion, hrest]
  unfold nameOf at hname
  split at hname
  · cases hname
  · exact (FileName.ofString?_eq_some_iff.1 (FileName.ofString_eq_ok_iff.1 hname)).1

/-- The version of a file that was loaded is accepted by a run. -/
theorem check_version {path : Path} {found : Except Files.FileError Files.Node}
    {m : MigrationFile} (h : load path found = .ok m) : Version.check m.version = .ok () :=
  (isFormed_of_load h).check_version

end MigrationFile

end SchemaMigration
