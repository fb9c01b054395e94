import Mathlib.Data.List.Nodup
import SchemaMigration.Proofs.FileTree
import SchemaMigration.Proofs.MigrationOrder
import SchemaMigration.Proofs.Stamps

/-!
# New migrations

A new migration is a file of comments, named by the stamp of its instant. It is loaded as a
migration without commands:

> `load_emptyMigration`: what is loaded from a new file.

Added to a directory of migrations, it takes its place in their order if its version is a new one.
If one of them has the version already, which can only be when it was stamped in the same second,
the file is created all the same, and from then on the directory is refused:

> `discover_concat_of_fresh`, `discover_concat_of_taken`: one more entry in a listing.
> `createMigration_discovered`: one more migration in a directory.
-/

namespace SchemaMigration

open Files

/-! ## Documents of comments -/

namespace Toml

theorem isCommentChar_of_le {c : Char} (hlow : 0x20 ≤ c.toNat) (hdelete : c ≠ '\x7f') :
    isCommentChar c = true := by
  unfold isCommentChar
  rw [decide_eq_true hlow, bne_iff_ne.2 hdelete]
  exact Bool.or_true _

/-- Lines that are comments. -/
def commentLines (bodies : List (List Char)) : List Char :=
  bodies.flatMap fun body => '#' :: body ++ ['\n']

theorem commentLines_cons (body : List Char) (rest : List (List Char)) :
    commentLines (body :: rest) = '#' :: (body ++ '\n' :: commentLines rest) := by
  simp [commentLines]

theorem length_le_commentLines (bodies : List (List Char)) :
    bodies.length ≤ (commentLines bodies).length := by
  induction bodies with
  | nil => exact Nat.le_refl 0
  | cons body rest ih =>
    rw [commentLines_cons]
    simp only [List.length_cons, List.length_append]
    omega

/-- A comment ends with its line. -/
theorem lineEnd?_comment {body : List Char} (rest : List Char)
    (h : ∀ c ∈ body, isCommentChar c = true) :
    lineEnd? ('#' :: (body ++ '\n' :: rest)) = some rest := by
  have hskip : skipSpace ('#' :: (body ++ '\n' :: rest)) = '#' :: (body ++ '\n' :: rest) := rfl
  have hdrop : ('#' :: (body ++ '\n' :: rest)).dropWhile isCommentChar = '\n' :: rest := by
    rw [List.dropWhile_cons_of_pos (by decide), List.dropWhile_append_of_pos h]
    rfl
  unfold lineEnd?
  simp only [hskip, List.head?_cons, beq_self_eq_true, if_true, hdrop]
  rfl

theorem linesFrom_commentLines (d : Draft) {bodies : List (List Char)} {rounds : Nat}
    (h : ∀ body ∈ bodies, ∀ c ∈ body, isCommentChar c = true) (hrounds : bodies.length < rounds) :
    linesFrom rounds d (commentLines bodies) = some d.root := by
  -- each line takes a round, and one more round finds the end of the text
  induction bodies generalizing rounds with
  | nil =>
    cases rounds with
    | zero => cases hrounds
    | succ rounds => rfl
  | cons body rest ih =>
    cases rounds with
    | zero => cases hrounds
    | succ rounds =>
      have hline : line d (commentLines (body :: rest)) = some (d, commentLines rest) := by
        rw [commentLines_cons, line, lineEnd?_comment _ (h body List.mem_cons_self)]
        rfl
      have hskip : skipSpace (commentLines (body :: rest)) = commentLines (body :: rest) := by
        rw [commentLines_cons]
        rfl
      have hrest := ih (fun b hb => h b (List.mem_cons_of_mem _ hb))
        (Nat.lt_of_succ_lt_succ hrounds)
      rw [linesFrom, hskip]
      rw [commentLines_cons] at hline ⊢
      simp only [hline, hrest]

/-- A document of comments is empty. -/
theorem document_commentLines {bodies : List (List Char)}
    (h : ∀ body ∈ bodies, ∀ c ∈ body, isCommentChar c = true) :
    document (commentLines bodies) = some [] := by
  have hmark : ((commentLines bodies).head? == some '\ufeff') = false := by
    cases bodies with
    | nil => rfl
    | cons body rest =>
      rw [commentLines_cons]
      rfl
  have hlines := linesFrom_commentLines ⟨.defined, []⟩ h
    (Nat.lt_succ_of_le (length_le_commentLines bodies))
  unfold document documentTable
  rw [hmark]
  simp only [if_neg Bool.false_ne_true, hlines]
  rfl

end Toml

/-! ## The name of a migration file -/

namespace FileName

/-- A character that is neither a digit nor plain stands in the extension only. -/
theorem IsFormed.mem_extension {f : FileName} (h : f.IsFormed) {c : Char}
    (hc : c ∈ f.text.toList) (hdigit : Text.isDecimalDigit c = false)
    (hplain : Sql.isPlainChar c = false) : c ∈ extension := by
  rw [toList_text, List.mem_append, List.mem_cons, List.mem_append] at hc
  rcases hc with hc | rfl | hc | hc
  · rw [h.digits c hc] at hdigit
    cases hdigit
  · exact absurd hplain (by decide)
  · rw [Sql.isPlainChar_of_mem h.name hc] at hplain
    cases hplain
  · exact hc

theorem underscore_mem_text (f : FileName) : '_' ∈ f.text.toList := by
  rw [toList_text]
  exact List.mem_append_right _ List.mem_cons_self

theorem text_ne {f : FileName} {s : String} (h : '_' ∉ s.toList) : f.text ≠ s := by
  intro heq
  rw [← heq] at h
  exact h f.underscore_mem_text

theorem IsFormed.slash_notMem_text {f : FileName} (h : f.IsFormed) : '/' ∉ f.text.toList :=
  fun hc => absurd (h.mem_extension hc (by decide) (by decide)) (by decide)

/-- A point stands before the extension, and something before that. -/
theorem extension?_text (f : FileName) : Path.extension? f.text = some "toml" := by
  refine Path.extension?_eq_some_iff.2 ⟨by decide, String.ofList f.labelChars, fun hempty => ?_, ?_⟩
  · have hnil : f.labelChars = [] := by
      rw [← String.toList_ofList (l := f.labelChars), hempty]
      rfl
    exact absurd hnil (by simp [labelChars])
  · rw [← String.toList_inj, toList_text_eq_labelChars]
    simp [extension]

end FileName

/-- A migration file in a directory has the name that it was given. -/
theorem MigrationFile.nameOf_join {dir : Path} {f : FileName} (hdir : dir.text ≠ "")
    (h : f.IsFormed) : MigrationFile.nameOf (dir.join f.text) = .ok f := by
  have hidle : Path.isIdle f.text = false := by
    unfold Path.isIdle
    rw [beq_false_of_ne (FileName.text_ne (by decide)),
      beq_false_of_ne (FileName.text_ne (by decide))]
    rfl
  have hup : f.text ≠ ".." := FileName.text_ne (by decide)
  obtain ⟨above, hparts, -⟩ := Path.parts_join hdir h.slash_notMem_text
  have hfile : (dir.join f.text).fileName? = some f.text := by
    unfold Path.fileName?
    rw [hparts, List.filter_append, List.filter_singleton, hidle]
    simp [hup]
  unfold MigrationFile.nameOf
  rw [hfile]
  exact FileName.ofString_eq_ok_iff.2 (FileName.ofString?_eq_some_iff.2 ⟨h, rfl⟩)

/-! ## The content of a new file -/

theorem newFileName_isFormed {name : String} {now : Calendar.Instant}
    (hname : Sql.isPlainIdentifier name = true) (hyear : now.HasFourDigitYear) :
    (newFileName name now).IsFormed := by
  constructor
  · show now.stamp.toList.length = 14
    unfold Calendar.Instant.stamp
    rw [String.toList_ofList]
    exact Calendar.Instant.length_stampChars hyear
  · show ∀ c ∈ now.stamp.toList, _
    unfold Calendar.Instant.stamp
    rw [String.toList_ofList]
    exact fun c hc =>
      Text.isDecimalDigit_of_isDigit (Calendar.Instant.isDigit_of_mem_stampChars hyear c hc)
  · exact hname

/-- The comments of a new file, without their number signs. -/
def emptyMigrationComments (f : FileName) : List (List Char) :=
  [' ' :: f.version.toList ++ '_' :: f.name.toList, [], " [[up]]".toList,
    " create-table = \"example\"".toList,
    " columns = [[\"id\", \"INT\", \"NOT NULL\"]]".toList, " primary-key = [\"id\"]".toList, [],
    " [[down]]".toList, " drop-table = \"example\"".toList]

theorem toList_emptyMigration (f : FileName) :
    (emptyMigration f).toList = Toml.commentLines (emptyMigrationComments f) := by
  unfold emptyMigration emptyMigrationComments Toml.commentLines
  simp only [String.toList_append, List.flatMap_cons, List.flatMap_nil, List.append_assoc,
    List.cons_append, List.nil_append]
  rfl

theorem isCommentChar_of_isDecimalDigit {c : Char} (h : Text.isDecimalDigit c = true) :
    Toml.isCommentChar c = true := by
  have hlow := Text.le_of_isDecimalDigit h
  refine Toml.isCommentChar_of_le (by omega) ?_
  rintro rfl
  exact absurd h (by decide)

theorem isCommentChar_of_isPlainChar {c : Char} (h : Sql.isPlainChar c = true) :
    Toml.isCommentChar c = true := by
  have hlow := Sql.toNat_of_isPlainChar h
  refine Toml.isCommentChar_of_le (by omega) ?_
  rintro rfl
  exact absurd h (by decide)

theorem FileName.IsFormed.document_emptyMigration {f : FileName} (h : f.IsFormed) :
    Toml.document (emptyMigration f).toList = some [] := by
  have hfixed : (emptyMigrationComments f).tail.all (·.all Toml.isCommentChar) = true := by
    show (emptyMigrationComments ⟨"", ""⟩).tail.all (·.all Toml.isCommentChar) = true
    decide +kernel
  rw [toList_emptyMigration]
  refine Toml.document_commentLines fun body hbody c hc => ?_
  -- the version and the name stand in the first comment, and the others are always the same
  rcases List.mem_cons.1 hbody with rfl | hbody
  · rw [List.cons_append, List.mem_cons, List.mem_append, List.mem_cons] at hc
    rcases hc with rfl | hc | rfl | hc
    · decide
    · exact isCommentChar_of_isDecimalDigit (h.digits c hc)
    · decide
    · exact isCommentChar_of_isPlainChar (Sql.isPlainChar_of_mem h.name hc)
  · exact List.all_eq_true.1 (List.all_eq_true.1 hfixed body hbody) c hc

/-- A migration without commands. -/
def newMigration (path : Path) (f : FileName) : MigrationFile :=
  ⟨path, f.version, f.name, none, .null, .null⟩

/-- A new file is loaded as a migration without commands. -/
theorem load_emptyMigration {dir : Path} {f : FileName} (hdir : dir.text ≠ "") (h : f.IsFormed) :
    MigrationFile.load (dir.join f.text) (.ok (.file (emptyMigration f).toUTF8)) =
      .ok (newMigration (dir.join f.text) f) := by
  rw [MigrationFile.load_text _ (MigrationFile.nameOf_join hdir h), MigrationFile.ofText,
    h.document_emptyMigration]
  rfl

/-! ## One more entry in a listing -/

theorem Reading.each_concat {ε α β : Type} {f : α → Except ε β} {xs : List α} {ys : List β} {x : α}
    {y : β} (h : Reading.each f xs = .ok ys) (hx : f x = .ok y) :
    Reading.each f (xs ++ [x]) = .ok (ys ++ [y]) := by
  induction xs generalizing ys with
  | nil =>
    cases h
    simp [Reading.each, hx]
  | cons x' xs ih =>
    unfold Reading.each at h
    split at h
    · cases h
    · next y' hx' =>
      split at h
      · cases h
      · next ys' hxs =>
        cases h
        rw [List.cons_append, Reading.each]
        simp only [hx', ih hxs]
        rfl

variable {dir : Path} {entries : List (String × Node)} {entry : String × Node}
  {ms : List MigrationFile} {m : MigrationFile}

theorem loadEntries_concat {loaded : List MigrationFile}
    (h : loadEntries dir entries = .ok loaded) (hentry : isMigrationEntry entry = true)
    (hload : MigrationFile.load (dir.join entry.1) (.ok entry.2) = .ok m) :
    loadEntries dir (entries ++ [entry]) = .ok (loaded ++ [m]) := by
  unfold loadEntries at h ⊢
  rw [List.filter_append, List.filter_singleton, hentry]
  exact Reading.each_concat h hload

/-- A version that is new among ascending ones has a place between them. -/
theorem exists_place {v : String} (h : ms.Pairwise fun a b => a.version < b.version)
    (hfresh : ∀ f ∈ ms, f.version ≠ v) :
    ∃ before after, ms = before ++ after ∧ (∀ f ∈ before, f.version < v) ∧
      ∀ f ∈ after, v < f.version := by
  induction ms with
  | nil => exact ⟨[], [], rfl, by simp, by simp⟩
  | cons a rest ih =>
    rw [List.pairwise_cons] at h
    by_cases hlt : a.version < v
    · obtain ⟨before, after, rfl, hbefore, hafter⟩ :=
        ih h.2 fun f hf => hfresh f (List.mem_cons_of_mem _ hf)
      refine ⟨a :: before, after, rfl, ?_, hafter⟩
      intro f hf
      rcases List.mem_cons.1 hf with rfl | hf
      · exact hlt
      · exact hbefore f hf
    · have hgt : v < a.version :=
        Std.lt_of_le_of_ne (Std.not_lt.1 hlt) (hfresh a List.mem_cons_self).symm
      refine ⟨[], a :: rest, rfl, by simp, ?_⟩
      intro f hf
      rcases List.mem_cons.1 hf with rfl | hf
      · exact hgt
      · exact String.lt_trans hgt (h.1 f hf)

/-- An entry with a new version is put in its place among the others. -/
theorem discover_concat_of_fresh (h : discover dir entries = .ok ms)
    (hentry : isMigrationEntry entry = true)
    (hload : MigrationFile.load (dir.join entry.1) (.ok entry.2) = .ok m)
    (hfresh : ∀ f ∈ ms, f.version ≠ m.version) :
    ∃ before after, ms = before ++ after ∧
      discover dir (entries ++ [entry]) = .ok (before ++ m :: after) ∧
      (∀ f ∈ before, f.version < m.version) ∧ ∀ f ∈ after, m.version < f.version := by
  obtain ⟨loaded, hloaded, hdup, rfl⟩ := discover_eq_ok_iff.1 h
  have hasc := ascending_of_duplicate? hdup (sortByVersion_sorted loaded)
  obtain ⟨before, after, hsplit, hbefore, hafter⟩ := exists_place hasc hfresh
  have hperm : (loaded ++ [m]).Perm (before ++ m :: after) := by
    have hsame : loaded.Perm (before ++ after) := hsplit ▸ (sortByVersion_perm loaded).symm
    exact (List.perm_append_singleton m loaded).trans ((hsame.cons m).trans List.perm_middle.symm)
  have hordered : (before ++ m :: after).Pairwise fun a b => a.version < b.version := by
    rw [hsplit, List.pairwise_append] at hasc
    refine List.pairwise_append.2 ⟨hasc.1, List.pairwise_cons.2 ⟨hafter, hasc.2.1⟩, ?_⟩
    intro a ha b hb
    rcases List.mem_cons.1 hb with rfl | hb
    · exact hbefore a ha
    · exact hasc.2.2 a ha b hb
  -- of all arrangements only one ascends, so it is the one that sorting gives
  have hsorted : sortByVersion (loaded ++ [m]) = before ++ m :: after :=
    sortByVersion_of_perm hperm hordered
  refine ⟨before, after, hsplit, ?_, hbefore, hafter⟩
  refine discover_eq_ok_iff.2 ⟨loaded ++ [m], loadEntries_concat hloaded hentry hload, ?_, ?_⟩
  · rw [hsorted]
    exact duplicate?_of_ascending hordered
  · exact hsorted.symm

/-- An entry with a version that is taken makes the listing be refused. -/
theorem discover_concat_of_taken (h : discover dir entries = .ok ms)
    (hentry : isMigrationEntry entry = true)
    (hload : MigrationFile.load (dir.join entry.1) (.ok entry.2) = .ok m)
    (htaken : ∃ f ∈ ms, f.version = m.version) :
    ∃ first second, discover dir (entries ++ [entry]) =
      .error (.duplicateVersion m.version first second) := by
  obtain ⟨loaded, hloaded, hdup, rfl⟩ := discover_eq_ok_iff.1 h
  obtain ⟨f, hf, hversion⟩ := htaken
  have hloads := loadEntries_concat hloaded hentry hload
  have hversions : ((sortByVersion (loaded ++ [m])).map (·.version)).Perm
      ((sortByVersion loaded).map (·.version) ++ [m.version]) := by
    have hsame := ((sortByVersion_perm loaded).map (·.version)).symm
    refine ((sortByVersion_perm (loaded ++ [m])).map _).trans ?_
    rw [List.map_append]
    exact hsame.append_right _
  have hnodup : ((sortByVersion loaded).map (·.version)).Nodup :=
    List.pairwise_map.2
      ((ascending_of_duplicate? hdup (sortByVersion_sorted loaded)).imp Std.ne_of_lt)
  unfold discover
  simp only [hloads]
  cases hdup' : duplicate? (sortByVersion (loaded ++ [m])) with
  | none =>
    -- then all versions would differ, but the taken one is there twice
    have hasc := ascending_of_duplicate? hdup' (sortByVersion_sorted _)
    have hall : ((sortByVersion (loaded ++ [m])).map (·.version)).Nodup :=
      List.pairwise_map.2 (hasc.imp Std.ne_of_lt)
    rw [hversions.nodup_iff, List.nodup_append] at hall
    exact absurd hversion
      (hall.2.2 _ (List.mem_map_of_mem hf) _ (List.mem_singleton.2 rfl))
  | some pair =>
    obtain ⟨a, b⟩ := pair
    obtain ⟨hsame, before, after, hneighbours⟩ := exists_of_duplicate? hdup'
    -- the version of the two is counted twice, but once at most without the new entry
    have htwice : 2 ≤ ((sortByVersion (loaded ++ [m])).map (·.version)).count a.version := by
      rw [hneighbours]
      simp only [List.map_append, List.map_cons, List.count_append, ← hsame, List.count_cons_self]
      omega
    have honce := List.nodup_iff_count_le_one.1 hnodup a.version
    have ha : a.version = m.version := by
      by_cases heq : a.version = m.version
      · exact heq
      · rw [hversions.count_eq, List.count_append, List.count_singleton,
          beq_false_of_ne (Ne.symm heq)] at htwice
        simp only [Bool.false_eq_true, if_false] at htwice
        omega
    exact ⟨a.path, b.path, by simp only [ha]⟩

/-! ## One more migration in a directory -/

theorem isMigrationEntry_text (f : FileName) (content : Node) :
    isMigrationEntry (f.text, content) = true := by
  unfold isMigrationEntry
  rw [f.extension?_text]
  rfl

/-- Where a directory is there already, adding a migration either changes nothing or creates its
file. -/
theorem createMigration_cases {root : Node} (name : String) (now : Calendar.Instant)
    (hdir : root.entriesOf? dir = some entries) :
    (∃ e, createMigration dir name now root = ⟨.error e, root, []⟩) ∨
    ∃ root', Sql.isPlainIdentifier name = true ∧
      root.createFile (dir.join (newFileName name now).text)
        (emptyMigration (newFileName name now)).toUTF8 = .ok root' ∧
      createMigration dir name now root =
        ⟨.ok (dir.join (newFileName name now).text), root', []⟩ := by
  unfold createMigration
  rw [Node.makeDirectory_of_entriesOf? hdir]
  cases hname : Sql.isPlainIdentifier name with
  | false => exact .inl ⟨_, rfl⟩
  | true =>
    simp only [Bool.not_true, if_neg Bool.false_ne_true]
    cases root.createFile (dir.join (newFileName name now).text)
      (emptyMigration (newFileName name now)).toUTF8 with
    | error e => exact .inl ⟨_, rfl⟩
    | ok root' => exact .inr ⟨root', trivial, rfl, rfl⟩

/-- A migration that was created in a directory of migrations: the tree gains its file, and it takes
its place among the others, or makes the directory be refused. -/
theorem discovered_of_createFile {root root' : Node} {f : FileName} (hf : f.IsFormed)
    (hdir : discoverIn root dir = .ok ms)
    (hfile : root.createFile (dir.join f.text) (emptyMigration f).toUTF8 = .ok root') :
    (∃ place, Node.Gains root root' place (emptyMigration f).toUTF8) ∧
    root'.bytesOf? (dir.join f.text) = some (emptyMigration f).toUTF8 ∧
    ((∀ g ∈ ms, g.version ≠ f.version) →
      ∃ before after, ms = before ++ after ∧
        discoverIn root' dir = .ok (before ++ newMigration (dir.join f.text) f :: after) ∧
        (∀ g ∈ before, g.version < f.version) ∧ ∀ g ∈ after, f.version < g.version) ∧
    ((∃ g ∈ ms, g.version = f.version) →
      ∃ first second, discoverIn root' dir =
        .error (.duplicateVersion f.version first second)) := by
  obtain ⟨entries, hentries, hdiscover⟩ := discoverIn_eq_ok_iff.1 hdir
  obtain ⟨hgains, hafter, hbytes⟩ := Node.createFile_join hentries hf.slash_notMem_text
    (FileName.text_ne (by decide)) hfile
  have hentry := isMigrationEntry_text f (.file (emptyMigration f).toUTF8)
  have hload := load_emptyMigration (Node.text_ne_empty_of_entriesOf? hentries) hf
  refine ⟨hgains, hbytes, fun hfresh => ?_, fun htaken => ?_⟩
  · obtain ⟨before, after, hsplit, hdiscovered, horder⟩ :=
      discover_concat_of_fresh hdiscover hentry hload hfresh
    exact ⟨before, after, hsplit, discoverIn_eq_ok_iff.2 ⟨_, hafter, hdiscovered⟩, horder⟩
  · obtain ⟨first, second, hrefused⟩ := discover_concat_of_taken hdiscover hentry hload htaken
    refine ⟨first, second, ?_⟩
    unfold discoverIn
    rw [hafter]
    exact hrefused

/-- What adding a migration does to a directory whose migrations are discovered. Refused, it changes
nothing. Otherwise the tree gains one file, which holds a migration without commands whose version
is the stamp; it takes its place among the others if none of them has that version, and if one has
it, the directory is refused from now on. -/
theorem createMigration_discovered {root : Node} (name : String) {now : Calendar.Instant}
    (hdir : discoverIn root dir = .ok ms) (hyear : now.HasFourDigitYear) :
    let made := createMigration dir name now root
    let f := newFileName name now
    (∀ e, made.result = .error e → made.state = root) ∧
    ∀ path, made.result = .ok path →
      (newMigration path f).check = .ok () ∧
      (∃ place, Node.Gains root made.state place (emptyMigration f).toUTF8) ∧
      made.state.bytesOf? path = some (emptyMigration f).toUTF8 ∧
      ((∀ g ∈ ms, g.version ≠ now.stamp) →
        ∃ before after, ms = before ++ after ∧
          discoverIn made.state dir = .ok (before ++ newMigration path f :: after) ∧
          (∀ g ∈ before, g.version < now.stamp) ∧ ∀ g ∈ after, now.stamp < g.version) ∧
      ((∃ g ∈ ms, g.version = now.stamp) →
        ∃ first second, discoverIn made.state dir =
          .error (.duplicateVersion now.stamp first second)) := by
  intro made f
  obtain ⟨entries, hentries, -⟩ := discoverIn_eq_ok_iff.1 hdir
  rcases createMigration_cases name now hentries with ⟨e, hmade⟩ | ⟨root', hname, hfile, hmade⟩
  · have hsame : made = ⟨.error e, root, []⟩ := hmade
    rw [hsame]
    exact ⟨fun _ _ => rfl, fun _ h => by cases h⟩
  · have hsame : made = ⟨.ok (dir.join f.text), root', []⟩ := hmade
    rw [hsame]
    refine ⟨(fun _ h => by cases h), fun path hpath => ?_⟩
    have hplace : dir.join f.text = path := Except.ok.inj hpath
    rw [← hplace]
    exact ⟨rfl, discovered_of_createFile (newFileName_isFormed hname hyear) hdir hfile⟩

/-- A result that can be computed is known by a test of its value. -/
theorem eq_ok_of_decide {ε α : Type} [DecidableEq α] {r : Except ε α} {a : α}
    (h : r.toOption.elim false (fun x => decide (x = a)) = true) : r = .ok a := by
  cases r with
  | error e => cases h
  | ok x => rw [of_decide_eq_true h]

/-- A directory with one new migration in it. -/
theorem discoverIn_emptyMigration {f : FileName} (h : f.IsFormed) :
    discoverIn (.directory [("m", .directory [(f.text, .file (emptyMigration f).toUTF8)])]) ⟨"m"⟩ =
      .ok [newMigration (Path.join ⟨"m"⟩ f.text) f] := by
  have hnone : discover ⟨"m"⟩ [] = .ok [] :=
    discover_eq_ok_iff.2 ⟨[], rfl, by simp [sortByVersion, duplicate?], by simp [sortByVersion]⟩
  have hentry := isMigrationEntry_text f (.file (emptyMigration f).toUTF8)
  have hload : MigrationFile.load (Path.join ⟨"m"⟩ f.text)
      (.ok (.file (emptyMigration f).toUTF8)) = .ok (newMigration (Path.join ⟨"m"⟩ f.text) f) :=
    load_emptyMigration (by decide) h
  obtain ⟨before, after, hsplit, hone, -⟩ :=
    discover_concat_of_fresh hnone hentry hload (by simp)
  obtain ⟨rfl, rfl⟩ := List.append_eq_nil_iff.1 hsplit.symm
  exact discoverIn_eq_ok_iff.2 ⟨_, rfl, hone⟩

/-- One second after the first migration a second one is stamped, and follows it. -/
theorem secondMigration_oneSecondLater :
    let a : FileName := ⟨"20240101000000", "a"⟩
    let root : Node := .directory [("m", .directory [(a.text, .file (emptyMigration a).toUTF8)])]
    let first := newMigration (Path.join ⟨"m"⟩ a.text) a
    let later : Calendar.Instant := ⟨1704067201000⟩
    let made := createMigration ⟨"m"⟩ "b" later root
    (discoverIn root ⟨"m"⟩ = .ok [first] ∧ later.HasFourDigitYear) ∧
    made.result = .ok ⟨"m/20240101000001_b.toml"⟩ ∧
    discoverIn made.state ⟨"m"⟩ =
      .ok [first, newMigration ⟨"m/20240101000001_b.toml"⟩ ⟨"20240101000001", "b"⟩] := by
  intro a root first later made
  have ha : a.IsFormed := ⟨by decide, List.all_eq_true.1 (by decide +kernel), by decide⟩
  have hdir : discoverIn root ⟨"m"⟩ = .ok [first] := discoverIn_emptyMigration ha
  have hyear : later.HasFourDigitYear := ⟨by decide, by decide⟩
  have hname : newFileName "b" later = ⟨"20240101000001", "b"⟩ := by decide +kernel
  have hresult : made.result = .ok ⟨"m/20240101000001_b.toml"⟩ :=
    eq_ok_of_decide (by decide +kernel +zetaReduce)
  have hstamp : later.stamp = "20240101000001" := congrArg FileName.version hname
  obtain ⟨-, -, -, hfresh, -⟩ := (createMigration_discovered "b" hdir hyear).2 _ hresult
  rw [hstamp, hname] at hfresh
  have hbelow : first.version < "20240101000001" := by decide
  obtain ⟨before, after, hsplit, hdiscovered, -, hafter⟩ :=
    hfresh (by simpa using Std.ne_of_lt hbelow)
  -- nothing follows the second one, since the only other one comes before it
  cases after with
  | nil =>
    rw [List.append_nil] at hsplit
    rw [← hsplit] at hdiscovered
    exact ⟨⟨hdir, hyear⟩, hresult, hdiscovered⟩
  | cons g rest =>
    have hg : g ∈ [first] := by
      rw [hsplit]
      exact List.mem_append_right _ List.mem_cons_self
    have habove := hafter g List.mem_cons_self
    rw [List.mem_singleton.1 hg] at habove
    exact absurd hbelow (Std.not_lt.2 (Std.le_of_lt habove))

/-- In the same second it is stamped with the version of the first one, and from then on the
directory is refused. -/
theorem secondMigration_sameSecond :
    let a : FileName := ⟨"20240101000000", "a"⟩
    let root : Node := .directory [("m", .directory [(a.text, .file (emptyMigration a).toUTF8)])]
    let first := newMigration (Path.join ⟨"m"⟩ a.text) a
    let now : Calendar.Instant := ⟨1704067200000⟩
    let made := createMigration ⟨"m"⟩ "b" now root
    discoverIn root ⟨"m"⟩ = .ok [first] ∧ now.HasFourDigitYear ∧
    made.result = .ok ⟨"m/20240101000000_b.toml"⟩ ∧
    ∀ ms, discoverIn made.state ⟨"m"⟩ ≠ .ok ms := by
  intro a root first now made
  have ha : a.IsFormed := ⟨by decide, List.all_eq_true.1 (by decide +kernel), by decide⟩
  have hdir : discoverIn root ⟨"m"⟩ = .ok [first] := discoverIn_emptyMigration ha
  have hyear : now.HasFourDigitYear := ⟨by decide, by decide⟩
  have hstamp : now.stamp = "20240101000000" := by decide +kernel
  have hresult : made.result = .ok ⟨"m/20240101000000_b.toml"⟩ :=
    eq_ok_of_decide (by decide +kernel +zetaReduce)
  refine ⟨hdir, hyear, hresult, fun ms hms => ?_⟩
  obtain ⟨entries, hentries, -⟩ := discoverIn_eq_ok_iff.1 hdir
  rcases createMigration_cases "b" now hentries with ⟨e, hmade⟩ | ⟨root', hname, hfile, hmade⟩
  · have hsame : made = ⟨.error e, root, []⟩ := hmade
    rw [hsame] at hresult
    cases hresult
  · have hsame : made = ⟨.ok (Path.join ⟨"m"⟩ (newFileName "b" now).text), root', []⟩ := hmade
    obtain ⟨-, -, -, htaken⟩ :=
      discovered_of_createFile (newFileName_isFormed hname hyear) hdir hfile
    obtain ⟨one, two, hrefused⟩ := htaken ⟨first, List.mem_singleton.2 rfl, hstamp.symm⟩
    rw [hsame] at hms
    rw [hrefused] at hms
    cases hms

end SchemaMigration
