import Mathlib.Data.List.Perm.Basic
import SchemaMigration.Proofs.ByteOrder
import SchemaMigration.Proofs.Grammar
import SchemaMigration.Proofs.NewMigration
import SchemaMigration.Proofs.TomlData
import SchemaMigration.Toml.Equality

/-!
# The migrations of a listing

A listing gives the migrations that are loaded from its migration entries, one from each, in the one
order in which their versions ascend. The order of the listing has no part in that:

> `discover_eq_ok_iff_ascending`: what a listing gives, said without sorting.
> `exists_discover_iff`: when it gives anything.
> `discover_toOption_of_perm`: the same entries in another order.

Together with what is loaded from one entry (`MigrationFile.load_eq_ok_iff`), this says all that the
migrations of a directory are: `discoverIn_entries`.
-/

namespace SchemaMigration

open Files

/-! ## What is loaded from an entry -/

theorem mapError_eq_ok_iff {ε ε' α : Type} {f : ε → ε'} {r : Except ε α} {a : α} :
    r.mapError f = .ok a ↔ r = .ok a := by
  cases r <;> simp [Except.mapError]

namespace MigrationFile

/-- The commands of a section: none without its key, and otherwise what its value denotes. -/
inductive IsSection (fields : Toml.Fields) (key : String) : Json.Value → Prop
  | absent (h : fields.find? key = none) : IsSection fields key .null
  | present {v : Toml.Value} {commands : Json.Value} (h : fields.find? key = some v)
      (hv : Toml.Denotes v commands) : IsSection fields key commands

theorem isSection_iff {fields : Toml.Fields} {key : String} {commands : Json.Value} :
    IsSection fields key commands ↔ commands = sectionOf fields key := by
  unfold sectionOf
  constructor
  · intro h
    cases h with
    | absent h => rw [h]
    | present h hv =>
      rw [h]
      exact hv.eq_toJson
  · rintro rfl
    cases h : fields.find? key with
    | none => exact .absent h
    | some v => exact .present h (Toml.denotes_toJson v)

/-- The migration has this path, the version and the name of its file name, and the content of this
text: a document with the keys `up`, `down` and `description` only. -/
structure IsReadFrom (m : MigrationFile) (path : Path) (text : String) : Prop where
  place : m.path = path
  name : nameOf path = .ok ⟨m.version, m.name⟩
  content : ∃ fields, Toml.document text.toList = some fields ∧
    (∀ f ∈ fields, f.1 ∈ ["up", "down", "description"]) ∧
    fields.find? "description" = m.description.map .string ∧
    IsSection fields "up" m.up ∧ IsSection fields "down" m.down

theorem descriptionOf_eq_ok_iff {fields : Toml.Fields} {description : Option String} :
    descriptionOf fields = .ok description ↔
      fields.find? "description" = description.map .string := by
  unfold descriptionOf
  generalize fields.find? "description" = field
  split
  · cases description <;> simp
  · cases description <;> simp [eq_comm]
  · next v hstring =>
    refine iff_of_false (by simp) ?_
    cases description with
    | none => simp
    | some s =>
      intro h
      exact hstring s (Option.some.inj h)

theorem ofFields_eq_ok_iff {path : Path} {name : FileName} {fields : Toml.Fields}
    {m : MigrationFile} :
    ofFields path name fields = .ok m ↔
      m.path = path ∧ ⟨m.version, m.name⟩ = name ∧
      (∀ f ∈ fields, f.1 ∈ ["up", "down", "description"]) ∧
      fields.find? "description" = m.description.map .string ∧
      IsSection fields "up" m.up ∧ IsSection fields "down" m.down := by
  have hallowed : allowedKeys = ["up", "down", "description"] := rfl
  rw [← hallowed, ← descriptionOf_eq_ok_iff, isSection_iff, isSection_iff, ofFields]
  split
  · next f hfound =>
    refine iff_of_false (fun h => by cases h) ?_
    rintro ⟨-, -, hkeys, -⟩
    have hother : f.1 ∉ allowedKeys := by simpa using List.find?_some hfound
    exact hother (hkeys f (List.mem_of_find?_eq_some hfound))
  · next hnone =>
    have hkeys : ∀ f ∈ fields, f.1 ∈ allowedKeys := by
      intro f hf
      simpa using List.find?_eq_none.1 hnone f hf
    cases descriptionOf fields with
    | error fault => simp
    | ok description =>
      obtain ⟨path', version, name', description', up, down⟩ := m
      simp only [Except.ok.injEq, MigrationFile.mk.injEq]
      constructor
      · rintro ⟨rfl, rfl, rfl, rfl, rfl, rfl⟩
        exact ⟨rfl, rfl, hkeys, rfl, rfl, rfl⟩
      · rintro ⟨rfl, rfl, -, rfl, rfl, rfl⟩
        exact ⟨rfl, rfl, rfl, rfl, rfl, rfl⟩

/-- **What is loaded.** A migration is loaded from a path exactly when the path leads to a text that
the migration is read from. -/
theorem load_eq_ok_iff {path : Path} {found : Except FileError Node} {m : MigrationFile} :
    load path found = .ok m ↔
      ∃ text, found.bind Node.readText = .ok text ∧ m.IsReadFrom path text := by
  unfold load
  split
  · next e hname =>
    refine iff_of_false (fun h => by cases h) ?_
    rintro ⟨text, -, hread⟩
    rw [hread.name] at hname
    cases hname
  · next name hname =>
    split
    · next e herror => simp [herror]
    · next text htext =>
      have htexts : (∃ text', found.bind Node.readText = .ok text' ∧ m.IsReadFrom path text') ↔
          m.IsReadFrom path text := by
        simp [htext]
      rw [htexts, ofText]
      split
      · next hdocument =>
        refine iff_of_false (fun h => by cases h) fun hread => ?_
        obtain ⟨fields, hfields, -⟩ := hread.content
        rw [hdocument] at hfields
        cases hfields
      · next fields hdocument =>
        rw [mapError_eq_ok_iff, ofFields_eq_ok_iff]
        constructor
        · rintro ⟨hplace, rfl, hcontent⟩
          exact ⟨hplace, hname, fields, hdocument, hcontent⟩
        · rintro ⟨hplace, hname', fields', hdocument', hcontent⟩
          cases hname.symm.trans hname'
          cases hdocument.symm.trans hdocument'
          exact ⟨hplace, rfl, hcontent⟩

end MigrationFile

/-! ## What a listing gives -/

/-- The migration is loaded from this entry of the directory. -/
def LoadedFrom (dir : Path) (entry : String × Node) (m : MigrationFile) : Prop :=
  MigrationFile.load (dir.join entry.1) (.ok entry.2) = .ok m

variable {dir : Path} {entries entries' : List (String × Node)} {ms : List MigrationFile}

theorem loadEntries_eq_ok_iff {loaded : List MigrationFile} :
    loadEntries dir entries = .ok loaded ↔
      List.Forall₂ (LoadedFrom dir) (entries.filter isMigrationEntry) loaded :=
  Reading.each_eq_ok fun _ _ => Iff.rfl

/-- **What a listing gives.** These are migrations with ascending versions, one from each of the
migration entries in some order. -/
theorem discover_eq_ok_iff_ascending :
    discover dir entries = .ok ms ↔
      (ms.Pairwise fun a b => a.version < b.version) ∧
      ∃ listed, listed.Perm (entries.filter isMigrationEntry) ∧
        List.Forall₂ (LoadedFrom dir) listed ms := by
  rw [discover_eq_ok_iff]
  constructor
  · rintro ⟨loaded, hloaded, hdup, rfl⟩
    refine ⟨ascending_of_duplicate? hdup (sortByVersion_sorted loaded), ?_⟩
    -- sorting the migrations rearranges the entries that they were loaded from
    have hboth : Relation.Comp (List.Forall₂ (LoadedFrom dir)) List.Perm
        (entries.filter isMigrationEntry) (sortByVersion loaded) :=
      ⟨loaded, loadEntries_eq_ok_iff.1 hloaded, (sortByVersion_perm loaded).symm⟩
    rw [List.forall₂_comp_perm_eq_perm_comp_forall₂] at hboth
    obtain ⟨listed, hperm, hlisted⟩ := hboth
    exact ⟨listed, hperm.symm, hlisted⟩
  · rintro ⟨hasc, listed, hperm, hlisted⟩
    obtain ⟨loaded, hloaded, hsame⟩ := List.perm_comp_forall₂ hperm.symm hlisted
    have hsorted : sortByVersion loaded = ms := sortByVersion_of_perm hsame hasc
    refine ⟨loaded, loadEntries_eq_ok_iff.2 hloaded, ?_, hsorted.symm⟩
    rw [hsorted]
    exact duplicate?_of_ascending hasc

/-- The same entries in another order give the same migrations, or none as well. -/
theorem discover_toOption_of_perm (h : entries'.Perm entries) :
    (discover dir entries').toOption = (discover dir entries).toOption := by
  have hfilter := h.filter isMigrationEntry
  have hiff : ∀ ms, discover dir entries' = .ok ms ↔ discover dir entries = .ok ms := by
    intro ms
    rw [discover_eq_ok_iff_ascending, discover_eq_ok_iff_ascending]
    refine and_congr_right fun _ => exists_congr fun listed => and_congr_left fun _ => ?_
    exact ⟨fun hp => hp.trans hfilter, fun hp => hp.trans hfilter.symm⟩
  cases hfound : discover dir entries with
  | ok ms => rw [(hiff ms).2 hfound]
  | error e =>
    cases hfound' : discover dir entries' with
    | error e' => rfl
    | ok ms =>
      rw [(hiff ms).1 hfound'] at hfound
      cases hfound

/-! ## When a listing gives anything -/

/-- Two entries do not have migrations of the same version. -/
def VersionsDiffer (dir : Path) (e e' : String × Node) : Prop :=
  ∀ m m', LoadedFrom dir e m → LoadedFrom dir e' m' → m.version ≠ m'.version

/-- Migrations that are loaded one by one have different versions when their entries do. -/
theorem pairwise_versionsDiffer_iff {listed : List (String × Node)}
    (h : List.Forall₂ (LoadedFrom dir) listed ms) :
    listed.Pairwise (VersionsDiffer dir) ↔ ms.Pairwise fun a b => a.version ≠ b.version := by
  let load : String × Node → Except DiscoveryError MigrationFile :=
    fun e => MigrationFile.load (dir.join e.1) (.ok e.2)
  let Differ : Except DiscoveryError MigrationFile → Except DiscoveryError MigrationFile → Prop :=
    fun r r' => ∀ m m', r = .ok m → r' = .ok m' → m.version ≠ m'.version
  have hresults : listed.map load = ms.map .ok := by
    rw [← List.forall₂_eq_eq_eq, List.forall₂_map_left_iff, List.forall₂_map_right_iff]
    exact h
  have hdiffer : listed.Pairwise (VersionsDiffer dir) ↔ (listed.map load).Pairwise Differ := by
    rw [List.pairwise_map]
    rfl
  rw [hdiffer, hresults, List.pairwise_map]
  simp [Differ]

/-- **When a listing gives anything.** Each of its migration entries has to load, and no two may
have the same version. -/
theorem exists_discover_iff :
    (∃ ms, discover dir entries = .ok ms) ↔
      (∀ e ∈ entries.filter isMigrationEntry, ∃ m, LoadedFrom dir e m) ∧
      (entries.filter isMigrationEntry).Pairwise (VersionsDiffer dir) := by
  have hperm : ∀ loaded : List MigrationFile,
      (sortByVersion loaded).Pairwise (fun a b => a.version ≠ b.version) ↔
        loaded.Pairwise fun a b => a.version ≠ b.version :=
    fun loaded => (sortByVersion_perm loaded).pairwise_iff Ne.symm
  constructor
  · rintro ⟨ms, h⟩
    obtain ⟨loaded, hloaded, hdup, -⟩ := discover_eq_ok_iff.1 h
    have hall := loadEntries_eq_ok_iff.1 hloaded
    have hasc := ascending_of_duplicate? hdup (sortByVersion_sorted loaded)
    have hne := (hperm loaded).1 (hasc.imp Std.ne_of_lt)
    exact ⟨exists_forall₂.1 ⟨loaded, hall⟩, (pairwise_versionsDiffer_iff hall).2 hne⟩
  · rintro ⟨hloads, hdiffer⟩
    obtain ⟨loaded, hall⟩ := exists_forall₂.2 hloads
    have hne := (pairwise_versionsDiffer_iff hall).1 hdiffer
    have hasc : (sortByVersion loaded).Pairwise fun a b => a.version < b.version := by
      have hsorted := (sortByVersion_sorted loaded).and ((hperm loaded).2 hne)
      exact hsorted.imp fun h => Std.lt_of_le_of_ne h.1 h.2
    exact ⟨_, discover_eq_ok_iff.2
      ⟨loaded, loadEntries_eq_ok_iff.2 hall, duplicate?_of_ascending hasc, rfl⟩⟩

/-! ## Directories -/

theorem discoverIn_of_entriesOf? {root : Node} (h : root.entriesOf? dir = some entries) :
    discoverIn root dir = discover dir entries := by
  unfold discoverIn
  rw [h]

theorem isMigrationEntry_iff {e : String × Node} :
    isMigrationEntry e = true ↔ ∃ stem, stem ≠ "" ∧ e.1 = stem ++ ".toml" := by
  unfold isMigrationEntry
  rw [beq_iff_eq, Path.extension?_eq_some_iff, and_iff_right (by decide)]
  refine exists_congr fun stem => and_congr_right fun _ => ?_
  rw [String.append_assoc]
  rfl

/-- What the migrations of a directory are. Its migration entries are those whose name is something
with the extension `.toml`. There are any migrations when each of these entries loads and no two
have the same version. Then they ascend in byte order, and there is one for each migration entry and
none for another, with the path and the content of that entry. A directory that lists the same
entries in another order has the same migrations, or none as well. -/
theorem discoverIn_entries {root : Node} (h : root.entriesOf? dir = some entries) :
    (∀ e, isMigrationEntry e = true ↔ ∃ stem, stem ≠ "" ∧ e.1 = stem ++ ".toml") ∧
    ((∃ ms, discoverIn root dir = .ok ms) ↔
      (∀ e ∈ entries.filter isMigrationEntry, ∃ m, LoadedFrom dir e m) ∧
      (entries.filter isMigrationEntry).Pairwise (VersionsDiffer dir)) ∧
    (∀ ms, discoverIn root dir = .ok ms →
      (ms.Pairwise fun a b => Text.bytes a.version < Text.bytes b.version) ∧
      ∃ listed, listed.Perm (entries.filter isMigrationEntry) ∧
        List.Forall₂ (fun e m => ∃ text, e.2.readText = .ok text ∧
          m.IsReadFrom (dir.join e.1) text) listed ms) ∧
    ∀ root' entries', root'.entriesOf? dir = some entries' → entries'.Perm entries →
      (discoverIn root' dir).toOption = (discoverIn root dir).toOption := by
  rw [discoverIn_of_entriesOf? h]
  refine ⟨fun e => isMigrationEntry_iff, exists_discover_iff, fun ms hms => ?_,
    fun root' entries' h' hperm => ?_⟩
  · obtain ⟨hasc, listed, hperm, hlisted⟩ := discover_eq_ok_iff_ascending.1 hms
    refine ⟨hasc.imp Text.bytes_lt_iff.2, listed, hperm, hlisted.imp fun e m hm => ?_⟩
    exact MigrationFile.load_eq_ok_iff.1 hm
  · rw [discoverIn_of_entriesOf? h']
    exact discover_toOption_of_perm hperm

/-- A directory lists its second migration first, and a file of another kind between the two. It has
the same migrations as the directory that lists the first one first. -/
theorem discoverIn_laterListedFirst :
    let first := "description = \"first\"\n[up]\ninsert-into = \"t\"\n" ++
      "values = [[1, true, 2024-02-29]]\n[down]\ndrop-table = \"t\"\n"
    let second := "[[up]]\ndrop-index = \"i\"\non = \"t\"\n"
    let a : String × Node := ("20240101000000_a.toml", .file first.toUTF8)
    let b : String × Node := ("20240101000001_b.toml", .file second.toUTF8)
    let note : String × Node := ("README.md", .file "Notes".toUTF8)
    let root : List (String × Node) → Node := fun entries => .directory [("m", .directory entries)]
    let found : List MigrationFile :=
      [⟨⟨"m/20240101000000_a.toml"⟩, "20240101000000", "a", some "first",
          .object [("insert-into", .string "t"), ("values",
            .array [.array [.number (.whole 1), .bool true, .string "2024-02-29"]])],
          .object [("drop-table", .string "t")]⟩,
        ⟨⟨"m/20240101000001_b.toml"⟩, "20240101000001", "b", none,
          .array [.object [("drop-index", .string "i"), ("on", .string "t")]], .null⟩]
    (root [a, b, note]).entriesOf? ⟨"m"⟩ = some [a, b, note] ∧
    discoverIn (root [a, b, note]) ⟨"m"⟩ = .ok found ∧
    discoverIn (root [b, note, a]) ⟨"m"⟩ = .ok found ∧
    ∃ listed : List (String × Node), listed.Perm ([a, b, note].filter isMigrationEntry) ∧
      List.Forall₂ (fun e m => ∃ text, e.2.readText = .ok text ∧
        m.IsReadFrom (Path.join ⟨"m"⟩ e.1) text) listed found := by
  intro first second a b note root found
  have hentries : (root [a, b, note]).entriesOf? ⟨"m"⟩ = some [a, b, note] := rfl
  obtain ⟨hentry, -, hlisted, hsame⟩ := discoverIn_entries hentries
  have hfirst : LoadedFrom ⟨"m"⟩ a found[0] := by
    have hjoin : Path.join ⟨"m"⟩ a.1 = ⟨"m/20240101000000_a.toml"⟩ := by decide
    have hname : MigrationFile.nameOf ⟨"m/20240101000000_a.toml"⟩ =
        .ok ⟨"20240101000000", "a"⟩ := rfl
    have hdocument : Toml.document first.toList = some [("description", .string "first"),
        ("down", .table [("drop-table", .string "t")]),
        ("up", .table [("insert-into", .string "t"), ("values", .array [.array [.integer 1,
          .boolean true, .datetime ⟨some ⟨2024, 2, 29⟩, none, none⟩]])])] := by
      decide +kernel +zetaReduce
    rw [LoadedFrom, hjoin]
    exact (MigrationFile.load_document hname hdocument).trans rfl
  have hsecond : LoadedFrom ⟨"m"⟩ b found[1] := by
    have hjoin : Path.join ⟨"m"⟩ b.1 = ⟨"m/20240101000001_b.toml"⟩ := by decide
    have hname : MigrationFile.nameOf ⟨"m/20240101000001_b.toml"⟩ =
        .ok ⟨"20240101000001", "b"⟩ := rfl
    have hdocument : Toml.document second.toList = some [("up",
        .array [.table [("drop-index", .string "i"), ("on", .string "t")]])] := by
      decide +kernel +zetaReduce
    rw [LoadedFrom, hjoin]
    exact (MigrationFile.load_document hname hdocument).trans rfl
  have hfilter : [a, b, note].filter isMigrationEntry = [a, b] := by
    have ha : isMigrationEntry a = true := (hentry a).2 ⟨"20240101000000_a", by decide, by decide⟩
    have hb : isMigrationEntry b = true := (hentry b).2 ⟨"20240101000001_b", by decide, by decide⟩
    have hnote : isMigrationEntry note = false := by decide
    simp [ha, hb, hnote]
  have hfound : discoverIn (root [a, b, note]) ⟨"m"⟩ = .ok found := by
    rw [discoverIn_of_entriesOf? hentries, discover_eq_ok_iff_ascending]
    refine ⟨List.pairwise_pair.2 (by decide), [a, b], by rw [hfilter], ?_⟩
    exact .cons hfirst (.cons hsecond .nil)
  have hperm : [b, note, a].Perm [a, b, note] := List.perm_append_singleton a [b, note]
  have hother := hsame (root [b, note, a]) _ rfl hperm
  rw [hfound] at hother
  refine ⟨hentries, hfound, ?_, (hlisted found hfound).2⟩
  cases hagain : discoverIn (root [b, note, a]) ⟨"m"⟩ with
  | error e =>
    rw [hagain] at hother
    cases hother
  | ok ms =>
    rw [hagain] at hother
    rw [Option.some.inj hother]

end SchemaMigration
