import Mathlib.Data.List.DropRight
import SchemaMigration.Files.Tree

/-!
# Adding a file to a tree

A tree *gains* a file when nothing was at its place, the file is there now, and every other place
holds what it held before: the same bytes, or a directory. Whatever a path led to is then still
there, with one entry more in the directory of the file.

> `makeDirectory_of_entriesOf?`: a directory that is there is kept as it is.
> `createFile_join`: a file that is created in a directory is gained by the tree, and comes last
> among the entries of the directory.
-/

namespace SchemaMigration

open Files

/-! ## Paths inside a directory -/

namespace Path

/-- The last part of a path inside a directory is the name; what stands before it leads to the
directory, whose own path may have one empty part more. -/
theorem parts_join {dir : Path} {name : String} (hdir : dir.text ≠ "")
    (hname : '/' ∉ name.toList) :
    ∃ above, (dir.join name).parts = above ++ [name] ∧
      (dir.parts = above ∨ dir.parts = above ++ [""]) := by
  have hhead : (name.toList.head? == some '/') = false :=
    beq_false_of_ne fun h => hname (List.mem_of_mem_head? h)
  have hempty : dir.text.isEmpty = false := by
    rw [Bool.eq_false_iff, ne_eq, String.isEmpty_iff]
    exact hdir
  have hpieces : Text.pieces (· == '/') name.toList = [name.toList] := by
    refine Text.pieces_of_none fun c hc => beq_false_of_ne ?_
    rintro rfl
    exact hname hc
  unfold join
  rw [hhead, hempty, if_neg Bool.false_ne_true, Bool.false_or]
  by_cases hlast : dir.text.toList.getLast? = some '/'
  · obtain ⟨before, hbefore⟩ := List.getLast?_eq_some_iff.1 hlast
    refine ⟨(Text.pieces (· == '/') before).map String.ofList, ?_, .inr ?_⟩
    · rw [if_pos (by rw [hlast]; rfl)]
      unfold parts
      rw [String.toList_append, hbefore, List.append_assoc, List.singleton_append,
        Text.pieces_append_cons before _ rfl, hpieces, List.map_append]
      simp
    · unfold parts
      rw [hbefore, Text.pieces_append_cons before _ rfl, List.map_append]
      rfl
  · refine ⟨dir.parts, ?_, .inl rfl⟩
    rw [if_neg (by simpa using hlast)]
    unfold parts
    have hslash : (dir.text ++ "/" ++ name).toList = dir.text.toList ++ '/' :: name.toList := by
      simp
    rw [hslash, Text.pieces_append_cons _ _ rfl, hpieces, List.map_append]
    simp

end Path

namespace Files

/-- What stands at a place; of a directory, only that it is one. -/
inductive Kind
  | file (content : ByteArray)
  | directory

namespace Node

/-! ## What stands at a place -/

def kind : Node → Kind
  | .file content => .file content
  | .directory _ => .directory

/-- What stands at a place, if anything does. -/
def kindAt (n : Node) (place : List String) : Option Kind := (n.get? place).map kind

theorem kindAt_of_get? {n : Node} {place : List String} {found : Node}
    (h : n.get? place = some found) : n.kindAt place = some found.kind := by
  unfold kindAt
  rw [h]
  rfl

theorem kindAt_directory_cons (es : List (String × Node)) (name : String) (rest : List String) :
    (Node.directory es).kindAt (name :: rest) =
      (Entries.get? es name).bind (·.kindAt rest) := by
  unfold kindAt
  rw [get?]
  cases Entries.get? es name with
  | none => rfl
  | some child => rfl

/-- The entries of a directory are what stands one name further on. -/
theorem kindAt_entry {n : Node} {place : List String} {es : List (String × Node)}
    (h : n.get? place = some (.directory es)) (name : String) :
    n.kindAt (place ++ [name]) = (Entries.get? es name).map kind := by
  induction place generalizing n with
  | nil =>
    cases h
    rw [List.nil_append, kindAt_directory_cons]
    cases Entries.get? es name with
    | none => rfl
    | some child => rfl
  | cons first rest ih =>
    cases n with
    | file content => cases h
    | directory entries =>
      rw [List.cons_append, kindAt_directory_cons]
      rw [get?] at h
      cases hfirst : Entries.get? entries first with
      | none =>
        rw [hfirst] at h
        cases h
      | some child =>
        rw [hfirst] at h
        exact ih h

theorem get?_of_kindAt_directory {n : Node} {place : List String}
    (h : n.kindAt place = some .directory) : ∃ es, n.get? place = some (.directory es) := by
  unfold kindAt at h
  obtain ⟨found, hget, hkind⟩ := Option.map_eq_some_iff.1 h
  cases found with
  | file content => cases hkind
  | directory es => exact ⟨es, hget⟩

/-! ## A tree that gains a file -/

/-- Nothing was at the place, where the file is now; every other place holds what it held. -/
structure Gains (root root' : Node) (place : List String) (content : ByteArray) : Prop where
  absent : root.kindAt place = none
  added : root'.kindAt place = some (.file content)
  elsewhere : ∀ q, q ≠ place → root'.kindAt q = root.kindAt q

namespace Gains

variable {root root' : Node} {place : List String} {content : ByteArray}

/-- Whatever stood at a place is there still. -/
theorem keeps (h : Gains root root' place content) {q : List String} {k : Kind}
    (hq : root.kindAt q = some k) : root'.kindAt q = some k := by
  have hne : q ≠ place := by
    rintro rfl
    rw [h.absent] at hq
    cases hq
  rw [h.elsewhere q hne, hq]

/-- A directory gains a file of a new name. -/
theorem entry {es : List (String × Node)} {name : String} (hnew : Entries.get? es name = none) :
    Gains (.directory es) (.directory (Entries.set es name (.file content))) [name] content := by
  constructor
  · rw [kindAt_directory_cons, hnew]
    rfl
  · rw [kindAt_directory_cons, Entries.get?_set_self]
    rfl
  · intro q hq
    cases q with
    | nil => rfl
    | cons other rest =>
      rw [kindAt_directory_cons, kindAt_directory_cons]
      by_cases hother : other = name
      · subst hother
        rw [Entries.get?_set_self, hnew]
        cases rest with
        | nil => exact absurd rfl hq
        | cons _ _ => rfl
      · rw [Entries.get?_set_of_ne _ _ hother]

/-- A directory gains what one of its entries gains. -/
theorem inside {es : List (String × Node)} {name : String} {child child' : Node}
    (hchild : Entries.get? es name = some child) (h : Gains child child' place content) :
    Gains (.directory es) (.directory (Entries.set es name child')) (name :: place) content := by
  constructor
  · rw [kindAt_directory_cons, hchild]
    exact h.absent
  · rw [kindAt_directory_cons, Entries.get?_set_self]
    exact h.added
  · intro q hq
    cases q with
    | nil => rfl
    | cons other rest =>
      rw [kindAt_directory_cons, kindAt_directory_cons]
      by_cases hother : other = name
      · subst hother
        rw [Entries.get?_set_self, hchild]
        exact h.elsewhere rest fun he => hq (by rw [he])
      · rw [Entries.get?_set_of_ne _ _ hother]

end Gains

/-- Putting a file of a new name into a directory: the tree gains it, and it comes last among the
entries. -/
theorem gains_put {root : Node} {place : List String} {es : List (String × Node)} {name : String}
    (content : ByteArray) (hdir : root.get? place = some (.directory es))
    (hnew : Entries.get? es name = none) :
    Gains root (put (.file content) (place ++ [name]) root) (place ++ [name]) content ∧
    (put (.file content) (place ++ [name]) root).get? place =
      some (.directory (es ++ [(name, .file content)])) := by
  -- on the way every directory is put back with one entry replaced, up to the last, which grows
  induction place generalizing root with
  | nil =>
    cases hdir
    refine ⟨Gains.entry hnew, ?_⟩
    rw [← Entries.set_of_get?_none _ hnew]
    rfl
  | cons first rest ih =>
    cases root with
    | file content => cases hdir
    | directory entries =>
      rw [get?] at hdir
      cases hfirst : Entries.get? entries first with
      | none =>
        rw [hfirst] at hdir
        cases hdir
      | some child =>
        rw [hfirst] at hdir
        obtain ⟨hgains, hget⟩ := ih hdir
        rw [List.cons_append, put, hfirst, Option.getD_some]
        refine ⟨hgains.inside hfirst, ?_⟩
        rw [get?, Entries.get?_set_self]
        exact hget

/-! ## Following a path -/

theorem step_idle {root : Node} {place place' : List String} {part : String}
    (hidle : Path.isIdle part = true) (h : step root place part = .ok place') :
    place' = place := by
  unfold step at h
  split at h
  · rw [if_pos hidle] at h
    cases h
    rfl
  · cases h

/-- A part that is followed in a tree is followed in every tree that gained a file. -/
theorem Gains.step {root root' : Node} {added : List String} {content : ByteArray}
    (h : Gains root root' added content) {place place' : List String} {part : String}
    (hstep : step root place part = .ok place') : step root' place part = .ok place' := by
  unfold Node.step at hstep ⊢
  split at hstep
  · next es hget =>
    obtain ⟨es', hget'⟩ := get?_of_kindAt_directory (h.keeps (kindAt_of_get? hget))
    -- what is tested of the entries is whether one of the name is there
    have hthere : (Entries.get? es part).isSome = true → (Entries.get? es' part).isSome = true := by
      intro hsome
      obtain ⟨child, hchild⟩ := Option.isSome_iff_exists.1 hsome
      have hkind : root.kindAt (place ++ [part]) = some child.kind := by
        rw [kindAt_entry hget, hchild]
        rfl
      have hkind' := h.keeps hkind
      rw [kindAt_entry hget'] at hkind'
      obtain ⟨child', hchild', -⟩ := Option.map_eq_some_iff.1 hkind'
      rw [hchild']
      rfl
    simp only [hget']
    split at hstep
    · next hidle => rwa [if_pos hidle]
    · next hidle =>
      rw [if_neg hidle]
      split at hstep
      · next hup => rwa [if_pos hup]
      · next hup =>
        rw [if_neg hup]
        split at hstep
        · cases hstep
        · next hlong =>
          rw [if_neg hlong]
          split at hstep
          · next hsome => rwa [if_pos (hthere hsome)]
          · cases hstep
  · cases hstep

theorem Gains.followFrom {root root' : Node} {added : List String} {content : ByteArray}
    (h : Gains root root' added content) {parts place place' : List String}
    (hfollow : followFrom root place parts = .ok place') :
    followFrom root' place parts = .ok place' := by
  induction parts generalizing place with
  | nil => exact hfollow
  | cons part rest ih =>
    unfold Node.followFrom at hfollow ⊢
    split at hfollow
    · next next hstep =>
      simp only [h.step hstep]
      exact ih hfollow
    · cases hfollow

/-- The last part is followed from where the parts before it lead. -/
theorem followFrom_concat_iff {root : Node} {parts place place' : List String} {last : String} :
    followFrom root place (parts ++ [last]) = .ok place' ↔
      ∃ above, followFrom root place parts = .ok above ∧ step root above last = .ok place' := by
  induction parts generalizing place with
  | nil =>
    simp only [List.nil_append, followFrom, Except.ok.injEq, exists_eq_left']
    cases step root place last with
    | error e => simp
    | ok next => rfl
  | cons part rest ih =>
    rw [List.cons_append, followFrom, followFrom]
    cases step root place part with
    | error e => simp
    | ok next => exact ih

theorem followFrom_dropEmptyEnd {root : Node} {parts place place' : List String}
    (h : followFrom root place parts = .ok place') :
    followFrom root place (Path.dropEmptyEnd parts) = .ok place' := by
  let isEmpty : String → Bool := (· == "")
  show followFrom root place (parts.rdropWhile isEmpty) = _
  -- an empty part stays where it is, so it can be left out at the end
  induction parts using List.reverseRecOn generalizing place' with
  | nil => exact h
  | append_singleton parts last ih =>
    by_cases hlast : isEmpty last = true
    · rw [List.rdropWhile_concat_pos isEmpty _ _ hlast]
      obtain ⟨above, hfollow, hstep⟩ := followFrom_concat_iff.1 h
      have hidle : Path.isIdle last = true := Bool.or_eq_true_iff.2 (.inl hlast)
      rw [step_idle hidle hstep]
      exact ih hfollow
    · rwa [List.rdropWhile_concat_neg isEmpty _ _ hlast]

theorem look_eq_ok_iff {root found : Node} {p : Path} :
    root.look p = .ok found ↔
      checkPath p = .ok () ∧
        ∃ place, followFrom root [] p.parts = .ok place ∧ root.get? place = some found := by
  unfold look
  cases checkPath p with
  | error e => simp [Bind.bind, Except.bind]
  | ok u =>
    cases followFrom root [] p.parts with
    | error e => simp [Bind.bind, Except.bind]
    | ok place =>
      simp only [Bind.bind, Except.bind, true_and, Except.ok.injEq, exists_eq_left']
      cases root.get? place with
      | none => simp
      | some n => simp

theorem entriesOf?_eq_some_iff {root : Node} {p : Path} {es : List (String × Node)} :
    root.entriesOf? p = some es ↔ root.look p = .ok (.directory es) := by
  unfold entriesOf?
  constructor
  · intro h
    split at h
    · next hlook =>
      cases h
      exact hlook
    · cases h
  · intro h
    rw [h]

theorem bytesOf?_of_look {root : Node} {p : Path} {content : ByteArray}
    (h : root.look p = .ok (.file content)) : root.bytesOf? p = some content := by
  unfold bytesOf?
  rw [h]

theorem text_ne_empty_of_checkPath {p : Path} (h : checkPath p = .ok ()) : p.text ≠ "" := by
  intro hempty
  unfold checkPath at h
  rw [hempty, if_neg (by decide), if_neg (by decide), if_pos (by simp)] at h
  cases h

theorem text_ne_empty_of_entriesOf? {root : Node} {dir : Path} {es : List (String × Node)}
    (h : root.entriesOf? dir = some es) : dir.text ≠ "" :=
  text_ne_empty_of_checkPath (look_eq_ok_iff.1 (entriesOf?_eq_some_iff.1 h)).1

/-! ## Directories that are there -/

/-- Nothing is made where something is. -/
theorem makeOne_of_followFrom {root : Node} {parts place : List String} (hne : parts ≠ [])
    (h : followFrom root [] parts = .ok place) : makeOne root parts = .error .alreadyExists := by
  have hparts := List.dropLast_append_getLast hne
  rw [← hparts] at h
  obtain ⟨place, hfollow, hstep⟩ := followFrom_concat_iff.1 h
  unfold makeOne
  rw [hfollow, List.getLast?_eq_some_getLast hne]
  simp only [Bind.bind, Except.bind, Option.getD_some, hstep]

/-- A directory that is there is kept as it is. -/
theorem makeDirectory_of_entriesOf? {root : Node} {dir : Path} {es : List (String × Node)}
    (h : root.entriesOf? dir = some es) : root.makeDirectory dir = (.ok (), root) := by
  obtain ⟨hcheck, place, hfollow, hget⟩ := look_eq_ok_iff.1 (entriesOf?_eq_some_iff.1 h)
  have hparts := followFrom_dropEmptyEnd hfollow
  unfold makeDirectory
  split
  · rfl
  · rw [hcheck]
    simp only
    rcases hends : Path.dropEmptyEnd dir.parts with _ | ⟨first, rest⟩
    · unfold makeAll
      rfl
    · rw [hends] at hparts
      have hone := makeOne_of_followFrom (List.cons_ne_nil first rest) hparts
      have hthere : isDirectoryAt root (first :: rest) = true := by
        unfold isDirectoryAt
        simp only [hparts, hget]
      unfold makeAll
      simp only [hone, orThere, hthere, if_true]

/-! ## Creating a file in a directory -/

/-- A name is not found in a directory only if it is new there. -/
theorem get?_of_step_notFound {root : Node} {place : List String} {es : List (String × Node)}
    {name : String} (hdir : root.get? place = some (.directory es)) (hup : name ≠ "..")
    (h : step root place name = .error .notFound) :
    Entries.get? es name = none ∧
    ∀ {root' : Node} {es' : List (String × Node)}, root'.get? place = some (.directory es') →
      (Entries.get? es' name).isSome = true → step root' place name = .ok (place ++ [name]) := by
  unfold step at h
  simp only [hdir, if_neg hup] at h
  split at h
  · cases h
  · next hidle =>
    split at h
    · cases h
    · next hlong =>
      split at h
      · cases h
      · next hnew =>
        refine ⟨by simpa using hnew, ?_⟩
        intro root' es' hdir' hsome
        unfold step
        simp only [hdir']
        rw [if_neg hidle, if_neg hup, if_neg hlong, if_pos hsome]

/-- A file that is created in a directory is gained by the tree, and comes last among the entries of
the directory. -/
theorem createFile_join {root root' : Node} {dir : Path} {es : List (String × Node)} {name : String}
    {content : ByteArray} (hdir : root.entriesOf? dir = some es) (hslash : '/' ∉ name.toList)
    (hup : name ≠ "..") (h : root.createFile (dir.join name) content = .ok root') :
    (∃ place, Gains root root' place content) ∧
    root'.entriesOf? dir = some (es ++ [(name, .file content)]) ∧
    root'.bytesOf? (dir.join name) = some content := by
  obtain ⟨hcheck, place, hfollow, hget⟩ := look_eq_ok_iff.1 (entriesOf?_eq_some_iff.1 hdir)
  obtain ⟨above, hjoin, hparts⟩ := Path.parts_join (text_ne_empty_of_entriesOf? hdir) hslash
  -- the way to the file is the way to the directory, but for an empty part at its end
  have habove : followFrom root [] above = .ok place := by
    rcases hparts with hparts | hparts
    · rwa [← hparts]
    · rw [hparts] at hfollow
      obtain ⟨place', habove, hstep⟩ := followFrom_concat_iff.1 hfollow
      rw [step_idle rfl hstep]
      exact habove
  unfold createFile at h
  rw [hjoin, List.dropLast_concat, List.getLast?_concat, habove] at h
  cases hpath : checkPath (dir.join name) with
  | error e =>
    rw [hpath] at h
    cases h
  | ok u =>
    rw [hpath] at h
    simp only [Bind.bind, Except.bind, Option.getD_some] at h
    split at h
    · cases h
    · next hnotFound =>
      cases h
      obtain ⟨hnew, hthere⟩ := get?_of_step_notFound hget hup hnotFound
      obtain ⟨hgains, hentries⟩ := gains_put content hget hnew
      have hfile : (put (.file content) (place ++ [name]) root).get? (place ++ [name]) =
          some (.file content) := by
        obtain ⟨found, hfound, hkind⟩ := Option.map_eq_some_iff.1 hgains.added
        cases found with
        | file bytes =>
          cases hkind
          exact hfound
        | directory _ => cases hkind
      have hlast : (Entries.get? (es ++ [(name, Node.file content)]) name).isSome = true := by
        rw [← Entries.set_of_get?_none _ hnew, Entries.get?_set_self]
        rfl
      refine ⟨⟨place ++ [name], hgains⟩, ?_, bytesOf?_of_look ?_⟩
      · exact entriesOf?_eq_some_iff.2
          (look_eq_ok_iff.2 ⟨hcheck, place, hgains.followFrom hfollow, hentries⟩)
      · refine look_eq_ok_iff.2 ⟨hpath, place ++ [name], ?_, hfile⟩
        rw [hjoin]
        exact followFrom_concat_iff.2 ⟨place, hgains.followFrom habove, hthere hentries hlast⟩
    · cases h

end Node

end Files

end SchemaMigration
