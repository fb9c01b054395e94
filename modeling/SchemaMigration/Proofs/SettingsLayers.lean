import SchemaMigration.Proofs.SettingsTree
import SchemaMigration.Settings.Load
import SchemaMigration.Toml.Equality

/-!
# The layers of the settings

Each setting is the value of its variable if that is set, otherwise that of the file if it has one,
otherwise the default. This holds of each one on its own, whatever the content of a TOML file is, as
long as the database is described key by key:

> `settings_layered`: which settings are loaded.

An array may describe the database as well, by its values in order. It is no table, so a variable
for one of the keys wipes all of it, and a variable for an item wipes a table:

> `describedByItems_wiped`: settings that depend on a variable of another key.
-/

namespace SchemaMigration.Settings

open Files Text

/-! ## The environment -/

/-- Does the variable stand for the key with these names? -/
def standsFor (names : List String) (e : String × String) : Bool :=
  (pathOfVariable? e.1).any fun path => decide (stepsOfKey path = names.map .child)

/-- The value of the last variable that stands for a key. -/
def Environment.value? (env : Environment) (names : List String) : Option String :=
  (env.reverse.find? (standsFor names)).map (·.2)

/-- The leaf of a variable, if it is one for this program. -/
def leafOfVariable? (e : String × String) : Option Leaf :=
  (pathOfVariable? e.1).map fun path => ⟨stepsOfKey path, .text e.2⟩

theorem leaves_ofEnvironment (env : Environment) :
    (ofEnvironment env).leaves = env.filterMap leafOfVariable? := by
  have hone : ∀ (steps : List Step) (s : String),
      (Tree.text s).leavesUnder steps = [⟨steps, .text s⟩] := by
    intro steps s
    unfold Tree.leavesUnder
    split <;> simp [Tree.leaves, Leaf.under]
  induction env with
  | nil => rfl
  | cons e rest ih =>
    rw [Source.leaves, ofEnvironment] at ih ⊢
    rw [List.filterMap_cons, List.filterMap_cons, leafOfVariable?]
    cases pathOfVariable? e.1 with
    | none => exact ih
    | some path =>
      rw [Option.map_some, Option.map_some, List.flatMap_cons, hone, ih]
      rfl

/-- The environment gives a key its last value, if no variable hides the key. -/
theorem value?_ofEnvironment {env : Environment} {names : List String}
    (h : ∀ l ∈ (ofEnvironment env).leaves, hides l.steps names = false) :
    (ofEnvironment env).value? names = (env.value? names).map .text := by
  rw [Source.value?]
  rw [leaves_ofEnvironment] at h ⊢
  induction env using List.reverseRecOn with
  | nil => rfl
  | append_singleton env e ih =>
    rw [List.filterMap_append] at h ⊢
    have hfirst := ih fun l hl => h l (List.mem_append_left _ hl)
    rw [Environment.value?, List.reverse_append, List.reverse_singleton, List.singleton_append,
      List.find?_cons]
    rw [Environment.value?] at hfirst
    cases hpath : pathOfVariable? e.1 with
    | none =>
      have hnone : List.filterMap leafOfVariable? [e] = [] := by simp [leafOfVariable?, hpath]
      rw [hnone, List.append_nil, hfirst]
      simp [standsFor, hpath]
    | some path =>
      have hleaf : List.filterMap leafOfVariable? [e] = [⟨stepsOfKey path, .text e.2⟩] := by
        simp [leafOfVariable?, hpath]
      rw [hleaf] at h ⊢
      have hhides := h _ (List.mem_append_right _ (List.mem_singleton_self _))
      rw [Record.addAll_concat, Record.add]
      by_cases hat : stepsOfKey path = names.map .child
      · simp [standsFor, hpath, hat]
      · simp [standsFor, hpath, hat, hhides, hfirst]

/-- No variable hides a key at the top, since every path starts with a name. -/
theorem hides_singleton {env : Environment} (name : String) :
    ∀ l ∈ (ofEnvironment env).leaves, hides l.steps [name] = false := by
  intro l hl
  rw [leaves_ofEnvironment] at hl
  obtain ⟨e, -, hleaf⟩ := List.mem_filterMap.1 hl
  obtain ⟨path, -, rfl⟩ := Option.map_eq_some_iff.1 hleaf
  simp [stepsOfKey, Step.normal, hides]

/-! ## Keys of the merged tree -/

/-- The tree of a file and the environment. -/
def merged (file : Source) (env : Environment) : Tree :=
  ((Tree.table []).layer file).layer (ofEnvironment env)

/-- What is given for a key: the value of its variable, or otherwise that of the file. -/
def given (file : Source) (env : Environment) (names : List String) : Option Tree :=
  ((env.value? names).map .text).or (file.value? names)

section

variable {file : Source} {env : Environment} {names : List String}

/-- If no variable hides a key, the record of both sources knows what is given for it. -/
theorem value_sources (h : ∀ l ∈ (ofEnvironment env).leaves, hides l.steps names = false) :
    ((Record.empty.addAll file.leaves).addAll (ofEnvironment env).leaves).value names =
      given file env names := by
  rw [Record.value_addAll _ h, given, ← value?_ofEnvironment h]
  rfl

/-- What can be read from the merged tree is read from what is given, if tables and arrays cannot be
read. -/
theorem valueOr_given {α : Type} {read : Tree → Option α} {fallback a : α} {name : String}
    (hread : ∀ t : Tree, t.isTable = true ∨ t.isArray = true → read t = none)
    (hhides : ∀ l ∈ (ofEnvironment env).leaves, hides l.steps (name :: names) = false)
    (h : valueOr read fallback ((merged file env).find? (name :: names)) = some a) :
    valueOr read fallback (given file env (name :: names)) = some a := by
  have htells := agrees_sources file (ofEnvironment env) name names
  rw [← value_sources hhides]
  rw [merged] at h
  generalize (((Tree.table []).layer file).layer (ofEnvironment env)).find? (name :: names) =
    found at h htells
  cases found with
  | none =>
    rw [show _ = none from htells]
    exact h
  | some t =>
    rcases htells with hvalue | htable | ⟨harray, -⟩
    · rw [hvalue]
      exact h
    · rw [valueOr, hread t (.inl htable)] at h
      cases h
    · rw [valueOr, hread t (.inr harray)] at h
      cases h

theorem textOf?_eq_none (t : Tree) (h : t.isTable = true ∨ t.isArray = true) :
    textOf? t = none := by
  cases t <;> simp_all [Tree.isTable, Tree.isArray, textOf?]

theorem portOf?_eq_none (t : Tree) (h : t.isTable = true ∨ t.isArray = true) :
    portOf? t = none := by
  cases t <;> simp_all [Tree.isTable, Tree.isArray, portOf?, naturalOf?]

/-! ## The database -/

/-- The database is described key by key, and not by an array of values. -/
structure DescribedByKeys (file : Source) (env : Environment) : Prop where
  /-- The file gives neither an array for the database nor an item of one. -/
  file : ∀ l ∈ file.leaves, (l.steps = [.child "database"] → l.value.isArray = false) ∧
    indexes l.steps ["database"] = false
  /-- No variable gives the database as a whole or an item of it. -/
  environment : ∀ l ∈ (ofEnvironment env).leaves, ∀ key, hides l.steps ["database", key] = false

theorem hides_of_indexes (key : String) : ∀ {steps : List Step} {names : List String},
    indexes steps names = true → hides steps (names ++ [key]) = true
  | .item _ :: _, [], _ => rfl
  | .child _ :: _, _ :: _, h => by
    simp only [List.cons_append, indexes, hides, Bool.and_eq_true] at h ⊢
    exact ⟨h.1, hides_of_indexes key h.2⟩

/-- No array is found for a database that is described key by key. -/
theorem DescribedByKeys.isArray_eq_false (h : DescribedByKeys file env) {t : Tree}
    (ht : (merged file env).find? ["database"] = some t) : t.isArray = false := by
  -- an array is known as the value of a leaf, or an index has made it
  have htells := agrees_sources file (ofEnvironment env) "database" []
  rw [merged] at ht
  rw [ht] at htells
  rcases htells with hvalue | htable | ⟨-, hindexed⟩
  · rw [value_sources (hides_singleton "database"), given] at hvalue
    cases henv : env.value? ["database"] with
    | some s =>
      rw [henv] at hvalue
      cases hvalue
      rfl
    | none =>
      rw [henv] at hvalue
      obtain ⟨l, ⟨before, after, hsplit, hat, -⟩, rfl⟩ := Record.value_eq_some_iff.1 hvalue
      have hmem : l ∈ file.leaves := hsplit ▸ List.mem_append_right _ List.mem_cons_self
      exact (h.file l hmem).1 hat
  · cases t with
    | table es => rfl
    | _ => cases htable
  · rcases (Record.indexed_addAll _).1 hindexed with hfile | ⟨l, hl, hitem⟩
    · rcases (Record.indexed_addAll _).1 hfile with hempty | ⟨l, hl, hitem⟩
      · cases hempty
      · exact absurd hitem (Bool.eq_false_iff.1 (h.file l hl).2)
    · have hkey := hides_of_indexes "host" hitem
      exact absurd hkey (Bool.eq_false_iff.1 (h.environment l hl "host"))

/-! ## Reading the tree -/

theorem Tree.find?_singleton (t : Tree) (name : String) :
    t.find? [name] = Entries.get? t.entries name := by
  rw [find?]
  cases Entries.get? t.entries name <;> rfl

theorem Tree.find?_cons_eq_bind (t : Tree) (name : String) (names : List String) :
    t.find? (name :: names) = (t.find? [name]).bind fun u => u.find? names := by
  rw [find?_singleton, find?]

theorem ofTree?_eq_some {t : Tree} {s : Settings} (h : ofTree? t = some s) :
    valueOr descriptorOf? {} (t.find? ["database"]) = some s.descriptor ∧
    valueOr textOf? "schema_versions" (t.find? ["version_table"]) = some s.versionTable := by
  rw [Tree.find?_singleton, Tree.find?_singleton]
  simp only [ofTree?] at h
  split at h
  · next hdescriptor htable =>
    cases h
    exact ⟨hdescriptor, htable⟩
  · cases h

/-- A descriptor that is not read from an array is read from the keys of the database. -/
theorem descriptorFrom_of_valueOr {t : Tree} {d : Descriptor}
    (h : valueOr descriptorOf? {} (t.find? ["database"]) = some d)
    (harray : ∀ u, t.find? ["database"] = some u → u.isArray = false) :
    descriptorFrom (fun _ key => t.find? ["database", key]) = some d := by
  have hpart : ∀ key, t.find? ["database", key] =
      (t.find? ["database"]).bind fun u => u.find? [key] :=
    fun key => t.find?_cons_eq_bind "database" [key]
  simp only [hpart]
  cases hfound : t.find? ["database"] with
  | none =>
    -- a missing database has the default descriptor, and so has one without keys
    rw [hfound] at h
    exact h
  | some u =>
    rw [hfound] at h
    cases u with
    | table es =>
      simp only [Option.bind_some, Tree.find?_singleton]
      exact h
    | array ts => cases harray _ hfound
    | _ => cases h

theorem parts_of_descriptorFrom {part : Nat → String → Option Tree} {d : Descriptor}
    (h : descriptorFrom part = some d) :
    valueOr textOf? "localhost" (part 0 "host") = some d.host ∧
    valueOr portOf? 3306 (part 1 "port") = some d.port ∧
    valueOr textOf? "root" (part 2 "user") = some d.user ∧
    valueOr textOf? "" (part 3 "password") = some d.password ∧
    valueOr textOf? "driftwood_dev" (part 4 "database") = some d.database := by
  simp only [descriptorFrom] at h
  split at h
  · next hhost hport huser hpassword hdatabase =>
    cases h
    exact ⟨hhost, hport, huser, hpassword, hdatabase⟩
  · cases h

/-- The settings of a file and the environment. -/
theorem ofSources_eq_ok {s : Settings} (h : ofSources file env = .ok s) :
    ofTree? (merged file env) = some s ∧ Sql.isPlainIdentifier s.versionTable = true := by
  rw [ofSources] at h
  rw [merged]
  cases htree : ofTree? (((Tree.table []).layer file).layer (ofEnvironment env)) with
  | none =>
    rw [htree] at h
    cases h
  | some s' =>
    rw [htree] at h
    simp only [Settings.check] at h
    split at h
    · next hplain =>
      cases h
      exact ⟨rfl, hplain⟩
    · cases h

/-- The version table of settings is the one that is given, and its name is plain. -/
theorem versionTable_of_ofSources {s : Settings} (h : ofSources file env = .ok s) :
    valueOr textOf? "schema_versions" (given file env ["version_table"]) = some s.versionTable ∧
    Sql.isPlainIdentifier s.versionTable = true := by
  obtain ⟨htree, hplain⟩ := ofSources_eq_ok h
  exact ⟨valueOr_given textOf?_eq_none (hides_singleton _) (ofTree?_eq_some htree).2, hplain⟩

/-- The parts of a database that is described key by key are those that are given. -/
theorem descriptor_of_ofSources {s : Settings} (h : ofSources file env = .ok s)
    (hkeys : DescribedByKeys file env) :
    let d := s.descriptor
    valueOr textOf? "localhost" (given file env ["database", "host"]) = some d.host ∧
    valueOr portOf? 3306 (given file env ["database", "port"]) = some d.port ∧
    valueOr textOf? "root" (given file env ["database", "user"]) = some d.user ∧
    valueOr textOf? "" (given file env ["database", "password"]) = some d.password ∧
    valueOr textOf? "driftwood_dev" (given file env ["database", "database"]) =
      some d.database := by
  intro d
  obtain ⟨hdescriptor, -⟩ := ofTree?_eq_some (ofSources_eq_ok h).1
  have hfrom := descriptorFrom_of_valueOr hdescriptor fun u hu => hkeys.isArray_eq_false hu
  obtain ⟨hhost, hport, huser, hpassword, hdatabase⟩ := parts_of_descriptorFrom hfrom
  have hnone : ∀ key, ∀ l ∈ (ofEnvironment env).leaves, hides l.steps ["database", key] = false :=
    fun key l hl => hkeys.environment l hl key
  exact ⟨valueOr_given textOf?_eq_none (hnone _) hhost,
    valueOr_given portOf?_eq_none (hnone _) hport, valueOr_given textOf?_eq_none (hnone _) huser,
    valueOr_given textOf?_eq_none (hnone _) hpassword,
    valueOr_given textOf?_eq_none (hnone _) hdatabase⟩

end

/-! ## Loading -/

/-- The names of the settings. -/
def settingNames : List (List String) :=
  [["version_table"], ["database", "host"], ["database", "port"], ["database", "user"],
    ["database", "password"], ["database", "database"]]

/-- The variable of a key, in lower case. -/
def variableName (names : List String) : String := "driftwood__" ++ joinWith "__" names

/-- The variable of a setting stands for it, in whatever case it is written. -/
theorem standsFor_of_normal {names : List String} (hnames : names ∈ settingNames)
    {e : String × String} (h : Tree.normal e.1 = variableName names) :
    standsFor names e = true := by
  have hlower : lower e.1.toList = (variableName names).toList := by
    rw [← h, Tree.normal, String.toList_ofList]
  have hall : ∀ names ∈ settingNames,
      (((after? variableStart (variableName names).toList).map fun rest =>
        String.ofList (replaceAll ['_', '_'] ['.'] rest)).any fun path =>
          decide (stepsOfKey path = names.map .child)) = true := by decide +kernel
  rw [standsFor, pathOfVariable?, hlower]
  exact hall names hnames

/-- The extensions of the formats of configuration files that are not read. -/
def otherExtensions : List String := ["json", "json5", "yaml", "yml", "ini", "ron"]

/-- The TOML file that a path finds, if any. It finds no file of another format, since such a file
would be read in its place. -/
structure FindsToml (root : Node) (p : Path) (found : Option ByteArray) : Prop where
  toml : sourceBytes? "toml" root p = found
  noOther : ∀ extension ∈ otherExtensions, sourceBytes? extension root p = none

theorem FindsToml.ofFile_eq {root : Node} {p : Path} {found : Option ByteArray}
    (h : FindsToml root p found) : ofFile root p = ofBytes found :=
  congrArg ofBytes h.toml

/-- The settings of a file are the fields of its document. -/
theorem ofBytes_of_document {found : Option ByteArray} {text : String} {fields : Toml.Fields}
    (htext : found.bind String.fromUTF8? = some text)
    (hdocument : Toml.documentValue text.toList = some (.table fields)) :
    ofBytes found = .ok (Tree.fieldsOfToml fields) := by
  rw [ofBytes, htext]
  simp only [hdocument]

/-- A file whose text is no TOML document is an error, and one that is no text has no settings. -/
theorem ofBytes_of_notToml {bytes : ByteArray}
    (hnot : ∀ text fields, String.fromUTF8? bytes = some text →
      Toml.documentValue text.toList ≠ some (.table fields)) :
    ofBytes (some bytes) = .error () ∨ ofBytes (some bytes) = .ok [] := by
  rw [ofBytes, Option.bind_some]
  cases htext : String.fromUTF8? bytes with
  | none => exact .inr rfl
  | some text =>
    refine .inl ?_
    cases hdocument : Toml.documentValue text.toList with
    | none => simp only [hdocument]
    | some v =>
      cases v with
      | table fields => exact absurd hdocument (hnot text fields htext)
      | _ => simp only [hdocument]

/-- A default file that is there and is no TOML document counts as missing. -/
theorem load_of_notToml {σ : Type} {root root' : Node} {bytes : ByteArray} (env : Environment)
    (hfound : FindsToml root defaultPath (some bytes))
    (hnot : ∀ text fields, String.fromUTF8? bytes = some text →
      Toml.documentValue text.toList ≠ some (.table fields))
    (hmissing : FindsToml root' defaultPath none) (s : σ) :
    (load root env s).result = (load root' env s).result := by
  have hempty : (load root' env s).result = ofSources [] env := by
    rw [load, hmissing.ofFile_eq]
    rfl
  rw [hempty, load, hfound.ofFile_eq]
  rcases ofBytes_of_notToml hnot with hfile | hfile
  · rw [hfile]
    simp only
    split <;> rfl
  · rw [hfile]
    rfl

/-- **The layers of the settings.** The file is in TOML, or it is missing. When settings are loaded,
the version table is what is given for it, converted, and its name is plain; a given name that is
not plain is an error. The parts of the database are what is given for them, each on its own, as
long as the database is described key by key. What is given is the value of the variable, otherwise
that of the file; without either the setting has its default. A default file that is no TOML
document counts as missing. -/
theorem settings_layered {root : Node} {p : Path} {found : Option ByteArray} {file : Source}
    (hp : FindsToml root p found) (h : ofBytes found = .ok file) (env : Environment) :
    let given := given file env
    (∀ s, loadFrom root env p = .ok s →
      valueOr textOf? "schema_versions" (given ["version_table"]) = some s.versionTable ∧
      Sql.isPlainIdentifier s.versionTable = true ∧
      (DescribedByKeys file env →
        let d := s.descriptor
        valueOr textOf? "localhost" (given ["database", "host"]) = some d.host ∧
        valueOr portOf? 3306 (given ["database", "port"]) = some d.port ∧
        valueOr textOf? "root" (given ["database", "user"]) = some d.user ∧
        valueOr textOf? "" (given ["database", "password"]) = some d.password ∧
        valueOr textOf? "driftwood_dev" (given ["database", "database"]) = some d.database)) ∧
    (∀ name, valueOr textOf? "schema_versions" (given ["version_table"]) = some name →
      Sql.isPlainIdentifier name = false → ∃ e, loadFrom root env p = .error e) ∧
    (∀ names ∈ settingNames, ∀ e : String × String, Tree.normal e.1 = variableName names →
      standsFor names e = true) ∧
    ∀ {σ : Type} (other missing : Node) (bytes : ByteArray) (s : σ),
      FindsToml other defaultPath (some bytes) →
      (∀ text fields, String.fromUTF8? bytes = some text →
        Toml.documentValue text.toList ≠ some (.table fields)) →
      FindsToml missing defaultPath none →
      (load other env s).result = (load missing env s).result := by
  have hload : loadFrom root env p = ofSources file env := by rw [loadFrom, hp.ofFile_eq, h]
  rw [hload]
  refine ⟨fun s hs => ?_, fun name hgiven hname => ?_, fun names hnames e => ?_, ?_⟩
  · obtain ⟨htable, hplain⟩ := versionTable_of_ofSources hs
    exact ⟨htable, hplain, descriptor_of_ofSources hs⟩
  · cases hs : ofSources file env with
    | error e => exact ⟨e, rfl⟩
    | ok s =>
      obtain ⟨htable, hplain⟩ := versionTable_of_ofSources hs
      rw [hgiven] at htable
      cases htable
      exact absurd hplain (Bool.eq_false_iff.1 hname)
  · exact standsFor_of_normal hnames
  · intro σ other missing bytes s hfound hnot hmissing
    exact load_of_notToml env hfound hnot hmissing s

/-- A file with a host and a port, variables for the user and for the version table, and a default
file that ends too soon. -/
theorem settings_ofFileAndVariables :
    let root : List (String × Node) → Node := .directory
    let content := "[database]\nhost = \"db\"\nport = 3310\n"
    let file : Source := [("database", .table [("host", .text "db"), ("port", .integer 3310)])]
    let env : Environment :=
      [("DRIFTWOOD__DATABASE__USER", "app"), ("driftwood__version_table", "applied")]
    let s : Settings := ⟨⟨"db", 3310, "app", "", "driftwood_dev"⟩, "applied"⟩
    let broken := root [("config", root [("driftwood.toml", .file "[database".toUTF8)])]
    FindsToml (root [("a.toml", .file content.toUTF8)]) ⟨"a.toml"⟩ (some content.toUTF8) ∧
    ofBytes (some content.toUTF8) = .ok file ∧ DescribedByKeys file env ∧
    loadFrom (root [("a.toml", .file content.toUTF8)]) env ⟨"a.toml"⟩ = .ok s ∧
    valueOr portOf? 3306 (given file env ["database", "port"]) = some 3310 ∧
    valueOr textOf? "root" (given file env ["database", "user"]) = some "app" ∧
    valueOr textOf? "schema_versions" (given file env ["version_table"]) = some "applied" ∧
    (load broken env ()).result = (load (root []) env ()).result := by
  intro root content file env s broken
  have hdocument : Toml.documentValue content.toList = some (.table
      [("database", .table [("host", .string "db"), ("port", .integer 3310)])]) := by
    decide +kernel +zetaReduce
  have hfound : FindsToml (root [("a.toml", .file content.toUTF8)]) ⟨"a.toml"⟩
      (some content.toUTF8) :=
    ⟨rfl, by decide +kernel +zetaReduce⟩
  have hfile : ofBytes (some content.toUTF8) = .ok file :=
    ofBytes_of_document (by decide +kernel +zetaReduce) hdocument
  have hkeys : DescribedByKeys file env := by
    have hfirst : file.leaves.map Leaf.steps =
        [[.child "database", .child "host"], [.child "database", .child "port"]] := by
      decide +kernel +zetaReduce
    have hsecond : (ofEnvironment env).leaves.map Leaf.steps =
        [[.child "database", .child "user"], [.child "version_table"]] := by
      decide +kernel +zetaReduce
    refine ⟨fun l hl => ?_, fun l hl key => ?_⟩
    · have hmem := hfirst ▸ List.mem_map_of_mem (f := Leaf.steps) hl
      simp only [List.mem_cons, List.not_mem_nil, or_false] at hmem
      rcases hmem with hsteps | hsteps <;> simp [hsteps, indexes]
    · have hmem := hsecond ▸ List.mem_map_of_mem (f := Leaf.steps) hl
      simp only [List.mem_cons, List.not_mem_nil, or_false] at hmem
      rcases hmem with hsteps | hsteps <;> simp [hsteps, hides]
  have hload : loadFrom (root [("a.toml", .file content.toUTF8)]) env ⟨"a.toml"⟩ = .ok s := by
    decide +kernel +zetaReduce
  obtain ⟨hlayers, -, -, hfallback⟩ := settings_layered hfound hfile env
  obtain ⟨htable, -, hparts⟩ := hlayers s hload
  obtain ⟨-, hport, huser, -, -⟩ := hparts hkeys
  refine ⟨hfound, hfile, hkeys, hload, hport, huser, htable, ?_⟩
  have hread : String.fromUTF8? "[database".toUTF8 = some "[database" := by decide +kernel
  have hnone : Toml.documentValue "[database".toList = none := by decide +kernel
  have hbroken : FindsToml broken defaultPath (some "[database".toUTF8) :=
    ⟨rfl, by decide +kernel +zetaReduce⟩
  have hempty : FindsToml (root []) defaultPath none := ⟨rfl, by decide +kernel +zetaReduce⟩
  refine hfallback broken (root []) "[database".toUTF8 () hbroken (fun text fields htext => ?_)
    hempty
  rw [hread] at htext
  cases htext
  rw [hnone]
  intro hsome
  cases hsome

/-- A database that is not described key by key. A file gives its host and its port by an array, and
both are lost when the variable of the user is set. A file gives the user by a table, and it is lost
when a variable gives the first item. So the user is not always what is given for it. -/
theorem describedByItems_wiped :
    let root : String → Node := fun content => .directory [("a.toml", .file content.toUTF8)]
    let byItems := "database = [\"db.local\", 3310]"
    let byKeys := "[database]\nuser = \"alice\"\n"
    let user : Environment := [("DRIFTWOOD__DATABASE__USER", "app")]
    let first : Environment := [("DRIFTWOOD__DATABASE[0]", "h")]
    (user.value? ["database", "host"] = none ∧
      loadFrom (root byItems) [] ⟨"a.toml"⟩ =
        .ok ⟨⟨"db.local", 3310, "root", "", "driftwood_dev"⟩, "schema_versions"⟩ ∧
      loadFrom (root byItems) user ⟨"a.toml"⟩ =
        .ok ⟨⟨"localhost", 3306, "app", "", "driftwood_dev"⟩, "schema_versions"⟩) ∧
    (first.value? ["database", "user"] = none ∧
      loadFrom (root byKeys) [] ⟨"a.toml"⟩ =
        .ok ⟨⟨"localhost", 3306, "alice", "", "driftwood_dev"⟩, "schema_versions"⟩ ∧
      loadFrom (root byKeys) first ⟨"a.toml"⟩ =
        .ok ⟨⟨"h", 3306, "root", "", "driftwood_dev"⟩, "schema_versions"⟩) ∧
    ¬ ∀ (root : Node) (env : Environment) (p : Path) (found : Option ByteArray) (file : Source)
        (s : Settings), FindsToml root p found → ofBytes found = .ok file →
      loadFrom root env p = .ok s →
      valueOr textOf? "root" (given file env ["database", "user"]) = some s.descriptor.user := by
  intro root byItems byKeys user first
  have hfirst : loadFrom (root byKeys) first ⟨"a.toml"⟩ =
      .ok ⟨⟨"h", 3306, "root", "", "driftwood_dev"⟩, "schema_versions"⟩ := by
    decide +kernel +zetaReduce
  refine ⟨?_, ⟨?_, ?_, hfirst⟩, fun hlaw => ?_⟩
  · decide +kernel +zetaReduce
  · decide +kernel +zetaReduce
  · decide +kernel +zetaReduce
  · have hdocument : Toml.documentValue byKeys.toList =
        some (.table [("database", .table [("user", .string "alice")])]) := by
      decide +kernel +zetaReduce
    have hfound : FindsToml (root byKeys) ⟨"a.toml"⟩ (some byKeys.toUTF8) :=
      ⟨rfl, by decide +kernel +zetaReduce⟩
    have hfile : ofBytes (some byKeys.toUTF8) =
        .ok [("database", .table [("user", .text "alice")])] :=
      ofBytes_of_document (by decide +kernel +zetaReduce) hdocument
    have hgiven : valueOr textOf? "root" (given [("database", .table [("user", .text "alice")])]
        first ["database", "user"]) = some "alice" := by
      decide +kernel +zetaReduce
    have huser := hgiven.symm.trans (hlaw _ _ _ _ _ _ hfound hfile hfirst)
    exact absurd (Option.some.inj huser) (by decide)

end SchemaMigration.Settings
