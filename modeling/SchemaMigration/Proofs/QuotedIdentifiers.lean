import SchemaMigration.Proofs.CurrentVersion
import SchemaMigration.Proofs.RunLog

/-!
# Quoted identifiers

What a server makes of a name between backticks. Behind the opening backtick it takes two backticks
for one of the name, and a single one for the end. So a run of backticks inside a name, which is
written twice as long, is read in pairs, and the one behind the name is left over to end it:

> `readIdentifier?_eq_some_iff`: what is read as a name, and what is left behind it.
> `DatabaseRequest.ofStatement?_eq_some_iff`: the statement that is read as a request for a
> database.

A session that ensures a database sends such statements only, whatever the backend answers:

> `ensureDatabase_course`: its calls, and its end.
> `ensureDatabase_names`: every statement that it sends is about the database that was asked for.
-/

namespace SchemaMigration

namespace Sql

/-! ## The reader -/

/-- Reads a name up to the backtick that ends it, and gives the name and what follows. Two backticks
stand for one of the name. -/
def readName? : List Char → Option (List Char × List Char)
  | [] => none
  | '\x60' :: '\x60' :: text => (readName? text).map fun r => ('\x60' :: r.1, r.2)
  | c :: text =>
    if c = '\x60' then some ([], text) else (readName? text).map fun r => (c :: r.1, r.2)

/-- Reads an identifier between backticks, and gives its name and what follows. -/
def readIdentifier? : List Char → Option (String × List Char)
  | '\x60' :: text => (readName? text).map fun r => (String.ofList r.1, r.2)
  | _ => none

/-- The name in a text that is an identifier between backticks and nothing else. -/
def soleIdentifier? (text : List Char) : Option String :=
  match readIdentifier? text with
  | some (name, []) => some name
  | _ => none

variable {text rest s : List Char} {name : String}

theorem readName?_pair (text : List Char) :
    readName? ('\x60' :: '\x60' :: text) = (readName? text).map fun r => ('\x60' :: r.1, r.2) := rfl

theorem readName?_end (h : rest.head? ≠ some '\x60') :
    readName? ('\x60' :: rest) = some ([], rest) := by
  rw [readName?, if_pos rfl]
  rintro text - rfl
  exact h rfl

theorem readName?_cons {c : Char} (h : c ≠ '\x60') (text : List Char) :
    readName? (c :: text) = (readName? text).map fun r => (c :: r.1, r.2) := by
  rw [readName?, if_neg h]
  exact fun _ hc => absurd hc h

/-- A name is read up to the backtick behind it, if no other one follows. -/
theorem readName?_doubleBackticks (s : List Char) (h : rest.head? ≠ some '\x60') :
    readName? (doubleBackticks s ++ '\x60' :: rest) = some (s, rest) := by
  induction s with
  | nil => exact readName?_end h
  | cons c s ih =>
    rw [doubleBackticks]
    by_cases hc : c = '\x60'
    · rw [if_pos hc, hc, List.cons_append, List.cons_append, readName?_pair, ih]
      rfl
    · rw [if_neg hc, List.cons_append, readName?_cons hc, ih]
      rfl

/-- Nothing else is read as the name. -/
theorem eq_of_readName? (h : readName? text = some (s, rest)) :
    text = doubleBackticks s ++ '\x60' :: rest ∧ rest.head? ≠ some '\x60' := by
  fun_induction readName? text generalizing s with
  | case1 => cases h
  | case2 text ih =>
    obtain ⟨⟨s', rest'⟩, hread, heq⟩ := Option.map_eq_some_iff.1 h
    cases heq
    obtain ⟨htext, hrest⟩ := ih hread
    exact ⟨by rw [htext, doubleBackticks, if_pos rfl]; rfl, hrest⟩
  | case3 text hsingle =>
    -- one that is followed by another would have been read as a pair
    cases h
    refine ⟨rfl, fun hhead => ?_⟩
    obtain ⟨tail, htail⟩ := List.head?_eq_some_iff.1 hhead
    exact hsingle tail rfl htail
  | case4 c text hpair hc ih =>
    obtain ⟨⟨s', rest'⟩, hread, heq⟩ := Option.map_eq_some_iff.1 h
    cases heq
    obtain ⟨htext, hrest⟩ := ih hread
    exact ⟨by rw [htext, doubleBackticks, if_neg hc]; rfl, hrest⟩

theorem toList_quoteIdentifier_append (name : String) (rest : List Char) :
    (quoteIdentifier name).toList ++ rest =
      '\x60' :: (doubleBackticks name.toList ++ '\x60' :: rest) := by
  unfold quoteIdentifier
  simp

/-- What is read as a name is its quoted form, and what follows does not go on with a backtick. -/
theorem readIdentifier?_eq_some_iff :
    readIdentifier? text = some (name, rest) ↔
      text = (quoteIdentifier name).toList ++ rest ∧ rest.head? ≠ some '\x60' := by
  rw [toList_quoteIdentifier_append]
  constructor
  · intro h
    unfold readIdentifier? at h
    split at h
    · next inner =>
      obtain ⟨⟨s, rest'⟩, hread, heq⟩ := Option.map_eq_some_iff.1 h
      cases heq
      obtain ⟨hinner, hrest⟩ := eq_of_readName? hread
      rw [hinner, String.toList_ofList]
      exact ⟨rfl, hrest⟩
    · cases h
  · rintro ⟨rfl, hrest⟩
    rw [readIdentifier?, readName?_doubleBackticks _ hrest, Option.map_some, String.ofList_toList]

/-- Two quoted names side by side are one. -/
example : readIdentifier? "\x60a\x60\x60b\x60;".toList = some ("a\x60b", [';']) := by decide

theorem soleIdentifier?_eq_some_iff :
    soleIdentifier? text = some name ↔ text = (quoteIdentifier name).toList := by
  have hread : readIdentifier? text = some (name, []) ↔ text = (quoteIdentifier name).toList := by
    rw [readIdentifier?_eq_some_iff, List.append_nil]
    exact and_iff_left nofun
  rw [← hread]
  unfold soleIdentifier?
  constructor
  · intro h
    split at h
    · next hname =>
      cases h
      exact hname
    · cases h
  · intro h
    rw [h]

end Sql

/-! ## Statements about databases -/

/-- What a statement asks for. -/
inductive DatabaseRequest
  | create (name : String)
  | select (name : String)
deriving DecidableEq, Repr

namespace DatabaseRequest

/-- Writes the statement. -/
def statement : DatabaseRequest → String
  | create name => createDatabase name
  | select name => useDatabase name

/-- Reads a whole statement: its keywords, and then one quoted identifier. -/
def ofStatement? (sql : String) : Option DatabaseRequest :=
  match Text.after? "CREATE DATABASE ".toList sql.toList with
  | some text => (Sql.soleIdentifier? text).map create
  | none =>
    match Text.after? "USE ".toList sql.toList with
    | some text => (Sql.soleIdentifier? text).map select
    | none => none

variable {sql name : String}

theorem after?_create_iff :
    Text.after? "CREATE DATABASE ".toList sql.toList = some (Sql.quoteIdentifier name).toList ↔
      sql = createDatabase name := by
  unfold createDatabase
  rw [Text.after?_eq_some_iff, ← String.toList_append, String.toList_inj]

theorem after?_select_iff :
    Text.after? "USE ".toList sql.toList = some (Sql.quoteIdentifier name).toList ↔
      sql = useDatabase name := by
  unfold useDatabase
  rw [Text.after?_eq_some_iff, ← String.toList_append, String.toList_inj]

theorem after?_create_useDatabase (name : String) :
    Text.after? "CREATE DATABASE ".toList (useDatabase name).toList = none := by
  rw [Option.eq_none_iff_forall_ne_some]
  intro rest h
  have hfirst := congrArg List.head? (Text.after?_eq_some_iff.1 h)
  rw [useDatabase, String.toList_append] at hfirst
  simp at hfirst

/-- A request is read from the statement that is written for it, and from no other one. -/
theorem ofStatement?_eq_some_iff {r : DatabaseRequest} :
    ofStatement? sql = some r ↔ sql = r.statement := by
  constructor
  · intro h
    unfold ofStatement? at h
    split at h
    · next text hsql =>
      obtain ⟨name, hname, rfl⟩ := Option.map_eq_some_iff.1 h
      rw [Sql.soleIdentifier?_eq_some_iff.1 hname] at hsql
      exact after?_create_iff.1 hsql
    · split at h
      · next text hsql =>
        obtain ⟨name, hname, rfl⟩ := Option.map_eq_some_iff.1 h
        rw [Sql.soleIdentifier?_eq_some_iff.1 hname] at hsql
        exact after?_select_iff.1 hsql
      · cases h
  · rintro rfl
    have hsole : ∀ name, Sql.soleIdentifier? (Sql.quoteIdentifier name).toList = some name :=
      fun name => Sql.soleIdentifier?_eq_some_iff.2 rfl
    cases r with
    | create name =>
      have hsql := after?_create_iff.2 (Eq.refl (createDatabase name))
      simp only [statement, ofStatement?, hsql, hsole, Option.map_some]
    | select name =>
      have hsql := after?_select_iff.2 (Eq.refl (useDatabase name))
      simp only [statement, ofStatement?, after?_create_useDatabase, hsql, hsole, Option.map_some]

/-- Other requests have other statements. -/
theorem statement_inj {r r' : DatabaseRequest} : r.statement = r'.statement ↔ r = r' := by
  refine ⟨fun h => ?_, congrArg statement⟩
  have hread := ofStatement?_eq_some_iff.2 h
  rw [ofStatement?_eq_some_iff.2 rfl] at hread
  exact Option.some.inj hread

end DatabaseRequest

/-! ## Ensuring a database -/

open Session

variable {σ : Type}

/-- The calls before a database is selected: the question for it, and its creation if no row answers
the question. -/
def callsToCreate (name : String) (rows : List String) : List Call :=
  .query databaseQuery [.text name] (.ok rows) ::
    if rows.isEmpty then [.accepted (createDatabase name)] else []

/-- What ensuring a database can do: the calls it makes, and its end. -/
inductive EnsuringCourse (name : String) : List Call → Except MigrationError Bool → Prop
  | lookUpFailed (e : BackendError) :
    EnsuringCourse name [.query databaseQuery [.text name] (.error e)] (.error (.backend e))
  | createFailed (e : BackendError) :
    EnsuringCourse name
      [.query databaseQuery [.text name] (.ok []), .statement (createDatabase name) [] (some e)]
      (.error (.backend e))
  | selectFailed (rows : List String) (e : BackendError) :
    EnsuringCourse name
      (callsToCreate name rows ++ [.statement (useDatabase name) [] (some e)])
      (.error (.backend e))
  | selected (rows : List String) :
    EnsuringCourse name (callsToCreate name rows ++ [.accepted (useDatabase name)])
      (.ok rows.isEmpty)

/-- The last step is one call. -/
theorem select_traced (b : Backend σ) (name : String) (rows : List String) {t t' : Traced σ}
    (ht : t'.calls = t.calls ++ callsToCreate name rows) :
    let selecting := (execute b.traced (useDatabase name) [] >>= fun _ => pure rows.isEmpty) t'
    ∃ calls, selecting.state.calls = t.calls ++ calls ∧
      EnsuringCourse name calls selecting.result := by
  intro selecting
  simp only [selecting]
  rcases execute_traced b (useDatabase name) [] t' with ⟨n, hr, hc⟩ | ⟨e, hr, hc⟩
  · rw [bind_ok hr]
    refine ⟨_, ?_, .selected rows⟩
    rw [pure_apply, hc, ht, List.append_assoc]
    rfl
  · rw [bind_error hr]
    refine ⟨_, ?_, .selectFailed rows e⟩
    rw [hc, ht, List.append_assoc]

/-- Ensuring a database takes one of the courses. -/
theorem ensureDatabase_course (b : Backend σ) (name : String) (t : Traced σ) :
    ∃ calls, (ensureDatabase b.traced name t).state.calls = t.calls ++ calls ∧
      EnsuringCourse name calls (ensureDatabase b.traced name t).result := by
  obtain ⟨answer, s', hr, hs⟩ := anyRow_traced b "database" databaseQuery name t
  have hfound : (mapError MigrationError.backend
      ((Introspector.ofBackend b.traced).databaseExists name) t).result =
        (answer.map fun rows => !rows.isEmpty).mapError .backend := by
    rw [mapError_result]
    exact congrArg _ hr
  have hasked : (mapError MigrationError.backend
      ((Introspector.ofBackend b.traced).databaseExists name) t).state =
        ⟨s', t.calls ++ [.query databaseQuery [.text name] answer]⟩ := hs
  unfold ensureDatabase
  cases answer with
  | error e =>
    rw [bind_error hfound, hasked]
    exact ⟨_, rfl, .lookUpFailed e⟩
  | ok rows =>
    rw [bind_ok hfound, hasked]
    -- any row says that the database exists; without one it is created first
    cases rows with
    | cons row rest =>
      simp only [List.isEmpty_cons, Bool.not_false]
      rw [bind_of_ok (note_apply _ _ _)]
      exact select_traced b name (row :: rest) rfl
    | nil =>
      simp only [List.isEmpty_nil, Bool.not_true]
      rw [bind_of_ok (note_apply _ _ _)]
      rcases execute_traced b (createDatabase name) []
          ⟨s', t.calls ++ [.query databaseQuery [.text name] (.ok [])]⟩ with
        ⟨n, her, hec⟩ | ⟨e, her, hec⟩
      · rw [bind_ok her]
        refine select_traced b name [] ?_
        rw [hec, List.append_assoc]
        rfl
      · rw [bind_error her]
        refine ⟨_, ?_, .createFailed e⟩
        simp only
        rw [hec, List.append_assoc]
        rfl

section Calls

variable {name sql : String} {params : List Param} {failure : Option BackendError}

theorem eq_of_mem_callsToCreate {rows : List String}
    (h : .statement sql params failure ∈ callsToCreate name rows) :
    params = [] ∧ sql = createDatabase name := by
  unfold callsToCreate at h
  split at h
  · simp only [Call.accepted, List.mem_cons, reduceCtorEq, false_or, List.not_mem_nil, or_false,
      Call.statement.injEq] at h
    exact ⟨h.2.1, h.1⟩
  · simp at h

/-- The selection of the database is the last call, whether it fails or not. -/
theorem eq_of_mem_callsToSelect {rows : List String} {failed : Option BackendError}
    (h : .statement sql params failure ∈
      callsToCreate name rows ++ [.statement (useDatabase name) [] failed]) :
    params = [] ∧ (sql = createDatabase name ∨ sql = useDatabase name) := by
  rcases List.mem_append.1 h with h | h
  · obtain ⟨hparams, hsql⟩ := eq_of_mem_callsToCreate h
    exact ⟨hparams, .inl hsql⟩
  · cases List.mem_singleton.1 h
    exact ⟨rfl, .inr rfl⟩

namespace EnsuringCourse

variable {calls : List Call} {result : Except MigrationError Bool}

/-- Every statement has no parameters, and creates or selects the database. -/
theorem statement_mem (h : EnsuringCourse name calls result)
    (hmem : .statement sql params failure ∈ calls) :
    params = [] ∧ (sql = createDatabase name ∨ sql = useDatabase name) := by
  cases h with
  | lookUpFailed e => simp at hmem
  | createFailed e =>
    simp only [List.mem_cons, reduceCtorEq, false_or, List.not_mem_nil, or_false,
      Call.statement.injEq] at hmem
    exact ⟨hmem.2.1, .inl hmem.1⟩
  | selectFailed rows e => exact eq_of_mem_callsToSelect hmem
  | selected rows => exact eq_of_mem_callsToSelect hmem

/-- A session that succeeds has selected the database, and created it before if it says so. -/
theorem sentIn_eq {created : Bool} (h : EnsuringCourse name calls (.ok created)) :
    sentIn calls =
      if created then [createDatabase name, useDatabase name] else [useDatabase name] := by
  cases h with
  | selected rows => cases rows <;> rfl

end EnsuringCourse

end Calls

/-- A quoted name is read back as the name, and what follows is left as it is, if it does not go on
with a backtick. So whatever a backend answers, every statement that is sent to ensure a database
has no parameters and is read as a request to create or to select exactly this database. If the
session succeeds, it has selected the database, and created it before if it says so. Other names
give other statements. -/
theorem ensureDatabase_names (name : String) :
    (∀ rest : List Char, rest.head? ≠ some '\x60' →
      Sql.readIdentifier? ((Sql.quoteIdentifier name).toList ++ rest) = some (name, rest)) ∧
    (∀ {σ : Type} (b : Backend σ) (s : σ),
      let ensuring := ensureDatabase b.traced name ⟨s, []⟩
      (∀ sql params failure, .statement sql params failure ∈ ensuring.state.calls →
        params = [] ∧
        (DatabaseRequest.ofStatement? sql = some (.create name) ∨
          DatabaseRequest.ofStatement? sql = some (.select name))) ∧
      ∀ created, ensuring.result = .ok created →
        (sentIn ensuring.state.calls).map DatabaseRequest.ofStatement? =
          if created then [some (.create name), some (.select name)]
          else [some (.select name)]) ∧
    ∀ other, other ≠ name →
      createDatabase other ≠ createDatabase name ∧ useDatabase other ≠ useDatabase name := by
  have hcreate : DatabaseRequest.ofStatement? (createDatabase name) = some (.create name) :=
    DatabaseRequest.ofStatement?_eq_some_iff.2 rfl
  have hselect : DatabaseRequest.ofStatement? (useDatabase name) = some (.select name) :=
    DatabaseRequest.ofStatement?_eq_some_iff.2 rfl
  refine ⟨fun rest h => Sql.readIdentifier?_eq_some_iff.2 ⟨rfl, h⟩, ?_, fun other hne => ⟨?_, ?_⟩⟩
  · intro σ b s ensuring
    obtain ⟨calls, hcalls, hcourse⟩ := ensureDatabase_course b name ⟨s, []⟩
    rw [List.nil_append] at hcalls
    refine ⟨fun sql params failure hmem => ?_, fun created hok => ?_⟩
    · rw [hcalls] at hmem
      obtain ⟨hparams, rfl | rfl⟩ := hcourse.statement_mem hmem
      · exact ⟨hparams, .inl hcreate⟩
      · exact ⟨hparams, .inr hselect⟩
    · simp only [ensuring] at hok ⊢
      rw [hok] at hcourse
      rw [hcalls, hcourse.sentIn_eq]
      cases created with
      | true => simp only [if_true, List.map_cons, List.map_nil, hcreate, hselect]
      | false => simp only [Bool.false_eq_true, if_false, List.map_cons, List.map_nil, hselect]
  · intro h
    have hsame : DatabaseRequest.create other = .create name := DatabaseRequest.statement_inj.1 h
    cases hsame
    exact hne rfl
  · intro h
    have hsame : DatabaseRequest.select other = .select name := DatabaseRequest.statement_inj.1 h
    cases hsame
    exact hne rfl

/-- A name that begins and ends with backticks, has two of them inside and looks like the end of a
statement, on a backend without databases. -/
theorem backticksInside_named :
    let name := "\x60a\x60\x60; --\x60"
    let rest := "; SELECT 1".toList
    let empty : Backend Unit := ⟨fun _ _ s => (.ok 1, s), fun _ _ s => (.ok [], s)⟩
    let ensuring := ensureDatabase empty.traced name ⟨(), []⟩
    (rest.head? ≠ some '\x60' ∧ ensuring.result = .ok true ∧
      .accepted (useDatabase name) ∈ ensuring.state.calls ∧ "a" ≠ name) ∧
    Sql.quoteIdentifier name = "\x60\x60\x60a\x60\x60\x60\x60; --\x60\x60\x60" ∧
    Sql.readIdentifier? ((Sql.quoteIdentifier name).toList ++ rest) = some (name, rest) ∧
    (DatabaseRequest.ofStatement? (useDatabase name) = some (.create name) ∨
      DatabaseRequest.ofStatement? (useDatabase name) = some (.select name)) ∧
    (sentIn ensuring.state.calls).map DatabaseRequest.ofStatement? =
      [some (.create name), some (.select name)] ∧
    createDatabase "a" ≠ createDatabase name := by
  intro name rest empty ensuring
  obtain ⟨hread, hsent, hother⟩ := ensureDatabase_names name
  obtain ⟨hnames, hdone⟩ := hsent empty ()
  have hrest : rest.head? ≠ some '\x60' := by decide
  have hok : ensuring.result = .ok true := rfl
  have hmem : .accepted (useDatabase name) ∈ ensuring.state.calls :=
    List.mem_cons_of_mem _ (List.mem_cons_of_mem _ List.mem_cons_self)
  have hne : "a" ≠ name := by decide
  exact ⟨⟨hrest, hok, hmem, hne⟩, by decide, hread rest hrest, (hnames _ _ _ hmem).2,
    hdone true hok, (hother "a" hne).1⟩

end SchemaMigration
