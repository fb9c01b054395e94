import SchemaMigration.Plan
import SchemaMigration.Proofs.Wording

/-!
# Steps of a plan

A command set asks for changes, one after the other: most of them are written down as they are, but
dropping or adding a foreign key first asks whether one of that name is there. This file takes a
command set apart into such *steps*, and shows that planning is drafting them in order:

> `commands_eq_concat`: planning a command set is planning its steps. The statements of a step are
> those of its wording.

With answers that follow a fixed rule, the plan is then a function of the steps:

> `plan_of_answersFrom`: the statements and the skips of a plan, by the rule that answers.
> `plan_of_answers`: the same where asking changes nothing.
-/

namespace SchemaMigration

/-- One requested change. -/
inductive Step
  /-- A statement that depends on nothing. -/
  | plain (sql : String)
  /-- Drop a foreign key if it is there. -/
  | drop (table name : String)
  /-- Add a foreign key unless one of its name is there. -/
  | add (table : String) (c : Constraint)

namespace Step

/-- The name that the change asks about. -/
def question : Step → Option String
  | plain _ => none
  | drop _ name => some name
  | add _ c => some c.name

/-- The statements of the change, by whether the name was found. -/
def written (found : Bool) : Step → List String
  | plain sql => [sql]
  | drop table name => if found then [Wording.dropForeignKey table name] else []
  | add table c => if found then [] else [Wording.addForeignKey table c]

/-- What is left out of the change, by whether the name was found. -/
def leftOut (found : Bool) : Step → List Skip
  | plain _ => []
  | drop table name => if found then [] else [⟨table, name, .notPresent, none⟩]
  | add table c =>
    if found then [⟨table, c.name, .alreadyPresent, some (Wording.definition c)⟩] else []

/-- The answer of a rule to the question of the change; a change without a question gets `false`. -/
def answer (rule : String → Bool) (s : Step) : Bool := (s.question.map rule).getD false

end Step

/-- The changes that an `alter-table` asks for, in the order in which they are made. -/
def AlterTable.steps (a : AlterTable) : List Step :=
  a.dropConstraints.map (.drop a.table) ++
    a.dropColumns.map (fun c => .plain (Wording.dropColumn a.table c)) ++
    a.addColumns.map (fun c => .plain (Wording.addColumn a.table c)) ++
    a.modifyColumns.map (fun c => .plain (Wording.modifyColumn a.table c)) ++
    a.addConstraints.map (.add a.table)

/-- The changes that a command asks for. -/
def Command.steps : Command → List Step
  | .createTable table columns primaryKey constraints =>
    [.plain (Wording.createTable table columns primaryKey constraints)]
  | .dropTable table => [.plain (Wording.dropTable table)]
  | .alterTable change => change.steps
  | .createIndex name table columns unique =>
    [.plain (Wording.createIndex name table columns unique)]
  | .dropIndex name table => [.plain (Wording.dropIndex name table)]
  | .insertInto table rows => [.plain (Wording.insertInto table rows)]

/-- The plan of steps whose questions are answered by a rule. -/
def Plan.ofAnswers (rule : String → Bool) (steps : List Step) : Plan :=
  ⟨steps.flatMap fun s => s.written (s.answer rule),
    steps.flatMap fun s => s.leftOut (s.answer rule)⟩

namespace Draft

variable {σ α β : Type}

/-- The statements of one step. -/
def step (i : Option (Introspector σ)) : Step → Draft σ (List String)
  | .plain sql => pure [sql]
  | .drop table name => dropConstraint i table name
  | .add table c => addConstraint i table c

/-! ## Drafting a list in parts -/

theorem concat_append (f : α → Draft σ (List String)) (xs ys : List α) :
    concat f (xs ++ ys) =
      concat f xs >>= fun first => concat f ys >>= fun rest => pure (first ++ rest) := by
  induction xs with
  | nil => simp [concat]
  | cons x xs ih =>
    rw [List.cons_append, concat, concat, ih]
    simp only [bind_assoc, pure_bind, List.append_assoc]

theorem concat_map (f : β → Draft σ (List String)) (g : α → β) (xs : List α) :
    concat f (xs.map g) = concat (fun x => f (g x)) xs := by
  induction xs with
  | nil => rfl
  | cons x xs ih =>
    rw [List.map_cons, concat, concat, ih]

theorem concat_pure (g : α → String) (xs : List α) :
    concat (fun x => (pure [g x] : Draft σ (List String))) xs = pure (xs.map g) := by
  induction xs with
  | nil => rfl
  | cons x xs ih => simp [concat, ih]

theorem concat_flatMap {f : α → Draft σ (List String)} {g : β → Draft σ (List String)}
    {parts : α → List β} (h : ∀ x, f x = concat g (parts x)) (xs : List α) :
    concat f xs = concat g (xs.flatMap parts) := by
  induction xs with
  | nil => rfl
  | cons x xs ih =>
    rw [List.flatMap_cons, concat_append, ← h x, ← ih]
    rfl

/-! ## Planning is drafting steps -/

theorem alterTable_eq_concat (i : Option (Introspector σ)) (a : AlterTable) :
    alterTable i a = concat (step i) a.steps := by
  have plain : ∀ {γ : Type} (g : γ → String) (xs : List γ),
      concat (fun x => step i (.plain (g x))) xs = pure (xs.map g) :=
    fun g xs => concat_pure g xs
  simp only [AlterTable.steps, concat_append, concat_map, plain, pure_bind, bind_assoc, alterTable,
    Sql.dropColumn_eq, Sql.addColumn_eq, Sql.modifyColumn_eq]
  rfl

theorem command_eq_concat (i : Option (Introspector σ)) (c : Command) :
    command i c = concat (step i) c.steps := by
  cases c with
  | alterTable change => exact alterTable_eq_concat i change
  | _ =>
    simp only [command, Sql.createTable_eq, Sql.dropTable_eq, Sql.createIndex_eq, Sql.dropIndex_eq,
      Sql.insertInto_eq]
    rfl

/-- Planning a command set is planning its steps in order. -/
theorem commands_eq_concat (i : Option (Introspector σ)) (cs : List Command) :
    commands i cs = concat (step i) (cs.flatMap Command.steps) :=
  concat_flatMap (command_eq_concat i) cs

/-! ## Answers that follow a rule -/

/-- The state after asking about these names, one after the other. -/
def asked (i : Option (Introspector σ)) (names : List String) (s : σ) : σ :=
  names.foldl (fun s n => (constraintExists i n s).state) s

/-- From the state `s` on, every question is answered by the rule, whatever was asked before. -/
def AnswersFrom (i : Option (Introspector σ)) (s : σ) (rule : String → Bool) : Prop :=
  ∀ names name, (constraintExists i name (asked i names s)).result = .ok (rule name)

/-- In the state `s`, every question is answered by the rule, and asking changes nothing. -/
def AnswersBy (i : Option (Introspector σ)) (s : σ) (rule : String → Bool) : Prop :=
  ∀ name, (constraintExists i name s).result = .ok (rule name) ∧
    (constraintExists i name s).state = s

variable {i : Option (Introspector σ)} {s : σ} {rule : String → Bool}

theorem asked_append (names names' : List String) :
    asked i (names ++ names') s = asked i names' (asked i names s) :=
  List.foldl_append

/-- The answers stay the same after questions. -/
theorem AnswersFrom.asked (h : AnswersFrom i s rule) (names : List String) :
    AnswersFrom i (asked i names s) rule := by
  intro names' name
  rw [← asked_append]
  exact h (names ++ names') name

theorem AnswersBy.asked_eq (h : AnswersBy i s rule) (names : List String) :
    Draft.asked i names s = s := by
  induction names with
  | nil => rfl
  | cons n rest ih =>
    show Draft.asked i rest (constraintExists i n s).state = s
    rw [(h n).2, ih]

theorem AnswersBy.answersFrom (h : AnswersBy i s rule) : AnswersFrom i s rule := by
  intro names name
  rw [h.asked_eq]
  exact (h name).1

/-- One step asks its question, if it has one, and writes or leaves out by the answer. -/
theorem step_of_answers (h : AnswersFrom i s rule) (st : Step) (skipped : List Skip) :
    (step i st ⟨s, skipped⟩).result = .ok (st.written (st.answer rule)) ∧
    (step i st ⟨s, skipped⟩).state =
      ⟨asked i st.question.toList s, skipped ++ st.leftOut (st.answer rule)⟩ := by
  -- a look-up reads the state around which the plan is drafted, and no skips
  have ask : ∀ name, (lookUp i name ⟨s, skipped⟩).result = .ok (rule name) ∧
      (lookUp i name ⟨s, skipped⟩).state = ⟨asked i [name] s, skipped⟩ :=
    fun name => ⟨h [] name, rfl⟩
  cases st with
  | plain sql => simp [step, Step.written, Step.leftOut, Step.question, asked]
  | drop table name =>
    obtain ⟨hr, hs⟩ := ask name
    simp only [step, dropConstraint, Sql.dropForeignKey_eq, Step.answer, Step.question,
      Option.map_some, Option.getD_some]
    rw [Session.bind_ok hr, hs]
    cases rule name with
    | true => simp [Step.written, Step.leftOut]
    | false => exact ⟨rfl, rfl⟩
  | add table c =>
    obtain ⟨hr, hs⟩ := ask c.name
    simp only [step, addConstraint, Sql.addForeignKey_eq, Constraint.definitionSql_eq, Step.answer,
      Step.question, Option.map_some, Option.getD_some]
    rw [Session.bind_ok hr, hs]
    cases rule c.name with
    | true => exact ⟨rfl, rfl⟩
    | false => simp [Step.written, Step.leftOut]

theorem concat_of_answers (h : AnswersFrom i s rule) (steps : List Step) (skipped : List Skip) :
    (concat (step i) steps ⟨s, skipped⟩).result = .ok (Plan.ofAnswers rule steps).statements ∧
    (concat (step i) steps ⟨s, skipped⟩).state =
      ⟨asked i (steps.filterMap Step.question) s,
        skipped ++ (Plan.ofAnswers rule steps).skipped⟩ := by
  induction steps generalizing s skipped with
  | nil => simp [concat, Plan.ofAnswers, asked]
  | cons st rest ih =>
    obtain ⟨hr, hs⟩ := step_of_answers h st skipped
    -- the answers are still those of the rule, so the rest is drafted by it as well
    obtain ⟨ihr, ihs⟩ := ih (h.asked st.question.toList) (skipped ++ st.leftOut (st.answer rule))
    have hquestions : (st :: rest).filterMap Step.question =
        st.question.toList ++ rest.filterMap Step.question := by
      cases hq : st.question <;> simp [hq]
    rw [concat, Session.bind_ok hr, hs, Session.bind_ok ihr, ihs, hquestions, asked_append]
    exact ⟨rfl, by simp [Plan.ofAnswers]⟩

end Draft

section Plan

variable {σ : Type} {i : Option (Introspector σ)} {s : σ} {rule : String → Bool}

/-- A plan whose questions are answered by a rule succeeds, changes nothing but what its questions
change, and is the plan of its steps by that rule. -/
theorem plan_of_answersFrom (h : Draft.AnswersFrom i s rule) (cs : List Command) :
    (plan i cs s).result = .ok (Plan.ofAnswers rule (cs.flatMap Command.steps)) ∧
    (plan i cs s).state =
      Draft.asked i ((cs.flatMap Command.steps).filterMap Step.question) s := by
  obtain ⟨hr, hs⟩ := Draft.concat_of_answers h (cs.flatMap Command.steps) []
  rw [← Draft.commands_eq_concat] at hr hs
  simp only [plan]
  rw [hr, hs]
  exact ⟨rfl, rfl⟩

/-- When asking changes nothing, planning changes nothing. -/
theorem plan_of_answers (h : Draft.AnswersBy i s rule) (cs : List Command) :
    (plan i cs s).result = .ok (Plan.ofAnswers rule (cs.flatMap Command.steps)) ∧
    (plan i cs s).state = s := by
  obtain ⟨hr, hs⟩ := plan_of_answersFrom h.answersFrom cs
  exact ⟨hr, hs.trans (h.asked_eq _)⟩

end Plan

end SchemaMigration
