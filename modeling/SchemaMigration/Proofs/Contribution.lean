import Mathlib.Algebra.Ring.Nat
import Mathlib.Data.List.Basic
import SchemaMigration.Proofs.Steps

/-!
# What each command contributes to a plan

When a foreign key is there or not does not change while a plan is made, what a command contributes
to the plan depends on the command alone: its statements and skips stand together, whatever comes
before and after it.

> `Plan.ofAnswers_alterTable`, `Plan.ofAnswers_commands`: the plan of steps, command by command.
> `Command.length_contribution`: each requested change is written or skipped, and only once.
> `plan_accounts`: what a plan consists of, and the plan of two lists of commands together.
-/

namespace SchemaMigration

/-- What an `alter-table` contributes, by which foreign keys are present. -/
def AlterTable.contribution (present : String → Bool) (a : AlterTable) : Plan where
  statements :=
    (a.dropConstraints.filter present).map (Wording.dropForeignKey a.table) ++
      a.dropColumns.map (Wording.dropColumn a.table) ++
      a.addColumns.map (Wording.addColumn a.table) ++
      a.modifyColumns.map (Wording.modifyColumn a.table) ++
      (a.addConstraints.filter fun con => !present con.name).map (Wording.addForeignKey a.table)
  skipped :=
    (a.dropConstraints.filter fun n => !present n).map
        (fun n => ⟨a.table, n, .notPresent, none⟩) ++
      (a.addConstraints.filter fun con => present con.name).map
        (fun con => ⟨a.table, con.name, .alreadyPresent, some (Wording.definition con)⟩)

namespace Command

/-- What a command contributes to a plan, by which foreign keys are present. -/
def contribution (present : String → Bool) : Command → Plan
  | .createTable table columns primaryKey constraints =>
    ⟨[Wording.createTable table columns primaryKey constraints], []⟩
  | .dropTable table => ⟨[Wording.dropTable table], []⟩
  | .alterTable change => change.contribution present
  | .createIndex name table columns unique => ⟨[Wording.createIndex name table columns unique], []⟩
  | .dropIndex name table => ⟨[Wording.dropIndex name table], []⟩
  | .insertInto table rows => ⟨[Wording.insertInto table rows], []⟩

/-- How many changes a command asks for. -/
def requests : Command → Nat
  | .alterTable a => a.dropConstraints.length + a.dropColumns.length + a.addColumns.length +
      a.modifyColumns.length + a.addConstraints.length
  | _ => 1

end Command

/-! ## The steps of a command -/

namespace Plan

variable (rule : String → Bool)

theorem ofAnswers_append (xs ys : List Step) :
    ofAnswers rule (xs ++ ys) =
      ⟨(ofAnswers rule xs).statements ++ (ofAnswers rule ys).statements,
        (ofAnswers rule xs).skipped ++ (ofAnswers rule ys).skipped⟩ := by
  simp only [ofAnswers, List.flatMap_append]

/-- Steps that depend on nothing are all written. -/
theorem ofAnswers_plain {α : Type} (sql : α → String) (xs : List α) :
    ofAnswers rule (xs.map fun x => Step.plain (sql x)) = ⟨xs.map sql, []⟩ := by
  induction xs with
  | nil => rfl
  | cons x rest ih =>
    rw [List.map_cons, ← List.singleton_append, ofAnswers_append, ih]
    rfl

/-- Drops are written for the names that are there, and skipped for the others. -/
theorem ofAnswers_drops (table : String) (dropped : List String) :
    ofAnswers rule (dropped.map (Step.drop table)) =
      ⟨(dropped.filter rule).map (Wording.dropForeignKey table),
        (dropped.filter fun n => !rule n).map fun n => ⟨table, n, .notPresent, none⟩⟩ := by
  induction dropped with
  | nil => rfl
  | cons n rest ih =>
    rw [List.map_cons, ← List.singleton_append, ofAnswers_append, ih]
    cases hn : rule n <;>
      simp [ofAnswers, Step.answer, Step.question, Step.written, Step.leftOut, hn]

/-- Additions are skipped for the names that are there, and written for the others. -/
theorem ofAnswers_adds (table : String) (added : List Constraint) :
    ofAnswers rule (added.map (Step.add table)) =
      ⟨(added.filter fun con => !rule con.name).map (Wording.addForeignKey table),
        (added.filter fun con => rule con.name).map fun con =>
          ⟨table, con.name, .alreadyPresent, some (Wording.definition con)⟩⟩ := by
  induction added with
  | nil => rfl
  | cons con rest ih =>
    rw [List.map_cons, ← List.singleton_append, ofAnswers_append, ih]
    cases hn : rule con.name <;>
      simp [ofAnswers, Step.answer, Step.question, Step.written, Step.leftOut, hn]

theorem ofAnswers_alterTable (a : AlterTable) :
    ofAnswers rule a.steps = a.contribution rule := by
  unfold AlterTable.steps
  simp only [ofAnswers_append, ofAnswers_plain, ofAnswers_drops, ofAnswers_adds]
  simp [AlterTable.contribution]

theorem ofAnswers_command (c : Command) : ofAnswers rule c.steps = c.contribution rule := by
  cases c with
  | alterTable change => exact ofAnswers_alterTable rule change
  | _ => rfl

/-- The plan of commands is what each of them contributes, in order. -/
theorem ofAnswers_commands (cs : List Command) :
    ofAnswers rule (cs.flatMap Command.steps) =
      ⟨cs.flatMap fun c => (c.contribution rule).statements,
        cs.flatMap fun c => (c.contribution rule).skipped⟩ := by
  induction cs with
  | nil => rfl
  | cons c rest ih => rw [List.flatMap_cons, ofAnswers_append, ih, ofAnswers_command]; rfl

end Plan

/-! ## Every request once -/

/-- Each change that a command asks for is either written or skipped, and only once. -/
theorem Command.length_contribution (present : String → Bool) (c : Command) :
    (c.contribution present).statements.length + (c.contribution present).skipped.length =
      c.requests := by
  cases c with
  | alterTable a =>
    have hdrops := List.length_eq_length_filter_add (l := a.dropConstraints) present
    have hadds := List.length_eq_length_filter_add (l := a.addConstraints)
      fun con => present con.name
    simp only [contribution, AlterTable.contribution, requests, List.length_append,
      List.length_map]
    omega
  | _ => rfl

theorem length_contributions (present : String → Bool) (cs : List Command) :
    (cs.flatMap fun c => (c.contribution present).statements).length +
        (cs.flatMap fun c => (c.contribution present).skipped).length =
      (cs.map Command.requests).sum := by
  induction cs with
  | nil => rfl
  | cons c rest ih =>
    have hc := c.length_contribution present
    simp only [List.flatMap_cons, List.length_append, List.map_cons, List.sum_cons]
    omega

/-! ## Plans -/

/-- Where every question has a fixed answer, a plan succeeds, and consists of what each command
contributes, in order. Every requested change is in it once, written or skipped, and the plan of two
lists of commands together is the plan of the first followed by the plan of the second. -/
theorem plan_accounts {σ : Type} {i : Option (Introspector σ)} {s : σ} {present : String → Bool}
    (h : Draft.AnswersFrom i s present) (cs : List Command) :
    ∃ p, (plan i cs s).result = .ok p ∧
      p.statements = cs.flatMap (fun c => (c.contribution present).statements) ∧
      p.skipped = cs.flatMap (fun c => (c.contribution present).skipped) ∧
      p.statements.length + p.skipped.length = (cs.map Command.requests).sum ∧
      ∀ cs', ∃ p', (plan i cs' s).result = .ok p' ∧
        (plan i (cs ++ cs') s).result =
          .ok ⟨p.statements ++ p'.statements, p.skipped ++ p'.skipped⟩ := by
  have hplan := fun cs => (plan_of_answersFrom h cs).1
  simp only [Plan.ofAnswers_commands] at hplan
  refine ⟨_, hplan cs, rfl, rfl, length_contributions present cs, fun cs' => ⟨_, hplan cs', ?_⟩⟩
  rw [hplan (cs ++ cs'), List.flatMap_append, List.flatMap_append]

/-- A change that drops one name twice and adds it twice, planned by questions that are counted, and
then again together with one command of each other kind. -/
theorem plan_ofRepeatedName :
    let counting : Introspector Nat := ⟨fun _ => pure false, fun _ => pure false,
      fun name count => ⟨.ok (name == "fk"), count + 1, []⟩⟩
    let change : AlterTable :=
      ⟨"t", [⟨"c", ["INT"]⟩], ["b"], [⟨"d", ["BIGINT", "NOT NULL"]⟩, ⟨"e", []⟩],
        [⟨"fk", ["(c)"]⟩, ⟨"fk_new", ["(d)", "REFERENCES u (id)"]⟩, ⟨"fk", ["(e)"]⟩],
        ["fk", "fk_old", "fk"]⟩
    let p : Plan :=
      ⟨["ALTER TABLE t DROP FOREIGN KEY fk", "ALTER TABLE t DROP FOREIGN KEY fk",
          "ALTER TABLE t DROP COLUMN b", "ALTER TABLE t ADD COLUMN c INT",
          "ALTER TABLE t MODIFY COLUMN d BIGINT NOT NULL", "ALTER TABLE t MODIFY COLUMN e",
          "ALTER TABLE t ADD CONSTRAINT fk_new FOREIGN KEY (d) REFERENCES u (id)"],
        [⟨"t", "fk_old", .notPresent, none⟩, ⟨"t", "fk", .alreadyPresent, some "(c)"⟩,
          ⟨"t", "fk", .alreadyPresent, some "(e)"⟩]⟩
    let others : List Command :=
      [.createTable "u" [⟨"id", ["INT"]⟩, ⟨"n", []⟩] ["id"] [⟨"fk_u", ["(n)", "REFERENCES t (c)"]⟩],
        .createIndex "i" "t" ["c", "d"] true,
        .insertInto "u" [[.number (.whole 1), .string "a"], [.null, .bool true]],
        .dropIndex "i" "t", .dropTable "u"]
    let texts := ["CREATE TABLE u (id INT, n, PRIMARY KEY (id), " ++
        "CONSTRAINT fk_u FOREIGN KEY (n) REFERENCES t (c))",
      "CREATE UNIQUE INDEX i ON t (c, d)", "INSERT INTO u VALUES (1,\"a\"),(NULL,TRUE)",
      "DROP INDEX i ON t", "DROP TABLE u"]
    Draft.AnswersFrom (some counting) 0 (fun n => n == "fk") ∧
    (plan (some counting) [.alterTable change] 0).result = .ok p ∧
    p.statements.length + p.skipped.length = 10 ∧
    (plan (some counting) (.alterTable change :: others) 0).result =
      .ok ⟨p.statements ++ texts, p.skipped⟩ := by
  intro counting change p others texts
  have hanswers : Draft.AnswersFrom (some counting) 0 fun n => n == "fk" := fun _ _ => rfl
  obtain ⟨q, hq, hstatements, hskipped, hlength, htogether⟩ :=
    plan_accounts hanswers [.alterTable change]
  have hqp : q = p := by
    show (⟨q.statements, q.skipped⟩ : Plan) = p
    rw [hstatements, hskipped]
    decide
  have hothers : (plan (some counting) others 0).result = .ok ⟨texts, []⟩ := by
    obtain ⟨r, hr, hwritten, hleft, -⟩ := plan_accounts hanswers others
    have hrt : r = ⟨texts, []⟩ := by
      show (⟨r.statements, r.skipped⟩ : Plan) = _
      rw [hwritten, hleft]
      decide +kernel
    rw [hr, hrt]
  obtain ⟨r, hr, hboth⟩ := htogether others
  rw [hothers] at hr
  cases hr
  rw [List.append_nil] at hboth
  subst hqp
  exact ⟨hanswers, hq, hlength, hboth⟩

end SchemaMigration
