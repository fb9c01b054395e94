import SchemaMigration.Proofs.LoadedFiles
import SchemaMigration.Proofs.Phases
import SchemaMigration.Proofs.Trace
import SchemaMigration.Toml.Equality

/-!
# What the check of a file promises

A file is checked without a server: both of its sections have to be readable as command sets. A run
of the forward section refuses nothing that the check has passed, so that only the backend can make
it fail:

> `runCommands_failsOnly`: with a good version and a plain table, a run fails with a statement or
> with another error of the backend.
> `runMigration_of_checked`: a checked file fails in no other way, and a file whose forward section
> is refused is refused alike by the check and by a run, which then makes no call.
-/

namespace SchemaMigration

open Session Files

variable {σ : Type}

/-! ## Runs of commands -/

theorem recordVersion_failsOnly (b : Backend σ) {table : String} (row : VersionRow)
    (ht : Sql.isPlainIdentifier table = true) :
    FailsOnly MigrationError.IsBackend (recordVersion b table row) :=
  fun _ _ h => recordVersion_isBackend ht h

/-- A run whose version is good and whose table has a plain name fails only when a statement or
another call to the backend does. -/
theorem runCommands_failsOnly (b : Backend σ) {table version : String} (now : Int)
    (cs : List Command) (ht : Sql.isPlainIdentifier table = true)
    (hv : Version.check version = .ok ()) :
    FailsOnly (fun e => e.IsBackend ∨ e.IsExecution) (runCommands b table now version cs) := by
  unfold runCommands
  rw [hv]
  refine (FailsOnly.done ()).bind fun _ => ?_
  refine ((plan_failsOnly _ cs).imp fun _ => .inl).bind fun p => ?_
  refine ((executeStatements_failsOnly b version _).imp fun _ => .inr).bind fun _ => ?_
  refine ((recordVersion_failsOnly b _ ht).imp fun _ => .inl).bind fun _ => ?_
  exact (FailsOnly.note _ _).bind fun _ => FailsOnly.done _

/-! ## Files -/

namespace MigrationFile

/-- A file that passes the check has a readable forward section. -/
theorem readAll_up_of_check {m : MigrationFile} (h : m.check = .ok ()) :
    ∃ cs, Command.readAll m.up = .ok cs := by
  unfold check at h
  split at h
  · cases h
  · next cs hup => exact ⟨cs, hup⟩

/-- What is wrong with the forward section is what the check says. -/
theorem check_of_readAll_error {m : MigrationFile} {e : MigrationError}
    (h : Command.readAll m.up = .error e) : m.check = .error e := by
  unfold check
  rw [h]

end MigrationFile

/-- Whatever a backend answers, a run of a loaded file that passed its check fails only with a
statement or another call that the backend refused: never for its version or its commands. And if
its forward section is refused, then the check and the run end in the same error, and the run makes
no call. -/
theorem runMigration_of_checked (b : Backend σ) (s : σ) {table : String} (now : Int) {path : Path}
    {found : Except FileError Node} {m : MigrationFile}
    (hload : MigrationFile.load path found = .ok m) (ht : Sql.isPlainIdentifier table = true) :
    (m.check = .ok () → ∀ e, (runMigration b table now m.version m.up s).result = .error e →
      (e.IsBackend ∨ e.IsExecution) ∧ e.isPreExecution = false) ∧
    (∀ e, Command.readAll m.up = .error e →
      m.check = .error e ∧
      runMigration b table now m.version m.up s = ⟨.error e, s, []⟩ ∧
      (runMigration b.traced table now m.version m.up ⟨s, []⟩).result = .error e ∧
      (runMigration b.traced table now m.version m.up ⟨s, []⟩).state.calls = []) := by
  -- the version comes from a file name, so only the commands are left to be refused
  have hv : Version.check m.version = .ok () := MigrationFile.check_version hload
  constructor
  · intro hcheck e he
    obtain ⟨cs, hcs⟩ := MigrationFile.readAll_up_of_check hcheck
    rw [runMigration_of_ok b table now m.version s hcs] at he
    have hcause : e.IsBackend ∨ e.IsExecution := runCommands_failsOnly b now cs ht hv s e he
    refine ⟨hcause, ?_⟩
    rcases hcause with hbackend | hexecution
    · exact hbackend.not_preExecution
    · exact hexecution.not_preExecution
  · intro e he
    have htraced := runMigration_of_error b.traced table now ⟨s, []⟩ hv he
    have hplain := runMigration_of_error b table now s hv he
    refine ⟨MigrationFile.check_of_readAll_error he, hplain, ?_, ?_⟩
    · rw [htraced]
    · rw [htraced]

/-- A file whose version is written with digits of two scripts passes its check and fails on a
backend that locks its tables; one with a number for commands is refused by both. -/
theorem lockedTable_refusedNumber :
    let path : Path := ⟨"m/٢٠240101000000_a.toml"⟩
    let good : MigrationFile := ⟨path, "٢٠240101000000", "a", none,
      .object [("drop-table", .string "t")], .null⟩
    let bad : MigrationFile := ⟨path, "٢٠240101000000", "a", none, .number (.whole 7), .null⟩
    let locked : Backend Unit :=
      ⟨fun _ _ s => (.error (.ofMessage "locked"), s), fun _ _ s => (.ok [], s)⟩
    let refusal : MigrationError := .validation (.notCommands (.number (.whole 7)))
    (MigrationFile.load path (.ok (.file "[up]\ndrop-table = \"t\"\n".toUTF8)) = .ok good ∧
      MigrationFile.load path (.ok (.file "up = 7".toUTF8)) = .ok bad ∧
      Sql.isPlainIdentifier "versions" = true ∧ good.check = .ok () ∧
      Command.readAll bad.up = .error refusal) ∧
    (∃ e, (runMigration locked "versions" 0 good.version good.up ()).result = .error e ∧
      (e.IsBackend ∨ e.IsExecution) ∧ e.isPreExecution = false) ∧
    bad.check = .error refusal ∧
    (runMigration locked.traced "versions" 0 bad.version bad.up ⟨(), []⟩).result = .error refusal ∧
    (runMigration locked.traced "versions" 0 bad.version bad.up ⟨(), []⟩).state.calls = [] := by
  intro path good bad locked refusal
  have hfile : path.fileName? = some "٢٠240101000000_a.toml" := by decide +kernel
  have hname : MigrationFile.nameOf path = .ok ⟨"٢٠240101000000", "a"⟩ := by
    rw [MigrationFile.nameOf, hfile]
    rfl
  have hdocument : Toml.document "[up]\ndrop-table = \"t\"\n".toList =
      some [("up", .table [("drop-table", .string "t")])] := by decide +kernel
  have hgood : MigrationFile.load path (.ok (.file "[up]\ndrop-table = \"t\"\n".toUTF8)) =
      .ok good := by
    rw [MigrationFile.load_text _ hname, MigrationFile.ofText, hdocument]
    rfl
  have hnumber : Toml.document "up = 7".toList = some [("up", .integer 7)] := by decide +kernel
  have hbad : MigrationFile.load path (.ok (.file "up = 7".toUTF8)) = .ok bad := by
    rw [MigrationFile.load_text _ hname, MigrationFile.ofText, hnumber]
    rfl
  have ht : Sql.isPlainIdentifier "versions" = true := by decide
  have hcheck : good.check = .ok () := rfl
  have hrefused : Command.readAll bad.up = .error refusal := rfl
  obtain ⟨e, hfails⟩ : ∃ e,
      (runMigration locked "versions" 0 good.version good.up ()).result = .error e := by
    have hstops :
        (runMigration locked "versions" 0 good.version good.up ()).result.isOk = false := by
      decide +kernel +zetaReduce
    cases hr : (runMigration locked "versions" 0 good.version good.up ()).result with
    | error e => exact ⟨e, rfl⟩
    | ok report => rw [hr] at hstops; cases hstops
  have hchecked := (runMigration_of_checked locked () 0 hgood ht).1 hcheck e hfails
  obtain ⟨hsame, -, hresult, hcalls⟩ := (runMigration_of_checked locked () 0 hbad ht).2 _ hrefused
  exact ⟨⟨hgood, hbad, ht, hcheck, hrefused⟩, ⟨e, hfails, hchecked⟩, hsame, hresult, hcalls⟩

end SchemaMigration
