import SchemaMigration.Backend.Basic
import SchemaMigration.Command.Kind
import SchemaMigration.Json.Value
import SchemaMigration.Text.Join

/-!
# Causes of failure

The taxonomy of §7 of the driftwood specification, with the data of `MigrationError` (appendix B).
Each failure is a cause with its data; its wording is one function of the cause.

> `MigrationError.isPreExecution`: the causes that are found in the input alone.
-/

namespace SchemaMigration

open Json

/-- What can be wrong with the fields of a command map. -/
inductive FieldFault
  | unexpectedKey (key : String)
  | missingKey (key : String)
  | badName (key : String) (got : Value)
  | badEntry (key : String) (got : Value)
  | noColumnNames (key : String)
  | notAnArray (key : String) (got : Value)
  | badSpec (key : String) (got : Value)
  | badSpecName (key : String) (got : Value)
  | badDefinition (key name : String) (got : Value)
  | noColumns (key : String)
  | noDefinition (name : String)
  | blankPrimaryKey
  | badFlag (key : String) (got : Value)
  | noRows
  | badRow (position : Nat) (got : Value)
deriving Repr

/-- The wording of a fault in a field. -/
def FieldFault.message : FieldFault → String
  | unexpectedKey key => "unexpected key '" ++ key ++ "'"
  | missingKey key => "missing required key '" ++ key ++ "'"
  | badName key got => "'" ++ key ++ "' must be a non-empty name, got " ++ got.text
  | badEntry key got => "'" ++ key ++ "' entries must be names, got " ++ got.text
  | noColumnNames key => "'" ++ key ++ "' must name at least one column"
  | notAnArray key got => "'" ++ key ++ "' must be an array, got " ++ got.text
  | badSpec key got =>
    "'" ++ key ++ "' entries must be non-empty arrays of [name, definition...], got " ++ got.text
  | badSpecName key got => "'" ++ key ++ "' entry name must be a name, got " ++ got.text
  | badDefinition key name got =>
    "'" ++ key ++ "' definition for '" ++ name ++ "' must be text, got " ++ got.text
  | noColumns key => "'" ++ key ++ "' must declare at least one column"
  | noDefinition name => "constraint '" ++ name ++ "' has no definition"
  | blankPrimaryKey => "'primary-key' must not be empty"
  | badFlag key got => "'" ++ key ++ "' must be true or false, got " ++ got.text
  | noRows => "'values' must hold at least one row"
  | badRow position got =>
    "row " ++ toString position ++ " must be a non-empty array, got " ++ got.text

/-- What can be wrong with the input of a migration. -/
inductive Fault
  /-- The command set is neither a map nor an array nor null. -/
  | notCommands (got : Value)
  /-- The entry at this position, counted from one, is not a map. -/
  | notAMap (position : Nat) (got : Value)
  /-- A command map of this kind has a bad field. -/
  | field (kind : Kind) (fault : FieldFault)
  /-- The name of the version table cannot be written without quotes. -/
  | versionTable (name : String)
  /-- A fault that a caller describes. -/
  | described (text : String)
deriving Repr

/-- The wording of a fault in the input. -/
def Fault.message : Fault → String
  | notCommands got =>
    "expected a command map or an array of command maps, got " ++ got.text
  | notAMap position got =>
    "entry " ++ toString position ++ " is not a command map: " ++ got.text
  | field kind fault => kind.key ++ ": " ++ fault.message
  | versionTable name =>
    "version table name '" ++ name ++ "' must contain only letters, digits and underscores"
  | described text => text

/-- What can be wrong with a connection descriptor. -/
inductive DescriptorFault
  | emptyHost
  | emptyUser
  | emptyDatabase
  /-- A fault that a caller describes. -/
  | described (text : String)
deriving DecidableEq, Repr

/-- The wording of a fault in a descriptor. -/
def DescriptorFault.message : DescriptorFault → String
  | emptyHost => "host cannot be empty"
  | emptyUser => "user cannot be empty"
  | emptyDatabase => "database cannot be empty"
  | described text => text

/-- Why a connection was not made. -/
inductive ConnectionError
  | descriptor (fault : DescriptorFault)
  | server (error : ServerError)
deriving DecidableEq, Repr

/-- The wording of a failed connection. -/
def ConnectionError.message : ConnectionError → String
  | descriptor fault => "Invalid connection descriptor: " ++ fault.message
  | server error => "MySQL error: " ++ error.text

/-- A statement of a migration that failed: which one of how many, counted from one. -/
structure StatementFailure where
  version : String
  index : Nat
  total : Nat
  statement : String
  message : String
deriving DecidableEq, Repr

/-- Why a migration, or an operation around it, failed. -/
inductive MigrationError
  | validation (fault : Fault)
  | unsupportedCommand (kind : String)
  | invalidVersion (version : String)
  | execution (failure : StatementFailure)
  | backend (error : BackendError)
  | connection (error : ConnectionError)
deriving Repr

namespace MigrationError

/-- The wording of a failure. -/
def message : MigrationError → String
  | validation fault => "Invalid command set: " ++ fault.message
  | unsupportedCommand kind =>
    "Unsupported command '" ++ kind ++ "': expected one of " ++
      Text.joinWith ", " (Kind.all.map Kind.key)
  | invalidVersion version =>
    "Invalid migration version '" ++ version ++ "': must be 1 to 14 characters"
  | execution f =>
    "Migration " ++ f.version ++ " failed at statement " ++ toString f.index ++ " of " ++
      toString f.total ++ ": " ++ f.message ++ "\nStatement: " ++ f.statement ++ "\n" ++
      toString (f.index - 1) ++
      " statement(s) were applied before the failure and were not rolled back"
  | backend error => "Database error: " ++ error.text
  | connection error => "Connection error: " ++ error.message

/-- The wording of a failure, followed by the wordings of its causes. -/
def chain (e : MigrationError) : List String :=
  e.message :: match e with
    | backend error => [error.text]
    | connection (.server error) => [(ConnectionError.server error).message, error.text]
    | connection error => [error.message]
    | _ => []

/-- Is the cause one that is found in the input alone? -/
def isPreExecution : MigrationError → Bool
  | validation _ | unsupportedCommand _ | invalidVersion _ => true
  | execution _ | backend _ | connection _ => false

/-- The number that the server reported, if it was the server. -/
def serverCode : MigrationError → Option Nat
  | backend error => error.code
  | connection (.server error) => some error.code
  | _ => none

/-- Did the server report that the database is missing? -/
def isUnknownDatabase (e : MigrationError) : Bool :=
  e.serverCode == some ServerError.unknownDatabase

/-- Did the server report that a table is missing? -/
def isMissingTable (e : MigrationError) : Bool :=
  e.serverCode == some ServerError.missingTable

/-- How many statements were applied before the one that failed. -/
def appliedStatements : MigrationError → Option Nat
  | execution f => some (f.index - 1)
  | _ => none

end MigrationError

end SchemaMigration
