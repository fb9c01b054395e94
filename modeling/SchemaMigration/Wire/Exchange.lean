import SchemaMigration.Backend.Basic
import SchemaMigration.Wire.Cell
import SchemaMigration.Wire.Placeholder

/-!
# Exchanges with a server

The two protocols of `MysqlExecutor` (appendix A of the driftwood specification). A statement
without parameters goes to the server as text; a query, and a statement with parameters, is prepared
first and then sent with its parameters. Names among its placeholders become question marks when it
is prepared. It needs exactly one parameter for each question mark; with another number nothing is
sent.

> `backend`: the backend that a serving function makes.
-/

namespace SchemaMigration.Wire

/-- How a statement is sent. -/
inductive Protocol
  | plain
  | prepared
deriving DecidableEq, Repr

/-- What a server receives. -/
structure Request where
  protocol : Protocol
  sql : String
  params : List Param
deriving DecidableEq, Repr

/-- What a server answers. -/
inductive Reply
  | affected (count : Nat)
  | failed (error : ServerError)
  | rows (cells : List Cell)
deriving Repr

/-- The failure of a prepared statement that is given another number of parameters than it takes. -/
def parameterMismatch (takes given : Nat) : BackendError :=
  .ofMessage ("DriverError \x7b Statement takes " ++ toString takes ++ " parameters but " ++
    toString given ++ " was supplied \x7d")

/-- The failure of a prepared statement with both kinds of placeholders. -/
def mixedPlaceholders : BackendError :=
  .ofMessage ("DriverError \x7b Can not mix named and positional parameters in one statement \x7d")

/-- The request as it is sent: a statement that goes as text stays as it is, and one that is
prepared has question marks for names. -/
def Request.prepare (r : Request) : Except BackendError Request :=
  match r.protocol with
  | .plain => .ok r
  | .prepared =>
    let found := scan r.sql
    if found.hasNames && found.hasMarks then .error mixedPlaceholders
    else
      let sql := String.ofList found.text
      let takes := questionMarks sql
      if takes ≠ r.params.length then .error (parameterMismatch takes r.params.length)
      else .ok { r with sql }

variable {σ : Type}

/-- Sends a request: the reply of the server, or the failure that keeps it from being sent. -/
def send (serve : Request → σ → Reply × σ) (r : Request) (s : σ) : Except BackendError Reply × σ :=
  match r.prepare with
  | .error e => (.error e, s)
  | .ok r =>
    match serve r s with
    | (.failed e, s) => (.error (.ofServer e), s)
    | (reply, s) => (.ok reply, s)

/-- The number of rows that a reply reports as affected. -/
def Reply.count : Reply → Nat
  | .affected count => count
  | _ => 0

/-- The texts of the first column of a reply, nulls left out. -/
def Reply.column : Reply → List String
  | .rows cells => cells.filterMap Cell.text?
  | _ => []

/-- The backend of a server that answers requests. -/
def backend (serve : Request → σ → Reply × σ) : Backend σ where
  execute sql params s :=
    let protocol := if params.isEmpty then .plain else .prepared
    let (r, s) := send serve ⟨protocol, sql, params⟩ s
    (r.map Reply.count, s)
  query sql params s :=
    let (r, s) := send serve ⟨.prepared, sql, params⟩ s
    (r.map Reply.column, s)

end SchemaMigration.Wire
