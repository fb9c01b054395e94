/-!
# Backends

A backend answers statements and queries. It is a pure state machine over any type of states, so
that what is proved of a session holds for every backend: the in-memory catalog, a server reached
through a connection, or one whose answers are arbitrary. It is the execution seam `Executor` of
appendix A of the driftwood specification: parameters are closed values, a query answers with the
first column of its rows, and an error keeps the message, and the code if the server gave one.
-/

namespace SchemaMigration

/-- A value bound to a placeholder of a statement. -/
inductive Param
  | text (value : String)
  | bigInt (value : Int)
deriving DecidableEq, Repr

/-- An error that a server reports: a number, a five-character state and a message. -/
structure ServerError where
  code : Nat
  state : String
  message : String
deriving DecidableEq, Repr

namespace ServerError

/-- The number that reports a missing database. -/
def unknownDatabase : Nat := 1049

/-- The number that reports a missing table. -/
def missingTable : Nat := 1146

/-- The error as one line. -/
def text (e : ServerError) : String :=
  "MySqlError \x7b ERROR " ++ toString e.code ++ " (" ++ e.state ++ "): " ++ e.message ++ " \x7d"

end ServerError

/-- A failed statement or query: a message and, if a server reported them, its number and state. -/
structure BackendError where
  message : String
  code : Option Nat
  state : Option String
deriving DecidableEq, Repr

namespace BackendError

/-- A failure known by its message alone. -/
def ofMessage (message : String) : BackendError := ⟨message, none, none⟩

/-- A failure that a server reported. -/
def ofServer (e : ServerError) : BackendError := ⟨e.message, some e.code, some e.state⟩

/-- The message, followed by the number and the state when there is a number. -/
def text (e : BackendError) : String :=
  match e.code, e.state with
  | some code, some state => e.message ++ " (code " ++ toString code ++ ", state " ++ state ++ ")"
  | some code, none => e.message ++ " (code " ++ toString code ++ ")"
  | none, _ => e.message

end BackendError

/-- A backend over states of type `σ`. A statement answers with the number of affected rows, a query
with the first column of its rows. -/
structure Backend (σ : Type) where
  execute : (sql : String) → (params : List Param) → σ → Except BackendError Nat × σ
  query : (sql : String) → (params : List Param) → σ → Except BackendError (List String) × σ

end SchemaMigration
