import SchemaMigration.Catalog.Basic
import SchemaMigration.Server.Basic

/-!
# A server of one catalog

A server whose contents are an in-memory catalog, in the place of a MySQL server (appendix A of the
driftwood specification). It refuses a connection that selects a database which is not there. A
failure of the catalog that has no number is sent with the number and the state that the server
gives it.
-/

namespace SchemaMigration.Server

/-- A number and a state. -/
structure FailureCode where
  code : Nat
  state : String
deriving DecidableEq, Repr

/-- The error with this number and state, unless it has its own. -/
def FailureCode.onto (c : FailureCode) (e : BackendError) : BackendError :=
  match e.code with
  | some _ => e
  | none => ⟨e.message, some c.code, some c.state⟩

/-- The error of a server that has no such database. -/
def unknownDatabase (name : String) : ServerError :=
  ⟨ServerError.unknownDatabase, "42000", "Unknown database '" ++ name ++ "'"⟩

/-- Is the selected database there? -/
def acceptFor (o : ConnectOptions) (c : Catalog) : Except ServerError Unit :=
  match o.database with
  | some name => if name ∈ c.databases then .ok () else .error (unknownDatabase name)
  | none => .ok ()

/-- The server of a catalog, with the codes that failing statements and failing queries get. -/
def ofCatalog (statements queries : FailureCode) : Server Catalog where
  accept := acceptFor
  backend :=
    { execute := fun sql params c =>
        let (r, c) := Catalog.backend.execute sql params c
        (r.mapError statements.onto, c)
      query := fun sql params c =>
        let (r, c) := Catalog.backend.query sql params c
        (r.mapError queries.onto, c) }

end SchemaMigration.Server
