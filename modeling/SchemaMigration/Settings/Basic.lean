import SchemaMigration.Error
import SchemaMigration.Host.Basic
import SchemaMigration.Sql.Identifier
import SchemaMigration.Text.Blank

/-!
# Settings

Where to connect, and in which table to record versions: `DatabaseConfig` and `MigratorConfig` with
their defaults (appendix D of the driftwood specification).
-/

namespace SchemaMigration

/-- Where the server is, and what to say to it. -/
structure Descriptor where
  host : String := "localhost"
  port : UInt16 := 3306
  user : String := "root"
  password : String := ""
  database : String := "driftwood_dev"
deriving DecidableEq, Repr

/-- What a connection is opened with. The host is an address or a domain if it can be read as one.
An empty password is none, and the database is selected only on demand. -/
structure ConnectOptions where
  host : Host
  port : UInt16
  user : String
  password : Option String
  database : Option String
deriving DecidableEq, Repr

namespace Descriptor

/-- A descriptor needs a host, a user and a database; the first one missing is reported. -/
def check (d : Descriptor) : Except DescriptorFault Unit :=
  if Text.isBlankText d.host then .error .emptyHost
  else if Text.isBlankText d.user then .error .emptyUser
  else if Text.isBlankText d.database then .error .emptyDatabase
  else .ok ()

/-- The options of a connection, with or without its database selected. -/
def options (d : Descriptor) (withDatabase : Bool) : ConnectOptions where
  host := .ofString d.host
  port := d.port
  user := d.user
  password := if d.password.isEmpty then none else some d.password
  database := if withDatabase then some d.database else none

end Descriptor

/-- The settings of a migrator. -/
structure Settings where
  descriptor : Descriptor := {}
  versionTable : String := "schema_versions"
deriving DecidableEq, Repr

/-- The name of the version table becomes part of SQL text, so only a plain identifier will do. The
error is the name. -/
def Settings.check (s : Settings) : Except String Unit :=
  if Sql.isPlainIdentifier s.versionTable then .ok () else .error s.versionTable

end SchemaMigration
