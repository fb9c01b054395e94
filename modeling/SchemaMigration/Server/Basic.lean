import SchemaMigration.Backend.Session
import SchemaMigration.Error
import SchemaMigration.Settings.Basic

/-!
# Servers

Connecting as in appendix A of the driftwood specification. A server accepts connections, and is a
backend for those that it accepted. The descriptor is checked before anything is sent, so a bad one
is never seen by a server.

> `connect_state`: connecting changes nothing.
-/

namespace SchemaMigration

/-- A server over states of type `σ`. -/
structure Server (σ : Type) where
  /-- Answers to a connection that is asked for. -/
  accept : ConnectOptions → σ → Except ServerError Unit
  backend : Backend σ

namespace Server

variable {σ : Type}

/-- Opens a connection, with or without the database selected. -/
def connect (server : Server σ) (d : Descriptor) (withDatabase : Bool) :
    Session σ MigrationError Unit := fun s =>
  match d.check with
  | .error fault => ⟨.error (.connection (.descriptor fault)), s, []⟩
  | .ok () =>
    match server.accept (d.options withDatabase) s with
    | .error e => ⟨.error (.connection (.server e)), s, []⟩
    | .ok () => ⟨.ok (), s, []⟩

theorem connect_state (server : Server σ) (d : Descriptor) (withDatabase : Bool) (s : σ) :
    (server.connect d withDatabase s).state = s := by
  rw [connect]
  split
  · rfl
  · split <;> rfl

end Server

end SchemaMigration
