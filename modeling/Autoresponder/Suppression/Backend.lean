import Autoresponder.Suppression.KeyValue
import Autoresponder.Suppression.Table
/-!
# Backends

The kinds of stores as one: nowhere, a table, or a key/value server with its client. Each kind has
its own failures, and a call may also be made to fail on purpose. Only calls change a backend: the
values of a key/value server do not expire (see `KeyValue.Server.change`).
-/

namespace Autoresponder

inductive StoreFailure where
  | table (e : TableFailure)
  | keyValue (e : KeyValueFailure)
  /-- A call that was meant to fail. -/
  | injected (message : Text)
  deriving DecidableEq, Repr

/-- What is known of the cause. -/
def StoreFailure.message? : StoreFailure → Option Text
  | .table e => e.message?
  | .keyValue e => e.message?
  | .injected message => some message

/-- A failure for the calls with one of some names. -/
def StoreFailure.among (names : List Text) (c : StoreCall) : Option StoreFailure :=
  if names.contains c.name then some (.injected (c.name ++ " failed".toList)) else none

inductive Backend where
  | nowhere
  | table (t : Table)
  | keyValue (client : KeyValue.Client) (database : Int) (server : KeyValue.Server)

namespace Backend

/-- The answer of a table. -/
def ofTable {α : Type} : Except TableFailure α × Table → Except StoreFailure α × Backend
  | (answer, t) => (answer.mapError .table, .table t)

/-- The answer of a key/value server. -/
def ofServer {α : Type} (client : KeyValue.Client) (database : Int) :
    Except KeyValueFailure α × KeyValue.Server → Except StoreFailure α × Backend
  | (answer, s) => (answer.mapError .keyValue, .keyValue client database s)

/-- A backend as a store. -/
def store : Store Backend StoreFailure where
  call c
    | .nowhere => (Store.nowhere.call c .nowhere)
    | .table t => ofTable (Table.store.call c t)
    | .keyValue client database s => ofServer client database ((KeyValue.store client).call c s)

/-- Makes the connection that a backend needs. -/
def connect : Backend → Except StoreFailure Unit × Backend
  | .nowhere => (.ok (), .nowhere)
  | .table t => ofTable t.connect
  | .keyValue client database s => ofServer client database (KeyValue.connect client database s)

/-- The record of a key, where a backend has records. -/
def get (k : Key) : Backend → Except StoreFailure (Option Record) × Backend
  | .nowhere => (.ok none, .nowhere)
  | .table t => ((t.get k).mapError .table, .table t)
  | .keyValue client database s => ofServer client database (KeyValue.get client k s)

/-- A backend that is connected at the first call that can connect. -/
abbrev Session : Type := Store.Deferred Backend Unit

/-- A backend as a store that connects when it is needed, with some calls failing on purpose. -/
def session (failing : List Text) : Store Session StoreFailure :=
  Store.intercept (StoreFailure.among failing) (Store.deferred connect fun () => store)

/-- Connects right away. -/
def openSession (b : Backend) : Except StoreFailure Session :=
  match b.connect with
  | (.ok (), b) => .ok ⟨b, some ()⟩
  | (.error e, _) => .error e

/-- Other connections begin or end writing. -/
def setLocked (locked : Bool) : Backend → Backend
  | .table t => .table { t with locked := locked }
  | b => b

end Backend
end Autoresponder
