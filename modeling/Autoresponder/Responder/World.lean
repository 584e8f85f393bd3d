import Autoresponder.Responder.Components
/-!
# Running the responder

A whole run: from a command line's wishes and the settings to an outcome.

1. `Invocation.prepare` reads the settings and checks everything that needs no connection: the
   settings first, then the recipient, the delivery command, and the sections of the selected
   backends.
2. `World` is what a run works in: a host, its environment, and the servers that it reaches.
3. The selected store is connected when the responder first calls it, so a message that is not to be
   answered makes no connection and no file.
-/

namespace Autoresponder

/-- What a run is asked to do. -/
structure Invocation where
  settingsPath : Text
  sender : Option Text := none
  /-- The seconds between two replies, in the place of the setting. -/
  interval : Option Nat := none
  recipient : Text

/-- Everything that a run has found out before it makes a connection. -/
structure Prepared where
  responder : Responder
  recipient : Address
  command : DeliveryCommand
  directory : Settings.DirectoryChoice
  store : Settings.StoreChoice

namespace Invocation

/-- Reads the settings of an invocation from a file, whose content may be missing. -/
def prepare (i : Invocation) (content : Option Text) (environment : List (Text × Text)) :
    Except Failure Prepared :=
  match Settings.load? i.settingsPath content environment with
  | none => .error .settings
  | some settings => do
    let recipient ← (Address.parse i.recipient).mapError Failure.recipient
    let interval := (i.interval.map Interval.ofSeconds).getD settings.interval
    let command ← (DeliveryCommand.parse settings.core.sendmail).mapError Failure.delivery
    let directory ← settings.directory.mapError Failure.missingSection
    let store ← settings.store.mapError Failure.missingSection
    return ⟨⟨interval, settings.core.domain⟩, recipient, command, directory, store⟩

end Invocation

/-! ## 2. Worlds -/

/-- A key/value server, and the number of its service. -/
structure KeyValueServer where
  service : Nat
  server : KeyValue.Server

structure World where
  host : Host := {}
  environment : List (Text × Text) := []
  directory : DirectoryServer := ⟨{ service := 0 }, []⟩
  keyValue : Option KeyValueServer := none

namespace World

/-- A connection to the selected store. -/
inductive Connection where
  | nowhere
  /-- To the database at a path. -/
  | table (path : Text)
  | keyValue (client : KeyValue.Client)

/-- Connects to the selected store. -/
def connect (interval : Interval) (choice : Settings.StoreChoice) (w : World) :
    Except StoreFailure Connection × World :=
  match choice with
  | .nowhere => (.ok .nowhere, w)
  | .sqlite s =>
    let path := w.host.tablePath s.path
    match w.host.openTable s.path with
    | (.error e, host) => (.error (.table e), { w with host := host })
    | (.ok (), host) => (.ok (.table path), { w with host := host })
  | .redis s =>
    match w.keyValue.filter fun k => k.service == s.service with
    | none => (.error (.keyValue .server), w)
    | some k =>
      let client : KeyValue.Client :=
        { keyPrefix := s.keyPrefix
          expiry := KeyValue.Client.expiryOf interval
          timeoutMilliseconds := 1000 * s.timeout }
      match KeyValue.connect client s.db k.server with
      | (.error e, server) =>
        (.error (.keyValue e), { w with keyValue := some ⟨k.service, server⟩ })
      | (.ok (), server) =>
        (.ok (.keyValue client), { w with keyValue := some ⟨k.service, server⟩ })

/-- The database at a path. -/
def tableAt (path : Text) (w : World) : Table := (Dictionary.find? path w.host.tables).getD {}

def setTable (path : Text) (t : Table) (w : World) : World :=
  { w with host := { w.host with tables := Dictionary.put path t w.host.tables } }

/-- A connection as a store. -/
def Connection.store : Connection → Store World StoreFailure
  | .nowhere => Store.nowhere
  | .table path =>
    Backend.store.within (fun w => .table (w.tableAt path)) fun
      | .table t, w => w.setTable path t
      | _, w => w
  | .keyValue client =>
    Backend.store.within
      (fun w => .keyValue client 0 ((w.keyValue.map KeyValueServer.server).getD {})) fun
        | .keyValue _ _ server, w =>
          { w with keyValue := w.keyValue.map fun k => { k with server := server } }
        | _, w => w

/-! ## 3. Runs -/

def lookupOf : Settings.DirectoryChoice → Lookup
  | .everybody => .everybody
  | .ldap s => .directory s

/-- A world with the connection to its store, as far as it has been made. -/
abbrev Connected : Type := Store.Deferred World Connection

/-- Who answers the responder of a prepared run. -/
def components (p : Prepared) : Components Connected where
  lookup recipient now d :=
    let (answer, directory) := (lookupOf p.directory).resolve recipient now d.base.directory
    (answer, { d with base := { d.base with directory := directory } })
  store := Store.deferred (connect p.responder.interval p.store) Connection.store
  deliver recipient message d :=
    let (answer, host) := p.command.deliver recipient (Utf8.encode message) d.base.host
    (answer, { d with base := { d.base with host := host } })

/-- The settings file of an invocation, if it is at one of its places and a text. -/
def settingsFile? (i : Invocation) (w : World) : Option Text :=
  ((Settings.Format.places i.settingsPath).findSome? w.host.content?).bind Utf8.decode?

/-- Runs the responder for one message. -/
def run [Charsets] (i : Invocation) (message : Bytes) (now : Instant) (w : World) :
    Except Failure Outcome × World :=
  match i.prepare (w.settingsFile? i) w.environment with
  | .error e => (.error e, w)
  | .ok p =>
    let incoming : Incoming := ⟨p.recipient, i.sender, message⟩
    let (outcome, d) :=
      Dialogue.run (components p).serve (p.responder.process incoming now) ⟨w, none⟩
    (outcome, d.base)

end World
end Autoresponder
