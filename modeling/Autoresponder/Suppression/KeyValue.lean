import Autoresponder.Dictionary
import Autoresponder.Signed64
import Autoresponder.Suppression.KeyValue.Script
import Autoresponder.Suppression.Store
/-!
# The key/value store

Last replies on a key/value server that other programs share.

1. Keys begin with a prefix of the responder's own, and a value is written with the time after which
   the server may forget it.
2. The server answers a command from its entries (`Server.perform`) and keeps a list of the
   commands. A server may also be down, say nothing, or answer every script with the same numbers.
3. The four calls of a store are single commands or scripts. An answer that no script of the client
   gives is a failure.

Nothing expires by itself here: the server keeps an expiry beside its value, and its entries change
by commands alone. What is shown of this store is so for as long as no value of the responder's
expires.
-/

namespace Autoresponder

inductive KeyValueFailure where
  /-- The server is not reached, refuses, or answers something of the wrong type. -/
  | server
  /-- The server did not answer within some milliseconds. -/
  | timeout (milliseconds : Nat)
  | unexpected (reply : List Int)
  /-- A number stands for no time. -/
  | outOfRange (n : Int)
  deriving DecidableEq, Repr

namespace KeyValueFailure

/-- A length of time, in seconds or in milliseconds. -/
def duration (milliseconds : Nat) : Text :=
  if milliseconds = 0 then "0ns".toList
  else if milliseconds < 1000 then Text.ofNat milliseconds ++ "ms".toList
  else
    let digits := Text.ofNat (1000 + milliseconds % 1000)
    let part := Text.dropEndWhile (· == '0') (digits.drop 1)
    Text.ofNat (milliseconds / 1000) ++ (if part.isEmpty then [] else '.' :: part) ++ ['s']

def message? : KeyValueFailure → Option Text
  | .server => none
  | .timeout ms => some ("redis operation timed out after ".toList ++ duration ms)
  | .unexpected reply =>
    some ("unexpected reply from claim script: [".toList ++
      Text.joinWith ", ".toList (reply.map Text.ofInt) ++ [']'])
  | .outOfRange n => some ("stored timestamp out of range: ".toList ++ Text.ofInt n)

end KeyValueFailure

namespace KeyValue

/-! ## 1. Clients -/

structure Client where
  /-- What all keys begin with, before a colon. -/
  keyPrefix : Text := "absent".toList
  /-- The seconds after which a value may be forgotten; zero for never. -/
  expiry : Nat := 0
  timeoutMilliseconds : Nat := 10000
  deriving DecidableEq, Repr

namespace Client

/-- The name of a key on the server. -/
def keyText (c : Client) (k : Key) : Text :=
  if c.keyPrefix.isEmpty then k.text else c.keyPrefix ++ ':' :: k.text

/-- Values are kept for as many whole seconds as an interval has, at least for one; for ever if the
interval is negative. -/
def expiryOf (interval : Interval) : Nat :=
  if interval.nanoseconds < 0 then 0 else max 1 interval.wholeSeconds.toNat

end Client

/-! ## 2. Servers -/

/-- When a server says nothing at all. -/
inductive Stall where
  | never
  /-- From the start. -/
  | connecting
  /-- When a client has connected. -/
  | connected
  deriving DecidableEq, Repr

structure Server where
  entries : Dictionary Text (Text × Option Nat) := []
  /-- The commands so far, the earliest first. -/
  log : List Command := []
  /-- The database that a client has selected. -/
  selected : Option Int := none
  down : Bool := false
  stall : Stall := .never
  /-- What every script is answered, in the place of running it. -/
  scripted : Option (List Int) := none

namespace Server

/-- Answers one command from the entries. An expiry is kept, but is never due. -/
def change : (c : Command) → Dictionary Text (Text × Option Nat) →
    c.Answer × Dictionary Text (Text × Option Nat)
  | .get k, es => ((Dictionary.find? k es).map Prod.fst, es)
  | .set k v, es => ((), Dictionary.put k (v, none) es)
  | .setExpiring k v n, es => ((), Dictionary.put k (v, some n) es)
  | .delete k, es => ((), Dictionary.erase k es)

def perform (c : Command) (s : Server) : c.Answer × Server :=
  let (answer, es) := change c s.entries
  (answer, { s with entries := es, log := s.log ++ [c] })

/-- Runs a script. -/
def run {α : Type} (script : Script α) (s : Server) : α × Server := Dialogue.run perform script s

/-- The commands since the log was last looked at, and the server with an empty log. -/
def takeLog (s : Server) : List Command × Server := (s.log, { s with log := [] })

end Server

/-! ## 3. Calls -/

/-- The number of 64 bits that a value writes. -/
def number? (t : Text) : Option Int :=
  (Text.integer? t).filter Signed64.holds

/-- The time that a number stands for. -/
def decode (n : Int) : Except KeyValueFailure Instant :=
  match Instant.ofSeconds? n with
  | some t => .ok t
  | none => .error (.outOfRange n)

/-- Gives up if the server says nothing. -/
def whenAnswering {α : Type} (c : Client) (s : Server) (call : Except KeyValueFailure α × Server) :
    Except KeyValueFailure α × Server :=
  if s.stall = .never then call else (.error (.timeout c.timeoutMilliseconds), s)

/-- The record of a key. -/
def get (c : Client) (k : Key) (s : Server) : Except KeyValueFailure (Option Record) × Server :=
  whenAnswering c s <|
    match s.perform (.get (c.keyText k)) with
    | (none, s) => (.ok none, s)
    | (some t, s) =>
      match number? t with
      | none => (.error .server, s)
      | some n => ((decode n).map fun t => some ⟨t⟩, s)

/-- The claim that the answer of the script stands for. -/
def claimOf (now : Instant) : List Int → Except KeyValueFailure Claim
  | [0] => .ok .suppressed
  | [1] => .ok (.acquired now.truncate none)
  | [1, previous] => (decode previous).map fun p => .acquired now.truncate (some p)
  | reply => .error (.unexpected reply)

def claimCall (c : Client) (k : Key) (now : Instant) (interval : Interval) (s : Server) :
    Except KeyValueFailure Claim × Server :=
  whenAnswering c s <|
    match s.scripted with
    | some reply => (claimOf now reply, s)
    | none =>
      match s.run (claim (c.keyText k) now.seconds interval.wholeSeconds c.expiry) with
      | (none, s) => (.error .server, s)
      | (some reply, s) => (claimOf now reply, s)

def releaseCall (c : Client) (k : Key) (claimedAt : Instant) (previous : Option Instant)
    (s : Server) : Except KeyValueFailure Unit × Server :=
  whenAnswering c s <|
    match s.scripted with
    | some _ => (.error .server, s)
    | none =>
      let (_, s) :=
        s.run (release (c.keyText k) claimedAt.seconds (previous.map Instant.seconds) c.expiry)
      (.ok (), s)

def recordCall (c : Client) (k : Key) (now : Instant) (s : Server) :
    Except KeyValueFailure Unit × Server :=
  whenAnswering c s <|
    let (_, s) := s.run (write (c.keyText k) (Text.ofInt now.seconds) c.expiry)
    (.ok (), s)

/-- The record of a key suppresses a reply. -/
def checkCall (c : Client) (k : Key) (now : Instant) (interval : Interval) (s : Server) :
    Except KeyValueFailure Bool × Server :=
  let (record, s) := get c k s
  (record.map fun r => r.any fun r => r.suppresses now.truncate interval, s)

/-- The server as a store. -/
def store (c : Client) : Store Server KeyValueFailure where
  call
    | .check k now interval, s => checkCall c k now interval s
    | .claim k now interval, s => claimCall c k now interval s
    | .release k claimedAt previous, s => releaseCall c k claimedAt previous s
    | .record k now, s => recordCall c k now s

/-- Connects and selects a database. Number zero needs no selection. -/
def connect (c : Client) (database : Int) (s : Server) : Except KeyValueFailure Unit × Server :=
  if s.down then (.error .server, s)
  else if s.stall = .connecting then (.error (.timeout c.timeoutMilliseconds), s)
  else (.ok (), { s with selected := if database = 0 then none else some database })

end KeyValue
end Autoresponder
