import Autoresponder.Responder.Components
/-!
# Rehearsals

The responder with a chosen lookup, a backend, and an outbox in the place of the mail system. The
outbox keeps what it is given, or refuses everything with the same status.
-/

namespace Autoresponder

structure Outbox where
  /-- The status with which every delivery fails. -/
  refusal : Option Int := none
  delivered : List (Address × Text) := []

namespace Outbox

/-- What the outbox is called in reports. -/
def programName : Text := "fake".toList

def deliver (recipient : Address) (message : Text) (o : Outbox) :
    Except DeliveryFailure Unit × Outbox :=
  match o.refusal with
  | some status => (.error (.exited programName status), o)
  | none => (.ok (), { o with delivered := o.delivered ++ [(recipient, message)] })

end Outbox

structure Rehearsal where
  directory : DirectoryServer := ⟨{ service := 0 }, []⟩
  session : Backend.Session
  outbox : Outbox := {}

namespace Rehearsal

/-- Who answers the responder. The named store calls fail. -/
def components (lookup : Lookup) (failing : List Text) : Components Rehearsal where
  lookup recipient now s :=
    let (answer, directory) := lookup.resolve recipient now s.directory
    (answer, { s with directory := directory })
  store := (Backend.session failing).within Rehearsal.session fun session s =>
    { s with session := session }
  deliver recipient message s :=
    let (answer, outbox) := s.outbox.deliver recipient message
    (answer, { s with outbox := outbox })

/-- What becomes of one message, and the names of the store calls that it leads to. The outbox is
empty before. -/
def process [Charsets] (r : Responder) (lookup : Lookup) (failing : List Text)
    (refusal : Option Int) (m : Incoming) (now : Instant) (s : Rehearsal) :
    Except Failure Outcome × List Text × Rehearsal :=
  let start := { s with outbox := { refusal := refusal } }
  let serve := (components lookup failing).serve
  let (outcome, after) := Dialogue.run serve (r.process m now) start
  let calls := (Dialogue.transcript serve (r.process m now) start).filterMap fun exchange =>
    match exchange.question with
    | .store c => some c.name
    | _ => none
  (outcome, calls, after)

end Rehearsal
end Autoresponder
