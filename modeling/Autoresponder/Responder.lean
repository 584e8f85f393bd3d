import Autoresponder.Dialogue
import Autoresponder.Message.Screening
import Autoresponder.Policy
import Autoresponder.Reply.Compose
import Autoresponder.Responder.Failure
/-!
# The responder

What happens to one message for one recipient.

1. The policy of the recipient and the message itself decide whether the message is to be answered,
   and whom (`judge`). Until then nothing is written anywhere.
2. An answer is claimed, delivered, and then recorded. The claim is released if the delivery fails.
3. A record that cannot be written or released does not change the outcome: the reply is on its way,
   or it is not.

The responder asks for everything that it needs (`Question`); who answers is left open. So is which
character sets a message may be written in (`Charsets`).
-/

namespace Autoresponder

/-- What becomes of a message, unless something fails. -/
inductive Outcome where
  /-- The recipient is not away. -/
  | inactive
  /-- The message is of a kind that gets no answer. -/
  | ignored (reason : SkipReason)
  /-- The sender has been answered recently. -/
  | suppressed
  | sent
  deriving DecidableEq, Repr

/-- A message for a recipient, and the sender that the mail system names. -/
structure Incoming where
  recipient : Address
  envelope : Option Text := none
  message : Bytes

namespace Responder

/-- What the responder asks for. -/
inductive Question where
  | resolve (recipient : Address) (now : Instant)
  | store (c : StoreCall)
  | deliver (recipient : Address) (message : Text)

def Question.Answer : Question → Type
  | .resolve _ _ => Except LookupFailure Policy
  | .store c => Except StoreFailure c.Answer
  | .deliver _ _ => Except DeliveryFailure Unit

abbrev Conversation (α : Type) : Type := Dialogue Question Question.Answer α

end Responder

/-- A responder answers a sender once in an interval, and adds its domain to recipients without
one. -/
structure Responder where
  interval : Interval
  domain : Text

namespace Responder

/-! ## 1. Deciding -/

/-- What a policy and a message lead to. -/
inductive Judgement where
  | leave (outcome : Outcome)
  | answer (sender : Address) (cited : Citation)
  deriving DecidableEq, Repr

/-- Decides about a message. A message that does not matter is not read. -/
def judge [Charsets] (policy : Policy) (m : Incoming) (now : Instant) :
    Except MessageError Judgement :=
  if !policy.isActiveAt now then .ok (.leave .inactive)
  else
    match Inbound.parse m.message with
    | .error e => .error e
    | .ok inbound =>
      match inbound.screen m.envelope policy.aliases with
      | .skip reason => .ok (.leave (.ignored reason))
      | .reply sender => .ok (.answer sender inbound.citation)

/-! ## 2. Answering -/

/-- Delivers a reply that has been claimed. -/
def deliver (key : Key) (sender : Address) (reply : Text) (now claimedAt : Instant)
    (previous : Option Instant) : Conversation (Except Failure Outcome) :=
  .ask (.deliver sender reply) fun
    | .error e =>
      .ask (.store (.release key claimedAt previous)) fun _ => .done (.error (.delivery e))
    | .ok () => .ask (.store (.record key now)) fun _ => .done (.ok .sent)

/-- Answers a sender who has not been answered recently. -/
def answer (r : Responder) (policy : Policy) (recipient sender : Address) (cited : Citation)
    (now : Instant) : Conversation (Except Failure Outcome) :=
  let key := Key.of sender recipient
  .ask (.store (.check key now r.interval)) fun
    | .error e => .done (.error (.store e))
    | .ok true => .done (.ok .suppressed)
    | .ok false =>
      .ask (.store (.claim key now r.interval)) fun
        | .error e => .done (.error (.store e))
        | .ok .suppressed => .done (.ok .suppressed)
        | .ok (.acquired claimedAt previous) =>
          let reply := (Reply.compose policy sender recipient cited r.domain).render
          deliver key sender reply now claimedAt previous

/-! ## 3. Whole messages -/

/-- What becomes of a message. -/
def process [Charsets] (r : Responder) (m : Incoming) (now : Instant) :
    Conversation (Except Failure Outcome) :=
  let recipient := m.recipient.qualify r.domain
  .ask (.resolve recipient now) fun
    | .error e => .done (.error (.lookup e))
    | .ok policy =>
      match judge policy m now with
      | .error e => .done (.error (.message e))
      | .ok (.leave outcome) => .done (.ok outcome)
      | .ok (.answer sender cited) => r.answer policy recipient sender cited now

end Responder
end Autoresponder
