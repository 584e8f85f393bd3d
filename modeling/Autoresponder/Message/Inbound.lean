import Autoresponder.Message.EncodedWord
/-!
# Inbound messages

The facts about a message that decide whether it is answered, and those that the answer refers to.
All of them stand in the header block, or in the envelope line `From sender date` that mailbox files
put before it.

* `Inbound.ofFields` reads the facts off the fields. Where a field is repeated the first one counts,
  except for the recipients, of which every one counts.
* `Inbound.parse` reads a whole message; its body does not matter.
* `Inbound.sender` is where an answer goes: the sender that the mail system names, or else the one
  of the envelope line, or else the return path.
-/

namespace Autoresponder

/-- What an answer repeats of the message that it answers. -/
structure Citation where
  subject : Text := []
  messageId : Option Text := none
  inReplyTo : Option Text := none
  references : Option Text := none
  deriving DecidableEq, Repr

structure Inbound where
  citation : Citation := {}
  /-- The sender of the envelope line. -/
  envelopeLine : Option Text := none
  returnPath : Option Text := none
  autoSubmitted : Option Text := none
  /-- The name of the first field that only mailing lists write. -/
  listField : Option Text := none
  precedence : Option Text := none
  responseSuppress : Option Text := none
  /-- The values of all fields `To`, and then of all fields `Cc`. -/
  recipients : List Text := []
  deriving DecidableEq, Repr

/-- Why a message cannot be read. -/
inductive MessageError where
  | header (cause : HeaderError)
  deriving DecidableEq, Repr

def MessageError.message : MessageError → Text
  | .header cause => "malformed message header: ".toList ++ cause.message

namespace Inbound

/-! ## 1. Fields -/

/-- The value of the first field of a name, without the blanks around it. -/
def first? [Charsets] (fields : List Field) (name : String) : Option Text :=
  (fields.find? (·.isNamed name.toList)).map fun f => Text.trim f.valueText

/-- The values of all fields of a name. -/
def all [Charsets] (fields : List Field) (name : String) : List Text :=
  (fields.filter (·.isNamed name.toList)).map Field.valueText

/-- The field names that start so belong to mailing lists. -/
def listStart : Text := ['l', 'i', 's', 't', '-']

def isListField (f : Field) : Bool :=
  Text.sameFolded (f.nameText.take listStart.length) listStart

def ofFields [Charsets] (fields : List Field) : Inbound where
  citation :=
    { subject := (first? fields "Subject").getD []
      messageId := first? fields "Message-ID"
      inReplyTo := first? fields "In-Reply-To"
      references := first? fields "References" }
  returnPath := first? fields "Return-Path"
  autoSubmitted := first? fields "Auto-Submitted"
  listField := (fields.find? isListField).map Field.nameText
  precedence := first? fields "Precedence"
  responseSuppress := first? fields "X-Auto-Response-Suppress"
  recipients := all fields "To" ++ all fields "Cc"

/-! ## 2. The envelope line -/

/-- What an envelope line starts with, in whatever case. -/
def envelopeStart : Bytes := [70, 114, 111, 109, 32]

/-- A byte with an ASCII capital made small. -/
def foldByte (b : UInt8) : UInt8 := if 65 ≤ b && b ≤ 90 then b + 32 else b

/-- The sender of an envelope line in front of the message, and the message behind that line. -/
def splitEnvelopeLine (message : Bytes) : Option Text × Bytes :=
  if (message.take envelopeStart.length).map foldByte == envelopeStart.map foldByte then
    let rest := message.drop envelopeStart.length
    let line := rest.takeWhile (· != Field.lineFeed)
    ((Text.words (Utf8.decodeLossy line)).head?, (rest.dropWhile (· != Field.lineFeed)).drop 1)
  else (none, message)

/-! ## 3. Whole messages -/

def parse [Charsets] (message : Bytes) : Except MessageError Inbound :=
  let (envelopeLine, rest) := splitEnvelopeLine message
  match HeaderBlock.parse rest with
  | .ok block => .ok { ofFields block.fields with envelopeLine := envelopeLine }
  | .error e => .error (.header e)

/-- Where an answer would go. -/
def sender (m : Inbound) (envelope : Option Text) : Option Text :=
  (envelope.or m.envelopeLine).or m.returnPath

end Inbound
end Autoresponder
