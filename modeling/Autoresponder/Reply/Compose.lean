import Autoresponder.Address
import Autoresponder.Policy
import Autoresponder.Message.Inbound
import Autoresponder.Reply.Encoding
/-!
# Replies

The automatic reply to a message: its header fields in their order, and the lines of its body.

* `Reply.compose` builds it from the recipient's policy, the two addresses, and what the reply
  repeats of the message that it answers.
* `Reply.render` is the text that is delivered: a line for each field, an empty line, and the body.

Every value passes through `HeaderText.sanitize` or comes from an address, so a reply has exactly
the fields that `compose` gives it. The field `Auto-Submitted` keeps other responders from answering
it.
-/

namespace Autoresponder

structure Reply where
  headers : List (Text × Text)
  body : List Text
  deriving DecidableEq, Repr

namespace Reply

/-! ## 1. Subject and thread -/

def groupSubject : Text := "Automated Reply".toList
def personalSubject : Text := "Out of email contact".toList

/-- The subject says whose reply it is, and repeats the one of the message if there is one. -/
def subject (isGroup : Bool) (cited : Text) : Text :=
  let start := if isGroup then groupSubject else personalSubject
  let about := HeaderText.sanitize cited
  if about.isEmpty then start else start ++ " (Re: ".toList ++ about ++ [')']

/-- The thread that the message belongs to: its references, or else the message that it
answers, if it names only one. -/
def thread? (cited : Citation) : Option Text :=
  match (cited.references.map HeaderText.sanitize).filter (!·.isEmpty) with
  | some references => some references
  | none =>
    (cited.inReplyTo.map HeaderText.sanitize).filter fun s => s.countP (· == '<') == 1

/-- The references of the reply: the thread, and then the message. -/
def references (cited : Citation) (messageId : Text) : Text :=
  match thread? cited with
  | some parents => parents ++ ' ' :: messageId
  | none => messageId

/-- The fields that put the reply into the thread. There are none if the message has no
identifier. -/
def threadFields (cited : Citation) : List (Text × Text) :=
  match (cited.messageId.map HeaderText.sanitize).filter (!·.isEmpty) with
  | some messageId =>
    [("In-Reply-To".toList, messageId), ("References".toList, references cited messageId)]
  | none => []

/-! ## 2. The reply -/

/-- The recipient's address, with the display name before it if the policy has one. -/
def fromValue (policy : Policy) (recipient : Address) (domain : Text) : Text :=
  let address := (recipient.qualify domain).text
  match (policy.displayName.map HeaderText.sanitize).filter (!·.isEmpty) with
  | some name => HeaderText.displayName name ++ " <".toList ++ address ++ ['>']
  | none => address

/-- The fields that say that a program wrote the reply, and how its body is encoded. -/
def fixedFields : List (Text × Text) :=
  [("Auto-Submitted".toList, "auto-replied".toList),
    ("MIME-Version".toList, "1.0".toList),
    ("Content-Type".toList, "text/plain; charset=UTF-8".toList),
    ("Content-Transfer-Encoding".toList, "8bit".toList)]

/-- The reply that `recipient` sends to `sender`. -/
def compose (policy : Policy) (sender recipient : Address) (cited : Citation) (domain : Text) :
    Reply where
  headers :=
    [("From".toList, fromValue policy recipient domain),
      ("To".toList, sender.text),
      ("Subject".toList, HeaderText.encode (subject policy.isGroup cited.subject))] ++
      threadFields cited ++ fixedFields
  body := policy.bodyLines

/-! ## 3. The reply as text -/

/-- The value of the first field of this name, in whatever case. -/
def header? (r : Reply) (name : Text) : Option Text :=
  (r.headers.find? fun field => Text.sameFolded field.1 name).map Prod.snd

def fieldLine (field : Text × Text) : Text := field.1 ++ ": ".toList ++ field.2 ++ ['\n']

def render (r : Reply) : Text :=
  r.headers.flatMap fieldLine ++ '\n' :: Text.unlines r.body

end Reply
end Autoresponder
