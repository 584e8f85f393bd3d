import Autoresponder.Address
import Autoresponder.Text.Lowercase
import Autoresponder.Message.Inbound
import Autoresponder.Message.ForwardedSender
/-!
# Screening

Which messages are answered, and to whom (RFC 3834). A message gets no answer

1. if a program sent it, or a list or a bulk mailer, or if it asks for no answer;
2. if it names no sender, or none of the recipient's names stands in `To` or `Cc`;
3. if its sender is no address, or is the address of a program.

The rules are tried in this order, and the first that applies is the reason given.
-/

namespace Autoresponder

/-- Why a message gets no answer. -/
inductive SkipReason where
  | autoSubmitted (value : Text)
  | mailingList (fieldName : Text)
  | precedence (value : Text)
  | responseSuppressed (value : Text)
  | unknownSender
  | invalidSender (sender : Text)
  | notAddressed
  | restrictedSender (sender : Text)
  deriving DecidableEq, Repr

def SkipReason.message : SkipReason → Text
  | .autoSubmitted value => "Auto-Submitted: ".toList ++ value
  | .mailingList name => "mailing list header ".toList ++ name
  | .precedence value => "Precedence: ".toList ++ value
  | .responseSuppressed value => "X-Auto-Response-Suppress: ".toList ++ value
  | .unknownSender => "unknown sender".toList
  | .invalidSender sender => "unparseable sender ".toList ++ Text.quoted sender
  | .notAddressed => "recipient not named in To or Cc".toList
  | .restrictedSender sender => "restricted sender ".toList ++ sender

/-- The result of screening: the address to answer to, or the reason for not answering. -/
inductive Verdict where
  | reply (sender : Address)
  | skip (reason : SkipReason)
  deriving DecidableEq, Repr

namespace Screening

/-! ## 1. Mail that programs send -/

/-- What ends the keyword of a value: parameters, a comment or a blank. -/
def endsKeyword (c : Char) : Bool := c == ';' || c == '(' || Text.isBlank c

def keyword (value : Text) : Text := Text.upTo endsKeyword value

/-- A keyword of `Auto-Submitted` other than `no`. -/
def isAutomatic (value : Text) : Bool := !Text.sameFolded (keyword value) "no".toList

/-- A class of `Precedence` that bulk mailers use. -/
def isBulk (value : Text) : Bool :=
  ["junk", "bulk", "list"].any fun c => Text.sameFolded (keyword value) c.toList

/-- One of the comma-separated words asks for no answer. -/
def asksForSilence (value : Text) : Bool :=
  (Text.splitOn (· == ',') value).any fun part =>
    Text.sameFolded (Text.trim part) "oof".toList || Text.sameFolded (Text.trim part) "all".toList

/-- The reason why a program must have sent the message, if there is one. -/
def automaticReason? (m : Inbound) : Option SkipReason :=
  match m.autoSubmitted.filter isAutomatic with
  | some value => some (.autoSubmitted value)
  | none =>
    match m.listField with
    | some name => some (.mailingList name)
    | none =>
      match m.precedence.filter isBulk with
      | some value => some (.precedence value)
      | none => (m.responseSuppress.filter asksForSilence).map .responseSuppressed

/-! ## 2. Names in `To` and `Cc` -/

/-- Names are compared in small letters, with points and underscores read as spaces. -/
def foldName (s : Text) : Text :=
  Text.lowercase (s.map fun c => if c == '.' || c == '_' then ' ' else c)

/-- One of the aliases stands somewhere in a `To` or `Cc` value; blank aliases do not count. -/
def isAddressedTo (m : Inbound) (aliases : List Text) : Bool :=
  ((aliases.map foldName).filter fun a => !(Text.trim a).isEmpty).any fun a =>
    (m.recipients.map foldName).any (Text.occursIn a)

/-! ## 3. Senders that are programs -/

/-- A local part of a program, or one that a delivery command would take for an option. -/
def isRestricted (localPart : Text) : Bool :=
  Text.startsWith ['-'] localPart ||
    ["postmaster", "uucp", "mailer", "mailer-daemon"].any (·.toList == localPart) ||
    ["-request", "-relay"].any fun ending => Text.endsWith ending.toList localPart

/-- The address that a sender stands for, or why it gets no answer. -/
def resolveSender (raw : Text) : Verdict :=
  let bare := Text.trim (Address.unbracket raw)
  if bare.isEmpty then .skip (.restrictedSender "<>".toList)
  else
    match Address.parse ((ForwardedSender.undo? bare).getD bare) with
    | .error _ => .skip (.invalidSender raw)
    | .ok sender =>
      if isRestricted sender.localPart then .skip (.restrictedSender sender.text)
      else .reply sender

end Screening

/-- Decides on a message for a recipient who goes by these aliases. The envelope sender is the one
that the mail system names. -/
def Inbound.screen (m : Inbound) (envelope : Option Text) (aliases : List Text) : Verdict :=
  match Screening.automaticReason? m with
  | some reason => .skip reason
  | none =>
    match m.sender envelope with
    | none => .skip .unknownSender
    | some raw =>
      if Screening.isAddressedTo m aliases then Screening.resolveSender (Text.trim raw)
      else .skip .notAddressed

end Autoresponder
