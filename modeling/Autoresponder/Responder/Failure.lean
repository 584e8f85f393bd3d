import Autoresponder.Delivery
import Autoresponder.Directory.Protocol
import Autoresponder.Message.Inbound
import Autoresponder.Settings
import Autoresponder.Suppression.Backend
/-!
# Failures

Why a message was neither answered nor left unanswered on purpose, and the exit status for each
reason. What may succeed later has the status for temporary failures, so that the mail system keeps
the message; a wrong recipient and a malformed message have their own, and a failed delivery passes
on the status of the command.
-/

namespace Autoresponder

/-- Why no policy was found. -/
inductive LookupFailure where
  | directory (e : Directory.Failure)
  /-- A lookup that was meant to fail. -/
  | injected (message : Text)
  deriving DecidableEq, Repr

def LookupFailure.message? : LookupFailure → Option Text
  | .directory e => e.message?
  | .injected message => some message

inductive Failure where
  | settings
  | missingSection (e : Settings.MissingSection)
  | recipient (e : AddressError)
  | message (e : MessageError)
  | lookup (e : LookupFailure)
  | store (e : StoreFailure)
  | delivery (e : DeliveryFailure)
  deriving DecidableEq, Repr

namespace Failure

/-- What is known of a failure. -/
def message? : Failure → Option Text
  | .settings => none
  | .missingSection e => some e.message
  | .recipient e => some ("invalid recipient: ".toList ++ e.message)
  | .message e => some e.message
  | .lookup e => e.message?.map fun m => "policy lookup failed: ".toList ++ m
  | .store e => e.message?.map fun m => "suppression store failed: ".toList ++ m
  | .delivery e => some e.message

/-- The exit status for a wrong command line or recipient. -/
def usage : Int := 64

/-- The exit status for a malformed message. -/
def badData : Int := 65

/-- The exit status of a failure. -/
def exitStatus : Failure → Int
  | .recipient _ => usage
  | .message _ => badData
  | .delivery e => e.exitStatus
  | .settings => DeliveryFailure.temporary
  | .missingSection _ => DeliveryFailure.temporary
  | .lookup _ => DeliveryFailure.temporary
  | .store _ => DeliveryFailure.temporary

end Failure
end Autoresponder
