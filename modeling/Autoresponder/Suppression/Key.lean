import Autoresponder.Address
import Autoresponder.Text.Utf8
import Autoresponder.Digest.Sha256
/-!
# Suppression keys

A key names one ordered pair of correspondents: the recipient who is away, and the sender who gets
the reply. The recipient stands in the key in full. The sender stands there as the first eight bytes
of a digest in hexadecimal, so that keys stay short and printable whatever a sender is called.
-/

namespace Autoresponder

/-- The name under which a store keeps the last reply to a correspondent. -/
structure Key where
  text : Text
  deriving DecidableEq, Repr

namespace Key

/-- Two hexadecimal digits for each byte. -/
def hex (bytes : Bytes) : Text :=
  bytes.flatMap fun b => [Text.hexDigit (b.toNat / 16), Text.hexDigit (b.toNat % 16)]

/-- The first eight bytes of the digest of an address. -/
def fingerprint (sender : Address) : Bytes :=
  (Sha256.digest (Utf8.encode sender.text)).take 8

/-- The key of replies from `recipient` to `sender`. -/
def of (sender recipient : Address) : Key :=
  ⟨"user:".toList ++ recipient.text ++ ':' :: hex (fingerprint sender)⟩

end Key
end Autoresponder
