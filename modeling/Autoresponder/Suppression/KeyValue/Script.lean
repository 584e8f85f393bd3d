import Autoresponder.Dialogue
import Autoresponder.Suppression.KeyValue.Numeral
/-!
# Server scripts

A key/value server keeps texts under keys. A claim and a release each need several commands, which
the server runs together as a script, so that nothing comes between them. A script that fails leaves
done what it has done.
-/

namespace Autoresponder.KeyValue

open Autoresponder (Text)

inductive Command where
  | get (key : Text)
  | set (key value : Text)
  /-- The value may be forgotten after some seconds. -/
  | setExpiring (key value : Text) (seconds : Nat)
  | delete (key : Text)
  deriving DecidableEq, Repr

namespace Command

def Answer : Command → Type
  | .get _ => Option Text
  | .set _ _ => Unit
  | .setExpiring _ _ _ => Unit
  | .delete _ => Unit

/-- The words of a command. -/
def words : Command → List Text
  | .get k => ["GET".toList, k]
  | .set k v => ["SET".toList, k, v]
  | .setExpiring k v n => ["SET".toList, k, v, "EX".toList, Text.ofNat n]
  | .delete k => ["DEL".toList, k]

end Command

/-- A script: commands that depend on the answers to earlier ones. -/
abbrev Script (α : Type) : Type := Dialogue Command Command.Answer α

/-- Writes a value, for ever if the number of seconds is zero. -/
def write (key value : Text) (expiry : Nat) : Script Unit :=
  if expiry = 0 then .ask (.set key value) .done
  else .ask (.setExpiring key value expiry) .done

/-- A claim. The answer is `[0]` if the value is too recent, and else `[1]` with the value before,
if there was one. It has no answer if that value is no number. -/
def claim (key : Text) (now interval : Int) (expiry : Nat) : Script (Option (List Int)) :=
  .ask (.get key) fun (last : Option Text) =>
    match last with
    | none => (write key (Text.ofInt now) expiry).bind fun () => .done (some [1])
    | some t =>
      match Numeral.read? t with
      | none => .done none
      | some x =>
        if ((Binary64.ofInt now).sub x).lt (Binary64.ofInt interval) then .done (some [0])
        else (write key (Text.ofInt now) expiry).bind fun () =>
          .done (some [1, Numeral.toInteger x])

/-- A release. It does nothing unless the value is the text that the claim has written. -/
def release (key : Text) (claimedAt : Int) (previous : Option Int) (expiry : Nat) : Script Int :=
  .ask (.get key) fun (current : Option Text) =>
    if current ≠ some (Text.ofInt claimedAt) then .done 0
    else
      match previous with
      | none => .ask (.delete key) fun () => .done 1
      | some p => (write key (Text.ofInt p) expiry).bind fun () => .done 1

end Autoresponder.KeyValue
