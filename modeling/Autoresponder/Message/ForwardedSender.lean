import Autoresponder.Text.Utf8
/-!
# Senders of forwarded messages

A forwarder that follows the scheme SRS puts its own domain into the sender of a message:
`local@domain` becomes `SRS0=hash=stamp=domain=local@forwarder`, and a second forwarder makes
`SRS1=hash=forwarder==hash=stamp=domain=local@second` of it. `ForwardedSender.undo?` gives the
sender back who wrote the message. Hash and stamp are not checked: only the forwarder could.
-/

namespace Autoresponder.ForwardedSender

def isSeparator (c : Char) : Bool := c == '=' || c == '-' || c == '+'

/-- The part of a sender in this form that starts with the hash of the first forwarder. -/
def hashed? (s : Text) : Option Text :=
  match s with
  | a :: b :: c :: level :: separator :: rest =>
    if Utf8.width s ≤ 13 || !Text.sameFolded [a, b, c] ['s', 'r', 's'] ||
      !isSeparator separator then
      none
    else if level == '0' then some rest
    else if level == '1' then (Text.breakOn? ['=', '='] s).map Prod.snd
    else none
  | _ => none

/-- The parts before the first three `=`, of which the first two are hash and stamp, and the part
behind them. -/
def domainAndTail? (s : Text) : Option (Text × Text) :=
  match Text.breakOn? ['='] s with
  | none => none
  | some (_, s₁) =>
    match Text.breakOn? ['='] s₁ with
    | none => none
    | some (_, s₂) => Text.breakOn? ['='] s₂

/-- The sender who wrote the message, and `none` for every text that is not in this form. -/
def undo? (s : Text) : Option Text :=
  match (hashed? s).bind domainAndTail? with
  | none => none
  | some (domain, tail) =>
    let localPart := match Text.breakLast? (· == '@') tail with
      | some (before, _, _) => before
      | none => tail
    if domain.isEmpty || localPart.isEmpty then none else some (localPart ++ '@' :: domain)

end Autoresponder.ForwardedSender
