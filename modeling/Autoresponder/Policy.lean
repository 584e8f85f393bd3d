import Autoresponder.Text
import Autoresponder.Time
/-!
# Vacation policies

What the responder has to know about a recipient: whether they are away, for how long, under which
names they are written to, and what the reply says.

1. A window includes both its bounds; a missing bound does not limit it.
2. A policy applies when its flag is set and the time lies in its window (`Policy.isActiveAt`).
3. `Policy.bodyLines` are the lines of the message, or of a fixed message where the policy has none.
-/

namespace Autoresponder

/-- A range of time that may be open on either side. -/
structure Window where
  start : Option Instant := none
  finish : Option Instant := none
  deriving DecidableEq, Repr

namespace Window

def unbounded : Window := {}

def contains (w : Window) (now : Instant) : Bool :=
  w.start.all (fun start => start.le now) && w.finish.all (fun finish => now.le finish)

end Window

/-- What is known about a recipient when a message arrives. -/
structure Policy where
  active : Bool := false
  /-- The recipient is a group and not a person. -/
  isGroup : Bool := false
  displayName : Option Text := none
  /-- A message of the recipient's own. -/
  body : Option Text := none
  window : Window := {}
  /-- The names that a message may call the recipient by. -/
  aliases : List Text := []
  deriving DecidableEq, Repr

namespace Policy

/-- The policy of somebody who is not away. -/
def inactive : Policy := {}

def isActiveAt (p : Policy) (now : Instant) : Bool := p.active && p.window.contains now

/-- The message of a recipient who has set none. -/
def defaultMessage : Text :=
  "I am currently out of email contact.\nYour mail will be read when I return.".toList

def bodyLines (p : Policy) : List Text := Text.lines (p.body.getD defaultMessage)

end Policy

end Autoresponder
