import Autoresponder.Time
/-!
# Suppression records

A record holds the time of the last reply to a correspondent. It suppresses further replies from
that time until an interval has passed: the instant at which the interval ends is free again.
-/

namespace Autoresponder

/-- When a correspondent was last answered. -/
structure Record where
  lastSent : Instant
  deriving DecidableEq, Repr

/-- The interval since the last reply is not over. A clock that went back does not end it. -/
def Record.suppresses (r : Record) (now : Instant) (interval : Interval) : Bool :=
  now.since r.lastSent < interval.nanoseconds

end Autoresponder
