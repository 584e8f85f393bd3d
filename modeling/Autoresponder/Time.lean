/-!
# Instants and intervals

An instant is a UTC second, counted from 1970-01-01, and a fraction of it in nanoseconds. A leap
second is written as a fraction of one second or more in the last second of a minute.

1. Instants are ordered by their second and then by their fraction (`Instant.le`).
2. `Instant.since` is the exact number of nanoseconds from one instant to another. A leap second
   counts as a second of its own when the later time of day lies behind it.
3. An interval is an exact number of nanoseconds within bounds that whole milliseconds of 64 bits
   allow; `Interval.ofSeconds` saturates at the upper bound.
-/

namespace Autoresponder

def nanosPerSecond : Nat := 1000000000

def secondsPerDay : Int := 86400

/-! ## Instants -/

/-- The first second that an instant can have: the start of the year −262143. -/
def Instant.firstSecond : Int := -8334601228800

/-- The last second that an instant can have: the end of the year 262142. -/
def Instant.lastSecond : Int := 8210266876799

/-- Seconds and nanoseconds that make an instant. -/
def Instant.Valid (seconds : Int) (nanos : Nat) : Prop :=
  Instant.firstSecond ≤ seconds ∧ seconds ≤ Instant.lastSecond ∧
    nanos < 2 * nanosPerSecond ∧ (nanosPerSecond ≤ nanos → seconds % 60 = 59)

instance (seconds : Int) (nanos : Nat) : Decidable (Instant.Valid seconds nanos) := by
  unfold Instant.Valid
  exact inferInstance

/-- A point in time. -/
structure Instant where
  seconds : Int
  nanos : Nat
  valid : Instant.Valid seconds nanos
  deriving DecidableEq, Repr

namespace Instant

/-- The instant with these parts, if there is one. -/
def of? (seconds : Int) (nanos : Nat) : Option Instant :=
  if h : Valid seconds nanos then some ⟨seconds, nanos, h⟩ else none

/-- The start of a second, if it is in range. -/
def ofSeconds? (seconds : Int) : Option Instant := of? seconds 0

theorem valid_zero {seconds : Int} {nanos : Nat} (h : Valid seconds nanos) : Valid seconds 0 :=
  ⟨h.1, h.2.1, by decide, fun h => absurd h (by decide)⟩

/-- The start of the second that the instant lies in. -/
def truncate (t : Instant) : Instant := ⟨t.seconds, 0, valid_zero t.valid⟩

def le (a b : Instant) : Bool :=
  a.seconds < b.seconds || (a.seconds == b.seconds && a.nanos ≤ b.nanos)

/-- The second of the day. -/
def timeOfDay (t : Instant) : Int := t.seconds % secondsPerDay

def inLeapSecond (t : Instant) : Bool := nanosPerSecond ≤ t.nanos

/-- The leap second that the difference of two clock readings does not see: one more second if the
    earlier time of day is in a leap second, one less if the later date has the earlier time of day
    and that is in a leap second. -/
def leapSeconds (now last : Instant) : Int :=
  if last.timeOfDay < now.timeOfDay then (if last.inLeapSecond then 1 else 0)
  else if now.timeOfDay < last.timeOfDay then (if now.inLeapSecond then -1 else 0)
  else 0

/-- The nanoseconds from `last` to `now`. -/
def since (now last : Instant) : Int :=
  (now.seconds - last.seconds + leapSeconds now last) * nanosPerSecond +
    ((now.nanos : Int) - last.nanos)

end Instant

/-! ## Intervals -/

/-- The longest interval: 2⁶³ − 1 milliseconds. The shortest is its negative. -/
def Interval.bound : Int := 9223372036854775807000000

/-- A signed length of time. -/
structure Interval where
  nanoseconds : Int
  inRange : -Interval.bound ≤ nanoseconds ∧ nanoseconds ≤ Interval.bound
  deriving DecidableEq, Repr

namespace Interval

def longest : Interval := ⟨bound, by decide⟩

def zero : Interval := ⟨0, by decide⟩

/-- The interval of that many nanoseconds, if it is in range. -/
def ofNanoseconds? (n : Int) : Option Interval :=
  if h : -bound ≤ n ∧ n ≤ bound then some ⟨n, h⟩ else none

/-- The interval of that many seconds, or the longest interval if there is none so long. -/
def ofSeconds (n : Nat) : Interval :=
  (ofNanoseconds? ((n : Int) * nanosPerSecond)).getD longest

/-- The whole seconds of an interval; the fraction is dropped toward zero. -/
def wholeSeconds (d : Interval) : Int := Int.tdiv d.nanoseconds nanosPerSecond

/-- The nanoseconds that `wholeSeconds` drops; they have the sign of the interval. -/
def fraction (d : Interval) : Int := Int.tmod d.nanoseconds nanosPerSecond

end Interval
end Autoresponder
