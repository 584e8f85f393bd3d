import Autoresponder.Text
import Autoresponder.Time.Calendar
/-!
# Generalized time

The time syntax of directories: `20240601120000Z`. The year has four digits and everything after it
two; minutes and seconds may be left out. What follows a point or a comma is not read. The zone is
`Z`, or a sign with hours and perhaps minutes, or nothing, which means UTC.
-/

namespace Autoresponder.GeneralizedTime

/-- An offset from UTC in seconds, from its two or four digits: less than a day. -/
def zoneOffset? (sign : Char) (digits : Text) : Option Int :=
  if !digits.all Text.isDigit then none
  else
    let parts :=
      if digits.length = 2 then some (Text.digitsValue digits, 0)
      else if digits.length = 4 then
        some (Text.digitsValue (digits.take 2), Text.digitsValue (digits.drop 2))
      else none
    match parts with
    | none => none
    | some (hours, minutes) =>
      let size : Int := hours * 3600 + minutes * 60
      if size < secondsPerDay then some (if sign == '-' then -size else size) else none

/-- The part before the zone, and the offset of the zone. -/
def splitZone? (s : Text) : Option (Text × Int) :=
  match (Text.dropSuffix? ['Z'] s).or (Text.dropSuffix? ['z'] s) with
  | some rest => some (rest, 0)
  | none =>
    match Text.breakLast? (fun c => c == '+' || c == '-') s with
    | none => some (s, 0)
    | some (rest, sign, zone) => (zoneOffset? sign zone).map fun offset => (rest, offset)

/-- The digits of a time, filled up to seconds. -/
def padded? (digits : Text) : Option Text :=
  if !digits.all Text.isDigit then none
  else if digits.length = 10 then some (digits ++ ['0', '0', '0', '0'])
  else if digits.length = 12 then some (digits ++ ['0', '0'])
  else if digits.length = 14 then some digits
  else none

/-- The clock time that fourteen digits spell. -/
def civil (digits : Text) : CivilTime :=
  let number (start count : Nat) : Nat := Text.digitsValue ((digits.drop start).take count)
  ⟨⟨number 0 4, number 4 2, number 6 2⟩, number 8 2, number 10 2, number 12 2⟩

/-- The instant that a text denotes, if it denotes one. -/
def parse? (s : Text) : Option Instant :=
  match splitZone? (Text.trim s) with
  | none => none
  | some (rest, offset) =>
    match padded? (Text.upTo (fun c => c == '.' || c == ',') rest) with
    | none => none
    | some digits => (civil digits).instant? offset

end Autoresponder.GeneralizedTime
