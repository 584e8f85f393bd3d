import Autoresponder.Text
import Autoresponder.Time.Calendar
/-!
# Dates and times in files

The dates and times of RFC 3339 with parts left out: a date, a time of day, both, or both with an
offset from UTC. A setting that is written so is read as its canonical text (`Timestamp.text`): a
`T` between date and time, and no needless zeros at the end of a fraction.
-/

namespace Autoresponder.Settings

/-- A time of day. The fraction of the second is kept as its digits. -/
structure ClockTime where
  hour : Nat
  minute : Nat
  second : Nat
  fraction : Text
  deriving DecidableEq, Repr

/-- How far a clock is ahead of UTC. -/
inductive Offset where
  | utc
  | minutes (behind : Bool) (n : Nat)
  deriving DecidableEq, Repr

structure Timestamp where
  date : Option Date
  time : Option ClockTime
  offset : Option Offset
  deriving DecidableEq, Repr

namespace Timestamp

/-! ## Reading -/

/-- A number of exactly `count` digits, within bounds, and the text behind it. -/
def number? (count low high : Nat) (s : Text) : Option (Nat × Text) :=
  let digits := s.take count
  let n := Text.digitsValue digits
  if digits.length = count && digits.all Text.isDigit && low ≤ n && n ≤ high then
    some (n, s.drop count)
  else none

/-- The text behind one character of a class. -/
def mark? (p : Char → Bool) : Text → Option Text
  | c :: s => if p c then some s else none
  | [] => none

def date? (s : Text) : Option (Date × Text) := do
  let (year, s) ← number? 4 0 9999 s
  let s ← mark? (· == '-') s
  let (month, s) ← number? 2 1 12 s
  let s ← mark? (· == '-') s
  let (day, s) ← number? 2 1 31 s
  if Date.Valid ⟨year, month, day⟩ then some (⟨year, month, day⟩, s) else none

/-- The digits of a fraction behind its point; without a point there are none. -/
def fraction? : Text → Option (Text × Text)
  | '.' :: s =>
    let digits := s.takeWhile Text.isDigit
    if digits.isEmpty then none else some (digits, s.dropWhile Text.isDigit)
  | s => some ([], s)

def time? (s : Text) : Option (ClockTime × Text) := do
  let (hour, s) ← number? 2 0 23 s
  let s ← mark? (· == ':') s
  let (minute, s) ← number? 2 0 59 s
  let s ← mark? (· == ':') s
  let (second, s) ← number? 2 0 60 s
  let (fraction, s) ← fraction? s
  some (⟨hour, minute, second, fraction⟩, s)

/-- The offset that makes up a whole text; the empty text has none. -/
def offset? : Text → Option (Option Offset)
  | [] => some none
  | ['Z'] => some (some .utc)
  | ['z'] => some (some .utc)
  | sign :: s => do
    if sign != '+' && sign != '-' then none
    else
      let (hours, s) ← number? 2 0 23 s
      let s ← mark? (· == ':') s
      let (minutes, s) ← number? 2 0 59 s
      if s.isEmpty then some (some (.minutes (sign == '-') (60 * hours + minutes))) else none

/-- The date or time that a whole text denotes. -/
def parse? (s : Text) : Option Timestamp :=
  match date? s with
  | some (date, []) => some ⟨some date, none, none⟩
  | some (date, rest) => do
    let rest ← mark? (fun c => c == 'T' || c == 't' || c == ' ') rest
    let (time, rest) ← time? rest
    let offset ← offset? rest
    some ⟨some date, some time, offset⟩
  | none =>
    match time? s with
    | some (time, []) => some ⟨none, some time, none⟩
    | _ => none

/-! ## Writing -/

/-- A number with zeros in front up to a width. -/
def padded (width n : Nat) : Text :=
  let digits := Text.ofNat n
  List.replicate (width - digits.length) '0' ++ digits

/-- Nanoseconds are the finest part that is kept. -/
def fractionText (digits : Text) : Text :=
  let kept := Text.dropEndWhile (· == '0') (digits.take 9)
  if kept.isEmpty then [] else '.' :: kept

def dateText (d : Date) : Text :=
  padded 4 d.year ++ '-' :: padded 2 d.month ++ '-' :: padded 2 d.day

def timeText (t : ClockTime) : Text :=
  padded 2 t.hour ++ ':' :: padded 2 t.minute ++ ':' :: padded 2 t.second ++ fractionText t.fraction

/-- No offset is negative that is zero. -/
def offsetText : Offset → Text
  | .utc => ['Z']
  | .minutes behind n =>
    (if behind && n != 0 then '-' else '+') :: padded 2 (n / 60) ++ ':' :: padded 2 (n % 60)

def text (t : Timestamp) : Text :=
  (t.date.map dateText).getD [] ++ (if t.date.isSome && t.time.isSome then ['T'] else []) ++
    (t.time.map timeText).getD [] ++ (t.offset.map offsetText).getD []

end Timestamp
end Autoresponder.Settings
