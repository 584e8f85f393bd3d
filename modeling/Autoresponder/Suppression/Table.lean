import Autoresponder.Binary64
import Autoresponder.Dictionary
import Autoresponder.Signed64
import Autoresponder.Suppression.Store
/-!
# The table of last replies

A table with a row for each key. A row holds the second of the last reply as a number of 64 bits;
other programs may have put something else there.

1. `get` reads a record. A cell that is no whole number cannot be read, and a number may lie beyond
   the times that there are.
2. A check reads the record; a claim compares whole seconds, with the difference taken in 64 bits,
   and writes its own second in the same step.
3. A release restores or removes a row only if the row still holds the claimed second.
4. While another connection writes, nothing can be written here; everything can be read.
-/

namespace Autoresponder

/-- What a row holds. -/
inductive Cell where
  | seconds (n : Int64)
  /-- A text, or a number with a fraction. -/
  | other (t : Text)
  deriving DecidableEq, Repr

inductive TableFailure where
  /-- The database refused: it is locked, or a cell has the wrong type. -/
  | database
  /-- A number stands for no time. -/
  | outOfRange (n : Int64)
  /-- The directory of the database cannot be made. -/
  | directory (path reason : Text)
  deriving DecidableEq, Repr

def TableFailure.message? : TableFailure → Option Text
  | .database => none
  | .outOfRange n => some ("stored timestamp out of range: ".toList ++ Text.ofInt n.toInt)
  | .directory path reason =>
    some ("cannot prepare database directory ".toList ++ path ++ ": ".toList ++ reason)

structure Table where
  rows : Dictionary Key Cell := []
  /-- Another connection is writing. -/
  locked : Bool := false

namespace Cell

/-- The blanks that a number in a text may stand between. -/
def isSpace (c : Char) : Bool := c == ' ' || (9 ≤ c.toNat && c.toNat ≤ 13)

/-- A character of a decimal numeral. -/
def inNumeral (c : Char) : Bool :=
  Text.isDigit c || c == '+' || c == '-' || c == '.' || c == 'e' || c == 'E'

/-- The whole number that a numeral with a point or an exponent writes, if it is above the least
number of 64 bits. -/
def wholeOfReal? (body : Text) : Option Int :=
  if body.all inNumeral then
    ((Binary64.ofText? body).bind Binary64.whole?).filter (Signed64.least < ·)
  else none

/-- What becomes of a text in a column of whole numbers: a number, if the text writes a number of 64
bits and loses nothing by it. -/
def ofText (t : Text) : Cell :=
  let body := Text.dropEndWhile isSpace (t.dropWhile isSpace)
  match ((Text.integer? body).or (wholeOfReal? body)).filter Signed64.holds with
  | some n => .seconds (Int64.ofInt n)
  | none => .other t

end Cell

namespace Table

/-! ## 1. Reading -/

/-- The number in a row. -/
def read (t : Table) (k : Key) : Except TableFailure (Option Int64) :=
  match Dictionary.find? k t.rows with
  | none => .ok none
  | some (.seconds n) => .ok (some n)
  | some (.other _) => .error .database

/-- The time that a number stands for. -/
def decode (n : Int64) : Except TableFailure Instant :=
  match Instant.ofSeconds? n.toInt with
  | some t => .ok t
  | none => .error (.outOfRange n)

/-- As `decode`, for a number that may be missing. -/
def decode? : Option Int64 → Except TableFailure (Option Instant)
  | none => .ok none
  | some n => (decode n).map some

/-- The number that stands for a time. The fraction of the second is lost. -/
def encode (t : Instant) : Int64 := Int64.ofInt t.seconds

/-- The record of a key. -/
def get (t : Table) (k : Key) : Except TableFailure (Option Record) :=
  match t.read k with
  | .error e => .error e
  | .ok n => (decode? n).map (Option.map Record.mk)

/-! ## 2. Writing -/

def write (k : Key) (n : Int64) (t : Table) : Table :=
  { t with rows := Dictionary.put k (.seconds n) t.rows }

def remove (k : Key) (t : Table) : Table := { t with rows := Dictionary.erase k t.rows }

/-- The second of the last reply is too close for another one. -/
def blocks (last : Option Int64) (now interval : Int64) : Bool :=
  last.any fun last => now - last < interval

/-- A claim: nothing is written for a key that cannot be read or that a record blocks. -/
def claim (k : Key) (now : Instant) (interval : Interval) (t : Table) :
    Except TableFailure Claim × Table :=
  if t.locked then (.error .database, t)
  else
    match t.read k with
    | .error e => (.error e, t)
    | .ok last =>
      if blocks last (encode now) (Int64.ofInt interval.wholeSeconds) then (.ok .suppressed, t)
      else ((decode? last).map (Claim.acquired now.truncate), t.write k (encode now))

/-- Takes a claim back, unless the row has changed since. -/
def release (k : Key) (claimedAt : Instant) (previous : Option Instant) (t : Table) :
    Except TableFailure Unit × Table :=
  if t.locked then (.error .database, t)
  else if Dictionary.find? k t.rows = some (.seconds (encode claimedAt)) then
    match previous with
    | some p => (.ok (), t.write k (encode p))
    | none => (.ok (), t.remove k)
  else (.ok (), t)

def record (k : Key) (now : Instant) (t : Table) : Except TableFailure Unit × Table :=
  if t.locked then (.error .database, t) else (.ok (), t.write k (encode now))

/-- The record of a key suppresses a reply. Whole seconds are compared with the exact interval. -/
def check (k : Key) (now : Instant) (interval : Interval) (t : Table) : Except TableFailure Bool :=
  (t.get k).map fun r => r.any fun r => r.suppresses now.truncate interval

/-! ## 3. The store -/

/-- The table as a store. -/
def store : Store Table TableFailure where
  call
    | .check k now interval, t => (t.check k now interval, t)
    | .claim k now interval, t => t.claim k now interval
    | .release k claimedAt previous, t => t.release k claimedAt previous
    | .record k now, t => t.record k now

/-- Connecting writes the layout of the table. -/
def connect (t : Table) : Except TableFailure Unit × Table :=
  (if t.locked then .error .database else .ok (), t)

end Table
end Autoresponder
