import Autoresponder.Text
/-!
# Binary floating point

The numbers of IEEE 754 binary64. Every finite one is a whole multiple of 2⁻¹⁰⁷⁴, so it is kept as a
sign and a count of these units, and arithmetic is arithmetic on integers:

1. `roundUnits` rounds an exact quotient to 53 significant bits, a tie to the even neighbour;
2. `sub` and `lt` are the exact difference, rounded, and the exact comparison, `mulUnits` and
   `divUnits` the exact product and quotient, rounded;
3. `ofText?` reads a decimal numeral with one rounding;
4. `text` writes the fewest digits that read back as the same number.
-/

namespace Autoresponder

inductive Binary64 where
  | nan
  | infinite (negative : Bool)
  /-- The magnitude is `units` times 2⁻¹⁰⁷⁴. -/
  | finite (negative : Bool) (units : Nat)
  deriving DecidableEq, Repr

namespace Binary64

/-- The units of the number one. -/
def one : Nat := Nat.pow 2 1074

/-- The units of 2¹⁰²⁴, the first magnitude that is too large. -/
def overflow : Nat := Nat.pow 2 2098

/-! ## 1. Rounding -/

/-- The whole number nearest to `n / d`, the even one of two that are equally near. -/
def divEven (n d : Nat) : Nat :=
  let q := n / d
  let r := n % d
  if d < 2 * r || (2 * r == d && q % 2 == 1) then q + 1 else q

/-- The representable magnitude nearest to `n / d` units. -/
def roundUnits (n d : Nat) : Nat :=
  let unit := Nat.pow 2 ((n / d).log2 - 52)
  divEven n (d * unit) * unit

/-- The number nearest to `n / d` units with this sign. -/
def ofUnits (negative : Bool) (n d : Nat) : Binary64 :=
  let units := roundUnits n d
  if overflow ≤ units then .infinite negative else .finite negative units

def ofInt (n : Int) : Binary64 := ofUnits (n < 0) (n.natAbs * one) 1

/-! ## 2. Arithmetic -/

/-- A finite number as a signed count of units. -/
def signed (negative : Bool) (units : Nat) : Int := if negative then -units else units

def sub : Binary64 → Binary64 → Binary64
  | .nan, _ => .nan
  | _, .nan => .nan
  | .infinite s, .infinite t => if s == t then .nan else .infinite s
  | .infinite s, .finite _ _ => .infinite s
  | .finite _ _, .infinite t => .infinite !t
  | .finite s m, .finite t n =>
    let d := signed s m - signed t n
    ofUnits (d < 0) d.natAbs 1

/-- The magnitude of a product. -/
def mulUnits (m n : Nat) : Nat := roundUnits (m * n) one

/-- The magnitude of a quotient. -/
def divUnits (m n : Nat) : Nat := roundUnits (m * one) n

/-- The magnitude nearest to a power of ten. -/
def powerOfTen (e : Nat) : Nat := roundUnits (Nat.pow 10 e * one) 1

/-- Nothing is less than a NaN, and a NaN is less than nothing. -/
def lt : Binary64 → Binary64 → Bool
  | .nan, _ => false
  | _, .nan => false
  | .infinite s, .infinite t => s && !t
  | .infinite s, .finite _ _ => s
  | .finite _ _, .infinite t => !t
  | .finite s m, .finite t n => signed s m < signed t n

/-- The whole part, if the number is finite. -/
def truncate? : Binary64 → Option Int
  | .finite s units => some (signed s (units / one))
  | _ => none

/-- The number itself, if it is a whole number. -/
def whole? (x : Binary64) : Option Int :=
  match x with
  | .finite s units => if units % one = 0 then some (signed s (units / one)) else none
  | _ => none

/-- The nearest whole number, a half away from zero, within bounds. A NaN is zero. -/
def roundWithin (low high : Int) : Binary64 → Int
  | .nan => 0
  | .infinite true => low
  | .infinite false => high
  | .finite s units => max low (min high (signed s ((2 * units + one) / (2 * one))))

/-! ## 3. Reading decimals -/

/-- The number nearest to `digits` times a power of ten. Beyond 10⁴⁰⁰ every number is infinite, and
below 10⁻⁴⁰⁰ zero. -/
def ofDecimal (negative : Bool) (digits : Nat) (exponent : Int) : Binary64 :=
  let size : Int := (Nat.toDigits 10 digits).length + exponent
  if digits = 0 then .finite negative 0
  else if 400 < size then .infinite negative
  else if size < -400 then .finite negative 0
  else if 0 ≤ exponent then ofUnits negative (digits * Nat.pow 10 exponent.toNat * one) 1
  else ofUnits negative (digits * one) (Nat.pow 10 (-exponent).toNat)

/-- The value of an exponent, `e` and digits with at most one sign, and of the empty text zero. -/
def exponent? : Text → Option Int
  | [] => some 0
  | c :: s => if c == 'e' || c == 'E' then Text.integer? s else none

/-- A numeral without a sign: digits with at most one point among them, and perhaps an exponent. -/
def magnitude? (negative : Bool) (s : Text) : Option Binary64 :=
  let whole := s.takeWhile Text.isDigit
  let rest := s.dropWhile Text.isDigit
  let (part, rest) := match rest with
    | '.' :: after => (after.takeWhile Text.isDigit, after.dropWhile Text.isDigit)
    | _ => ([], rest)
  if whole.isEmpty && part.isEmpty then none
  else (exponent? rest).map fun e =>
    ofDecimal negative (Text.digitsValue (whole ++ part)) (e - part.length)

/-- Whether a numeral is negative, and what stands behind its sign. -/
def splitSign : Text → Bool × Text
  | '-' :: rest => (true, rest)
  | '+' :: rest => (false, rest)
  | s => (false, s)

/-- A numeral, or the name of infinity or of NaN in any case, with at most one sign. -/
def ofText? (s : Text) : Option Binary64 :=
  let (negative, body) := splitSign s
  if Text.sameFolded body "inf".toList || Text.sameFolded body "infinity".toList then
    some (.infinite negative)
  else if Text.sameFolded body "nan".toList then some .nan
  else magnitude? negative body

/-! ## 4. Writing decimals -/

/-- The magnitudes that round to `units` lie between these two, counted in quarters of a unit. The
distance is half a step on either side, except below a power of two, where the step is half as
long. -/
def halfSteps (units : Nat) : Nat × Nat :=
  let step := Nat.pow 2 (units.log2 - 52)
  let below := if units == Nat.pow 2 units.log2 && 53 ≤ units.log2 then step else 2 * step
  (below, 2 * step)

/-- The decimal `digits · 10^power` reads back as `units`. An end of the interval counts if the
number is the even one of the two neighbours that share it. -/
def readsBack (units : Nat) (digits : Nat) (power : Int) : Bool :=
  let (below, above) := halfSteps units
  let even := units / Nat.pow 2 (units.log2 - 52) % 2 == 0
  let (n, d) := if 0 ≤ power then (4 * digits * Nat.pow 10 power.toNat * one, 1)
    else (4 * digits * one, Nat.pow 10 (-power).toNat)
  let low := (4 * units - below) * d
  let high := (4 * units + above) * d
  if even then low ≤ n && n ≤ high else low < n && n < high

/-- The place of the first decimal digit: the number is at least 10 to this power and less than ten
times as much. -/
def leadingPower (units : Nat) : Int :=
  if one ≤ units then ((Nat.toDigits 10 (units / one)).length : Int) - 1
  else -((Nat.toDigits 10 ((one - 1) / units)).length : Int)

/-- The decimal next to `units` on the grid of multiples of `10^power`: the nearer one that reads
back, and of two equally near ones the larger. -/
def onGrid? (units : Nat) (power : Int) : Option Nat :=
  let (n, d) := if 0 ≤ power then (units, one * Nat.pow 10 power.toNat)
    else (units * Nat.pow 10 (-power).toNat, one)
  let down := n / d
  let nearUp := d ≤ 2 * (n % d)
  let candidates := if nearUp then [down + 1, down] else [down, down + 1]
  candidates.find? fun digits => readsBack units digits power

/-- The fewest digits that read back, and the power of ten of the last one. -/
def shortest (units : Nat) : Nat × Int :=
  let lead := leadingPower units
  let grids := (List.range 17).filterMap fun (i : Nat) =>
    (onGrid? units (lead - i)).map fun digits => (digits, lead - (i : Int))
  grids.headD (0, 0)

/-- Digits with a decimal point in front of the last `-power` ones; no exponent is written. -/
def positional (digits : Nat) (power : Int) : Text :=
  let ds := Text.ofNat digits
  if 0 ≤ power then ds ++ List.replicate power.toNat '0'
  else
    let places := (-power).toNat
    let padded := List.replicate (places + 1 - ds.length) '0' ++ ds
    let whole := padded.take (padded.length - places)
    let part := Text.dropEndWhile (· == '0') (padded.drop (padded.length - places))
    if part.isEmpty then whole else whole ++ '.' :: part

def text : Binary64 → Text
  | .nan => "NaN".toList
  | .infinite s => (if s then ['-'] else []) ++ "inf".toList
  | .finite s units =>
    (if s then ['-'] else []) ++
      if units = 0 then ['0']
      else
        let (digits, power) := shortest units
        positional digits power

end Binary64
end Autoresponder
