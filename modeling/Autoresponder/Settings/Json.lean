import Autoresponder.Settings.Value
/-!
# JSON files

A reader for RFC 8259 that accepts nothing beyond it. Of entries with the same name the last one
counts.

Whole numbers that 64 bits hold stay whole. All others, and minus zero, become binary floating
point, which must not overflow: the first digits make a whole number of 64 bits (`Scaled`), and that
number is multiplied with a power of ten or divided by one. Each of these steps rounds, so the last
bit may differ from that of the nearest number.
-/

namespace Autoresponder.Settings.Json

open Autoresponder (Text)

def isSpace (c : Char) : Bool := c == ' ' || c == '\t' || c == '\n' || c == '\r'

def skip (s : Text) : Text := s.dropWhile isSpace

/-- How deep arrays and objects may stand in each other. -/
def maxDepth : Nat := 127

/-! ## 1. Strings -/

/-- The number of four hexadecimal digits. -/
def hex4? (a b c d : Char) : Option Nat :=
  match Text.hexValue? a, Text.hexValue? b, Text.hexValue? c, Text.hexValue? d with
  | some a, some b, some c, some d => some (a * 4096 + b * 256 + c * 16 + d)
  | _, _, _, _ => none

/-- The character that a backslash and a letter stand for. -/
def shortEscape? : Char → Option Char
  | '"' => some '"'
  | '\\' => some '\\'
  | '/' => some '/'
  | 'b' => some '\x08'
  | 'f' => some '\x0c'
  | 'n' => some '\n'
  | 'r' => some '\r'
  | 't' => some '\t'
  | _ => none

/-- The rest of a string behind its opening quote, and the text behind its closing quote. Two
escaped surrogates make one character; a single one is refused. -/
def string? : Text → Option (Text × Text)
  | '"' :: rest => some ([], rest)
  | '\\' :: 'u' :: a :: b :: c :: d :: rest =>
    match hex4? a b c d with
    | none => none
    | some n =>
      if 0xD800 ≤ n && n < 0xDC00 then
        match rest with
        | '\\' :: 'u' :: e :: f :: g :: h :: rest₂ =>
          match hex4? e f g h with
          | none => none
          | some m =>
            if 0xDC00 ≤ m && m < 0xE000 then
              (string? rest₂).map fun (t, after) =>
                (Char.ofNat (0x10000 + (n - 0xD800) * 0x400 + (m - 0xDC00)) :: t, after)
            else none
        | _ => none
      else if 0xDC00 ≤ n && n < 0xE000 then none
      else (string? rest).map fun (t, after) => (Char.ofNat n :: t, after)
  | '\\' :: c :: rest =>
    match shortEscape? c with
    | some e => (string? rest).map fun (t, after) => (e :: t, after)
    | none => none
  | c :: rest =>
    if c.toNat < 0x20 || c == '\\' then none
    else (string? rest).map fun (t, after) => (c :: t, after)
  | [] => none

/-! ## 2. Numbers -/

def inNumber (c : Char) : Bool :=
  Text.isDigit c || c == '+' || c == '-' || c == '.' || c == 'e' || c == 'E'

def isExponent : Text → Bool
  | '+' :: s => !s.isEmpty && s.all Text.isDigit
  | '-' :: s => !s.isEmpty && s.all Text.isDigit
  | s => !s.isEmpty && s.all Text.isDigit

/-- A numeral without its sign has the form that JSON demands. -/
def isMagnitude (s : Text) : Bool :=
  let mantissa := Text.upTo (fun c => c == 'e' || c == 'E') s
  let exponent := s.drop mantissa.length
  let whole := Text.upTo (· == '.') mantissa
  let part := mantissa.drop whole.length
  Text.isWhole whole && (part.isEmpty || (1 < part.length && (part.drop 1).all Text.isDigit)) &&
    (exponent.isEmpty || isExponent (exponent.drop 1))

/-- What is read of a numeral: a whole number times a power of ten. -/
structure Scaled where
  digits : Nat
  power : Int
  deriving DecidableEq, Repr

/-- Puts digits behind a number as long as 64 bits hold the result. The second part is the digits
that are left. -/
def fill (n : Nat) : Text → Nat × Text
  | [] => (n, [])
  | c :: s =>
    let m := 10 * n + (c.toNat - '0'.toNat)
    if m < UInt64.size then fill m s else (n, c :: s)

/-- Reads the digits before and behind the point. Digits that do not fit any more count as zeros
before the point, and behind it not at all. -/
def Scaled.ofDigits (whole part : Text) (exponent : Int) : Scaled :=
  let (n, zeros) := fill 0 whole
  let (m, unread) := fill n part
  ⟨m, zeros.length - (part.length - unread.length : Nat) + exponent⟩

/-- The greatest power of ten that is a number. -/
def maxPower : Nat := 308

/-- Divides a magnitude by a power of ten, in several steps if it is greater than `maxPower`. -/
def lower (units power : Nat) : Nat :=
  if power ≤ maxPower then Binary64.divUnits units (Binary64.powerOfTen power)
  else if units = 0 then 0
  else lower (Binary64.divUnits units (Binary64.powerOfTen maxPower)) (power - maxPower)
termination_by power
decreasing_by simp only [maxPower] at *; omega

/-- The magnitude of a scaled number, which must not be too large. -/
def Scaled.units? (x : Scaled) : Option Nat :=
  let units := Binary64.roundUnits (x.digits * Binary64.one) 1
  if x.power < 0 then some (lower units x.power.natAbs)
  else if units = 0 then some 0
  else if maxPower < x.power.toNat then none
  else (some (Binary64.mulUnits units (Binary64.powerOfTen x.power.toNat))).filter
    (· < Binary64.overflow)

/-- The number that a numeral without its sign says, as far as it is read. -/
def scaled? (s : Text) : Option Scaled :=
  let mantissa := Text.upTo (fun c => c == 'e' || c == 'E') s
  let whole := Text.upTo (· == '.') mantissa
  (Binary64.exponent? (s.drop mantissa.length)).map fun e =>
    .ofDigits whole (mantissa.drop (whole.length + 1)) e

/-- The value of a numeral. -/
def number? (s : Text) : Option Value :=
  let (negative, body) := match s with
    | '-' :: rest => (true, rest)
    | _ => (false, s)
  if !isMagnitude body then none
  else
    let n : Int := Text.digitsValue body
    let value := if negative then -n else n
    if Text.isWhole body && Signed64.holds value && !(negative && n == 0) then some (.int value)
    else do
      let x ← scaled? body
      return .real (.finite negative (← x.units?))

/-! ## 3. Values -/

/-- The rest behind a comma, or behind the closing bracket with the end of the sequence marked. -/
inductive Next where
  | more (rest : Text)
  | done (rest : Text)

def next? (close : Char) (s : Text) : Option Next :=
  match skip s with
  | ',' :: rest => some (.more rest)
  | c :: rest => if c == close then some (.done rest) else none
  | [] => none

mutual

/-- A value and the text behind it. The first number bounds the steps, the second the levels
below. -/
def value? : Nat → Nat → Text → Option (Value × Text)
  | 0, _, _ => none
  | fuel + 1, depth, s =>
    match skip s with
    | '"' :: rest => (string? rest).map fun (t, after) => (.text t, after)
    | '[' :: rest =>
      match depth with
      | 0 => none
      | depth + 1 =>
        match skip rest with
        | ']' :: after => some (.list [], after)
        | _ => (items? fuel depth rest).map fun (vs, after) => (.list vs, after)
    | '\x7b' :: rest =>
      match depth with
      | 0 => none
      | depth + 1 =>
        match skip rest with
        | '\x7d' :: after => some (.table [], after)
        | _ => (members? fuel depth rest []).map fun (es, after) => (.table es, after)
    | 't' :: 'r' :: 'u' :: 'e' :: rest => some (.bool true, rest)
    | 'f' :: 'a' :: 'l' :: 's' :: 'e' :: rest => some (.bool false, rest)
    | 'n' :: 'u' :: 'l' :: 'l' :: rest => some (.null, rest)
    | s => (number? (s.takeWhile inNumber)).map fun v => (v, s.dropWhile inNumber)

/-- The items of an array up to its closing bracket. -/
def items? : Nat → Nat → Text → Option (List Value × Text)
  | 0, _, _ => none
  | fuel + 1, depth, s =>
    match value? fuel depth s with
    | none => none
    | some (v, rest) =>
      match next? ']' rest with
      | none => none
      | some (.done after) => some ([v], after)
      | some (.more after) => (items? fuel depth after).map fun (vs, end_) => (v :: vs, end_)

/-- The members of an object up to its closing brace, added to those before them. -/
def members? : Nat → Nat → Text → List (Text × Value) → Option (List (Text × Value) × Text)
  | 0, _, _, _ => none
  | fuel + 1, depth, s, es =>
    match skip s with
    | '"' :: rest =>
      match string? rest with
      | none => none
      | some (name, rest) =>
        match skip rest with
        | ':' :: rest =>
          match value? fuel depth rest with
          | none => none
          | some (v, rest) =>
            match next? '\x7d' rest with
            | none => none
            | some (.done after) => some (Dictionary.put name v es, after)
            | some (.more after) => members? fuel depth after (Dictionary.put name v es)
        | _ => none
    | _ => none

end

/-- The value of a whole file. Every step reads a character or follows one that did, so twice the
length of the text is enough. -/
def parse? (s : Text) : Option Value :=
  match value? (2 * s.length + 2) maxDepth s with
  | some (v, rest) => if (skip rest).isEmpty then some v else none
  | none => none

end Autoresponder.Settings.Json
