import Autoresponder.Text
/-!
# UTF-8

Characters as bytes and back.

1. `encode` writes each character in its one well-formed form of one to four bytes.
2. `scan` reads bytes from left to right. It yields a character for each well-formed form, and
   `none` for each maximal part of a form that cannot be completed: such a part is as long as some
   well-formed form agrees with it, and one byte long where no form agrees.
3. `decode?` accepts a text that has no such part; `decodeLossy` puts U+FFFD in place of each.
-/

namespace Autoresponder.Utf8

def byte (n : Nat) : UInt8 := UInt8.ofNat n

/-- The bytes of one character. -/
def encodeChar (c : Char) : Bytes :=
  let n := c.toNat
  if n < 0x80 then [byte n]
  else if n < 0x800 then [byte (0xC0 + n / 0x40), byte (0x80 + n % 0x40)]
  else if n < 0x10000 then
    [byte (0xE0 + n / 0x1000), byte (0x80 + n / 0x40 % 0x40), byte (0x80 + n % 0x40)]
  else
    [byte (0xF0 + n / 0x40000), byte (0x80 + n / 0x1000 % 0x40), byte (0x80 + n / 0x40 % 0x40),
      byte (0x80 + n % 0x40)]

def encode (s : Text) : Bytes := s.flatMap encodeChar

/-- How many bytes `encode` writes. -/
def width (s : Text) : Nat := (encode s).length

/-! ## Reading -/

/-- What a first byte announces: how many bytes follow, and the bounds of the first of them. The
    bounds rule out forms longer than needed, surrogates, and code points above U+10FFFF. -/
inductive Lead where
  | single
  | two
  | three (low high : Nat)
  | four (low high : Nat)
  | invalid
  deriving DecidableEq, Repr

def Lead.of (b : UInt8) : Lead :=
  let n := b.toNat
  if n < 0x80 then .single
  else if n < 0xC2 then .invalid
  else if n < 0xE0 then .two
  else if n == 0xE0 then .three 0xA0 0xBF
  else if n == 0xED then .three 0x80 0x9F
  else if n < 0xF0 then .three 0x80 0xBF
  else if n == 0xF0 then .four 0x90 0xBF
  else if n < 0xF4 then .four 0x80 0xBF
  else if n == 0xF4 then .four 0x80 0x8F
  else .invalid

/-- The byte lies within the bounds, both included. -/
def within (low high : Nat) (b : UInt8) : Bool := low ≤ b.toNat && b.toNat ≤ high

def isContinuation (b : UInt8) : Bool := within 0x80 0xBF b

/-- The character made of the low bits of a first byte and of its continuation bytes. -/
def assemble (leadBits : Nat) (rest : List UInt8) : Char :=
  Char.ofNat (rest.foldl (fun n b => n * 0x40 + b.toNat % 0x40) leadBits)

/-- The next element of a non-empty sequence, and what follows it. -/
def scanOne (b : UInt8) (rest : Bytes) : Option Char × Bytes :=
  match Lead.of b, rest with
  | .single, _ => (some (Char.ofNat b.toNat), rest)
  | .invalid, _ => (none, rest)
  | .two, c :: rest₁ =>
    if isContinuation c then (some (assemble (b.toNat - 0xC0) [c]), rest₁) else (none, rest)
  | .three low high, c :: rest₁ =>
    if within low high c then
      match rest₁ with
      | d :: rest₂ =>
        if isContinuation d then (some (assemble (b.toNat - 0xE0) [c, d]), rest₂)
        else (none, rest₁)
      | [] => (none, rest₁)
    else (none, rest)
  | .four low high, c :: rest₁ =>
    if within low high c then
      match rest₁ with
      | d :: rest₂ =>
        if isContinuation d then
          match rest₂ with
          | e :: rest₃ =>
            if isContinuation e then (some (assemble (b.toNat - 0xF0) [c, d, e]), rest₃)
            else (none, rest₂)
          | [] => (none, rest₂)
        else (none, rest₁)
      | [] => (none, rest₁)
    else (none, rest)
  | _, [] => (none, rest)

theorem scanOne_length_le (b : UInt8) (rest : Bytes) :
    (scanOne b rest).2.length ≤ rest.length := by
  unfold scanOne
  grind

/-- The characters of a byte sequence, and `none` for each part that is no character. -/
def scan : Bytes → List (Option Char)
  | [] => []
  | b :: rest => (scanOne b rest).1 :: scan (scanOne b rest).2
termination_by bytes => bytes.length
decreasing_by exact Nat.lt_succ_of_le (scanOne_length_le b rest)

def allSome {α : Type} : List (Option α) → Option (List α)
  | [] => some []
  | none :: _ => none
  | some a :: rest => (allSome rest).map (a :: ·)

/-- The text of well-formed bytes. -/
def decode? (bytes : Bytes) : Option Text := allSome (scan bytes)

/-- The text of any bytes, with U+FFFD for each ill-formed part. -/
def decodeLossy (bytes : Bytes) : Text := (scan bytes).map fun c => c.getD '\uFFFD'

/-- Each byte taken as the code point of that number. -/
def decodeLatin1 (bytes : Bytes) : Text := bytes.map fun b => Char.ofNat b.toNat

end Autoresponder.Utf8
