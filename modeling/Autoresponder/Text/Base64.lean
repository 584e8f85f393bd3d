import Autoresponder.Text
/-!
# Base64

Bytes as letters, digits, `+` and `/`, four characters for each three bytes, with `=` to fill up
the last group.

1. `encode` writes whole groups.
2. `decode?` reads whole groups of four; line breaks between the characters do not count. A group
   may end in one or two `=`, wherever it stands, and the bits that such a group leaves over must
   be zero.
-/

namespace Autoresponder.Base64

/-- The character for a value below 64. -/
def digit (n : Nat) : Char :=
  if n < 26 then Char.ofNat (n + 65)
  else if n < 52 then Char.ofNat (n - 26 + 97)
  else if n < 62 then Char.ofNat (n - 52 + 48)
  else if n == 62 then '+' else '/'

def value? (c : Char) : Option Nat :=
  let n := c.toNat
  if 65 ≤ n && n ≤ 90 then some (n - 65)
  else if 97 ≤ n && n ≤ 122 then some (n - 97 + 26)
  else if 48 ≤ n && n ≤ 57 then some (n - 48 + 52)
  else if c == '+' then some 62
  else if c == '/' then some 63
  else none

def encode : Bytes → Text
  | [] => []
  | [a] =>
    let n := a.toNat
    [digit (n / 4), digit (n % 4 * 16), '=', '=']
  | [a, b] =>
    let n := a.toNat * 256 + b.toNat
    [digit (n / 1024), digit (n / 16 % 64), digit (n % 16 * 4), '=']
  | a :: b :: c :: rest =>
    let n := a.toNat * 65536 + b.toNat * 256 + c.toNat
    digit (n / 262144) :: digit (n / 4096 % 64) :: digit (n / 64 % 64) :: digit (n % 64) ::
      encode rest

/-- The bytes of one group of four characters. -/
def group? (p q r s : Char) : Option Bytes :=
  match value? p, value? q, value? r, value? s with
  | some a, some b, some c, some d =>
    let n := a * 262144 + b * 4096 + c * 64 + d
    some [UInt8.ofNat (n / 65536), UInt8.ofNat (n / 256), UInt8.ofNat n]
  | some a, some b, some c, none =>
    let n := a * 4096 + b * 64 + c
    if s == '=' && n % 4 == 0 then some [UInt8.ofNat (n / 1024), UInt8.ofNat (n / 4)] else none
  | some a, some b, none, none =>
    let n := a * 64 + b
    if r == '=' && s == '=' && n % 16 == 0 then some [UInt8.ofNat (n / 16)] else none
  | _, _, _, _ => none

/-- Groups of four characters, read one after the other. -/
def groups? : Text → Option Bytes
  | [] => some []
  | p :: q :: r :: s :: rest =>
    match group? p q r s, groups? rest with
    | some bytes, some more => some (bytes ++ more)
    | _, _ => none
  | _ => none

def decode? (s : Text) : Option Bytes :=
  groups? (s.filter fun c => c != '\r' && c != '\n')

end Autoresponder.Base64
