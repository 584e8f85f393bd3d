import Autoresponder.Binary64
import Autoresponder.Signed64
/-!
# Numerals in server scripts

The scripts of a key/value server know one kind of number, binary floating point. A text writes one
in decimal or in hexadecimal, with blanks around it or without, or by the name of infinity or NaN. A
NaN may carry a tag, which says nothing about the number.
-/

namespace Autoresponder.Numeral

open Autoresponder (Text)

def isSpace (c : Char) : Bool := c == ' ' || (9 ≤ c.toNat && c.toNat ≤ 13)

/-- The exponent of two behind a `p`; without one it is zero. -/
def exponent? : Text → Option Int
  | [] => some 0
  | c :: s => if c == 'p' || c == 'P' then Text.integer? s else none

/-- A hexadecimal numeral behind its `0x`. -/
def hexadecimal? (negative : Bool) (s : Text) : Option Binary64 := do
  let isHex := Text.isDigitIn 16
  let whole := s.takeWhile isHex
  let rest := s.dropWhile isHex
  let (part, rest) := match rest with
    | '.' :: after => (after.takeWhile isHex, after.dropWhile isHex)
    | _ => ([], rest)
  if whole.isEmpty && part.isEmpty then none
  else
    let power := (← exponent? rest) - 4 * part.length
    let digits := Text.valueIn 16 (whole ++ part)
    -- with a power beyond this one, every number but zero is infinite, or rounded to zero
    let scale := Nat.pow 2 (min power.natAbs (8000 + 4 * (whole ++ part).length))
    some (if 0 ≤ power then Binary64.ofUnits negative (digits * scale * Binary64.one) 1
      else Binary64.ofUnits negative (digits * Binary64.one) scale)

/-- The name of NaN and a tag in brackets, such as `nan(0x1)`. -/
def isTaggedNaN (s : Text) : Bool :=
  let tag := s.drop 4
  Text.sameFolded (s.take 4) "nan(".toList && tag.getLast? == some ')' &&
    tag.dropLast.all fun c => c.isAlphanum || c == '_'

/-- The number that a text writes. A character with the code zero ends the text. -/
def read? (s : Text) : Option Binary64 :=
  let body := Text.dropEndWhile isSpace ((Text.upTo (· == '\x00') s).dropWhile isSpace)
  let (negative, magnitude) := Binary64.splitSign body
  match magnitude with
  | '0' :: 'x' :: digits => hexadecimal? negative digits
  | '0' :: 'X' :: digits => hexadecimal? negative digits
  | _ => if isTaggedNaN magnitude then some .nan else Binary64.ofText? body

/-- A number as an answer of a script: a number of 64 bits without the fraction. What does not fit
is the lowest one. -/
def toInteger (x : Binary64) : Int :=
  match x.truncate? with
  | some n => if Signed64.holds n then n else Signed64.least
  | none => Signed64.least

end Autoresponder.Numeral
