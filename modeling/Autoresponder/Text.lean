/-!
# Text

Mail is handled here as a list of characters, and on the wire as a list of bytes. This module has
the operations on text that the rest of the library is written with:

1. `trim` removes blanks (the Unicode property White_Space) from both ends;
2. `lines` reads a line break as the end of a line, so a final break adds no line;
3. `replace` replaces the occurrences of a pattern from left to right, never looking at its own
   output again;
4. `normalizeBreaks` leaves line feeds as the only line breaks;
5. `breakOn?` splits at the first occurrence of a pattern, `breakLast?` at the last character of a
   class.

Letter case is folded for ASCII letters alone: mail keywords, header names and domains are ASCII.
-/

namespace Autoresponder

/-- Text as the sequence of its characters. -/
abbrev Text := List Char

/-- Data as it travels: a message, a header value before decoding, a digest. -/
abbrev Bytes := List UInt8

namespace Text

/-! ## Classes of characters -/

/-- The characters with the Unicode property White_Space. -/
def isBlank (c : Char) : Bool :=
  let n := c.toNat
  (9 ≤ n && n ≤ 13) || n == 0x20 || n == 0x85 || n == 0xA0 || n == 0x1680 ||
    (0x2000 ≤ n && n ≤ 0x200A) || n == 0x2028 || n == 0x2029 || n == 0x202F || n == 0x205F ||
    n == 0x3000

/-- The control characters: the code points below U+0020, and U+007F to U+009F. -/
def isControl (c : Char) : Bool :=
  let n := c.toNat
  n < 0x20 || (0x7F ≤ n && n ≤ 0x9F)

def isAscii (s : Text) : Bool := s.all fun c => c.toNat < 0x80

/-! ## Trimming -/

/-- What is left of `s` after the elements that satisfy `p` are taken off its end. -/
def dropEndWhile {α : Type} (p : α → Bool) (s : List α) : List α :=
  (s.reverse.dropWhile p).reverse

def trimStart (s : Text) : Text := s.dropWhile isBlank

def trimEnd (s : Text) : Text := dropEndWhile isBlank s

def trim (s : Text) : Text := trimEnd (trimStart s)

/-! ## Letter case -/

/-- ASCII capitals become small letters; every other character stays. -/
def foldCase (s : Text) : Text := s.map Char.toLower

/-- Equality that does not see the case of ASCII letters. -/
def sameFolded (a b : Text) : Bool := foldCase a == foldCase b

/-! ## Prefixes, suffixes, occurrences -/

/-- `s` without the prefix `pre`, or `none` if `s` does not start with it. -/
def dropPrefix? {α : Type} [BEq α] : List α → List α → Option (List α)
  | [], s => some s
  | _ :: _, [] => none
  | p :: ps, c :: cs => if p == c then dropPrefix? ps cs else none

/-- `s` without the suffix `post`, or `none` if `s` does not end with it. -/
def dropSuffix? {α : Type} [BEq α] (post s : List α) : Option (List α) :=
  (dropPrefix? post.reverse s.reverse).map List.reverse

def startsWith (pre s : Text) : Bool := (dropPrefix? pre s).isSome

def endsWith (post s : Text) : Bool := (dropSuffix? post s).isSome

/-- The parts of `s` before and after the first occurrence of `pat`. -/
def breakOn? (pat : Text) : Text → Option (Text × Text)
  | [] => if pat.isEmpty then some ([], []) else none
  | c :: cs =>
    match dropPrefix? pat (c :: cs) with
    | some rest => some ([], rest)
    | none => (breakOn? pat cs).map fun (before, after) => (c :: before, after)

/-- The last character that satisfies `p`, with what stands before and after it. -/
def breakLast? (p : Char → Bool) : Text → Option (Text × Char × Text)
  | [] => none
  | c :: cs =>
    match breakLast? p cs with
    | some (before, last, after) => some (c :: before, last, after)
    | none => if p c then some ([], c, cs) else none

/-- `pat` occurs in `s` somewhere. -/
def occursIn (pat s : Text) : Bool := (breakOn? pat s).isSome

/-- Every occurrence of `pat`, taken from left to right without overlap, becomes `new`. The first
    argument counts the characters of an occurrence that are still to be passed over. -/
def replaceFrom (pat new : Text) : Nat → Text → Text
  | _, [] => []
  | skip + 1, _ :: cs => replaceFrom pat new skip cs
  | 0, c :: cs =>
    if startsWith pat (c :: cs) then new ++ replaceFrom pat new (pat.length - 1) cs
    else c :: replaceFrom pat new 0 cs

/-- Every occurrence of the non-empty pattern `pat` becomes `new`. -/
def replace (pat new s : Text) : Text := replaceFrom pat new 0 s

/-! ## Parts -/

/-- The parts between the characters that satisfy `p`; there is always at least one part. -/
def splitOn (p : Char → Bool) : Text → List Text
  | [] => [[]]
  | c :: cs =>
    if p c then [] :: splitOn p cs
    else
      match splitOn p cs with
      | [] => [[c]]
      | part :: parts => (c :: part) :: parts

/-- The non-empty parts between blanks. -/
def words (s : Text) : List Text := (splitOn isBlank s).filter fun w => !w.isEmpty

/-- What stands before the first character that satisfies `p`. -/
def upTo (p : Char → Bool) (s : Text) : Text := s.takeWhile fun c => !p c

/-- The parts with `sep` between each two neighbours. -/
def joinWith (sep : Text) : List Text → Text
  | [] => []
  | [s] => s
  | s :: rest => s ++ sep ++ joinWith sep rest

/-- One line without its break: a carriage return right before the line feed belongs to the
    break. -/
def dropReturn (s : Text) : Text := (dropSuffix? ['\r'] s).getD s

/-- The lines of a text. A line ends with a line feed, or a carriage return and a line feed; the
    last line may also end with the text, and a carriage return there is part of the line. -/
def lines (s : Text) : List Text :=
  match (splitOn (· == '\n') s).reverse with
  | [] => []
  | last :: ended =>
    (ended.map dropReturn).reverse ++ if last.isEmpty then [] else [last]

/-- A carriage return and line feed, and then every other carriage return, become a line feed. -/
def normalizeBreaks (s : Text) : Text := replace ['\r'] ['\n'] (replace ['\r', '\n'] ['\n'] s)

/-- Every line with a line feed behind it. -/
def unlines (ls : List Text) : Text := ls.flatMap fun l => l ++ ['\n']

/-! ## Numbers -/

def isDigit (c : Char) : Bool := '0' ≤ c && c ≤ '9'

/-- The value of a run of decimal digits; the empty run is zero. -/
def digitsValue (s : Text) : Nat := s.foldl (fun n c => 10 * n + (c.toNat - '0'.toNat)) 0

/-- Digits with no needless zero in front. -/
def isWhole (s : Text) : Bool :=
  !s.isEmpty && s.all isDigit && (s.length == 1 || s.head? != some '0')

/-- The number written by `s`: one or more decimal digits and nothing else. -/
def natural? (s : Text) : Option Nat :=
  if !s.isEmpty && s.all isDigit then some (digitsValue s) else none

/-- The number written by `s`: digits after at most one sign. -/
def integer? : Text → Option Int
  | '-' :: s => (natural? s).map fun n => -(n : Int)
  | '+' :: s => (natural? s).map fun n => (n : Int)
  | s => (natural? s).map fun n => (n : Int)

def ofNat (n : Nat) : Text := (Nat.toDigits 10 n)

def ofInt : Int → Text
  | .ofNat n => ofNat n
  | .negSucc n => '-' :: ofNat (n + 1)

/-- The digit that stands for a value below sixteen, in small letters. -/
def hexDigit (n : Nat) : Char := Nat.digitChar n

/-- The value of a hexadecimal digit of either case. -/
def hexValue? (c : Char) : Option Nat :=
  if '0' ≤ c && c ≤ '9' then some (c.toNat - '0'.toNat)
  else if 'a' ≤ c && c ≤ 'f' then some (c.toNat - 'a'.toNat + 10)
  else if 'A' ≤ c && c ≤ 'F' then some (c.toNat - 'A'.toNat + 10)
  else none

/-- The value of digits in a base of at most sixteen. -/
def valueIn (base : Nat) (s : Text) : Nat :=
  s.foldl (fun n c => base * n + (hexValue? c).getD 0) 0

/-- `c` is a digit in a base of at most sixteen. -/
def isDigitIn (base : Nat) (c : Char) : Bool := (hexValue? c).any fun n => n < base

end Text
end Autoresponder
