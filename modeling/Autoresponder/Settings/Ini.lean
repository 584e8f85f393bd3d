import Autoresponder.Settings.Value
/-!
# INI files

Sections in square brackets, and entries with `=` or `:` between name and value. All values are
texts.

1. A backslash escapes a character in every part of a file (`until?`).
2. A comment is a line that begins with `;` or `#`, without blanks before it.
3. A value ends with its line; a name or a section ends with its mark only, even lines later. The
   blanks around each of them do not belong to it, not even within the quotation marks of a value.
4. Entries before the first section stand at the top. A section that is written again replaces what
   stood under its name.
-/

namespace Autoresponder.Settings.Ini

open Autoresponder (Text)

def isBreak (c : Char) : Bool := c == '\n' || c == '\r'

/-! ## 1. Parts -/

/-- The character that a backslash and a letter stand for; most letters stand for themselves. -/
def escaped : Char → Char
  | '0' => '\x00'
  | 'a' => '\x07'
  | 'b' => '\x08'
  | 't' => '\t'
  | 'r' => '\r'
  | 'n' => '\n'
  | c => c

/-- The character whose number is written by four characters. A plus sign may stand first. -/
def numbered? (code : Text) : Option Char :=
  let digits := (Text.dropPrefix? ['+'] code).getD code
  let n := Text.valueIn 16 digits
  if digits.all (Text.isDigitIn 16) && n.isValidChar then some (Char.ofNat n) else none

/-- The text up to a character of a class, without its escapes, and the text from that character on.
A part that the end of the file may close is `open`. -/
def until? (stop : Char → Bool) (isOpen : Bool) : Text → Option (Text × Text)
  | [] => if isOpen then some ([], []) else none
  | '\\' :: 'x' :: a :: b :: c :: d :: s => do
    let ch ← numbered? [a, b, c, d]
    let (t, rest) ← until? stop isOpen s
    return (ch :: t, rest)
  | '\\' :: '\n' :: s => until? stop isOpen s
  | '\\' :: e :: s =>
    if e == 'x' then none
    else (until? stop isOpen s).map fun (t, rest) => (escaped e :: t, rest)
  | c :: s =>
    if stop c then some ([], c :: s)
    else if c == '\\' then none
    else (until? stop isOpen s).map fun (t, rest) => (c :: t, rest)

/-- The value behind its mark, and the text from the end of its line on. What follows a quoted value
on its line belongs to it. -/
def value? (s : Text) : Option (Text × Text) :=
  match s.dropWhile fun c => Text.isBlank c && !isBreak c with
  | '"' :: rest => quoted? '"' rest
  | '\'' :: rest => quoted? '\'' rest
  | s => until? isBreak true s
where
  quoted? (quote : Char) (s : Text) : Option (Text × Text) := do
    let (inside, rest) ← until? (· == quote) false s
    let (behind, rest) ← until? isBreak true (rest.drop 1)
    return (inside ++ behind, rest)

/-! ## 2. Files -/

/-- What a file has said so far: the entries at the top and the sections, and the section that
entries are added to. -/
structure Document where
  current : Option Text := none
  entries : List (Text × Value) := []

namespace Document

def openSection (name : Text) (d : Document) : Document :=
  ⟨some name, Dictionary.put name (.table []) d.entries⟩

def add (name value : Text) (d : Document) : Document :=
  match d.current with
  | none => { d with entries := Dictionary.put name (.text value) d.entries }
  | some title =>
    let old := ((Dictionary.find? title d.entries).getD (.table [])).entries
    { d with entries :=
      Dictionary.put title (.table (Dictionary.put name (.text value) old)) d.entries }

end Document

/-- The text from the first character that is no blank, with the flag whether that character begins
a line. -/
def skipBlanks : Bool → Text → Bool × Text
  | first, [] => (first, [])
  | first, c :: s => if Text.isBlank c then skipBlanks (c == '\n') s else (first, c :: s)

/-- Reads the rest of a file. The flag tells that the text begins a line. -/
def read? : Nat → Bool → Text → Document → Option Document
  | 0, _, _, _ => none
  | fuel + 1, atStart, s, d =>
    match skipBlanks atStart s with
    | (_, []) => some d
    | (first, c :: rest) =>
      if c == ';' || c == '#' then
        if first then read? fuel true ((rest.dropWhile (· != '\n')).drop 1) d else none
      else if c == '[' then
        match until? (· == ']') false rest with
        | none => none
        | some (name, after) => read? fuel false (after.drop 1) (d.openSection (Text.trim name))
      else
        match until? (fun c => c == '=' || c == ':') false (c :: rest) with
        | none => none
        | some (name, after) =>
          if (Text.trim name).isEmpty then none
          else
            match value? (after.drop 1) with
            | none => none
            | some (value, after) =>
              read? fuel false after (d.add (Text.trim name) (Text.trim value))

/-- The table that a file describes. Every step takes a character off the text, so its length bounds
their number. -/
def parse? (s : Text) : Option Value :=
  (read? (s.length + 1) true s {}).map fun d => .table d.entries

end Autoresponder.Settings.Ini
