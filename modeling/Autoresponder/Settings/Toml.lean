import Autoresponder.Settings.Toml.Document
/-!
# TOML files

A reader for TOML 1.0.

1. Strings, numbers, dates and truth values are read here, arrays and inline tables from them.
2. A file is a sequence of statements (`Statement`): headers and entries.
3. `Document.run?` carries them out; `parse?` is both together.

Line breaks are line feeds from the start: a carriage return before one belongs to it, any other is
a control character, and these are refused everywhere but for the tabulator. A mark of the byte
order does not belong to the text.

Nothing may be nested or divided into 80 levels: neither arrays and inline tables in each other, nor
the parts of a key.
-/

namespace Autoresponder.Settings.Toml

open Autoresponder (Text)

/-- How many levels arrays, inline tables and keys may have. -/
def maxDepth : Nat := 79

/-! ## 1. Blanks and comments -/

def isSpace (c : Char) : Bool := c == ' ' || c == '\t'

/-- A character that may stand in a comment or a string as it is. -/
def isPlain (c : Char) : Bool := c == '\t' || (0x20 ≤ c.toNat && c.toNat != 0x7F)

def skipSpaces (s : Text) : Text := s.dropWhile isSpace

/-- The text from the first character that is neither blank nor line break nor part of a comment.
The flag tells that a comment is being passed over. -/
def skipLines? : Bool → Text → Option Text
  | _, [] => some []
  | true, c :: s =>
    if c == '\n' then skipLines? false s else if isPlain c then skipLines? true s else none
  | false, c :: s =>
    if isSpace c || c == '\n' then skipLines? false s
    else if c == '#' then skipLines? true s
    else some (c :: s)

/-- The text behind a line of which only blanks and a comment are left. -/
def endLine? (s : Text) : Option Text :=
  match skipSpaces s with
  | [] => some []
  | '\n' :: rest => some rest
  | '#' :: rest =>
    let comment := Text.upTo (· == '\n') rest
    if comment.all isPlain then some (rest.drop (comment.length + 1)) else none
  | _ => none

/-! ## 2. Strings -/

/-- The text up to the closing quotation mark, and what stands behind it. A backslash keeps the
character behind it from closing the string, if escapes are allowed. -/
def oneLine? (quote : Char) (escapes : Bool) : Text → Option (Text × Text)
  | [] => none
  | c :: cs =>
    if c == quote then some ([], cs)
    else if escapes && c == '\\' then
      match cs with
      | [] => none
      | d :: ds => (oneLine? quote escapes ds).map fun (body, rest) => (c :: d :: body, rest)
    else (oneLine? quote escapes cs).map fun (body, rest) => (c :: body, rest)

/-- Three quotation marks close a string of several lines. Up to two more in front of them belong to
the string. -/
def closing? (quote : Char) (s : Text) : Option (Text × Text) :=
  let run := min 5 (s.takeWhile (· == quote)).length
  if 3 ≤ run then some (List.replicate (run - 3) quote, s.drop run) else none

/-- As `oneLine?`, for a string of several lines. -/
def manyLines? (quote : Char) (escapes : Bool) : Text → Option (Text × Text)
  | [] => none
  | c :: cs =>
    match closing? quote (c :: cs) with
    | some closed => some closed
    | none =>
      if escapes && c == '\\' then
        match cs with
        | [] => none
        | d :: ds => (manyLines? quote escapes ds).map fun (body, rest) => (c :: d :: body, rest)
      else (manyLines? quote escapes cs).map fun (body, rest) => (c :: body, rest)

/-- How much of a joint between two lines has been passed: a backslash at the end of a line takes
the line break with it, and all blanks and line breaks that follow. -/
inductive Joint where
  | outside
  | backslash
  | spaces
  | past
  deriving DecidableEq, Repr

/-- The text without its joints; escapes stay as they are. -/
def joinLines? : Joint → Text → Option Text
  | .outside, [] => some []
  | .past, [] => some []
  | .backslash, [] => none
  | .spaces, [] => none
  | .backslash, c :: s =>
    if c == '\n' then joinLines? .past s
    else if isSpace c then joinLines? .spaces s
    else (joinLines? .outside s).map fun t => '\\' :: c :: t
  | .spaces, c :: s =>
    if c == '\n' then joinLines? .past s else if isSpace c then joinLines? .spaces s else none
  | .past, c :: s =>
    if c == '\n' || isSpace c then joinLines? .past s
    else if c == '\\' then joinLines? .backslash s
    else (joinLines? .outside s).map (c :: ·)
  | .outside, c :: s =>
    if c == '\\' then joinLines? .backslash s else (joinLines? .outside s).map (c :: ·)

/-- The character with a number in hexadecimal, if there is one. -/
def scalar? (digits : Text) : Option Char :=
  let n := Text.valueIn 16 digits
  if digits.all (Text.isDigitIn 16) && n.isValidChar then some (Char.ofNat n) else none

/-- The character that a backslash and a letter stand for. -/
def shortEscape? : Char → Option Char
  | '"' => some '"'
  | '\\' => some '\\'
  | 'b' => some '\x08'
  | 't' => some '\t'
  | 'n' => some '\n'
  | 'f' => some '\x0c'
  | 'r' => some '\r'
  | _ => none

/-- The text with its escapes replaced by what they stand for. -/
def unescape? : Text → Option Text
  | [] => some []
  | '\\' :: 'u' :: a :: b :: c :: d :: s => do
    let ch ← scalar? [a, b, c, d]
    return ch :: (← unescape? s)
  | '\\' :: 'U' :: a :: b :: c :: d :: e :: f :: g :: h :: s => do
    let ch ← scalar? [a, b, c, d, e, f, g, h]
    return ch :: (← unescape? s)
  | '\\' :: e :: s => do
    let ch ← shortEscape? e
    return ch :: (← unescape? s)
  | c :: s => if c == '\\' then none else (unescape? s).map (c :: ·)

/-- The first line break of a string of several lines does not count. -/
def dropBreak : Text → Text
  | '\n' :: s => s
  | s => s

/-- The string at the start of a text, which begins with a quotation mark. Only strings of several
lines, which begin with three, may hold line breaks. -/
def string? (multi : Bool) (s : Text) : Option (Text × Text) :=
  match s with
  | '"' :: '"' :: '"' :: rest =>
    if multi then do
      let (body, after) ← manyLines? '"' true (dropBreak rest)
      let joined ← joinLines? .outside body
      if body.all (fun c => isPlain c || c == '\n') then return (← unescape? joined, after)
      else none
    else none
  | '\'' :: '\'' :: '\'' :: rest =>
    if multi then do
      let (body, after) ← manyLines? '\'' false (dropBreak rest)
      if body.all (fun c => isPlain c || c == '\n') then return (body, after) else none
    else none
  | '"' :: rest => do
    let (body, after) ← oneLine? '"' true rest
    if body.all isPlain then return (← unescape? body, after) else none
  | '\'' :: rest => do
    let (body, after) ← oneLine? '\'' false rest
    if body.all isPlain then return (body, after) else none
  | _ => none

/-! ## 3. Numbers and words -/

/-- The digits of a numeral without the low lines between them; each low line stands between two
digits. -/
def grouped? (p : Char → Bool) (s : Text) : Option Text :=
  let groups := Text.splitOn (· == '_') s
  if groups.all fun g => !g.isEmpty && g.all p then some groups.flatten else none

/-- The sign of a numeral, as far as it is written, and the rest. -/
def splitSign : Text → Text × Text
  | '-' :: s => (['-'], s)
  | '+' :: s => ([], s)
  | s => ([], s)

/-- A decimal numeral without a needless zero in front. -/
def decimal? (s : Text) : Option Text :=
  (grouped? Text.isDigit s).filter Text.isWhole

/-- A number of 64 bits in a base. -/
def based? (base : Nat) (s : Text) : Option Int :=
  ((grouped? (Text.isDigitIn base) s).map fun digits => (Text.valueIn base digits : Int)).filter
    Signed64.holds

def integer? : Text → Option Int
  | '0' :: 'x' :: s => based? 16 s
  | '0' :: 'o' :: s => based? 8 s
  | '0' :: 'b' :: s => based? 2 s
  | s =>
    let (sign, body) := splitSign s
    (decimal? body).bind fun digits =>
      (Text.integer? (sign ++ digits)).filter Signed64.holds

/-- The exponent of a numeral with the letter before it. -/
def exponent? : Text → Option Text
  | [] => some []
  | e :: s =>
    let (sign, body) := splitSign s
    (grouped? Text.isDigit body).map fun digits => e :: sign ++ digits

/-- The fraction of a numeral with the point before it. -/
def fraction? : Text → Option Text
  | [] => some []
  | point :: s => (grouped? Text.isDigit s).map (point :: ·)

/-- A number with a fraction or an exponent. It must not be too large; one that is too far below
zero is the negative infinity. -/
def real? (s : Text) : Option Binary64 := do
  let (sign, body) := splitSign s
  if body == "inf".toList || body == "nan".toList then
    Binary64.ofText? (sign ++ body)
  else
    let mantissa := Text.upTo (fun c => c == 'e' || c == 'E') body
    let whole ← decimal? (Text.upTo (· == '.') mantissa)
    let fraction ← fraction? (mantissa.dropWhile (· != '.'))
    let exponent ← exponent? (body.drop mantissa.length)
    if fraction.isEmpty && exponent.isEmpty then none
    else
      let x ← Binary64.ofText? (sign ++ whole ++ fraction ++ exponent)
      if x = .infinite false then none else some x

/-- A character of a number, a date or a word. -/
def inWord (c : Char) : Bool :=
  c.isAlphanum || c == '+' || c == '-' || c == '_' || c == '.' || c == ':'

/-- The value of a word. -/
def word? (s : Text) : Option Value :=
  if s == "true".toList then some (.bool true)
  else if s == "false".toList then some (.bool false)
  else
    (((integer? s).map .int).or ((real? s).map .real)).or
      ((Timestamp.parse? s).map fun t => .text t.text)

/-- The value at the start of a text that begins with no bracket or quotation mark. A time of day
may follow a date behind one blank. -/
def bare? (s : Text) : Option (Value × Text) :=
  let word := s.takeWhile inWord
  let rest := s.dropWhile inWord
  let whole := match rest with
    | ' ' :: a :: b :: ':' :: more =>
      if Text.isDigit a && Text.isDigit b && (Timestamp.date? word).any (·.2.isEmpty) then
        word ++ ' ' :: a :: b :: ':' :: more.takeWhile inWord
      else word
    | _ => word
  (word? whole).map fun v => (v, s.drop whole.length)

/-! ## 4. Keys -/

def inBareKey (c : Char) : Bool := c.isAlphanum || c == '_' || c == '-'

def key? (s : Text) : Option (Text × Text) :=
  match s with
  | '"' :: _ => string? false s
  | '\'' :: _ => string? false s
  | _ =>
    let name := s.takeWhile inBareKey
    if name.isEmpty then none else some (name, s.dropWhile inBareKey)

/-- At most so many keys with points between them, and the text behind them and the blanks that
follow. -/
def keys? : Nat → Text → Option (List Text × Text)
  | 0, _ => none
  | count + 1, s => do
    let (name, rest) ← key? (skipSpaces s)
    match skipSpaces rest with
    | '.' :: more => (keys? count more).map fun (names, after) => (name :: names, after)
    | rest => some ([name], rest)

def path? (s : Text) : Option (List Text × Text) := keys? maxDepth s

/-! ## 5. Values -/

mutual

/-- A value and the text behind it. The first number bounds the steps, the second the levels
below. -/
def value? : Nat → Nat → Text → Option (Value × Text)
  | 0, _, _ => none
  | fuel + 1, depth, s =>
    match s with
    | '"' :: _ => (string? true s).map fun (t, rest) => (.text t, rest)
    | '\'' :: _ => (string? true s).map fun (t, rest) => (.text t, rest)
    | '[' :: rest =>
      match depth with
      | 0 => none
      | depth + 1 => (items? fuel depth rest).map fun (vs, after) => (.list vs, after)
    | '\x7b' :: rest =>
      match depth with
      | 0 => none
      | depth + 1 =>
        match skipSpaces rest with
        | '\x7d' :: after => some (.table [], after)
        | rest => (pairs? fuel depth rest []).map fun (es, after) =>
          (.table (Node.values es), after)
    | _ => bare? s

/-- The items of an array up to its closing bracket. -/
def items? : Nat → Nat → Text → Option (List Value × Text)
  | 0, _, _ => none
  | fuel + 1, depth, s => do
    match ← skipLines? false s with
    | ']' :: after => some ([], after)
    | s =>
      let (v, rest) ← value? fuel depth s
      match ← skipLines? false rest with
      | ',' :: more => (items? fuel depth more).map fun (vs, after) => (v :: vs, after)
      | ']' :: after => some ([v], after)
      | _ => none

/-- The entries of an inline table up to its closing brace, added to those before them. -/
def pairs? : Nat → Nat → Text → List (Text × Node) → Option (List (Text × Node) × Text)
  | 0, _, _, _ => none
  | fuel + 1, depth, s, es => do
    let (names, rest) ← path? s
    match rest with
    | '=' :: rest =>
      let (v, rest) ← value? fuel depth (skipSpaces rest)
      let es ← Node.assign? names v es
      match skipSpaces rest with
      | ',' :: more => pairs? fuel depth more es
      | '\x7d' :: after => some (es, after)
      | _ => none
    | _ => none

end

/-! ## 6. Files -/

/-- A text without the mark of its byte order. -/
def dropMark : Text → Text
  | '\ufeff' :: s => s
  | s => s

/-- The statement at the start of a text, and the text behind its line. -/
def statement? (fuel : Nat) (s : Text) : Option (Statement × Text) := do
  match s with
  | '[' :: '[' :: rest =>
    match ← path? rest with
    | (names, ']' :: ']' :: after) => some (.item names, ← endLine? after)
    | _ => none
  | '[' :: rest =>
    match ← path? rest with
    | (names, ']' :: after) => some (.table names, ← endLine? after)
    | _ => none
  | _ =>
    match ← path? s with
    | (names, '=' :: rest) =>
      let (v, after) ← value? fuel maxDepth (skipSpaces rest)
      some (.entry names v, ← endLine? after)
    | _ => none

/-- The statements of a text. -/
def statements? : Nat → Text → Option (List Statement)
  | 0, _ => none
  | fuel + 1, s => do
    match ← skipLines? false s with
    | [] => some []
    | s =>
      let (st, rest) ← statement? (2 * s.length) s
      return st :: (← statements? fuel rest)

/-- The table that a file describes. Every step takes a character off the text, so its length bounds
their number. -/
def parse? (s : Text) : Option Value := do
  let s := Text.replace ['\r', '\n'] ['\n'] (dropMark s)
  Document.run? (← statements? (s.length + 1) s)

end Autoresponder.Settings.Toml
