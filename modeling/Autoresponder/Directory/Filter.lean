import Autoresponder.Text.Utf8
/-!
# Directory filters

The filters of a directory search and their text.

1. `escape` writes a value so that none of its characters has a meaning in a filter.
2. `parse?` reads the text of a filter. Values are bytes, and a backslash with two hexadecimal
   digits writes any byte.
3. An asterisk that is not escaped makes an equality a pattern, or a test for presence if it stands
   alone.
-/

namespace Autoresponder

/-- How a filter compares an attribute with a value. -/
inductive Comparison where
  | equality
  | greaterOrEqual
  | lessOrEqual
  | approximate
  /-- By a rule that stands with the attribute. -/
  | extensible
  deriving DecidableEq, Repr

inductive Filter where
  | compare (how : Comparison) (attr : Text) (value : Bytes)
  | present (attr : Text)
  /-- The parts between the asterisks. -/
  | pattern (attr : Text) (parts : List Bytes)
  | all (filters : List Filter)
  | any (filters : List Filter)
  | not (filter : Filter)
  deriving Repr

namespace Filter

/-! ## 1. Writing values -/

/-- The characters with a meaning in a filter. -/
def isSpecial (c : Char) : Bool :=
  c == '\\' || c == '*' || c == '(' || c == ')' || c == '\x00'

def escapeChar (c : Char) : Text :=
  if isSpecial c then ['\\', Text.hexDigit (c.toNat / 16), Text.hexDigit (c.toNat % 16)] else [c]

def escape (s : Text) : Text := s.flatMap escapeChar

/-- The text of a filter for an attribute with a value. -/
def equalityText (attr value : Text) : Text :=
  '(' :: attr ++ '=' :: escape value ++ [')']

/-! ## 2. Reading values -/

/-- The bytes that a value writes, if every backslash is followed by two hexadecimal digits. -/
def unescape? : Text → Option Bytes
  | [] => some []
  | '\\' :: a :: b :: s =>
    match Text.hexValue? a, Text.hexValue? b with
    | some a, some b => (unescape? s).map (UInt8.ofNat (16 * a + b) :: ·)
    | _, _ => none
  | c :: s => if isSpecial c then none else (unescape? s).map (Utf8.encodeChar c ++ ·)

/-- All values, if each can be read. -/
def unescapeAll? : List Text → Option (List Bytes)
  | [] => some []
  | s :: rest =>
    match unescape? s, unescapeAll? rest with
    | some v, some vs => some (v :: vs)
    | _, _ => none

/-! ## 3. Reading comparisons -/

def isKeyChar (c : Char) : Bool := c.isAlphanum || c == '-'

/-- A name: a letter, and letters, digits and hyphens. -/
def isName : Text → Bool
  | [] => false
  | c :: s => c.isAlpha && s.all isKeyChar

/-- Numbers with points between them. -/
def isNumbers (s : Text) : Bool := (Text.splitOn (· == '.') s).all Text.isWhole

/-- An attribute: a name or numbers, and options behind semicolons. -/
def isAttribute (s : Text) : Bool :=
  match Text.splitOn (· == ';') s with
  | [] => false
  | type :: options =>
    (isName type || isNumbers type) && options.all fun o => !o.isEmpty && o.all isKeyChar

/-- What stands with the attribute of a comparison by a rule: the attribute, the mark for names, and
the rule, each as far as it is given. -/
def isRuled (s : Text) : Bool :=
  match Text.splitOn (· == ':') s with
  | [] => false
  | attr :: rules =>
    let rules := match rules with
      | ['d', 'n'] :: rest => rest
      | _ => rules
    (attr.isEmpty || isAttribute attr) && rules.length ≤ 1 &&
      rules.all (fun r => isName r || isNumbers r) && !(attr.isEmpty && rules.isEmpty)

/-- A comparison with a single value. -/
def comparison? (how : Comparison) (attr value : Text) : Option Filter :=
  if isAttribute attr then (unescape? value).map (.compare how attr) else none

/-- The comparison that is written before and behind an equals sign. -/
def item? (left right : Text) : Option Filter :=
  match left.reverse with
  | '>' :: a => comparison? .greaterOrEqual a.reverse right
  | '<' :: a => comparison? .lessOrEqual a.reverse right
  | '~' :: a => comparison? .approximate a.reverse right
  | ':' :: a =>
    if isRuled a.reverse then (unescape? right).map (.compare .extensible a.reverse) else none
  | _ =>
    if !isAttribute left then none
    else
      match unescapeAll? (Text.splitOn (· == '*') right) with
      | some [value] => some (.compare .equality left value)
      | some [[], []] => some (.present left)
      | some parts => some (.pattern left parts)
      | none => none

mutual

/-- A filter in brackets, and the text behind it. The number bounds the steps. -/
def filter? : Nat → Text → Option (Filter × Text)
  | fuel + 1, '(' :: s =>
    match s with
    | '&' :: rest => (list? fuel rest).map fun (fs, after) => (.all fs, after)
    | '|' :: rest => (list? fuel rest).map fun (fs, after) => (.any fs, after)
    | '!' :: rest =>
      match filter? fuel rest with
      | some (f, ')' :: after) => some (.not f, after)
      | _ => none
    | _ =>
      let left := Text.upTo (· == '=') s
      let behind := s.drop (left.length + 1)
      let right := Text.upTo (· == ')') behind
      match behind.drop right.length with
      | ')' :: after => (item? left right).map fun f => (f, after)
      | _ => none
  | _, _ => none

/-- Filters up to a closing bracket. -/
def list? : Nat → Text → Option (List Filter × Text)
  | _, ')' :: after => some ([], after)
  | 0, _ => none
  | fuel + 1, s =>
    match filter? fuel s with
    | some (f, rest) => (list? fuel rest).map fun (fs, after) => (f :: fs, after)
    | none => none

end

/-- The filter that a text writes. Every step takes a character off the text. -/
def parse? (s : Text) : Option Filter :=
  match filter? (2 * s.length) s with
  | some (f, []) => some f
  | _ => none

end Filter
end Autoresponder
