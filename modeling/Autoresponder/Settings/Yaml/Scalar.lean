import Autoresponder.Settings.Yaml.Place
/-!
# Plain and quoted YAML scalars

Scalars whose lines are folded: a line break becomes a blank, and of several line breaks one is
lost.

1. `Between` is what lies between two words, as far as it counts.
2. A quoted scalar may have escapes in double quotation marks (`Piece`). Its words must stand at the
   indentation of the block around it or to the right (`fold?`), and a line that separates documents
   must not stand in it.
3. A plain scalar ends where something else can begin (`plain?`).
-/

namespace Autoresponder.Settings.Yaml

open Autoresponder (Text)

/-! ## 1. Folding -/

/-- What lies between two words: blanks on a line, or line breaks. `kept` counts the line breaks
that folding leaves; a single break leaves a blank. -/
inductive Between where
  | blanks (s : Text)
  | breaks (kept : Nat)
  /-- The first line break has a backslash before it. -/
  | joint (kept : Nat)

namespace Between

def text : Between → Text
  | .blanks s => s
  | .breaks 0 => [' ']
  | .breaks kept => List.replicate kept '\n'
  | .joint kept => List.replicate kept '\n'

def addBlank (c : Char) : Between → Between
  | .blanks s => .blanks (s ++ [c])
  | b => b

def addBreak : Between → Between
  | .blanks _ => .breaks 0
  | .breaks kept => .breaks (kept + 1)
  | .joint kept => .joint (kept + 1)

/-- There is a line break. -/
def isBroken : Between → Bool
  | .blanks _ => false
  | _ => true

end Between

/-! ## 2. Quoted scalars -/

/-- A part of a quoted scalar. -/
inductive Piece where
  /-- As it stands in the file; blanks and line breaks are subject to folding. -/
  | raw (c : Char)
  /-- The result of an escape that is written with so many characters. -/
  | sure (c : Char) (width : Nat)
  /-- A line break with a backslash before it. -/
  | joint

/-- A scalar in single quotation marks, behind the first one. Two marks write one. -/
def singlePieces? : Text → Option (List Piece × Text)
  | [] => none
  | '\'' :: '\'' :: s => (singlePieces? s).map fun (ps, rest) => (.sure '\'' 2 :: ps, rest)
  | '\'' :: s => some ([], s)
  | c :: s =>
    if isBreak c && isMarker s then none
    else (singlePieces? s).map fun (ps, rest) => (.raw c :: ps, rest)

/-- The character that a backslash and a letter stand for. -/
def shortEscape? : Char → Option Char
  | '0' => some '\x00'
  | 'a' => some '\x07'
  | 'b' => some '\x08'
  | 't' => some '\t'
  | '\t' => some '\t'
  | 'n' => some '\n'
  | 'v' => some '\x0b'
  | 'f' => some '\x0c'
  | 'r' => some '\r'
  | 'e' => some '\x1b'
  | ' ' => some ' '
  | '"' => some '"'
  | '/' => some '/'
  | '\\' => some '\\'
  | 'N' => some '\u0085'
  | '_' => some '\u00a0'
  | 'L' => some '\u2028'
  | 'P' => some '\u2029'
  | _ => none

/-- The character with a number in hexadecimal, if there is one. -/
def scalar? (digits : Text) : Option Char :=
  let n := Text.valueIn 16 digits
  if digits.all (Text.isDigitIn 16) && n.isValidChar then some (Char.ofNat n) else none

/-- A scalar in double quotation marks, behind the first one. -/
def doublePieces? : Text → Option (List Piece × Text)
  | [] => none
  | '"' :: s => some ([], s)
  | '\\' :: '\n' :: s =>
    if isMarker s then none else (doublePieces? s).map fun (ps, rest) => (.joint :: ps, rest)
  | '\\' :: 'x' :: a :: b :: s => do
    let ch ← scalar? [a, b]
    let (ps, rest) ← doublePieces? s
    return (.sure ch 4 :: ps, rest)
  | '\\' :: 'u' :: a :: b :: c :: d :: s => do
    let ch ← scalar? [a, b, c, d]
    let (ps, rest) ← doublePieces? s
    return (.sure ch 6 :: ps, rest)
  | '\\' :: 'U' :: a :: b :: c :: d :: e :: f :: g :: h :: s => do
    let ch ← scalar? [a, b, c, d, e, f, g, h]
    let (ps, rest) ← doublePieces? s
    return (.sure ch 10 :: ps, rest)
  | '\\' :: e :: s => do
    let ch ← shortEscape? e
    let (ps, rest) ← doublePieces? s
    return (.sure ch 2 :: ps, rest)
  | c :: s =>
    if c == '\\' || (isBreak c && isMarker s) then none
    else (doublePieces? s).map fun (ps, rest) => (.raw c :: ps, rest)

/-- The text of a quoted scalar behind what lies before it. On further lines no word, no tab and no
closing mark may stand left of `indent`, but for a mark right behind a joint. -/
def fold? (indent : Nat) : Between → Nat → List Piece → Option Text
  | b, column, [] =>
    match b, column with
    | .joint 0, 0 => some []
    | _, _ => if b.isBroken && column < indent then none else some b.text
  | b, column, .raw c :: ps =>
    if isBreak c then fold? indent b.addBreak 0 ps
    else if isSpace c && !(c == '\t' && b.isBroken && column < indent) then
      fold? indent (b.addBlank c) (column + 1) ps
    else if b.isBroken && column < indent then none
    else (fold? indent (.blanks []) (column + 1) ps).map fun t => b.text ++ c :: t
  | b, column, .sure c width :: ps =>
    if b.isBroken && column < indent then none
    else (fold? indent (.blanks []) (column + width) ps).map fun t => b.text ++ c :: t
  | b, column, .joint :: ps =>
    if b.isBroken && column < indent then none
    else (fold? indent (.joint 0) 0 ps).map fun t => b.text ++ t

/-- The quoted scalar at the start of a text, which stands at a column, and the text behind it. -/
def quotedScalar? (indent column : Nat) : Text → Option (Text × Text)
  | '\'' :: s => do
    let (ps, rest) ← singlePieces? s
    return (← fold? indent (.blanks []) (column + 1) ps, rest)
  | '"' :: s => do
    let (ps, rest) ← doublePieces? s
    return (← fold? indent (.blanks []) (column + 1) ps, rest)
  | _ => none

/-! ## 3. Plain scalars -/

/-- Where the reading of a plain scalar stands. -/
inductive PlainPart where
  | word
  | between (b : Between)
  /-- On a line with a tab in front of its indentation. It must be blank but for a comment. -/
  | tabbed (b : Between)
  /-- In a comment on such a line. -/
  | comment (b : Between)

/-- A plain scalar, and where it ends. -/
structure Plain where
  text : Text
  place : Place
  rest : Text

/-- A word of a plain scalar ends before this character. -/
def endsWord (inFlow : Bool) (c : Char) (s : Text) : Bool :=
  (c == ':' && (atGap s || (inFlow && s.head?.any isFlowMark))) || (inFlow && isFlowMark c)

/-- A plain scalar ends before this character, which is no blank. On further lines it goes on as
long as they stand at `margin` or to the right of it. -/
def endsPlain (inFlow : Bool) (margin : Nat) (b : Between) (p : Place) (c : Char) (s : Text) :
    Bool :=
  c == '#' || (p.column == 0 && isMarker (c :: s)) ||
    (!inFlow && b.isBroken && p.column < margin) ||
    endsWord inFlow c s

/-- The rest of a plain scalar. -/
def plain? (inFlow : Bool) (margin : Nat) : PlainPart → Place → Text → Option Plain
  | _, p, [] => some ⟨[], p, []⟩
  | .word, p, c :: s =>
    if isBreak c then plain? inFlow margin (.between (.breaks 0)) (p.after c) s
    else if isSpace c then plain? inFlow margin (.between (.blanks [c])) (p.after c) s
    else if endsWord inFlow c s then some ⟨[], p, c :: s⟩
    else (plain? inFlow margin .word (p.after c) s).map fun r => { r with text := c :: r.text }
  | .between b, p, c :: s =>
    if isBreak c then plain? inFlow margin (.between b.addBreak) (p.after c) s
    else if c == '\t' && b.isBroken && p.column < margin then
      plain? inFlow margin (.tabbed b) (p.after c) s
    else if isSpace c then plain? inFlow margin (.between (b.addBlank c)) (p.after c) s
    else if endsPlain inFlow margin b p c s then some ⟨[], p, c :: s⟩
    else if inFlow && c == '-' && s.head?.any isFlowMark then none
    else (plain? inFlow margin .word (p.after c) s).map fun r =>
      { r with text := b.text ++ c :: r.text }
  | .tabbed b, p, c :: s =>
    if isBreak c then plain? inFlow margin (.between b.addBreak) (p.after c) s
    else if isSpace c then plain? inFlow margin (.tabbed b) (p.after c) s
    else if c == '#' then plain? inFlow margin (.comment b) (p.after c) s
    else none
  | .comment b, p, c :: s =>
    plain? inFlow margin (if isBreak c then .between b else .comment b) (p.after c) s

end Autoresponder.Settings.Yaml
