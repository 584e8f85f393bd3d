import Autoresponder.Settings.Yaml.Place
/-!
# Block scalars of YAML files

Scalars that take up whole lines, behind a header that says what becomes of their line breaks.

1. The header has a sign for the breaks at the end and a digit for the indentation (`Header`).
2. A scalar ends before the first line that is not blank and stands to the left of its indentation,
   or separates documents. Lines that are not longer than the indentation are empty
   (`Header.read?`).
3. Breaks are kept or folded (`Header.body`), and those at the end are taken off, reduced to one or
   kept (`Header.text`).
-/

namespace Autoresponder.Settings.Yaml.Block

open Autoresponder (Text)

/-! ## 1. Headers -/

/-- What becomes of the line breaks at the end of a block scalar. -/
inductive Chomp where
  | strip
  | clip
  | keep
  deriving DecidableEq, Repr

/-- The first line of a block scalar. -/
structure Header where
  isFolded : Bool
  chomp : Chomp
  /-- The blanks before each line beyond those of the surrounding block, if they are given. -/
  indent : Option Nat

namespace Header

/-- The sign of a chomping and the digit of an indentation, in either order, and the text behind
them. -/
def ofText? (isFolded : Bool) (s : Text) : Option (Header × Text) :=
  let (before, s) := sign s
  let (indent, s) := match s with
    | c :: rest => if Text.isDigit c then (some (c.toNat - '0'.toNat), rest) else (none, s)
    | [] => (none, s)
  let (chomp, s) := if before.isNone then sign s else (before, s)
  if indent = some 0 then none else some (⟨isFolded, chomp.getD .clip, indent⟩, s)
where
  sign : Text → Option Chomp × Text
    | '+' :: rest => (some .keep, rest)
    | '-' :: rest => (some .strip, rest)
    | s => (none, s)

/-! ## 2. Lines -/

/-- The blanks at the start of a line. -/
def indentOf (line : Text) : Nat := (line.takeWhile (· == ' ')).length

def isBlankLine (line : Text) : Bool := line.all (· == ' ')

/-- The indentation of the lines of a block scalar: as given, or that of the first line that is not
blank or of a longer blank line before it. It is `margin` at least, the first column inside the
surrounding block. -/
def indentation (h : Header) (margin : Nat) (lines : List Text) : Nat :=
  match h.indent with
  | some n => max margin 1 + n - 1
  | none =>
    let start := lines.takeWhile isBlankLine
    let first := (lines.drop start.length).head?.toList
    ((start ++ first).map indentOf).foldl max margin

/-- A line that begins with a blank is not folded. -/
def isFoldable : Text → Bool
  | [] => false
  | c :: _ => !isSpace c

/-- The lines of a folded scalar behind `before`, the last line that was not empty, and `gap` empty
lines. A line break between two foldable lines becomes a blank, and empty lines between them leave
one line break each. -/
def foldedLines : Text → Nat → List Text → Text
  | _, gap, [] => List.replicate gap '\n'
  | before, gap, l :: ls =>
    if l.isEmpty then foldedLines before (gap + 1) ls
    else
      let breaks :=
        if isFoldable before && isFoldable l then
          if gap = 0 then [' '] else List.replicate gap '\n'
        else List.replicate (gap + 1) '\n'
      breaks ++ l ++ foldedLines l 0 ls

/-- The text of the lines up to the last one that is not empty, without its line break. -/
def body (h : Header) (lines : List Text) : Text :=
  if h.isFolded then
    let start := lines.takeWhile List.isEmpty
    match lines.dropWhile List.isEmpty with
    | [] => []
    | first :: more => List.replicate start.length '\n' ++ first ++ foldedLines first 0 more
  else Text.joinWith ['\n'] lines

/-! ## 3. Texts -/

/-- The text of a block scalar in which all lines are empty. A file that ends here has a line break
for the header at least. -/
def emptyText (h : Header) (breaks : Nat) (isLast : Bool) : Text :=
  match h.chomp with
  | .strip => []
  | .clip => if isLast then ['\n'] else []
  | .keep => List.replicate (if isLast then max breaks 1 else breaks) '\n'

/-- The text of the lines of a block scalar. `final` is the last line of the file, if the scalar
goes on up to there: that line has no line break, and gets one unless it is shorter than the
indentation. -/
def text (h : Header) (indent : Nat) (lines : List Text) (final : Option Text) : Text :=
  let isLong := final.any fun l => indent < l.length
  let cut := (lines ++ if isLong then final.toList else []).map (·.drop indent)
  let content := Text.dropEndWhile List.isEmpty cut
  let trailing := cut.length - content.length
  if content.isEmpty then h.emptyText trailing final.isSome
  else
    let breaks := if final.any fun l => !l.isEmpty && l.length == indent then 2 else 1
    let kept := if h.chomp == .keep then trailing else 0
    h.body content ++ if h.chomp == .strip then [] else List.replicate (breaks + kept) '\n'

/-- The block scalar whose lines begin here, and the text behind it. -/
def read? (h : Header) (margin : Nat) (s : Text) : Option (Text × Text) :=
  let all := Text.splitOn isBreak s
  let indent := h.indentation margin all
  let mine := all.takeWhile fun l => (isBlankLine l || indent ≤ indentOf l) && !isMarker l
  let rest := all.drop mine.length
  let first := all.find? fun l => !(isBlankLine l && l.length ≤ indent)
  if s.head? == some '\t' || first.any fun l => indentOf l < indent && margin ≤ indentOf l then none
  else if rest.isEmpty then some (h.text indent mine.dropLast mine.getLast?, [])
  else some (h.text indent mine none, Text.joinWith ['\n'] rest)

end Header
end Autoresponder.Settings.Yaml.Block
