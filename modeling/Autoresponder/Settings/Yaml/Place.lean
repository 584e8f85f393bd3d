import Autoresponder.Text
/-!
# Places in YAML files

The structure of a file follows from the columns at which its parts begin. This module tells where a
character stands, and what separates words and lines. Line feeds are the only line breaks.
-/

namespace Autoresponder.Settings.Yaml

open Autoresponder (Text)

/-! ## 1. Characters -/

def isSpace (c : Char) : Bool := c == ' ' || c == '\t'

def isBreak (c : Char) : Bool := c == '\n'

/-- What stands at this place separates words: a blank, a line break or the end. -/
def atGap : Text → Bool
  | [] => true
  | c :: _ => isSpace c || isBreak c

/-- Nothing more stands on this line. -/
def atLineEnd (s : Text) : Bool := s.head?.all isBreak

/-- A line that separates documents: three hyphens or three points. -/
def isMarker (s : Text) : Bool :=
  (Text.startsWith "---".toList s || Text.startsWith "...".toList s) && atGap (s.drop 3)

/-- A character that ends a word in a flow collection. -/
def isFlowMark (c : Char) : Bool := c == ',' || c == '[' || c == ']' || c == '\x7b' || c == '\x7d'

/-- A letter, a digit, a low line or a hyphen. -/
def isNameChar (c : Char) : Bool := c.isAlphanum || c == '_' || c == '-'

/-! ## 2. The rest of a line -/

/-- What lies between a word and the next one on its line. -/
structure LineGap where
  hasTab : Bool
  hasSpace : Bool
  /-- The text behind the blanks, and behind the comment if one follows them. -/
  rest : Text

/-- The blanks here and a comment, which must have a blank before it. -/
def lineGap? (s : Text) : Option LineGap :=
  let blanks := s.takeWhile isSpace
  let gap := LineGap.mk (blanks.contains '\t') (blanks.contains ' ')
  match s.dropWhile isSpace with
  | '#' :: more => if blanks.isEmpty then none else some (gap (more.dropWhile fun c => !isBreak c))
  | more => some (gap more)

/-- The end of the line, if only blanks and a comment are left on it. -/
def lineEnd? (s : Text) : Option Text :=
  ((lineGap? s).map LineGap.rest).filter atLineEnd

/-! ## 3. Places -/

/-- Where a character stands: how many characters there are before it in the file, how many lines,
and how many characters on its line. -/
structure Place where
  offset : Nat := 0
  line : Nat := 0
  column : Nat := 0
  /-- There are only blanks before it on its line. -/
  isFirst : Bool := true
  deriving DecidableEq, Repr

namespace Place

/-- The place behind a character. -/
def after (p : Place) (c : Char) : Place :=
  if isBreak c then ⟨p.offset + 1, p.line + 1, 0, true⟩
  else ⟨p.offset + 1, p.line, p.column + 1, p.isFirst && isSpace c⟩

/-- The place behind a text. -/
def behind (p : Place) (t : Text) : Place := t.foldl after p

end Place
end Autoresponder.Settings.Yaml
