import Autoresponder.Settings.Yaml.Token
/-!
# The reading of YAML files

What is known between two tokens of a file.

1. What may turn out to be a key is known only when its colon comes. Every place where a key could
   begin is a `Candidate`, at most one in each flow collection and one outside them. Outside flow
   collections a candidate lapses at the end of its line, or 1024 characters on.
2. A block collection begins with its first item or key and ends before the next token at a smaller
   column (`Level`). Within flow collections no level begins or ends, but nothing may stand to the
   left of the last one.
3. Gaps between tokens are passed over (`skipGap?`).
-/

namespace Autoresponder.Settings.Yaml

open Autoresponder (Text)

/-! ## 1. The state between two tokens -/

/-- A place where a key may have begun. -/
structure Candidate where
  /-- The number of the token that begins there. -/
  position : Nat
  place : Place
  /-- The colon must follow. -/
  isRequired : Bool
  deriving DecidableEq, Repr

/-- A column at which the parts of a block collection begin, or the column right of it where the
value behind a colon or hyphen may begin. -/
structure Level where
  column : Nat
  isCollection : Bool
  deriving DecidableEq, Repr

/-- How far a text has been read. -/
structure Reading where
  place : Place := {}
  rest : Text
  tokens : List Token := []
  /-- The candidate of the innermost flow collection, or of the block if there is none. -/
  candidate : Option Candidate := none
  /-- The candidates of the collections around; there are as many as there are open flow
  collections. -/
  around : List (Option Candidate) := []
  /-- A key or an item may begin here. -/
  keyAllowed : Bool := true
  /-- The innermost level is the first. -/
  levels : List Level := []
  /-- For each open flow list, whether a table for one of its pairs is open. -/
  lists : List Bool := []
  /-- A flow table or an explicit key has been opened, so that no pair gets a table any more until
  the table of a pair ends. -/
  inTable : Bool := false
  /-- How many characters there are up to the place where a colon needs no gap behind it. -/
  joinedAt : Nat := 0

namespace Reading

def inFlow (r : Reading) : Bool := !r.around.isEmpty

/-- The first column inside the innermost level. -/
def margin (r : Reading) : Nat := (r.levels.head?.map fun l => l.column + 1).getD 0

/-- Goes on to a later part of the text. -/
def goTo (rest : Text) (r : Reading) : Reading :=
  { r with place := r.place.behind (r.rest.take (r.rest.length - rest.length)), rest := rest }

def emit (t : Token) (r : Reading) : Reading := { r with tokens := r.tokens ++ [t] }

/-- Puts a token in front of the one with a number. -/
def insert (position : Nat) (t : Token) (r : Reading) : Reading :=
  { r with tokens := r.tokens.insertIdx position t }

def allowKey (allowed : Bool) (r : Reading) : Reading := { r with keyAllowed := allowed }

/-- Goes on behind blanks on this line and a comment. -/
def skipLineGap? (r : Reading) : Option Reading := (lineGap? r.rest).map fun gap => r.goTo gap.rest

/-! ## 2. Keys -/

/-- Forgets the innermost candidate, which must not be required. -/
def forget? (r : Reading) : Option Reading :=
  if r.candidate.any (·.isRequired) then none else some { r with candidate := none }

/-- Forgets the candidate outside flow collections if it has lapsed. -/
def expire? (r : Reading) : Option Reading :=
  let hasLapsed := r.candidate.any fun c =>
    c.place.line < r.place.line || c.place.offset + 1024 < r.place.offset
  if !r.inFlow && hasLapsed then r.forget? else some r

/-- Notes that a key may begin here, where one is allowed. It is required at the column of a block
collection. -/
def propose (r : Reading) : Reading :=
  if r.keyAllowed then
    let isRequired := !r.inFlow && r.levels.head? == some ⟨r.place.column, true⟩
    { r with candidate := some ⟨r.tokens.length, r.place, isRequired⟩ }
  else r

/-! ## 3. Levels -/

/-- Opens a block collection at a column, unless it is open already. Its token stands at a position.
The level of a value that would begin here gives way to it. -/
def openBlock (t : Token) (column position : Nat) (r : Reading) : Reading :=
  if r.inFlow then r
  else
    let levels := match r.levels with
      | l :: outer => if l.column ≤ column && !l.isCollection then outer else l :: outer
      | [] => []
    if levels.head?.any (column ≤ ·.column) then { r with levels := levels }
    else { r with levels := ⟨column, true⟩ :: levels }.insert position t

/-- A value may begin right of the column of the innermost block collection. -/
def openValue (r : Reading) : Reading :=
  if !r.inFlow && r.levels.head?.any (·.isCollection) then
    { r with levels := ⟨r.margin, false⟩ :: r.levels }
  else r

/-- Closes the innermost levels whose columns are not kept. -/
def closeLevels (keeps : Nat → Bool) (r : Reading) : Reading :=
  if r.inFlow then r
  else
    let closed := r.levels.takeWhile fun l => !keeps l.column
    { r with
      levels := r.levels.drop closed.length
      tokens := r.tokens ++ List.replicate (closed.filter (·.isCollection)).length .blockEnd }

/-- Closes the levels of values, for a scalar that is one. -/
def closeValues (r : Reading) : Reading := { r with levels := r.levels.dropWhile (!·.isCollection) }

/-! ## 4. Gaps -/

/-- What a gap between two tokens is in the middle of. -/
inductive Gap where
  | blanks
  | comment
  /-- A line with a tab in front of its indentation. It must be blank but for a comment. -/
  | tabbed
  deriving DecidableEq

/-- Passes over blanks, line breaks and comments. Outside flow collections a line break allows a
key. -/
def skip? (inFlow : Bool) (margin : Nat) : Gap → Bool → Place → Text → Option (Bool × Place × Text)
  | _, allowed, p, [] => some (allowed, p, [])
  | gap, allowed, p, c :: s =>
    if isBreak c then skip? inFlow margin .blanks (allowed || !inFlow) (p.after c) s
    else if gap = .comment || c == '#' then skip? inFlow margin .comment allowed (p.after c) s
    else if isSpace c then
      let gap := if c == '\t' && p.isFirst && p.column + 1 < margin then .tabbed else gap
      skip? inFlow margin gap allowed (p.after c) s
    else if gap = .tabbed then none
    else some (allowed, p, c :: s)

def skipGap? (r : Reading) : Option Reading :=
  (skip? r.inFlow r.margin .blanks r.keyAllowed r.place r.rest).map fun (allowed, place, rest) =>
    { r with keyAllowed := allowed, place := place, rest := rest }

/-- No tab stands in the gap at the start of a text. The flag tells that a comment is being passed
over. -/
def isKeyGap : Bool → Text → Bool
  | _, [] => true
  | isComment, c :: s =>
    if isBreak c then isKeyGap false s
    else if isComment || c == '#' then isKeyGap true s
    else if c == ' ' then isKeyGap false s
    else c != '\t'

end Reading
end Autoresponder.Settings.Yaml
