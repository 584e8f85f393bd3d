import Autoresponder.Settings.Yaml.Block
import Autoresponder.Settings.Yaml.Reading
import Autoresponder.Settings.Yaml.Scalar
/-!
# The tokens of YAML files

How each token is read, and with them all a file (`Token.ofText?`).

1. Directives and the lines that separate documents end all block collections. A pair in a flow list
   is a table of its own, whose tokens are added here (`closePair`, `colon?`).
2. A hyphen and the mark of an explicit key stand at the column of their collection. A colon puts
   the token for the key where its candidate is.
3. Scalars, aliases, anchors and tags may begin a key.
-/

namespace Autoresponder.Settings.Yaml

open Autoresponder (Text)

namespace Reading

/-! ## 1. Boundaries and flow collections -/

/-- A directive, or a line that separates documents. It ends all block collections. -/
def boundary? (t : Token) (rest : Text) (r : Reading) : Option Reading :=
  (r.closeLevels fun _ => false).forget?.map fun r => ((r.allowKey false).goTo rest).emit t

/-- The end of a document, behind which nothing more may stand on its line. -/
def documentEnd? (r : Reading) : Option Reading := do
  r.boundary? .documentEnd (← lineEnd? (r.rest.drop 3))

/-- Opens a flow collection. -/
def openFlow? (t : Token) (r : Reading) : Option Reading :=
  let r := r.propose.openValue
  if 255 ≤ r.around.length then none
  else
    let opened :=
      { r with around := r.candidate :: r.around, candidate := none, keyAllowed := true }
    let entered :=
      if t = .flowTable then { opened with inTable := true }
      else { opened with lists := false :: opened.lists }
    ((entered.goTo (r.rest.drop 1)).emit t).skipLineGap?

/-- Ends the table of a pair in the innermost flow list, if there is one. -/
def closePair (r : Reading) : Reading :=
  match r.lists with
  | true :: outer => { r with lists := false :: outer, inTable := false }.emit .flowTableEnd
  | _ => r

/-- Closes a flow collection. A colon may follow it without a gap in a flow collection. -/
def closeFlow? (t : Token) (r : Reading) : Option Reading := do
  let r ← r.forget?
  let r := match r.around with
    | [] => r
    | outer :: around => { r with candidate := outer, around := around }
  let r := if t = .flowListEnd then { r.closePair with lists := r.lists.drop 1 } else r
  let r ← (((r.allowKey false).goTo (r.rest.drop 1)).emit t).skipLineGap?
  return if r.inFlow then { r with joinedAt := r.place.offset } else r

def comma? (r : Reading) : Option Reading := do
  let r := ((← r.forget?).allowKey true).closePair
  ((r.goTo (r.rest.drop 1)).emit .comma).skipLineGap?

/-! ## 2. Items and keys -/

/-- The hyphen of an item, which stands at the column of its list. Behind tabs alone no further item
may stand on its line. -/
def item? (r : Reading) : Option Reading :=
  if r.inFlow || !r.keyAllowed then none
  else do
    let r := (r.openBlock .blockList r.place.column r.tokens.length).goTo (r.rest.drop 1)
    let gap ← lineGap? r.rest
    let r := r.goTo gap.rest
    if gap.hasTab && r.rest.head? == some '-' && atGap (r.rest.drop 1) then none
    else
      let c := r.rest.head?
      let r := if c.any fun c => isBreak c || isFlowMark c then r.openValue else r
      return ((← r.forget?).allowKey true).emit .item

/-- The mark of an explicit key, which stands at the column of its table. A blank that is no tab or
a line break follows it. -/
def explicitKey? (r : Reading) : Option Reading :=
  if !r.inFlow && !r.keyAllowed then none
  else do
    let opened := r.openBlock .blockTable r.place.column r.tokens.length
    let r ← { opened with inTable := opened.inTable || r.inFlow }.forget?
    let rest := r.rest.drop 1
    if rest.head?.any (fun c => isBreak c || c == ' ') && isKeyGap false rest then
      return ((r.allowKey (!r.inFlow)).goTo rest).emit .key
    else none

/-- Goes on behind the colon and the tabs that follow it. Behind tabs alone no word may follow. -/
def passColon? (r : Reading) : Option Reading :=
  let rest := r.rest.drop 1
  if rest.head? == some '\t' then do
    let gap ← lineGap? rest
    if !gap.hasSpace && gap.rest.head?.any isNameChar then none else return r.goTo gap.rest
  else some (r.goTo rest)

/-- The colon behind a key. Without a candidate, the key is explicit or missing. -/
def colon? (r : Reading) : Option Reading := do
  let isPair := !r.lists.isEmpty && !r.inTable
  let here := r.place
  let r ← { r with lists := if isPair then true :: r.lists.drop 1 else r.lists }.passColon?
  match r.candidate with
  | some c =>
    if isPair && c.place.line < here.line then none
    else
      let keyed := r.insert c.position .key
      let keyed := if isPair then keyed.insert c.position .flowTable else keyed
      let opened := (keyed.openBlock .blockTable c.place.column c.position).openValue
      return ({ opened with candidate := none }.allowKey false).emit .colon
  | none =>
    if !r.inFlow && !r.keyAllowed then none
    else
      let r := if isPair then r.emit .flowTable else r
      let opened := (r.openBlock .blockTable here.column r.tokens.length).openValue
      return (opened.allowKey (!r.inFlow)).emit .colon

/-- A colon without a gap behind it in a flow collection. A collection may follow it only where it
needs no gap. -/
def flowColon? (after : Text) (r : Reading) : Option Reading :=
  if r.place.offset != r.joinedAt && (after.head? == some '[' || after.head? == some '\x7b') then
    none
  else r.colon?

/-! ## 3. Scalars and their properties -/

/-- A token of which a key may consist, and the text behind it. -/
def word (t : Token) (rest : Text) (r : Reading) : Reading :=
  ((r.propose.allowKey false).goTo rest).emit t

def anchored? (token : Text → Token) (after : Text) (r : Reading) : Option Reading :=
  (anchorName? after).map fun (name, rest) => r.word (token name) rest

/-- A tag has a gap behind it, or the mark of a flow collection. -/
def tagged? (r : Reading) : Option Reading := do
  let (t, rest) ← tag? r.rest
  if atGap rest || (r.inFlow && rest.head?.any isFlowMark) then return r.word (.tag t) rest
  else none

/-- A quoted scalar. Only what can follow a value or a key may stand behind it, and outside flow
collections a key has one line. A colon may follow it without a gap in a flow collection. -/
def quoted? (r : Reading) : Option Reading := do
  let (t, rest) ← quotedScalar? (r.margin - 1) r.place.column r.rest
  let q ← (r.propose.allowKey false |>.goTo rest).skipLineGap?
  let fits := q.rest.head?.all fun c =>
    isBreak c || (c == ':' && (q.inFlow || q.place.line == r.place.line)) ||
      (q.inFlow && (c == ',' || c == ']' || c == '\x7d'))
  if fits then
    let q ← q.skipGap?
    return { q with joinedAt := q.place.offset }.emit (.scalar false t)
  else none

/-- A block scalar with its mark. -/
def blockScalar? (isFolded : Bool) (after : Text) (r : Reading) : Option Reading := do
  let r := (r.propose.allowKey true).closeValues
  let (header, rest) ← Block.Header.ofText? isFolded after
  match ← lineEnd? rest with
  | [] => return (r.goTo []).emit (.scalar false [])
  | _ :: lines =>
    let (t, rest) ← header.read? r.margin lines
    return (r.goTo rest).emit (.scalar false t)

/-- A plain scalar. A key may follow it on a further line. -/
def plainScalar? (r : Reading) : Option Reading :=
  let r := r.propose.closeValues
  if r.inFlow && r.place.column < r.margin then none
  else
    (plain? r.inFlow r.margin (.between (.blanks [])) r.place r.rest).map fun p =>
      { r with place := p.place, rest := p.rest, keyAllowed := p.place.isFirst }.emit
        (.scalar true p.text)

/-! ## 4. Files -/

/-- A directive or a line that separates documents, at the start of a line. -/
def separator? (r : Reading) : Option (Option Reading) :=
  if r.place.column != 0 then none
  else if r.rest.head? == some '%' then
    some ((directive? r.rest).bind fun (d, rest) => r.boundary? (.directive d) rest)
  else if isMarker r.rest then
    some (if r.rest.head? == some '-' then r.boundary? .documentStart (r.rest.drop 3)
      else r.documentEnd?)
  else none

/-- Reads the token that begins with a character. -/
def token? (c : Char) (after : Text) (r : Reading) : Option Reading :=
  if c == '[' then r.openFlow? .flowList
  else if c == '\x7b' then r.openFlow? .flowTable
  else if c == ']' then r.closeFlow? .flowListEnd
  else if c == '\x7d' then r.closeFlow? .flowTableEnd
  else if c == ',' then r.comma?
  else if c == '-' && atGap after then r.item?
  else if c == '?' && atGap after then r.explicitKey?
  else if c == ':' && atGap after then r.colon?
  else if c == ':' && r.inFlow && (after.head?.any isFlowMark || r.place.offset == r.joinedAt) then
    r.flowColon? after
  else if c == '*' then r.anchored? .alias after
  else if c == '&' then r.anchored? .anchor after
  else if c == '!' then r.tagged?
  else if c == '|' && !r.inFlow then r.blockScalar? false after
  else if c == '>' && !r.inFlow then r.blockScalar? true after
  else if c == '\'' || c == '"' then r.quoted?
  else if c == '%' || c == '@' || c == '\x60' then none
  else r.plainScalar?

/-- Reads all tokens that are left. Each has at least one character, so the length of the text
bounds their number. -/
def run? : Nat → Reading → Option (List Token)
  | 0, _ => none
  | fuel + 1, r => do
    let r ← (← r.skipGap?).expire?
    let r := r.closeLevels (· ≤ r.place.column)
    match r.rest with
    | [] => (r.closeLevels fun _ => false).forget?.map Reading.tokens
    | c :: after =>
      match r.separator? with
      | some next => run? fuel (← next)
      | none => if r.place.column + 1 < r.margin then none else run? fuel (← r.token? c after)

end Reading

/-- The tokens of a text. -/
def Token.ofText? (s : Text) : Option (List Token) := Reading.run? (s.length + 1) { rest := s }

end Autoresponder.Settings.Yaml
