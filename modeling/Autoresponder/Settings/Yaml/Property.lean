import Autoresponder.Settings.Yaml.Place
/-!
# Properties and directives of YAML files

What may stand before a node, and before a document.

1. An anchor gives a node a name, by which an alias means the node.
2. A tag is written with a handle and a suffix. Numbers in a tag stand for the bytes of a character.
3. A directive about tags says what a handle means (`Tag.resolve?`).

The characters that numbers stand for are not decoded: their bytes are the digits of their number in
base 256. No such number above two bytes is a character.
-/

namespace Autoresponder.Settings.Yaml

open Autoresponder (Text)

/-! ## 1. Anchors -/

/-- A character of the name of an anchor. -/
def isAnchorChar (c : Char) : Bool := !(isSpace c || isBreak c || isFlowMark c || c == '\ufeff')

/-- The name of an anchor or alias behind its mark, and the text behind it. -/
def anchorName? (s : Text) : Option (Text × Text) :=
  let name := s.takeWhile isAnchorChar
  if name.isEmpty then none else some (name, s.drop name.length)

/-! ## 2. Tags -/

/-- A tag as it is written, or with its handle replaced by what the handle means. -/
structure Tag where
  handle : Text
  suffix : Text
  deriving DecidableEq, Repr

def isUriChar (c : Char) : Bool := isNameChar c || "#;/?:@&=+$,.!~*'()[]%".toList.contains c

/-- A character of a tag behind its handle. -/
def isTagChar (c : Char) : Bool := isUriChar c && !isFlowMark c && c != '!'

/-- The character that numbers in base 16 stand for, one for each byte. -/
def numbered? : Text → Option (Char × Text)
  | '%' :: a :: b :: s => do
    let byte := 16 * (← Text.hexValue? a) + (← Text.hexValue? b)
    if byte < 0x80 then return (Char.ofNat byte, s)
    else if byte < 0xC0 || 0xE0 ≤ byte then none
    else
      match s with
      | '%' :: c :: d :: s =>
        let more := 16 * (← Text.hexValue? c) + (← Text.hexValue? d)
        let n := 256 * byte + more
        if 0x80 ≤ more && more < 0xC0 && n.isValidChar then return (Char.ofNat n, s) else none
      | _ => none
  | _ => none

/-- The characters of a class, of which some may be written by numbers, and the text behind them.
The number bounds their count. -/
def uri? (p : Char → Bool) : Nat → Text → Option (Text × Text)
  | 0, _ => none
  | fuel + 1, s =>
    match s with
    | [] => some ([], [])
    | c :: rest =>
      if !p c then some ([], c :: rest)
      else do
        let (d, rest) ← if c == '%' then numbered? (c :: rest) else some (c, rest)
        let (t, rest) ← uri? p fuel rest
        return (d :: t, rest)

def uriOf? (p : Char → Bool) (s : Text) : Option (Text × Text) := uri? p (s.length + 1) s

/-- The handle of a tag, and the text behind it. -/
def tagHandle? : Text → Option (Text × Text)
  | '!' :: s =>
    let name := s.takeWhile isNameChar
    match s.drop name.length with
    | '!' :: rest => some ('!' :: name ++ ['!'], rest)
    | rest => some ('!' :: name, rest)
  | _ => none

/-- The handle has a name of its own, or is that of the core types. -/
def isNamedHandle (handle : Text) : Bool := 2 ≤ handle.length && handle.getLast? == some '!'

/-- The tag at the start of a text, and the text behind it. A single mark is a tag by itself. -/
def tag? : Text → Option (Tag × Text)
  | '!' :: '<' :: s => do
    match ← uriOf? isUriChar s with
    | (suffix, '>' :: rest) => return (⟨[], suffix⟩, rest)
    | _ => none
  | s => do
    let (handle, rest) ← tagHandle? s
    let (suffix, rest) ← uriOf? isTagChar rest
    if isNamedHandle handle then
      if suffix.isEmpty then none else return (⟨handle, suffix⟩, rest)
    else
      let suffix := handle.drop 1 ++ suffix
      return (if suffix.isEmpty then ⟨[], ['!']⟩ else ⟨['!'], suffix⟩, rest)

/-! ## 3. Directives -/

inductive Directive where
  | version
  /-- What the handle of a tag means. -/
  | handle (name meaning : Text)
  deriving DecidableEq, Repr

/-- The text behind one to nine digits. -/
def versionNumber? (s : Text) : Option Text :=
  let digits := s.takeWhile Text.isDigit
  if digits.isEmpty || 9 < digits.length then none else some (s.drop digits.length)

/-- What a handle means: a text that may begin with a mark, and else with a character of a tag. -/
def meaning? (s : Text) : Option (Text × Text) :=
  match s with
  | '!' :: rest => (uriOf? isUriChar rest).map fun (t, rest) => ('!' :: t, rest)
  | c :: _ => if isTagChar c then uriOf? isUriChar s else none
  | [] => none

/-- A directive behind its name, and the text behind it. An unknown one is passed over, and means
nothing. -/
def arguments? (name s : Text) : Option (Directive × Text) :=
  if name == "YAML".toList then do
    match ← versionNumber? (s.dropWhile isSpace) with
    | '.' :: rest => return (.version, ← versionNumber? rest)
    | _ => none
  else if name == "TAG".toList then do
    let (handle, rest) ← tagHandle? (s.dropWhile isSpace)
    if handle != ['!'] && !isNamedHandle handle then none
    else
      let (meaning, rest) ← meaning? (rest.dropWhile isSpace)
      if atGap rest then return (.handle handle meaning, rest) else none
  else some (.handle [] [], s.dropWhile fun c => !isBreak c)

/-- The directive at the start of a line, and the text behind the line. -/
def directive? (s : Text) : Option (Directive × Text) := do
  let name := (s.drop 1).takeWhile isNameChar
  let rest := s.drop (1 + name.length)
  if name.isEmpty || !atGap rest then none
  else
    let (d, rest) ← arguments? name rest
    return (d, (← lineEnd? rest).drop 1)

/-! ## 4. The meaning of tags -/

/-- The types that scalars have without a tag. -/
def coreTypes : Text := "tag:yaml.org,2002:".toList

/-- The handle that a document gives a meaning to, if it does. -/
abbrev Handles := Option (Text × Text)

/-- The handles of a document. Each directive makes those before it void, and the version may be
given once. -/
def Handles.ofDirectives? (ds : List Directive) : Option Handles :=
  if 1 < ds.count .version then none
  else
    match ds.getLast? with
    | some (.handle name meaning) => some (some (name, meaning))
    | _ => some none

/-- The tag with the meaning of its handle. A named handle must have one. -/
def Tag.resolve? (handles : Handles) (t : Tag) : Option Tag :=
  match handles.filter (·.1 == t.handle) with
  | some (_, meaning) => some { t with handle := meaning }
  | none =>
    if t.handle == "!!".toList then some { t with handle := coreTypes }
    else if isNamedHandle t.handle then none
    else some t

end Autoresponder.Settings.Yaml
