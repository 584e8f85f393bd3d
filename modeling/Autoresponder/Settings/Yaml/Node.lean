import Autoresponder.Settings.Yaml.Reading.Tokens
/-!
# YAML nodes

The nodes that a sequence of tokens describes.

1. A node is an alias, a scalar or a collection, with an anchor and a tag in front of it or without.
   Where a node may be missing it is null; behind a property it is the empty plain scalar.
2. A list may stand below a key at the column of the key. It has no tokens for its beginning and its
   end (`bareItems?`).
3. A file holds one document at most (`document?`).
-/

namespace Autoresponder.Settings.Yaml

open Autoresponder (Text)

/-- A scalar, a collection, or one of them with properties. -/
inductive Node where
  | plain (t : Text)
  | quoted (t : Text)
  | list (items : List Node)
  | table (entries : List (Node × Node))
  /-- The handle of the tag is replaced by its meaning. -/
  | tagged (t : Tag) (node : Node)
  | anchored (name : Text) (node : Node)
  | alias (name : Text)

namespace Node

/-- What stands where nothing is written. -/
def missing : Node := .plain ['~']

/-! ## 1. Properties -/

/-- The anchor and the tag of a node in either order, the flag whether there is one of them, and the
tokens behind them. -/
def properties? (handles : Handles) : List Token → Option ((Node → Node) × Bool × List Token)
  | .anchor a :: .tag t :: ts =>
    (t.resolve? handles).map fun t => (fun n => .anchored a (.tagged t n), true, ts)
  | .anchor a :: ts => some (.anchored a, true, ts)
  | .tag t :: .anchor a :: ts =>
    (t.resolve? handles).map fun t => (fun n => .anchored a (.tagged t n), true, ts)
  | .tag t :: ts => (t.resolve? handles).map fun t => (.tagged t, true, ts)
  | ts => some (id, false, ts)

/-- The next token shows that a node of a block collection is missing. -/
def endsEntry : List Token → Bool
  | .key :: _ => true
  | .colon :: _ => true
  | .blockEnd :: _ => true
  | _ => false

def endsItem (ts : List Token) : Bool := ts.head? == some .item || ts.head? == some .blockEnd

def endsFlowEntry (close : Token) (ts : List Token) : Bool :=
  ts.head? == some .comma || ts.head? == some close

/-- The tokens behind the comma in front of every entry but the first. -/
def entryStart? (isFirst : Bool) : List Token → Option (List Token)
  | .comma :: ts => if isFirst then some (.comma :: ts) else some ts
  | ts => if isFirst then some ts else none

/-! ## 2. Nodes -/

mutual

/-- The node at the start of some tokens. `inBlock` tells that it may be a block collection, and
`isUnderKey` that it may be a list at the column of its key. -/
def ofTokens? (handles : Handles) : Nat → Bool → Bool → List Token → Option (Node × List Token)
  | 0, _, _, _ => none
  | fuel + 1, inBlock, isUnderKey, ts => do
    let (wrap, isGiven, rest) ← properties? handles ts
    let bare := if isGiven then some (wrap (.plain []), rest) else none
    match rest with
    | .alias a :: after => if isGiven then bare else some (.alias a, after)
    | .scalar true t :: after => some (wrap (.plain t), after)
    | .scalar false t :: after => some (wrap (.quoted t), after)
    | .flowList :: after =>
      (flowItems? handles fuel true after).map fun (ns, ts) => (wrap (.list ns), ts)
    | .flowTable :: after =>
      (flowEntries? handles fuel true after).map fun (es, ts) => (wrap (.table es), ts)
    | .blockList :: after =>
      if inBlock then (items? handles fuel after).map fun (ns, ts) => (wrap (.list ns), ts)
      else bare
    | .blockTable :: after =>
      if inBlock then (entries? handles fuel after).map fun (es, ts) => (wrap (.table es), ts)
      else bare
    | .item :: _ =>
      if isUnderKey then (bareItems? handles fuel rest).map fun (ns, ts) => (wrap (.list ns), ts)
      else bare
    | _ => bare

/-- The items of a block list. -/
def items? (handles : Handles) : Nat → List Token → Option (List Node × List Token)
  | 0, _ => none
  | fuel + 1, ts =>
    match ts with
    | .blockEnd :: ts => some ([], ts)
    | .item :: ts => do
      let (n, ts) ← if endsItem ts then some (missing, ts) else ofTokens? handles fuel true false ts
      let (ns, ts) ← items? handles fuel ts
      return (n :: ns, ts)
    | _ => none

/-- The items of a list at the column of its key. -/
def bareItems? (handles : Handles) : Nat → List Token → Option (List Node × List Token)
  | 0, _ => none
  | fuel + 1, ts =>
    match ts with
    | .item :: ts => do
      let (n, ts) ←
        if endsItem ts || endsEntry ts then some (missing, ts)
        else ofTokens? handles fuel true false ts
      let (ns, ts) ← bareItems? handles fuel ts
      return (n :: ns, ts)
    | ts => some ([], ts)

/-- The entries of a block table. -/
def entries? (handles : Handles) : Nat → List Token → Option (List (Node × Node) × List Token)
  | 0, _ => none
  | fuel + 1, ts =>
    match ts with
    | .blockEnd :: ts => some ([], ts)
    | .key :: ts => do
      let (k, ts) ← if endsEntry ts then some (missing, ts) else ofTokens? handles fuel true true ts
      entryValue? handles fuel k ts
    | .colon :: ts => entryValue? handles fuel missing (.colon :: ts)
    | _ => none

/-- The value of a key in a block table, and the entries that follow. -/
def entryValue? (handles : Handles) :
    Nat → Node → List Token → Option (List (Node × Node) × List Token)
  | 0, _, _ => none
  | fuel + 1, k, ts => do
    let (v, ts) ← match ts with
      | .colon :: ts =>
        if endsEntry ts then some (missing, ts) else ofTokens? handles fuel true true ts
      | ts => some (missing, ts)
    let (es, ts) ← entries? handles fuel ts
    return ((k, v) :: es, ts)

/-- The items of a flow list. An item with an explicit key is a table of one entry; if that key is
missing, so is its value. -/
def flowItems? (handles : Handles) : Nat → Bool → List Token → Option (List Node × List Token)
  | 0, _, _ => none
  | fuel + 1, isFirst, ts =>
    match ts with
    | .flowListEnd :: ts => some ([], ts)
    | ts => do
      match ← entryStart? isFirst ts with
      | .flowListEnd :: ts => some ([], ts)
      | .key :: ts =>
        let (k, ts) ←
          if ts.head? == some .colon || endsFlowEntry .flowListEnd ts then some (missing, ts.drop 1)
          else ofTokens? handles fuel false false ts
        let (v, ts) ← flowValue? handles fuel .flowListEnd ts
        let (ns, ts) ← flowItems? handles fuel false ts
        return (.table [(k, v)] :: ns, ts)
      | ts =>
        let (n, ts) ← ofTokens? handles fuel false false ts
        let (ns, ts) ← flowItems? handles fuel false ts
        return (n :: ns, ts)

/-- The entries of a flow table. What is not marked as a key has no value. -/
def flowEntries? (handles : Handles) :
    Nat → Bool → List Token → Option (List (Node × Node) × List Token)
  | 0, _, _ => none
  | fuel + 1, isFirst, ts =>
    match ts with
    | .flowTableEnd :: ts => some ([], ts)
    | ts => do
      match ← entryStart? isFirst ts with
      | .flowTableEnd :: ts => some ([], ts)
      | .key :: ts =>
        let (k, ts) ←
          if ts.head? == some .colon || endsFlowEntry .flowTableEnd ts then some (missing, ts)
          else ofTokens? handles fuel false false ts
        let (v, ts) ← flowValue? handles fuel .flowTableEnd ts
        let (es, ts) ← flowEntries? handles fuel false ts
        return ((k, v) :: es, ts)
      | .colon :: ts =>
        let (v, ts) ← flowValue? handles fuel .flowTableEnd (.colon :: ts)
        let (es, ts) ← flowEntries? handles fuel false ts
        return ((missing, v) :: es, ts)
      | ts =>
        let (k, ts) ← ofTokens? handles fuel false false ts
        let (es, ts) ← flowEntries? handles fuel false ts
        return ((k, missing) :: es, ts)

/-- The value of a key in a flow collection that ends with `close`. -/
def flowValue? (handles : Handles) : Nat → Token → List Token → Option (Node × List Token)
  | 0, _, _ => none
  | fuel + 1, close, ts =>
    match ts with
    | .colon :: ts =>
      if endsFlowEntry close ts then some (missing, ts) else ofTokens? handles fuel false false ts
    | ts => some (missing, ts)

end

/-! ## 3. Documents -/

def isDirective : Token → Bool
  | .directive _ => true
  | _ => false

def isBoundary (t : Token) : Bool := isDirective t || t == .documentStart || t == .documentEnd

/-- The directives that some tokens begin with. -/
def directives : List Token → List Directive
  | .directive d :: ts => d :: directives ts
  | _ => []

/-- The document behind its directives and the line that starts it. -/
def markedDocument? (fuel : Nat) (ts : List Token) : Option (Node × List Token) := do
  let handles ← Handles.ofDirectives? (directives ts)
  match ts.dropWhile isDirective with
  | .documentStart :: ts =>
    if ts.head?.all isBoundary then some (missing, ts) else ofTokens? handles fuel true false ts
  | _ => none

/-- The only document of a file, or none if the file is empty. Each token is read once, and between
two of them no more than one function calls another without reading one. -/
def document? (ts : List Token) : Option (Option Node) := do
  let fuel := 2 * ts.length + 2
  match ts.dropWhile (· == .documentEnd) with
  | [] => some none
  | t :: ts =>
    let (n, rest) ←
      if isDirective t || t == .documentStart then markedDocument? fuel (t :: ts)
      else ofTokens? none fuel true false (t :: ts)
    if rest.all (· == .documentEnd) then some (some n) else none

end Node
end Autoresponder.Settings.Yaml
