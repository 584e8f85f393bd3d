import Autoresponder.Settings.Value
import Autoresponder.Settings.Yaml.Node
/-!
# The content of YAML nodes

What the nodes of a file stand for, and the value of that.

1. A plain scalar is a number, a truth value or null if it is written like one (`ofPlain`), else a
   text. Quotation marks make every scalar a text.
2. A tag overrules this for plain scalars (`ofTagged`). A scalar that does not fit its tag has no
   content: it counts as null, but it is no key.
3. An alias stands for the last node with its anchor; the node must begin before the alias, and end
   before it to have a content.
4. Two keys of a table must not have the same content (`addNode?`).
5. Only a table whose keys are texts and whole numbers has a value. Infinity and NaN have none under
   the names that begin with a point (`value?`).
-/

namespace Autoresponder.Settings.Yaml

inductive Content where
  /-- A scalar that does not fit its tag, or a node that has not ended. -/
  | misfit
  | null
  | bool (b : Bool)
  | int (n : Int)
  /-- A number with a fraction, as it is written. -/
  | real (t : Text)
  | text (t : Text)
  | list (items : List Content)
  | table (entries : List (Content × Content))

namespace Content

/-! ## 1. Plain scalars -/

/-- A number of 64 bits. -/
def integer? (s : Text) : Option Int := (Text.integer? s).filter Signed64.holds

/-- A number in a base behind `0x` or `0o`; the digits may have a sign. -/
def based? (base : Nat) (s : Text) : Option Int :=
  let (negative, digits) := match s with
    | '-' :: rest => (true, rest)
    | '+' :: rest => (false, rest)
    | _ => (false, s)
  if digits.isEmpty || !digits.all (Text.isDigitIn base) then none
  else
    let n : Int := Text.valueIn base digits
    (some (if negative then -n else n)).filter Signed64.holds

/-- The whole number that a plain scalar writes. -/
def whole? (s : Text) : Option Int :=
  match s with
  | '0' :: 'x' :: digits => based? 16 digits
  | '0' :: 'o' :: digits => based? 8 digits
  | '+' :: digits => integer? digits
  | _ => integer? s

/-- The names of infinity and NaN. -/
def isSpecial (s : Text) : Bool :=
  [".inf", ".Inf", ".INF", "+.inf", "+.Inf", "+.INF", "-.inf", "-.Inf", "-.INF", ".nan", "NaN",
    ".NAN"].any (·.toList == s)

/-- A number that may have a fraction: one of the special names, or a numeral with a digit at
least. -/
def isReal (s : Text) : Bool := isSpecial s || (s.any Text.isDigit && (Binary64.ofText? s).isSome)

def isNull (s : Text) : Bool := s == ['~'] || s == "null".toList

def truth? (s : Text) : Option Bool :=
  if s == "true".toList then some true else if s == "false".toList then some false else none

/-- The content of a plain scalar. -/
def ofPlain (s : Text) : Content :=
  match whole? s with
  | some n => .int n
  | none =>
    if s.isEmpty || isNull s then .null
    else
      match truth? s with
      | some b => .bool b
      | none => if isReal s then .real s else .text s

/-! ## 2. Tags -/

/-- The content of a plain scalar with a tag. -/
def ofTagged (tag : Tag) (s : Text) : Content :=
  if tag.handle != coreTypes then .text s
  else if tag.suffix == "bool".toList then ((truth? s).map .bool).getD .misfit
  else if tag.suffix == "int".toList then ((integer? s).map .int).getD .misfit
  else if tag.suffix == "float".toList then if isReal s then .real s else .misfit
  else if tag.suffix == "null".toList then if isNull s then .null else .misfit
  else .text s

/-! ## 3. Anchors -/

/-- The nodes with an anchor in the order in which they begin, and what those stand for that have
ended. -/
abbrev Anchors := List (Text × Option Content)

/-- The content of an alias. -/
def ofAlias? (name : Text) (known : Anchors) : Option Content :=
  (Dictionary.find? name known.reverse).map fun c => c.getD .misfit

/-! ## 4. Tables -/

mutual

/-- Two contents are the same. Numbers with a fraction are compared as they are written. -/
def same : Content → Content → Bool
  | .misfit, .misfit => true
  | .null, .null => true
  | .bool a, .bool b => a == b
  | .int m, .int n => m == n
  | .real s, .real t => s == t
  | .text s, .text t => s == t
  | .list as, .list bs => sameItems as bs
  | .table es, .table fs => sameEntries es fs
  | _, _ => false

def sameItems : List Content → List Content → Bool
  | [], [] => true
  | a :: as, b :: bs => same a b && sameItems as bs
  | _, _ => false

def sameEntries : List (Content × Content) → List (Content × Content) → Bool
  | [], [] => true
  | (k, a) :: es, (l, b) :: fs => same k l && same a b && sameEntries es fs
  | _, _ => false

end

/-- A table in the middle of being read. -/
structure Draft where
  entries : List (Content × Content) := []
  /-- The key that waits for its value. -/
  key : Option Content := none

/-- Adds the next node of a table. Without a key it is the next key, unless it has no content: then
it is passed over. -/
def addNode? (next : Content) (t : Draft) : Option Draft :=
  match t.key, next with
  | none, .misfit => some t
  | none, _ => some { t with key := some next }
  | some k, _ =>
    if t.entries.any fun e => same e.1 k then none else some ⟨t.entries ++ [(k, next)], none⟩

mutual

/-- The content of a node, and the anchors known behind it. The tag is the one written before the
node. -/
def ofNode? (tag : Option Tag) (known : Anchors) : Node → Option (Content × Anchors)
  | .plain t => some ((tag.map (ofTagged · t)).getD (ofPlain t), known)
  | .quoted t => some (.text t, known)
  | .list items => (ofNodes? known items).map fun (cs, known) => (.list cs, known)
  | .table es => (ofEntries? known {} es).map fun (t, known) => (.table t.entries, known)
  | .tagged t n => ofNode? (some t) known n
  | .anchored name n =>
    (ofNode? tag (known ++ [(name, none)]) n).map fun (c, after) =>
      (c, after.set known.length (name, some c))
  | .alias name => (ofAlias? name known).map fun c => (c, known)

/-- The contents of the items of a list. -/
def ofNodes? (known : Anchors) : List Node → Option (List Content × Anchors)
  | [] => some ([], known)
  | n :: ns =>
    match ofNode? none known n with
    | none => none
    | some (c, known) => (ofNodes? known ns).map fun (cs, known) => (c :: cs, known)

/-- Adds the entries of a table. A key that is left without a value is dropped. -/
def ofEntries? (known : Anchors) (t : Draft) : List (Node × Node) → Option (Draft × Anchors)
  | [] => some (t, known)
  | (k, n) :: rest =>
    match ofNode? none known k with
    | none => none
    | some (first, known) =>
      match ofNode? none known n with
      | none => none
      | some (second, known) =>
        match (addNode? first t).bind (addNode? second) with
        | none => none
        | some t => ofEntries? known t rest

end

/-! ## 5. Values -/

/-- The name that a key stands for. -/
def keyName? : Content → Option Text
  | .text t => some t
  | .int n => some (Text.ofInt n)
  | _ => none

mutual

/-- The value of a content. Of keys with the same name the last one counts. -/
def value? : Content → Option Value
  | .misfit => some .null
  | .null => some .null
  | .bool b => some (.bool b)
  | .int n => some (.int n)
  | .real t => (Binary64.ofText? t).map .real
  | .text t => some (.text t)
  | .list items => (values? items).map .list
  | .table es => (entries? [] es).map .table

def values? : List Content → Option (List Value)
  | [] => some []
  | c :: cs =>
    match value? c with
    | none => none
    | some v => (values? cs).map (v :: ·)

def entries? (before : List (Text × Value)) :
    List (Content × Content) → Option (List (Text × Value))
  | [] => some before
  | (k, c) :: rest =>
    match keyName? k, value? c with
    | some name, some v => entries? (Dictionary.put name v before) rest
    | _, _ => none

end

end Content
end Autoresponder.Settings.Yaml
