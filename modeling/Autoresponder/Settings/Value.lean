import Autoresponder.Binary64
import Autoresponder.Dictionary
import Autoresponder.Signed64
import Autoresponder.Text.Lowercase
/-!
# Setting values

What a configuration file says, before it is known which setting each part belongs to. All file
formats are read into this one type, and the environment adds to it.

1. Values convert into the type that a setting has: numbers, truth values and texts into each other
   where that makes sense (`Value.natural?`, `Value.integer?`, `Value.text?`).
2. `Value.merge` puts a value under a name. Tables are merged entry by entry, everything else
   replaces what was there, and names are kept in small letters.
3. `Value.mergeAt` does the same at the end of a path. A path goes from name to name and from the
   subscripts of a list to its items (`Step`).
-/

namespace Autoresponder.Settings

inductive Value where
  | null
  | bool (b : Bool)
  | int (n : Int)
  | real (x : Binary64)
  | text (t : Text)
  | list (items : List Value)
  | table (entries : List (Text × Value))

namespace Value

/-! ## 1. Conversions -/

/-- The words that stand for one and for zero where a number is wanted. -/
def truthWord? (t : Text) : Option Int :=
  let word := Text.lowercase t
  if ["true", "on", "yes"].any (·.toList == word) then some 1
  else if ["false", "off", "no"].any (·.toList == word) then some 0
  else none

/-- An unsigned number of 64 bits. A fraction is rounded, and what is too large or too small becomes
the nearest bound; a negative whole number is refused. -/
def natural? : Value → Option Nat
  | .int n => n.toNat?.filter fits
  | .bool b => some b.toNat
  | .real x => some (x.roundWithin 0 (UInt64.size - 1)).toNat
  | .text t =>
    match truthWord? t with
    | some n => some n.toNat
    | none => ((Text.dropPrefix? ['+'] t).getD t |> Text.natural?).filter fits
  | _ => none
where
  fits (n : Nat) : Bool := n < UInt64.size

/-- A signed number of 64 bits. -/
def integer? : Value → Option Int
  | .int n => (some n).filter Signed64.holds
  | .bool b => some b.toNat
  | .real x => some (x.roundWithin Signed64.least Signed64.greatest)
  | .text t => (truthWord? t).or ((Text.integer? t).filter Signed64.holds)
  | _ => none

def text? : Value → Option Text
  | .text t => some t
  | .bool b => some (if b then "true".toList else "false".toList)
  | .int n => some (Text.ofInt n)
  | .real x => some x.text
  | _ => none

/-! ## 2. Tables -/

/-- The entries of a table; every other value counts as an empty table. -/
def entries : Value → Dictionary Text Value
  | .table es => es
  | _ => []

mutual

/-- Puts a value under a name of a table. -/
def merge (name : Text) (v : Value) (root : Value) : Value :=
  let key := Text.lowercase name
  match v with
  | .table incoming =>
    let target := (Dictionary.find? key root.entries).getD (.table [])
    .table (Dictionary.put key (mergeAll incoming target) root.entries)
  | .null => .table (Dictionary.put key .null root.entries)
  | .bool b => .table (Dictionary.put key (.bool b) root.entries)
  | .int n => .table (Dictionary.put key (.int n) root.entries)
  | .real x => .table (Dictionary.put key (.real x) root.entries)
  | .text t => .table (Dictionary.put key (.text t) root.entries)
  | .list items => .table (Dictionary.put key (.list items) root.entries)

/-- Puts all entries into a table, one after the other. -/
def mergeAll (incoming : List (Text × Value)) (target : Value) : Value :=
  match incoming with
  | [] => target
  | (name, v) :: rest => mergeAll rest (merge name v target)

end

/-! ## 3. Paths -/

/-- One step of a path. -/
inductive Step where
  /-- To the entry of a table. -/
  | name (n : Text)
  /-- To an item of a list; a negative subscript counts from the end. -/
  | index (i : Int)
  deriving DecidableEq, Repr

/-- A character of a name in a path. -/
def inPath (c : Char) : Bool := c.isAlphanum || c == ' ' || c == '_' || c == '-'

/-- A subscript behind its opening bracket: a number of 64 bits, which may have blanks around it. -/
def subscript? (s : Text) : Option Step := do
  let isSpace := fun c => c == ' ' || c == '\t'
  let inside ← Text.dropSuffix? [']'] s
  let n ← match Text.dropEndWhile isSpace (inside.dropWhile isSpace) with
    | '-' :: digits => (Text.natural? digits).map fun n => -(n : Int)
    | digits => (Text.natural? digits).map fun n => (n : Int)
  if Signed64.holds n then some (.index n) else none

/-- A name with the subscripts behind it. -/
def steps? (s : Text) : Option (List Step) := do
  let name := s.takeWhile inPath
  match Text.splitOn (· == '[') (s.drop name.length) with
  | [] :: subscripts =>
    if name.isEmpty then none else return .name name :: (← subscripts.mapM subscript?)
  | _ => none

/-- The steps of a path, whose names have points between them. A text that is no path is one
name. -/
def path (key : Text) : List Step :=
  (((Text.splitOn (· == '.') key).mapM steps?).map List.flatten).getD [.name key]

/-- The items of a list; every other value counts as an empty list. -/
def items : Value → List Value
  | .list vs => vs
  | _ => []

/-- The place that a subscript means in a list of some length. -/
def place (i : Int) (length : Nat) : Nat := if i < 0 then length - i.natAbs else i.toNat

/-- The list with an item replaced. Where the list is too short, null fills it up. -/
def putItem (i : Nat) (v : Value) (vs : List Value) : List Value :=
  (vs ++ List.replicate (i + 1 - vs.length) Value.null).set i v

/-- Puts a value at the end of a path. What stands on the way becomes a table before a name, and a
list before a subscript, if it is none. -/
def mergeAt (v : Value) : List Step → Value → Value
  | [], root => root
  | [.name n], root => merge n v root
  | .name n :: rest, root =>
    let key := Text.lowercase n
    let below := (Dictionary.find? key root.entries).getD .null
    .table (Dictionary.put key (mergeAt v rest below) root.entries)
  | [.index i], root => .list (putItem (place i root.items.length) v root.items)
  | .index i :: rest, root =>
    let at_ := place i root.items.length
    .list (putItem at_ (mergeAt v rest (root.items[at_]?.getD .null)) root.items)

/-- Adds the entries of a source to the settings; each name may be a path. -/
def addSource (source : List (Text × Value)) (root : Value) : Value :=
  source.foldl (fun r e => mergeAt e.2 (path e.1) r) root

end Value
end Autoresponder.Settings
