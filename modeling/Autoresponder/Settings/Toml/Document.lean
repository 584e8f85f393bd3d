import Autoresponder.Settings.Value
import Autoresponder.Settings.Timestamp
/-!
# TOML documents

A file builds up a table statement by statement. A part of the table may be written once only, and
how it came about decides what may still be added to it:

| origin of a table   | named by a later header | entered by a dotted key |
|---------------------|-------------------------|-------------------------|
| its own header      | no                      | no                      |
| a header below it   | once                    | no                      |
| a dotted key        | no                      | yes                     |

Headers enter every table on their way; on a list of tables they enter its last item.
-/

namespace Autoresponder.Settings.Toml

/-- What made a table appear. -/
inductive Origin where
  /-- Its own header. -/
  | header
  /-- The header of a table below it. -/
  | implied
  /-- A key with points in it. -/
  | dotted
  deriving DecidableEq, Repr

/-- A part of the table that a file describes. -/
inductive Node where
  | value (v : Value)
  | table (origin : Origin) (entries : List (Text × Node))
  | tables (items : List (List (Text × Node)))

/-- A line of a file, or the lines of one value. -/
inductive Statement where
  /-- The entries that follow belong to this table. -/
  | table (names : List Text)
  /-- The entries that follow belong to a new item of this list of tables. -/
  | item (names : List Text)
  | entry (names : List Text) (v : Value)

abbrev Entries := Dictionary Text Node

namespace Node

/-! ## 1. Values -/

mutual

def toValue : Node → Value
  | .value v => v
  | .table _ es => .table (values es)
  | .tables items => .list (tableValues items)

def values : List (Text × Node) → List (Text × Value)
  | [] => []
  | (name, n) :: es => (name, toValue n) :: values es

def tableValues : List (List (Text × Node)) → List Value
  | [] => []
  | es :: items => .table (values es) :: tableValues items

end

/-! ## 2. Places -/

/-- What a dotted key may not enter. -/
def isClosed (byKey : Bool) (origin : Origin) : Bool := byKey && origin == .header

/-- Changes the table at the end of a path, whose tables appear where they are missing. `byKey`
tells that the path belongs to a dotted key and not to a header. The change is told the origin of
the table that it is applied to. -/
def within? (byKey : Bool) (change : Origin → Entries → Option Entries) :
    List Text → Origin → Entries → Option Entries
  | [], origin, es => change origin es
  | name :: rest, _, es =>
    match Dictionary.find? name es with
    | none =>
      let origin := if byKey then Origin.dotted else Origin.implied
      (within? byKey change rest origin []).map fun sub =>
        Dictionary.put name (.table origin sub) es
    | some (.table origin sub) =>
      if isClosed byKey origin then none
      else (within? byKey change rest origin sub).map fun sub =>
        Dictionary.put name (.table origin sub) es
    | some (.tables items) =>
      match items.getLast? with
      | none => none
      | some last =>
        (within? byKey change rest .header last).map fun sub =>
          Dictionary.put name (.tables (items.dropLast ++ [sub])) es
    | some (.value _) => none

/-- Adds a value under a new name. Behind points the name must belong to a table that dotted keys
made. -/
def addNew (dots : Bool) (name : Text) (v : Value) (origin : Origin) (es : Entries) :
    Option Entries :=
  if (dots && origin != .dotted) || (Dictionary.find? name es).isSome then none
  else some (Dictionary.put name (.value v) es)

/-- Adds a value at the end of a dotted key. -/
def assign? (names : List Text) (v : Value) (es : Entries) : Option Entries :=
  match names.getLast? with
  | none => none
  | some name =>
    within? true (addNew (1 < names.length) name v) names.dropLast .header es

/-! ## 3. Headers -/

/-- Opens a table by its header. -/
def openTable? (name : Text) (_ : Origin) (es : Entries) : Option Entries :=
  match Dictionary.find? name es with
  | none => some (Dictionary.put name (.table .header []) es)
  | some (.table .implied sub) => some (Dictionary.put name (.table .header sub) es)
  | _ => none

/-- Opens a new item of a list of tables by its header. -/
def openItem? (name : Text) (_ : Origin) (es : Entries) : Option Entries :=
  match Dictionary.find? name es with
  | none => some (Dictionary.put name (.tables [[]]) es)
  | some (.tables items) => some (Dictionary.put name (.tables (items ++ [[]])) es)
  | _ => none

end Node

/-! ## 4. Statements -/

/-- What has been built, and the path of the table to which entries are added. -/
structure Document where
  place : List Text := []
  root : Entries := []

namespace Document

/-- Carries out one statement. -/
def step? (d : Document) : Statement → Option Document
  | .table names => do
    let name ← names.getLast?
    return ⟨names, ← Node.within? false (Node.openTable? name) names.dropLast .header d.root⟩
  | .item names => do
    let name ← names.getLast?
    return ⟨names, ← Node.within? false (Node.openItem? name) names.dropLast .header d.root⟩
  | .entry names v => do
    return { d with
      root := ← Node.within? false (fun _ es => Node.assign? names v es) d.place .header d.root }

/-- The table that a sequence of statements describes. -/
def run? (statements : List Statement) : Option Value :=
  (statements.foldlM step? ({} : Document)).map fun d => .table (Node.values d.root)

end Document
end Autoresponder.Settings.Toml
