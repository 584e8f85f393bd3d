import Autoresponder.Dictionary
import Autoresponder.Suppression.Table
/-!
# Hosts

The files, directories and databases of a host, by their paths.

1. Paths are compared in a normal form without empty parts and without `.`.
2. A directory is made with all directories above it, unless a file stands in the way.
3. A database is opened at a path, or under a fixed name in a directory; its directory is made
   first. An empty file becomes a database, any other file is none.
-/

namespace Autoresponder

structure Host where
  files : Dictionary Text Bytes := []
  directories : List Text := []
  tables : Dictionary Text Table := []

namespace Host

/-! ## 1. Paths -/

/-- The parts of a path that name something. -/
def pathParts (path : Text) : List Text :=
  (Text.splitOn (· == '/') path).filter fun part => !part.isEmpty && part != ['.']

/-- The normal form of a path. -/
def normalPath (path : Text) : Text :=
  (if Text.startsWith ['/'] path then ['/'] else []) ++ Text.joinWith ['/'] (pathParts path)

/-- The directory that a path in normal form lies in, if the path names one. -/
def parent? (path : Text) : Option Text :=
  (Text.breakLast? (· == '/') path).map fun (before, _, _) => before

/-- All paths from the first part of a path down to the path itself. -/
def ancestors (path : Text) : List Text :=
  ((List.range (path.length + 1)).filterMap fun n =>
    match path.drop n with
    | [] => some path
    | c :: _ => if c == '/' && 0 < n then some (path.take n) else none)

def isDirectory (h : Host) (path : Text) : Bool := h.directories.contains path

def isFile (h : Host) (path : Text) : Bool :=
  (Dictionary.find? path h.files).isSome || (Dictionary.find? path h.tables).isSome

/-- Something stands at a path. -/
def existsAt (h : Host) (path : Text) : Bool :=
  h.isDirectory (normalPath path) || h.isFile (normalPath path)

/-- The content of a file. -/
def content? (h : Host) (path : Text) : Option Bytes := Dictionary.find? (normalPath path) h.files

def removeFile (h : Host) (path : Text) : Host :=
  { h with files := Dictionary.erase (normalPath path) h.files }

/-! ## 2. Directories -/

/-- Makes a directory and all above it. The system gives a reason if it cannot. -/
def makeDirectories (h : Host) (path : Text) : Except Text Host :=
  if h.isFile path then .error "File exists (os error 17)".toList
  else if (ancestors path).any h.isFile then .error "Not a directory (os error 20)".toList
  else
    .ok { h with
      directories := h.directories ++ (ancestors path).filter fun p => !h.isDirectory p }

/-! ## 3. Databases -/

/-- The name of a database in a directory. -/
def tableName : Text := "vacation.db".toList

/-- Where the database of a path lies. -/
def tablePath (h : Host) (path : Text) : Text :=
  let p := normalPath path
  if h.isDirectory p then p ++ '/' :: tableName else p

/-- Opens a database that may have to be made. -/
def openTable (h : Host) (path : Text) : Except TableFailure Unit × Host :=
  let p := h.tablePath path
  let prepared : Except TableFailure Host := match parent? p with
    | some parent =>
      if parent.isEmpty then .ok h
      else (h.makeDirectories parent).mapError (TableFailure.directory parent)
    | none => .ok h
  match prepared with
  | .error e => (.error e, h)
  | .ok h =>
    if h.isDirectory p || (Text.endsWith ['/'] path && !h.isDirectory (normalPath path)) then
      (.error .database, h)
    else
      match Dictionary.find? p h.tables, Dictionary.find? p h.files with
      | some t, _ => (t.connect.1, h)
      | none, some (_ :: _) => (.error .database, h)
      | none, _ =>
        (.ok (), { h with
          files := Dictionary.erase p h.files
          tables := Dictionary.put p {} h.tables })

end Host
end Autoresponder
