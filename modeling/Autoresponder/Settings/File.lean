import Autoresponder.Settings.Ini
import Autoresponder.Settings.Json
import Autoresponder.Settings.Toml
import Autoresponder.Settings.Yaml
/-!
# Setting files

The format of a file follows from the extension of its name, and a file of any format describes one
table.
-/

namespace Autoresponder.Settings

inductive Format where
  | json
  | yaml
  | ini
  | toml
  deriving DecidableEq, Repr

namespace Format

/-- What stands behind the last point of a file's name. A point at the start of the name does not
count. -/
def extension? (path : Text) : Option Text :=
  let name := ((Text.splitOn (· == '/') path).filter fun part => !part.isEmpty).getLastD []
  match Text.breakLast? (· == '.') name with
  | some (before, _, after) => if before.isEmpty || name == "..".toList then none else some after
  | none => none

/-- The format of a file. Every extension that no other format has means TOML. -/
def ofPath (path : Text) : Format :=
  match (extension? path).map Text.foldCase with
  | none => .toml
  | some e =>
    if e == "json".toList then .json
    else if e == "yaml".toList || e == "yml".toList then .yaml
    else if e == "ini".toList then .ini
    else .toml

/-- The extensions that may be left out of the name of a file of a format. -/
def extensions : Format → List Text
  | .json => ["json".toList]
  | .yaml => ["yaml".toList, "yml".toList]
  | .ini => ["ini".toList]
  | .toml => ["toml".toList]

/-- The paths that a settings file is looked for at, the first one first: its path as it is given,
then this path with an extension behind it. -/
def places (path : Text) : List Text :=
  path :: (ofPath path).extensions.map fun e => path ++ '.' :: e

end Format

/-- The table that a file describes. -/
def parseFile? (format : Format) (s : Text) : Option Value :=
  let root := match format with
    | .json => Json.parse? s
    | .yaml => Yaml.parse? s
    | .ini => Ini.parse? s
    | .toml => Toml.parse? s
  match root with
  | some (.table es) => some (.table es)
  | _ => none

end Autoresponder.Settings
