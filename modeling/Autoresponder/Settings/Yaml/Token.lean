import Autoresponder.Settings.Yaml.Property
/-!
# YAML tokens

The tokens of a file, with tokens of their own for the beginnings and ends of block collections.
-/

namespace Autoresponder.Settings.Yaml

open Autoresponder (Text)

inductive Token where
  | directive (d : Directive)
  | documentStart
  | documentEnd
  /-- The item or key that comes next is the first one of a block collection. -/
  | blockList
  | blockTable
  | blockEnd
  | flowList
  | flowListEnd
  | flowTable
  | flowTableEnd
  | comma
  | item
  | key
  | colon
  | alias (name : Text)
  | anchor (name : Text)
  | tag (t : Tag)
  | scalar (isPlain : Bool) (t : Text)
  deriving DecidableEq, Repr

end Autoresponder.Settings.Yaml
