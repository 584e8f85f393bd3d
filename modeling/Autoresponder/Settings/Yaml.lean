import Autoresponder.Settings.Yaml.Content
/-!
# YAML files

A reader for a file with at most one document. A carriage return and line feed, or a carriage return
alone, is a line break. An empty file is an empty table.
-/

namespace Autoresponder.Settings.Yaml

/-- The value of a file. A character with the number zero ends it. -/
def parse? (s : Text) : Option Value := do
  let s := Text.normalizeBreaks (Text.upTo (· == '\x00') s)
  match ← Node.document? (← Token.ofText? s) with
  | none => some (.table [])
  | some n => (← (Content.ofNode? none [] n).map Prod.fst).value?

end Autoresponder.Settings.Yaml
