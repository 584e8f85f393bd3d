import Autoresponder.Settings.Value
/-!
# Settings from the environment

A variable whose name begins with `ABSENT_` overrules a setting. The rest of the name is the path of
the setting, with two low lines between a section and a name; the case of letters does not matter.
-/

namespace Autoresponder.Settings.Environment

def namePrefix : Text := "absent_".toList

/-- The setting that a variable overrules. -/
def settingName? (variable_ : Text) : Option Text :=
  (Text.dropPrefix? namePrefix (Text.lowercase variable_)).map
    (Text.replace ['_', '_'] ['.'])

/-- The value of a variable: a truth value, a whole number of 64 bits, another number, or a text. -/
def value (t : Text) : Value :=
  let word := Text.lowercase t
  if word == "true".toList then .bool true
  else if word == "false".toList then .bool false
  else
    match (Text.integer? t).filter Signed64.holds with
    | some n => .int n
    | none =>
      match Binary64.ofText? t with
      | some x => .real x
      | none => .text t

/-- The settings of an environment. -/
def entries (environment : List (Text × Text)) : List (Text × Value) :=
  environment.filterMap fun (name, t) => (settingName? name).map fun setting => (setting, value t)

end Autoresponder.Settings.Environment
