import Autoresponder.Directory.GeneralizedTime
import Autoresponder.Directory.Protocol
import Autoresponder.Dictionary
import Autoresponder.Policy
import Autoresponder.Settings.Section
/-!
# Policies in a directory

How the entry of a recipient becomes a policy.

1. An attribute with a value that is not UTF-8 counts as missing. Names of attributes are compared
   without regard to the case of ASCII letters.
2. A bound of the window that cannot be read makes the policy inactive. The window is then
   unbounded, and the flag decides.
3. A message may have several values and, in each, `$` between its lines.
-/

namespace Autoresponder.Directory

open Autoresponder (Text)

/-! ## 1. Attributes -/

/-- The attributes of an entry whose values are all texts. -/
abbrev Attributes : Type := Dictionary Text (List Text)

/-- All values as texts, if they are. -/
def texts? : List Bytes → Option (List Text)
  | [] => some []
  | v :: vs =>
    match Utf8.decode? v, texts? vs with
    | some t, some ts => some (t :: ts)
    | _, _ => none

/-- The attributes of an entry. -/
def attributes (e : Entry) : Attributes :=
  e.foldl (fun found (name, values) =>
    match texts? values with
    | some ts => Dictionary.put name ts found
    | none => found) []

/-- The values of an attribute. -/
def values (name : Text) (as : Attributes) : List Text :=
  ((List.find? (fun a => Text.sameFolded a.1 name) as).map Prod.snd).getD []

def first? (name : Text) (as : Attributes) : Option Text := (values name as).head?

/-! ## 2. Windows -/

/-- A bound of the window; the outer result is missing for a bound that cannot be read. -/
def bound? (name : Text) (as : Attributes) : Option (Option Instant) :=
  match first? name as with
  | none => some none
  | some v => (GeneralizedTime.parse? v).map some

/-- The window of an entry, if both bounds can be read. -/
def window? (s : LdapSettings) (as : Attributes) : Option Window :=
  match bound? s.startAttr as, bound? s.endAttr as with
  | some start, some finish => some ⟨start, finish⟩
  | _, _ => none

/-! ## 3. Messages -/

/-- The message of several values. A message of blanks is none. -/
def body? (values : List Text) : Option Text :=
  if values.isEmpty then none
  else
    let body :=
      Text.normalizeBreaks (Text.replace ['$'] ['\n'] (Text.joinWith ['\n'] values))
    if (Text.trim body).isEmpty then none else some body

/-! ## 4. Policies -/

/-- The attribute with the common name. -/
def commonName : Text := "cn".toList

/-- An element that equals the one before it is left out. -/
def dropRepeats : List Text → List Text
  | [] => []
  | [a] => [a]
  | a :: b :: rest => if a = b then dropRepeats (b :: rest) else a :: dropRepeats (b :: rest)

/-- The name that a reply shows: the display name or else the common name, unless it is blank. -/
def displayName? (s : LdapSettings) (as : Attributes) : Option Text :=
  (((first? s.displayNameAttr as).or (first? commonName as)).map Text.trim).filter
    fun name => !name.isEmpty

/-- The flag is set by the word TRUE in any case. -/
def isFlagged (s : LdapSettings) (as : Attributes) : Bool :=
  (first? s.vacationAttr as).any fun v => Text.sameFolded (Text.trim v) "true".toList

/-- The policy of an entry for a recipient. -/
def policyOf (s : LdapSettings) (localPart : Text) (isGroup : Bool) (now : Instant)
    (as : Attributes) : Policy :=
  let window? := window? s as
  let window := window?.getD Window.unbounded
  { active := isFlagged s as && window?.isSome && window.contains now
    isGroup := isGroup
    displayName := displayName? s as
    body := body? (values s.messageAttr as)
    window := window
    aliases := dropRepeats (localPart :: values commonName as) }

end Autoresponder.Directory
