import Autoresponder.Address
import Autoresponder.Directory.Entry
/-!
# Looking up a recipient

The conversation with a directory about one recipient.

1. A bind is made only with a name.
2. The recipient is searched among the users, and among the groups if there are no such users and
   groups are configured. A base that does not exist holds nobody.
3. Only a single entry makes a policy; nobody and several entries mean that the recipient is not
   away. A failure is never taken for that.
-/

namespace Autoresponder.Directory

open Autoresponder (Text)

/-- What one base has for a recipient. -/
inductive Match where
  | nobody
  | one (entry : Attributes)
  | several (count : Nat)

/-- What an answer to a search means. -/
def Match.of (f : Found) : Except Failure Match :=
  if f.outcome.code = Outcome.noSuchObject then .ok .nobody
  else if f.outcome.code ≠ Outcome.success then .error (.refused f.outcome)
  else
    match f.entries with
    | [] => .ok .nobody
    | [e] => .ok (.one (attributes e))
    | es => .ok (.several es.length)

/-- The attributes that a search asks for. -/
def wanted (s : LdapSettings) : List Text :=
  [commonName, s.vacationAttr, s.messageAttr, s.displayNameAttr, s.startAttr, s.endAttr]

/-- Searches the whole tree below a base for the entries whose attribute has a value. -/
def search (s : LdapSettings) (base attr value : Text) : Conversation (Except Failure Match) :=
  match Filter.parse? (Filter.equalityText attr value) with
  | none => .done (.error .filterSyntax)
  | some f =>
    .ask (.search ⟨base, .tree, f, wanted s⟩) fun answer =>
      match answer with
      | .error e => .done (.error e)
      | .ok found => .done (Match.of found)

/-- The policy of what was found. -/
def conclude (s : LdapSettings) (localPart : Text) (isGroup : Bool) (now : Instant) : Match → Policy
  | .one as => policyOf s localPart isGroup now as
  | .nobody => .inactive
  | .several _ => .inactive

/-- Searches users, and then groups. -/
def searchAll (s : LdapSettings) (localPart : Text) (now : Instant) :
    Conversation (Except Failure Policy) :=
  (search s s.searchBase s.uidAttr localPart).bind fun
    | .error e => .done (.error e)
    | .ok found =>
      match found, s.groupSearchBase with
      | .nobody, some groups =>
        (search s groups s.groupAttr localPart).bind fun
          | .error e => .done (.error e)
          | .ok found => .done (.ok (conclude s localPart true now found))
      | _, _ => .done (.ok (conclude s localPart false now found))

/-- Binds if there is a name to bind with. -/
def bindFirst (s : LdapSettings) : Conversation (Except Failure Unit) :=
  match s.bindName with
  | none => .done (.ok ())
  | some name =>
    if name.isEmpty then .done (.ok ())
    else
      .ask (.bind name (s.bindPassword.getD [])) fun answer =>
        match answer with
        | .error e => .done (.error e)
        | .ok outcome =>
          if outcome.code = Outcome.success then .done (.ok ())
          else .done (.error (.refused outcome))

/-- The policy of a recipient. -/
def resolve (s : LdapSettings) (recipient : Address) (now : Instant) :
    Conversation (Except Failure Policy) :=
  .ask (.connect s.uri) fun answer =>
    match answer with
    | .error e => .done (.error e)
    | .ok () =>
      (bindFirst s).bind fun
        | .error e => .done (.error e)
        | .ok () => searchAll s recipient.localPart now

end Autoresponder.Directory
