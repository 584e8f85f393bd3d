import Autoresponder.Text
import Autoresponder.Text.Quoted
/-!
# Addresses

A mail address is a local part and, unless it names a local mailbox, a domain. Two spellings that
differ in the case of ASCII letters name the same mailbox, so an address keeps small letters only.

1. `Address.parse` reads `local@domain` or a bare local part, with blanks and one pair of angle
   brackets around it.
2. `Address.text` writes the address in the form that `parse` reads back.
3. `Address.qualify` gives a bare local part a domain.
-/

namespace Autoresponder

/-- A mailbox. -/
structure Address where
  localPart : Text
  domain : Option Text
  deriving DecidableEq, Repr

/-- Why a text names no mailbox. -/
inductive AddressError where
  /-- Nothing is left between the brackets. -/
  | empty
  /-- There is a blank or a control character inside, or a part around the last `@` is empty. The
      whole text is kept for the report. -/
  | invalid (input : Text)
  deriving DecidableEq, Repr

def AddressError.message : AddressError → Text
  | .empty => "empty address".toList
  | .invalid input => "invalid address: ".toList ++ Text.quoted input

namespace Address

/-- The text between a `<` at the start and a `>` at the end; any other text stays. -/
def unbracket (s : Text) : Text :=
  match Text.dropPrefix? ['<'] s with
  | some inner => (Text.dropSuffix? ['>'] inner).getD s
  | none => s

/-- What remains of an address after the blanks and the brackets around it are gone. -/
def bare (s : Text) : Text := Text.trim (unbracket (Text.trim s))

/-- A character that no address contains. -/
def isForbidden (c : Char) : Bool := Text.isBlank c || Text.isControl c

/-- Reads an address. The domain starts behind the last `@`, so a local part may hold further
    ones. -/
def parse (input : Text) : Except AddressError Address :=
  let core := bare input
  if core.isEmpty then .error .empty
  else if core.any isForbidden then .error (.invalid input)
  else
    match Text.breakLast? (· == '@') core with
    | some (localPart, _, domain) =>
      if localPart.isEmpty || domain.isEmpty then .error (.invalid input)
      else .ok ⟨Text.foldCase localPart, some (Text.foldCase domain)⟩
    | none => .ok ⟨Text.foldCase core, none⟩

/-- The address as it is written in a header. -/
def text (a : Address) : Text :=
  match a.domain with
  | some domain => a.localPart ++ '@' :: domain
  | none => a.localPart

/-- The address with `domain` if it has none of its own. -/
def qualify (a : Address) (domain : Text) : Address :=
  match a.domain with
  | some _ => a
  | none => ⟨a.localPart, some (Text.foldCase domain)⟩

end Address
end Autoresponder
