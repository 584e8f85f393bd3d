import Autoresponder.Directory.Protocol
/-!
# Scripted directories

A directory that answers from a script: the same outcome to every bind, and one prepared answer
after the other to the searches. It offers one service of its host, and `connect` says which
addresses lead to it.
-/

namespace Autoresponder.Directory

open Autoresponder (Text)

/-! ## 1. Addresses -/

/-- The scheme of an address, and what follows its colon. -/
def scheme? (address : Text) : Option (Text × Text) :=
  match Text.breakOn? [':'] address with
  | some (c :: scheme, rest) =>
    if c.isAlpha && scheme.all fun c => c.isAlphanum || c == '+' || c == '-' || c == '.' then
      some (Text.foldCase (c :: scheme), rest)
    else none
  | _ => none

/-- The number of the service that an address names behind its scheme, or the standard one. There is
none if something else than such a number stands behind the last colon of the host. -/
def service? (standard : Nat) (rest : Text) : Option Nat :=
  let authority := Text.upTo (fun c => c == '/' || c == '?' || c == '#') (rest.drop 2)
  match Text.breakLast? (fun c => c == ':' || c == ']') authority with
  | some (_, ':', digits) =>
    if digits.isEmpty then some standard else (Text.natural? digits).filter (· < 65536)
  | _ => some standard

/-! ## 2. Directories -/

/-- A prepared answer to a search. -/
structure Reply where
  found : Found := {}
  /-- The connection breaks instead. -/
  drops : Bool := false

structure Scripted where
  /-- The number of the service. -/
  service : Nat
  bindOutcome : Outcome := {}
  /-- The answers to the searches to come. A search behind the last one finds nothing. -/
  replies : List Reply := []

/-- Connects to the directory if an address leads to it. -/
def connect (service : Nat) (address : Text) : Except Failure Unit :=
  match scheme? (Text.trim address) with
  | none => .error .address
  | some (scheme, rest) =>
    if scheme == "ldapi".toList then .error .connection
    else if scheme != "ldap".toList && scheme != "ldaps".toList then .error (.unknownScheme scheme)
    else
      match service? (if scheme == "ldap".toList then 389 else 636) rest with
      | none => .error .address
      | some p => if p = service && scheme == "ldap".toList then .ok () else .error .unreachable

namespace Scripted

def serve : Server Request Request.Answer Scripted
  | .connect address, d => (connect d.service address, d)
  | .bind _ _, d => (.ok d.bindOutcome, d)
  | .search _, d =>
    match d.replies with
    | [] => (.ok {}, d)
    | r :: rest => (if r.drops then .error .connection else .ok r.found, { d with replies := rest })

end Scripted
end Autoresponder.Directory
