import Autoresponder.Dialogue
import Autoresponder.Directory.Filter
import Autoresponder.Text.Quoted
/-!
# The directory protocol

What a client asks a directory and what it is answered, as far as the responder needs it.
-/

namespace Autoresponder.Directory

open Autoresponder (Text)

/-- The outcome that a directory reports for a bind or a search. -/
structure Outcome where
  code : Nat := 0
  text : Text := []
  deriving DecidableEq, Repr

namespace Outcome

def success : Nat := 0

/-- The base of a search does not exist. -/
def noSuchObject : Nat := 32

/-- The names of the codes. -/
def names : List (Nat × String) :=
  [(0, "success"), (1, "operationsError"), (2, "protocolError"), (3, "timeLimitExceeded"),
    (4, "sizeLimitExceeded"), (5, "compareFalse"), (6, "compareTrue"),
      (7, "authMethodNotSupported"),
    (8, "strongerAuthRequired"), (10, "referral"), (11, "adminLimitExceeded"),
    (12, "unavailableCriticalExtension"), (13, "confidentialityRequired"),
      (14, "saslBindInProgress"),
    (16, "noSuchAttribute"), (17, "undefinedAttributeType"), (18, "inappropriateMatching"),
    (19, "constraintViolation"), (20, "attributeOrValueExists"), (21, "invalidAttributeSyntax"),
    (32, "noSuchObject"), (33, "aliasProblem"), (34, "invalidDNSyntax"),
    (36, "aliasDereferencingProblem"), (48, "inappropriateAuthentication"),
      (49, "invalidCredentials"),
    (50, "insufficientAccessRights"), (51, "busy"), (52, "unavailable"), (53, "unwillingToPerform"),
    (54, "loopDetect"), (64, "namingViolation"), (65, "objectClassViolation"),
    (66, "notAllowedOnNonLeaf"), (67, "notAllowedOnRDN"), (68, "entryAlreadyExists"),
    (69, "objectClassModsProhibited"), (71, "affectsMultipleDSAs"), (80, "other"),
      (88, "abandoned"),
    (122, "assertionFailed")]

def name (code : Nat) : Text :=
  ((names.find? fun n => n.1 == code).map fun n => n.2.toList).getD "unknown".toList

end Outcome

/-- Why a directory gave no answer, or a bad one. -/
inductive Failure where
  /-- The address of the directory cannot be read. -/
  | address
  | unknownScheme (scheme : Text)
  | unreachable
  /-- The connection broke, or cannot be used for this. -/
  | connection
  | filterSyntax
  | refused (outcome : Outcome)
  deriving DecidableEq, Repr

/-- What is known of a failure. -/
def Failure.message? : Failure → Option Text
  | .address => none
  | .unreachable => none
  | .connection => none
  | .unknownScheme scheme => some ("ldap error: unknown LDAP URL scheme: ".toList ++ scheme)
  | .filterSyntax => some "ldap error: filter parse error".toList
  | .refused o =>
    some ("ldap error: LDAP operation result: rc=".toList ++ Text.ofNat o.code ++ " (".toList ++
      Outcome.name o.code ++ "), dn: \"\", text: ".toList ++ Text.quoted o.text)

/-- An entry as it travels: attributes with their values. -/
abbrev Entry : Type := List (Text × List Bytes)

/-- How far a search goes. -/
inductive Scope where
  /-- Only the base itself. -/
  | base
  /-- Only what is right below the base. -/
  | level
  /-- The base and the whole tree below it. -/
  | tree
  deriving DecidableEq, Repr

structure Search where
  base : Text
  scope : Scope
  filter : Filter
  attributes : List Text

/-- What a directory found, and how the search ended. -/
structure Found where
  entries : List Entry := []
  outcome : Outcome := {}

inductive Request where
  | connect (address : Text)
  | bind (name password : Text)
  | search (s : Search)

/-- The answer to a request, or why there is none. -/
def Request.Answer : Request → Type
  | .connect _ => Except Failure Unit
  | .bind _ _ => Except Failure Outcome
  | .search _ => Except Failure Found

/-- A conversation with a directory. -/
abbrev Conversation (α : Type) : Type := Dialogue Request Request.Answer α

end Autoresponder.Directory
