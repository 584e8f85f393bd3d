import Autoresponder.Time
import Autoresponder.Settings.File
import Autoresponder.Settings.Environment
import Autoresponder.Settings.Section
/-!
# Settings

The responder's settings, with a default for each. They come from a file and from the environment,
which overrules the file name by name.

1. A section is a table of named values, or a list of values in the order of the section's fields.
2. Each value is converted into the type of its setting; a value that does not convert makes the
   settings invalid (`Settings.ofValue?`).
3. A section may be missing until a selected backend needs it (`Settings.store`,
   `Settings.directory`).
-/

namespace Autoresponder

namespace Settings

/-! ## 1. Sections -/

/-- The value of a field, by its name in a table and by its place in a list. -/
def field? (section_ : Value) (place : Nat) (name : String) : Option Value :=
  match section_ with
  | .table es => Dictionary.find? name.toList es
  | .list vs => vs[place]?
  | _ => none

/-- The value can be a section. -/
def isSection : Value → Bool
  | .table _ => true
  | .list _ => true
  | _ => false

/-- A field that is converted, or has its default because it is missing. -/
def fieldOr {α : Type} (convert : Value → Option α) (section_ : Value) (place : Nat) (name : String)
    (default : α) : Option α :=
  match field? section_ place name with
  | none => some default
  | some v => convert v

/-- Null stands for a missing value. -/
def optional {α : Type} (convert : Value → Option α) : Value → Option (Option α)
  | .null => some none
  | v => (convert v).map some

/-- One of several choices, by its name in any case. A table with one entry stands for the name of
this entry. -/
def choice {α : Type} (choices : List (String × α)) (v : Value) : Option α :=
  let name? := match v with
    | .text t => some t
    | .table [(name, _)] => some name
    | _ => none
  name?.bind fun name =>
    (choices.find? fun c => Text.lowercase c.1.toList == Text.lowercase name).map Prod.snd

/-- The number of a service of a host. -/
def service? (v : Value) : Option Nat := v.natural?.filter (· < 65536)

/-! ## 2. Conversion -/

def core? (v : Value) : Option CoreSettings := do
  let dflt : CoreSettings := {}
  if !isSection v then none
  else
    some {
      store := ← fieldOr (choice [("null", .nowhere), ("sqlite", .sqlite), ("redis", .redis)])
        v 0 "vdb" dflt.store
      directory := ← fieldOr (choice [("null", .everybody), ("ldap", .ldap)])
        v 1 "vlu" dflt.directory
      interval := ← fieldOr Value.natural? v 2 "interval" dflt.interval
      sendmail := ← fieldOr Value.text? v 3 "sendmail" dflt.sendmail
      domain := ← fieldOr Value.text? v 4 "domain" dflt.domain }

def sqlite? (v : Value) : Option SqliteSettings := do
  let dflt : SqliteSettings := {}
  if !isSection v then none
  else
    some {
      path := ← fieldOr Value.text? v 0 "path" dflt.path
      busyTimeout := ← fieldOr Value.natural? v 1 "busy_timeout" dflt.busyTimeout }

def redis? (v : Value) : Option RedisSettings := do
  let dflt : RedisSettings := {}
  if !isSection v then none
  else
    some {
      host := ← fieldOr Value.text? v 0 "host" dflt.host
      service := ← fieldOr service? v 1 "port" dflt.service
      db := ← fieldOr Value.integer? v 2 "db" dflt.db
      keyPrefix := ← fieldOr Value.text? v 3 "prefix" dflt.keyPrefix
      timeout := ← fieldOr Value.natural? v 4 "timeout" dflt.timeout }

def ldap? (v : Value) : Option LdapSettings := do
  let dflt : LdapSettings := {}
  if !isSection v then none
  else
    some {
      uri := ← fieldOr Value.text? v 0 "uri" dflt.uri
      searchBase := ← fieldOr Value.text? v 1 "search_base" dflt.searchBase
      groupSearchBase := ← fieldOr (optional Value.text?)
        v 2 "group_search_base" dflt.groupSearchBase
      bindName := ← fieldOr (optional Value.text?) v 3 "bind_dn" dflt.bindName
      bindPassword := ← fieldOr (optional Value.text?) v 4 "bind_password" dflt.bindPassword
      timeout := ← fieldOr Value.natural? v 5 "timeout" dflt.timeout
      uidAttr := ← fieldOr Value.text? v 6 "uid_attr" dflt.uidAttr
      groupAttr := ← fieldOr Value.text? v 7 "group_attr" dflt.groupAttr
      vacationAttr := ← fieldOr Value.text? v 8 "vacation_attr" dflt.vacationAttr
      messageAttr := ← fieldOr Value.text? v 9 "message_attr" dflt.messageAttr
      displayNameAttr := ← fieldOr Value.text? v 10 "display_name_attr" dflt.displayNameAttr
      startAttr := ← fieldOr Value.text? v 11 "start_attr" dflt.startAttr
      endAttr := ← fieldOr Value.text? v 12 "end_attr" dflt.endAttr }

/-- The settings that a value describes. -/
def ofValue? (v : Value) : Option Settings := do
  let dflt : Settings := {}
  some {
    core := ← fieldOr core? v 0 "core" dflt.core
    sqlite := ← fieldOr (optional sqlite?) v 1 "sqlite" none
    redis := ← fieldOr (optional redis?) v 2 "redis" none
    ldap := ← fieldOr (optional ldap?) v 3 "ldap" none }

/-- The settings of a file and an environment. The content of a file that does not exist is missing,
and so are the settings. -/
def load? (path : Text) (content : Option Text) (environment : List (Text × Text)) :
    Option Settings := do
  let file ← parseFile? (Format.ofPath path) (← content)
  ofValue? (Value.addSource (Environment.entries environment)
    (Value.addSource file.entries (.table [])))

/-! ## 3. Selected backends -/

/-- The sections that a backend may need. -/
inductive Section where
  | sqlite
  | redis
  | ldap
  deriving DecidableEq, Repr

def Section.name : Section → Text
  | .sqlite => "sqlite".toList
  | .redis => "redis".toList
  | .ldap => "ldap".toList

/-- The section of a selected backend is missing. -/
structure MissingSection where
  missing : Section
  deriving DecidableEq, Repr

def MissingSection.message (e : MissingSection) : Text :=
  "backend \"".toList ++ e.missing.name ++ "\" selected but the [".toList ++ e.missing.name ++
    "] section is missing".toList

def orMissing {α : Type} (s : Section) : Option α → Except MissingSection α
  | some a => .ok a
  | none => .error ⟨s⟩

def needSqlite (s : Settings) : Except MissingSection SqliteSettings := orMissing .sqlite s.sqlite

def needRedis (s : Settings) : Except MissingSection RedisSettings := orMissing .redis s.redis

def needLdap (s : Settings) : Except MissingSection LdapSettings := orMissing .ldap s.ldap

/-- The selected store with its section. -/
inductive StoreChoice where
  | nowhere
  | sqlite (s : SqliteSettings)
  | redis (s : RedisSettings)
  deriving DecidableEq, Repr

/-- The selected directory with its section. -/
inductive DirectoryChoice where
  | everybody
  | ldap (s : LdapSettings)
  deriving DecidableEq, Repr

def store (s : Settings) : Except MissingSection StoreChoice :=
  match s.core.store with
  | .nowhere => .ok .nowhere
  | .sqlite => s.needSqlite.map .sqlite
  | .redis => s.needRedis.map .redis

def directory (s : Settings) : Except MissingSection DirectoryChoice :=
  match s.core.directory with
  | .everybody => .ok .everybody
  | .ldap => s.needLdap.map .ldap

/-- The time between two replies to the same sender. -/
def interval (s : Settings) : Interval := Interval.ofSeconds s.core.interval

end Settings
end Autoresponder
