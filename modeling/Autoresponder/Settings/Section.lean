import Autoresponder.Text
/-!
# Sections

The sections of the settings and the default of each setting. The order of the fields is part of the
format: a section may be written as a list of values.
-/

namespace Autoresponder

/-- Where the times of replies are kept. -/
inductive StoreKind where
  | nowhere
  | sqlite
  | redis
  deriving DecidableEq, Repr

/-- Where policies come from. -/
inductive DirectoryKind where
  | everybody
  | ldap
  deriving DecidableEq, Repr

structure CoreSettings where
  store : StoreKind := .nowhere
  directory : DirectoryKind := .everybody
  /-- The seconds between two replies to the same sender. -/
  interval : Nat := 604800
  /-- The delivery command. -/
  sendmail : Text := "/usr/sbin/sendmail -f '' -- $R".toList
  /-- The domain of recipients that are given without one. -/
  domain : Text := "localhost".toList
  deriving DecidableEq, Repr

structure SqliteSettings where
  path : Text := "/var/lib/absent/vacation.db".toList
  /-- The seconds to wait for another writer. -/
  busyTimeout : Nat := 30
  deriving DecidableEq, Repr

structure RedisSettings where
  host : Text := "127.0.0.1".toList
  service : Nat := 6379
  db : Int := 0
  keyPrefix : Text := "absent".toList
  /-- The seconds that connecting and each command may take. -/
  timeout : Nat := 10
  deriving DecidableEq, Repr

structure LdapSettings where
  uri : Text := "ldap://localhost".toList
  searchBase : Text := []
  groupSearchBase : Option Text := none
  bindName : Option Text := none
  bindPassword : Option Text := none
  timeout : Nat := 30
  uidAttr : Text := "uid".toList
  groupAttr : Text := "cn".toList
  vacationAttr : Text := "onVacation".toList
  messageAttr : Text := "vacationMessage".toList
  displayNameAttr : Text := "displayName".toList
  startAttr : Text := "vacationStart".toList
  endAttr : Text := "vacationEnd".toList
  deriving DecidableEq, Repr

structure Settings where
  core : CoreSettings := {}
  sqlite : Option SqliteSettings := none
  redis : Option RedisSettings := none
  ldap : Option LdapSettings := none
  deriving DecidableEq, Repr

end Autoresponder
