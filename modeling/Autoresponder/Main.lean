import Std.Time.DateTime.Timestamp
import Autoresponder.CommandLine
/-!
# The program

Reads the command line, the settings file, the environment and the message, and ends with the status
that the library gives.

The program starts no processes and opens no connections. Delivery commands run in a host of its own
(`Host`), and the files that they leave there are written to disk; no directory and no key/value
server is reached, and a database lasts as long as the run.
-/

open Autoresponder

namespace Autoresponder.Main

/-- The rest of a stream. -/
partial def readAll (input : IO.FS.Stream) (before : ByteArray) : IO ByteArray := do
  let block ← input.read 65536
  if block.isEmpty then return before
  readAll input (before ++ block)

/-- The content of a file, if it can be read. -/
def readFile? (path : Text) : IO (Option Bytes) := do
  try
    let content ← IO.FS.readBinFile (String.ofList path)
    return some content.toList
  catch _ => return none

/-- The files at some paths that can be read. -/
def readFiles (paths : List Text) : IO (Dictionary Text Bytes) := do
  let found ← paths.mapM fun path => do
    return (← readFile? path).map fun content => (Host.normalPath path, content)
  return found.filterMap id

/-- The names of the variables that overrule settings. -/
def variableNames : List String :=
  ["CORE__VDB", "CORE__VLU", "CORE__INTERVAL", "CORE__SENDMAIL", "CORE__DOMAIN", "SQLITE__PATH",
    "SQLITE__BUSY_TIMEOUT", "REDIS__HOST", "REDIS__PORT", "REDIS__DB", "REDIS__PREFIX",
    "REDIS__TIMEOUT", "LDAP__URI", "LDAP__SEARCH_BASE", "LDAP__GROUP_SEARCH_BASE", "LDAP__BIND_DN",
    "LDAP__BIND_PASSWORD", "LDAP__TIMEOUT", "LDAP__UID_ATTR", "LDAP__GROUP_ATTR",
    "LDAP__VACATION_ATTR", "LDAP__MESSAGE_ATTR", "LDAP__DISPLAY_NAME_ATTR", "LDAP__START_ATTR",
    "LDAP__END_ATTR"].map ("ABSENT_" ++ ·)

/-- The variables that are set. -/
def readEnvironment : IO (List (Text × Text)) := do
  let found ← variableNames.mapM fun name => do
    return (← IO.getEnv name).map fun value => (name.toList, value.toList)
  return found.filterMap id

/-- The time of the clock. -/
def readClock : IO Instant := do
  let now ← Std.Time.Timestamp.now
  let nanos : Int := now.toNanosecondsSinceUnixEpoch.val
  return (Instant.of? (nanos / nanosPerSecond) (nanos % nanosPerSecond).toNat).getD
    ⟨0, 0, by decide⟩

/-- Writes the files that a run has left behind. -/
def writeFiles (files : Dictionary Text Bytes) : IO Unit :=
  files.forM fun (path, content) => IO.FS.writeBinFile (String.ofList path) ⟨content.toArray⟩

end Autoresponder.Main

def main (args : List String) : IO UInt32 := do
  let words := args.map String.toList
  match CommandLine.parse? words with
  | some (.run i) =>
    let message ← Main.readAll (← IO.getStdin) .empty
    let settings ← Main.readFiles (Settings.Format.places i.settingsPath)
    let host : Host :=
      { files := settings
        directories := [Host.normalPath (← IO.currentDir).toString.toList, "/tmp".toList] }
    let world : World := { host := host, environment := ← Main.readEnvironment }
    let (status, after) := CommandLine.execute words message.toList (← Main.readClock) world
    Main.writeFiles (settings.foldl (fun files s => Dictionary.erase s.1 files) after.host.files)
    return UInt32.ofNat status
  | _ =>
    let (status, _) := CommandLine.execute words [] (← Main.readClock) {}
    return UInt32.ofNat status
