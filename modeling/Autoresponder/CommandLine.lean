import Autoresponder.Responder.World
/-!
# The command line

`[-c FILE] [-f SENDER] [-d] [--interval SECONDS] RECIPIENT`

1. An option may be written in its long or short form, with its value behind it or attached. Short
   options may share a hyphen. No option may be repeated, and a value that begins with a hyphen must
   be attached.
2. Two hyphens alone end the options.
3. A request for help or for the version ends the reading of the command line at once.
-/

namespace Autoresponder.CommandLine

open Autoresponder (Text)

/-- What a command line asks for. -/
inductive Request where
  | run (i : Invocation)
  /-- Help, or the version. -/
  | information

/-- What has been read of a command line. -/
structure Partial where
  settingsPath : Option Text := none
  sender : Option Text := none
  debug : Bool := false
  interval : Option Nat := none
  recipient : Option Text := none

/-- The options that have a value. -/
inductive Valued where
  | settings
  | sender
  | interval
  deriving DecidableEq, Repr

/-- The largest number of seconds. -/
def maxSeconds : Nat := UInt64.size - 1

/-- The number of seconds that a text writes. -/
def seconds? (t : Text) : Option Nat :=
  (Text.natural? ((Text.dropPrefix? ['+'] t).getD t)).filter (· ≤ maxSeconds)

/-- Sets the value of an option, unless it has one. -/
def setValue (o : Valued) (t : Text) (p : Partial) : Option Partial :=
  match o with
  | .settings =>
    if p.settingsPath.isSome || t.isEmpty then none else some { p with settingsPath := some t }
  | .sender => if p.sender.isSome then none else some { p with sender := some t }
  | .interval =>
    if p.interval.isSome then none
    else (seconds? t).map fun n => { p with interval := some n }

def setDebug (p : Partial) : Option Partial :=
  if p.debug then none else some { p with debug := true }

def setRecipient (t : Text) (p : Partial) : Option Partial :=
  if p.recipient.isSome then none else some { p with recipient := some t }

/-- An option by the name behind its hyphens. -/
inductive Known where
  | valued (o : Valued)
  | debug
  | information

def long? (name : Text) : Option Known :=
  if name == "config".toList then some (.valued .settings)
  else if name == "from".toList then some (.valued .sender)
  else if name == "interval".toList then some (.valued .interval)
  else if name == "debug".toList then some .debug
  else if name == "help".toList || name == "version".toList then some .information
  else none

def short? : Char → Option Known
  | 'c' => some (.valued .settings)
  | 'f' => some (.valued .sender)
  | 'd' => some .debug
  | 'h' => some .information
  | 'V' => some .information
  | _ => none

/-- The result of reading a word: what is known then, an option that waits for its value, or the
end. -/
inductive Read where
  | goOn (p : Partial)
  | wait (o : Valued) (p : Partial)
  | wrong
  | information

def Read.of : Option Partial → Read
  | some p => .goOn p
  | none => .wrong

/-- The short options behind one hyphen. The rest of the word is the value of an option that has
one; an equals sign may stand between them. -/
def shorts : Text → Partial → Read
  | [], p => .goOn p
  | c :: rest, p =>
    match short? c with
    | none => .wrong
    | some .information => .information
    | some .debug =>
      match setDebug p with
      | some p => shorts rest p
      | none => .wrong
    | some (.valued o) =>
      match rest with
      | [] => .wait o p
      | '=' :: value => .of (setValue o value p)
      | value => .of (setValue o value p)

/-- A long option behind its two hyphens. -/
def long (word : Text) (p : Partial) : Read :=
  let name := Text.upTo (· == '=') word
  let value? := (Text.breakOn? ['='] word).map Prod.snd
  match long? name, value? with
  | some (.valued o), some value => .of (setValue o value p)
  | some (.valued o), none => .wait o p
  | some .debug, none => .of (setDebug p)
  | some .information, none => .information
  | _, _ => .wrong

/-- Reads one word where an option may stand. -/
def readWord (word : Text) (p : Partial) : Read :=
  match word with
  | '-' :: '-' :: name => long name p
  | '-' :: c :: rest => shorts (c :: rest) p
  | _ => .of (setRecipient word p)

/-- A word that begins with a hyphen, and is more than a hyphen. -/
def isOption : Text → Bool
  | '-' :: _ :: _ => true
  | _ => false

/-- What a complete command line asks for. -/
def finish (p : Partial) : Option Request :=
  p.recipient.map fun recipient =>
    .run {
      settingsPath := p.settingsPath.getD "/etc/mail/absent.toml".toList
      sender := p.sender
      interval := p.interval
      recipient := recipient }

/-- Reads the words that only name recipients. -/
def readRest : List Text → Partial → Option Request
  | [], p => finish p
  | word :: words, p => (setRecipient word p).bind (readRest words)

/-- Reads the words of a command line. An option may be waiting for its value. -/
def readFrom : Option Valued → List Text → Partial → Option Request
  | none, [], p => finish p
  | some _, [], _ => none
  | some o, word :: words, p =>
    if isOption word then none else (setValue o word p).bind (readFrom none words)
  | none, word :: words, p =>
    if word == ['-', '-'] then readRest words p
    else
      match readWord word p with
      | .goOn p => readFrom none words p
      | .wait o p => readFrom (some o) words p
      | .wrong => none
      | .information => some .information

/-- What a command line asks for, if it is right. -/
def parse? (words : List Text) : Option Request := readFrom none words {}

/-! ## Exit statuses -/

/-- The status that a process can end with. -/
def status (n : Int) : Nat := if 0 ≤ n && n < 256 then n.toNat else 1

/-- Carries out a command line. -/
def execute [Charsets] (words : List Text) (message : Bytes) (now : Instant) (w : World) :
    Nat × World :=
  match parse? words with
  | none => (status Failure.usage, w)
  | some .information => (0, w)
  | some (.run i) =>
    match w.run i message now with
    | (.ok _, w) => (0, w)
    | (.error e, w) => (status e.exitStatus, w)

end Autoresponder.CommandLine
