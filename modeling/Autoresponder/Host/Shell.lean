import Autoresponder.Delivery
import Autoresponder.Host
import Autoresponder.Text.Utf8
/-!
# Programs of a host

The few programs that short delivery commands are made of: a shell, and `cat`, `echo`, `printf`,
`true`, `false` and `kill`.

1. A script is cut into tokens: words, and the signs that separate, join and redirect commands.
2. Words are expanded: the parameters of the script are put in, and `"$@"` is one word for each.
3. A command reads its input, writes to the place that its output goes to, and ends with a status.
   Behind a bar it reads what the command before it has written.
4. `Host.start` runs a program by its name or path.
-/

namespace Autoresponder

namespace Host

/-! ## 1. Tokens -/

/-- A part of a word. -/
inductive Segment where
  | literal (t : Text)
  /-- The value of `$` and a character. -/
  | parameter (name : Char)
  deriving DecidableEq, Repr

/-- What is done with a stream of a command. -/
inductive Redirection where
  | write
  | append
  | read
  /-- The stream goes where another one goes. -/
  | copy (stream : Char)
  deriving DecidableEq, Repr

inductive Token where
  | word (segments : List Segment)
  /-- The end of a command, whose status decides whether the next one is run: `none` for always. -/
  | stop (onSuccess : Option Bool)
  | pipe
  | redirect (stream : Char) (how : Redirection)
  deriving DecidableEq, Repr

/-- Which quotation marks a character stands in. -/
inductive Quotes where
  | none
  | single
  | double
  deriving DecidableEq, Repr

def endsWord (c : Char) : Bool := " \t\n;&|<>".toList.contains c

/-- One more character in front of a word. -/
def addChar (c : Char) : List Segment → List Segment
  | .literal t :: segments => .literal (c :: t) :: segments
  | segments => .literal [c] :: segments

/-- The rest of a word, and the text behind it. -/
def word : Quotes → Text → List Segment × Text
  | _, [] => ([.literal []], [])
  | .single, c :: s =>
    if c == '\'' then word .none s
    else
      let (w, rest) := word .single s
      (addChar c w, rest)
  | q, '\\' :: '\n' :: s => word q s
  | q, '\\' :: c :: s =>
    let (w, rest) := word q s
    if q = .double && !Words.isProtected c then (addChar '\\' (addChar c w), rest)
    else (addChar c w, rest)
  | q, '$' :: c :: s =>
    if Text.isDigit c || "@*#$?".toList.contains c then
      let (w, rest) := word q s
      (.parameter c :: w, rest)
    else
      let (w, rest) := word q (c :: s)
      (addChar '$' w, rest)
  | .double, c :: s =>
    if c == '"' then word .none s
    else
      let (w, rest) := word .double s
      (addChar c w, rest)
  | .none, c :: s =>
    if endsWord c then ([.literal []], c :: s)
    else if c == '\'' then word .single s
    else if c == '"' then word .double s
    else
      let (w, rest) := word .none s
      (addChar c w, rest)

/-- The sign of a redirection, and the text behind it. -/
def redirection? : Text → Option (Redirection × Text)
  | '>' :: '>' :: s => some (.append, s)
  | '>' :: '&' :: c :: s => some (.copy c, s)
  | '>' :: s => some (.write, s)
  | '<' :: s => some (.read, s)
  | _ => none

/-- A redirection with the number of its stream, and the text behind it. Without a number it is
about the input or the output. -/
def streamed? : Text → Option (Char × Redirection × Text)
  | [] => none
  | c :: s =>
    match redirection? (c :: s) with
    | some (how, rest) => some (if how = .read then '0' else '1', how, rest)
    | none =>
      if Text.isDigit c then (redirection? s).map fun (how, rest) => (c, how, rest) else none

/-- The tokens of a script. Every step takes a character off it. -/
def tokens : Nat → Text → List Token
  | 0, _ => []
  | fuel + 1, s =>
    match streamed? s with
    | some (stream, how, rest) => .redirect stream how :: tokens fuel rest
    | none =>
      match s with
      | [] => []
      | '&' :: '&' :: rest => .stop (some true) :: tokens fuel rest
      | '|' :: '|' :: rest => .stop (some false) :: tokens fuel rest
      | c :: rest =>
        if c == ';' || c == '\n' || c == '&' then .stop none :: tokens fuel rest
        else if c == '|' then .pipe :: tokens fuel rest
        else if c == ' ' || c == '\t' then tokens fuel rest
        else if c == '#' then tokens fuel (rest.dropWhile (· != '\n'))
        else
          let (w, after) := word .none s
          .word w :: tokens fuel after

/-! ## 2. Expansion -/

/-- What a script knows while it runs. -/
structure Context where
  name : Text
  arguments : List Text
  input : Bytes
  /-- The input of the script, while the next command reads what another one has written. -/
  ownInput : Option Bytes := none
  status : Int := 0

/-- The next command reads what one has written. -/
def Context.feed (output : Bytes) (x : Context) : Context :=
  { x with input := output, ownInput := some (x.ownInput.getD x.input) }

/-- The next command reads the input of the script. -/
def Context.release (x : Context) : Context :=
  { x with input := x.ownInput.getD x.input, ownInput := none }

/-- The number of the shell's own process. -/
def processNumber : Text := ['1']

/-- The words that a parameter stands for. -/
def parameter (x : Context) (c : Char) : List Text :=
  if c == '@' || c == '*' then x.arguments
  else if c == '#' then [Text.ofNat x.arguments.length]
  else if c == '$' then [processNumber]
  else if c == '?' then [Text.ofInt x.status]
  else if c == '0' then [x.name]
  else [x.arguments.getD (c.toNat - '1'.toNat) []]

/-- Puts words behind each other; the last of the first and the first of the second become one. -/
def glue : List Text → List Text → List Text
  | [], ws => ws
  | vs, [] => vs
  | [v], w :: ws => (v ++ w) :: ws
  | v :: vs, ws => v :: glue vs ws

/-- The words that a word becomes. -/
def expand (x : Context) (segments : List Segment) : List Text :=
  let parts := segments.map fun
    | .literal t => [t]
    | .parameter c => parameter x c
  match segments with
  | [.parameter _, .literal []] => (parts.headD [])
  | _ => parts.foldr glue [[]]

/-! ## 3. Commands -/

/-- Where the output of a command goes. -/
inductive Output where
  /-- To the script, or into the next command. -/
  | inherited
  | file (path : Text) (append : Bool)
  /-- To a stream that nobody reads. -/
  | lost
  deriving DecidableEq, Repr

/-- A command with its words and the places of its input and output. -/
structure Simple where
  words : List Text := []
  source : Option Text := none
  output : Output := .inherited
  /-- Files that are opened for streams to which nothing is written. -/
  opened : List (Text × Bool) := []

def Simple.redirect (stream : Char) (path : Text) (append : Bool) (c : Simple) : Simple :=
  if stream == '1' then { c with output := .file path append }
  else { c with opened := c.opened ++ [(path, append)] }

/-- Reads the tokens of one command up to the sign that ends it. -/
def gather (x : Context) : List Token → Simple → Simple × List Token
  | .word w :: ts, c => gather x ts { c with words := c.words ++ expand x w }
  | .redirect stream (.copy other) :: ts, c =>
    gather x ts (if stream == '1' && other != '1' then { c with output := .lost } else c)
  | .redirect stream how :: .word w :: ts, c =>
    let path := (expand x w).headD []
    gather x ts (if how = .read then { c with source := some path }
      else c.redirect stream path (how = .append))
  | ts, c => (c, ts)

/-- The character that a backslash and a letter stand for in a format. -/
def formatEscape (c : Char) : Text :=
  if c == 'n' then ['\n'] else if c == 't' then ['\t'] else if c == 'r' then ['\r']
  else if c == '\\' then ['\\'] else ['\\', c]

/-- One pass over a format: the text, and the arguments that are left. -/
def format : Text → List Text → Text × List Text
  | [], as => ([], as)
  | '\\' :: c :: f, as =>
    let (t, rest) := format f as
    (formatEscape c ++ t, rest)
  | '%' :: '%' :: f, as =>
    let (t, rest) := format f as
    ('%' :: t, rest)
  | '%' :: 's' :: f, as =>
    let (t, rest) := format f as.tail
    (as.headD [] ++ t, rest)
  | c :: f, as =>
    let (t, rest) := format f as
    (c :: t, rest)

/-- A format is used again as long as it takes arguments. -/
def printf (f : Text) : Nat → List Text → Text
  | 0, _ => []
  | fuel + 1, as =>
    let (t, rest) := format f as
    if rest.isEmpty || rest.length = as.length then t else t ++ printf f fuel rest

/-- How a command leaves its script. -/
inductive Leave where
  | goOn (status : Int)
  | exit (status : Int)
  | killed
  deriving DecidableEq, Repr

/-- The content of several files, if there are all of them. -/
def contents? (h : Host) : List Text → Option Bytes
  | [] => some []
  | path :: paths =>
    match h.content? path, contents? h paths with
    | some content, some rest => some (content ++ rest)
    | _, _ => none

/-- What a command that is known by name writes, what it leaves of its input, and how it ends. -/
def perform (h : Host) (x : Context) (input : Bytes) : List Text → Bytes × Bytes × Leave
  | [] => ([], input, .goOn 0)
  | name :: args =>
    if name == "cat".toList then
      if args.isEmpty then (input, [], .goOn 0)
      else
        match contents? h args with
        | some content => (content, input, .goOn 0)
        | none => ([], input, .goOn 1)
    else if name == "echo".toList then
      (Utf8.encode (Text.joinWith [' '] args ++ ['\n']), input, .goOn 0)
    else if name == "printf".toList then
      (Utf8.encode (printf (args.headD []) (args.length + 1) args.tail), input, .goOn 0)
    else if name == "true".toList || name == [':'] then ([], input, .goOn 0)
    else if name == "false".toList then ([], input, .goOn 1)
    else if name == "exit".toList then
      let status := ((args.head?.bind Text.integer?).getD x.status) % 256
      ([], input, .exit status)
    else if name == "kill".toList then
      ([], input, if args.getLast? == some processNumber then .killed else .goOn 1)
    else ([], input, .goOn 127)

/-- The file that forgets what is written to it, and is always empty. -/
def isNull (path : Text) : Bool := path == "/dev/null".toList

/-- A file can be written at this path. -/
def canWrite (h : Host) (path : Text) : Bool :=
  isNull path || ((parent? (normalPath path)).any h.isDirectory && !h.isDirectory (normalPath path))

def writeFile (h : Host) (path : Text) (content : Bytes) : Host :=
  if isNull path then h
  else { h with files := Dictionary.put (normalPath path) content h.files }

/-- Opens a file for a stream, if it can be written. Unless the stream goes on at its end, it is
emptied. -/
def openFile? (h : Host) (path : Text) (append : Bool) : Option Host :=
  if canWrite h path then some (writeFile h path (if append then (h.content? path).getD [] else []))
  else none

def openFiles? (h : Host) (files : List (Text × Bool)) : Option Host :=
  files.foldlM (fun h (path, append) => openFile? h path append) h

/-- Runs one command of a script: the host and the script's knowledge behind it, what it writes for
the script, and how it leaves. -/
def runSimple (h : Host) (x : Context) (c : Simple) : Host × Context × Bytes × Leave :=
  let input? := match c.source with
    | none => some x.input
    | some path => if isNull path then some [] else h.content? path
  let files := match c.output with
    | .file path append => c.opened ++ [(path, append)]
    | _ => c.opened
  match input?, openFiles? h files with
  | some input, some opened =>
    let (output, left, leave) := perform opened x input c.words
    let x := if c.source.isNone then { x with input := left } else x
    match c.output with
    | .inherited => (opened, x, output, leave)
    | .lost => (opened, x, [], leave)
    | .file path _ =>
      (writeFile opened path ((opened.content? path).getD [] ++ output), x, [], leave)
  | _, _ => (h, x, [], .goOn 2)

/-- Runs the commands of a script. A command behind `&&` or `||` is passed over if the status does
not call for it. A command that writes into the next one does not end the script by leaving it. -/
def runTokens : Nat → Host → Context → List Token → Ending × Host
  | 0, h, x, _ => (.exited x.status, h)
  | fuel + 1, h, x, ts =>
    match ts with
    | [] => (.exited x.status, h)
    | .pipe :: rest => runTokens fuel h x rest
    | .stop wanted :: rest =>
      if wanted.all (· == (x.status == 0)) then runTokens fuel h x rest
      else runTokens fuel h x (gather x rest {}).2
    | _ =>
      let (c, rest) := gather x ts {}
      let (h, x, output, leave) := runSimple h x c
      let into := rest.head? == some .pipe
      let x := if into then x.feed output else x.release
      match leave with
      | .goOn status => runTokens fuel h { x with status := status } rest
      | .exit status => if into then runTokens fuel h x rest else (.exited status, h)
      | .killed => (.killed, h)

/-- Runs a script with its name and arguments. -/
def runScript (h : Host) (script : Text) (name : Text) (arguments : List Text) (input : Bytes) :
    Ending × Host :=
  let ts := tokens script.length script
  runTokens (2 * ts.length + 1) h { name := name, arguments := arguments, input := input } ts

/-! ## 4. Programs -/

/-- The programs of a host that are not parts of its shell only. -/
def programs : List Text := ["cat", "echo", "printf", "true", "false", "kill"].map String.toList

/-- The name of a program behind one of the directories in which programs are looked for. -/
def programName? (program : Text) : Option Text :=
  let name := ((Text.dropPrefix? "/bin/".toList program).or
    (Text.dropPrefix? "/usr/bin/".toList program)).getD program
  if name.contains '/' then none
  else if name == "sh".toList || programs.contains name then some name
  else none

/-- Runs a program with its arguments and its input. -/
def start (h : Host) (program : Text) (arguments : List Text) (input : Bytes) : Ending × Host :=
  if (program :: arguments).any (·.contains '\x00') then
    (.notStarted "nul byte found in provided data".toList, h)
  else
    match programName? program with
    | none =>
      if h.existsAt program then
        (.notStarted "Permission denied (os error 13)".toList, h)
      else (.notStarted "No such file or directory (os error 2)".toList, h)
    | some name =>
      if name == "sh".toList then
        match arguments with
        | [option, script] =>
          if option == "-c".toList then runScript h script name [] input else (.exited 2, h)
        | option :: script :: zero :: rest =>
          if option == "-c".toList then runScript h script zero rest input else (.exited 2, h)
        | _ => (.exited 0, h)
      else
        match perform h { name := name, arguments := [], input := input } input
          (name :: arguments) with
        | (_, _, .goOn status) => (.exited status, h)
        | (_, _, .exit status) => (.exited status, h)
        | (_, _, .killed) => (.exited 1, h)

end Host

/-- Runs a delivery command on a host. -/
def DeliveryCommand.deliver (c : DeliveryCommand) (recipient : Address) (message : Bytes)
    (h : Host) :
    Except DeliveryFailure Unit × Host :=
  let command := c.commandFor recipient
  let (ending, after) := h.start command.program command.arguments message
  (command.conclude ending, after)

end Autoresponder
