import Autoresponder.Address
import Autoresponder.Delivery.Words
/-!
# Delivery

A reply is handed to the mail system by a command. The command line is cut into words first, and
what stands for the recipient is put in afterwards, so no address can add a word.

1. `DeliveryCommand.parse` reads a command line, `commandFor` fills in the recipient.
2. `DeliveryFailure` says why a reply was not delivered; the exit status of the command is passed
   on, every other failure may pass with time.
3. `DeliveryCommand.conclude` judges how the command ended.
-/

namespace Autoresponder

inductive DeliveryFailure where
  | emptyCommand
  | unclosedQuote
  /-- The command could not be started. -/
  | notStarted (program reason : Text)
  | exited (program : Text) (status : Int)
  | killed (program : Text)
  deriving DecidableEq, Repr

namespace DeliveryFailure

def message : DeliveryFailure → Text
  | .emptyCommand => "delivery command is empty".toList
  | .unclosedQuote => "invalid delivery command: missing closing quote".toList
  | .notStarted program reason => "failed to run ".toList ++ program ++ ": ".toList ++ reason
  | .exited program status => program ++ " exited with status ".toList ++ Text.ofInt status
  | .killed program => program ++ " was killed by a signal".toList

/-- The exit status for a failure that may pass with time. -/
def temporary : Int := 75

/-- The exit status that the mail system is told. -/
def exitStatus : DeliveryFailure → Int
  | .exited _ status => status
  | _ => temporary

end DeliveryFailure

/-- How a command ended. -/
inductive Ending where
  | exited (status : Int)
  | killed
  /-- It was never started, for a reason that the system gives. -/
  | notStarted (reason : Text)
  deriving DecidableEq, Repr

/-- A command with places for the recipient. -/
structure DeliveryCommand where
  program : Text
  arguments : List Text
  deriving DecidableEq, Repr

namespace DeliveryCommand

/-- The words of the command. -/
def words (c : DeliveryCommand) : List Text := c.program :: c.arguments

def parse (line : Text) : Except DeliveryFailure DeliveryCommand :=
  match Words.split? line with
  | none => .error .unclosedQuote
  | some [] => .error .emptyCommand
  | some (program :: arguments) => .ok ⟨program, arguments⟩

/-- A word with the recipient in the place of `$R`, and then nothing in the place of `$S`: an
automatic reply has no envelope sender. -/
def fillIn (recipient : Address) (word : Text) : Text :=
  Text.replace ['$', 'S'] [] (Text.replace ['$', 'R'] recipient.text word)

/-- The command for a reply to `recipient`. -/
def commandFor (c : DeliveryCommand) (recipient : Address) : DeliveryCommand :=
  ⟨fillIn recipient c.program, c.arguments.map (fillIn recipient)⟩

/-- A command delivers by ending with status zero. -/
def conclude (c : DeliveryCommand) : Ending → Except DeliveryFailure Unit
  | .exited 0 => .ok ()
  | .exited status => .error (.exited c.program status)
  | .killed => .error (.killed c.program)
  | .notStarted reason => .error (.notStarted c.program reason)

end DeliveryCommand
end Autoresponder
