import Autoresponder.Directory.Lookup
import Autoresponder.Directory.Scripted
import Autoresponder.Host.Shell
import Autoresponder.Responder
/-!
# Components

Who answers the responder: a lookup, a store and a way of delivery, which share a state.

1. A lookup takes everybody to be away, gives a fixed policy, fails, or asks a directory.
2. Any part of the state can be the contents of a store (`Store.within`).
-/

namespace Autoresponder

/-- The answers to all that a responder asks, from a state. -/
structure Components (σ : Type) where
  lookup : Address → Instant → σ → Except LookupFailure Policy × σ
  store : Store σ StoreFailure
  deliver : Address → Text → σ → Except DeliveryFailure Unit × σ

/-- The components as a server. -/
def Components.serve {σ : Type} (c : Components σ) :
    Server Responder.Question Responder.Question.Answer σ
  | .resolve recipient now, s => c.lookup recipient now s
  | .store call, s => c.store.call call s
  | .deliver recipient message, s => c.deliver recipient message s

/-! ## 1. Lookups -/

/-- The policy of somebody who is always away. -/
def Policy.always (recipient : Address) : Policy :=
  { active := true, aliases := [recipient.localPart] }

/-- A directory and the requests that it has been sent. -/
structure DirectoryServer where
  directory : Directory.Scripted
  requests : List Directory.Request := []

namespace DirectoryServer

/-- Answers a request and remembers it. -/
def serve : Server Directory.Request Directory.Request.Answer DirectoryServer :=
  fun request s =>
    let (answer, directory) := Directory.Scripted.serve request s.directory
    (answer, ⟨directory, s.requests ++ [request]⟩)

/-- Asks for the policy of a recipient. -/
def resolve (settings : LdapSettings) (recipient : Address) (now : Instant) (s : DirectoryServer) :
    Except Directory.Failure Policy × DirectoryServer :=
  Dialogue.run serve (Directory.resolve settings recipient now) s

end DirectoryServer

inductive Lookup where
  | everybody
  | fixed (policy : Policy)
  | failing (message : Text)
  | directory (settings : LdapSettings)

/-- The policy of a recipient, if a directory has to be asked from this one. -/
def Lookup.resolve (l : Lookup) (recipient : Address) (now : Instant) (s : DirectoryServer) :
    Except LookupFailure Policy × DirectoryServer :=
  match l with
  | .everybody => (.ok (Policy.always recipient), s)
  | .fixed policy => (.ok policy, s)
  | .failing message => (.error (.injected message), s)
  | .directory settings =>
    let (answer, s) := s.resolve settings recipient now
    (answer.mapError .directory, s)

/-! ## 2. Parts of the state -/

/-- A store whose contents are a part of a state. -/
def Store.within {σ τ ε : Type} (part : τ → σ) (replace : σ → τ → τ) (s : Store σ ε) :
    Store τ ε where
  call c t :=
    let (answer, contents) := s.call c (part t)
    (answer, replace contents t)

end Autoresponder
