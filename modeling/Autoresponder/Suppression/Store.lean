import Autoresponder.Suppression.Key
import Autoresponder.Suppression.Record
/-!
# Suppression stores

A store remembers when each correspondent was last answered. It understands four calls, and each
call has an answer of its own type.

1. A check asks whether a record suppresses a reply. A claim asks the same and, if nothing does,
   records the reply in advance; the answer says what the record was before.
2. A release takes a claim back and restores that record. A record is written when a reply was sent.
3. `Store.nowhere` remembers nothing. `Store.intercept` lets chosen calls fail before they reach a
   store, and `Store.deferred` connects to a store at the first call that succeeds in it.
-/

namespace Autoresponder

/-! ## 1. Calls -/

inductive StoreCall where
  | check (key : Key) (now : Instant) (interval : Interval)
  | claim (key : Key) (now : Instant) (interval : Interval)
  | release (key : Key) (claimedAt : Instant) (previous : Option Instant)
  | record (key : Key) (now : Instant)
  deriving DecidableEq, Repr

inductive Claim where
  /-- A record suppresses the reply. -/
  | suppressed
  /-- The reply may be sent. It is recorded for `claimedAt`, and `previous` was recorded before. -/
  | acquired (claimedAt : Instant) (previous : Option Instant)
  deriving DecidableEq, Repr

namespace StoreCall

/-- What a call that does not fail answers. -/
def Answer : StoreCall → Type
  | .check _ _ _ => Bool
  | .claim _ _ _ => Claim
  | .release _ _ _ => Unit
  | .record _ _ => Unit

def key : StoreCall → Key
  | .check k _ _ => k
  | .claim k _ _ => k
  | .release k _ _ => k
  | .record k _ => k

def name : StoreCall → Text
  | .check _ _ _ => "should_suppress".toList
  | .claim _ _ _ => "claim".toList
  | .release _ _ _ => "release".toList
  | .record _ _ => "record_sent".toList

end StoreCall

/-! ## 2. Stores -/

/-- A store with contents of type `σ` and failures of type `ε`. A call answers or fails, and either
way leaves contents behind. -/
structure Store (σ ε : Type) where
  call : (c : StoreCall) → σ → Except ε c.Answer × σ

namespace Store

variable {σ ε : Type}

/-- The store that remembers nothing: every reply may be sent. -/
def nowhere : Store σ ε where
  call
    | .check _ _ _, s => (.ok false, s)
    | .claim _ now _, s => (.ok (.acquired now none), s)
    | .release _ _ _, s => (.ok (), s)
    | .record _ _, s => (.ok (), s)

/-- How many of a number of claims of one key, made one after the other, are acquired. -/
def countAcquired (s : Store σ ε) (key : Key) (now : Instant) (interval : Interval) : Nat → σ → Nat
  | 0, _ => 0
  | n + 1, contents =>
    match s.call (.claim key now interval) contents with
    | (.ok (.acquired _ _), contents) => countAcquired s key now interval n contents + 1
    | (_, contents) => countAcquired s key now interval n contents

/-- A store of which some calls fail and have no effect. -/
def intercept (failure? : StoreCall → Option ε) (s : Store σ ε) : Store σ ε where
  call c contents :=
    match failure? c with
    | some e => (.error e, contents)
    | none => s.call c contents

/-! ## 3. Deferred connections -/

/-- Contents behind a connection that may not have been made yet. -/
structure Deferred (σ κ : Type) where
  base : σ
  connection : Option κ := none

/-- Each call connects, unless an earlier one has. A call that cannot connect fails for that
reason. -/
def deferred {κ : Type} (connect : σ → Except ε κ × σ) (s : κ → Store σ ε) :
    Store (Deferred σ κ) ε where
  call c d :=
    match d.connection with
    | some k =>
      let (answer, base) := (s k).call c d.base
      (answer, ⟨base, some k⟩)
    | none =>
      match connect d.base with
      | (.error e, base) => (.error e, ⟨base, none⟩)
      | (.ok k, base) =>
        let (answer, base) := (s k).call c base
        (answer, ⟨base, some k⟩)

end Store
end Autoresponder
