import Autoresponder.Proofs.BackendSlot
import Autoresponder.Proofs.Interleaving
import Autoresponder.Responder.Components
/-!
# Attempts to answer

The runs of the responder that share a store, each for a message, a time and a policy of its own,
and with a delivery that succeeds or fails.

1. An `Attempt` is one run. It is about a key if the lookup and the message lead to an answer
   (`Attempt.target?`), and it makes no call for any other key (`Attempt.resolved_avoids`).
2. A `Phase` is how far an attempt has come. `Phase.talk` is what it has still to say.
3. In the course of one question an attempt changes its phase and the slot of its key as
   `Attempt.move` says, whatever the backend is (`Attempt.advance_phase`). It holds a claim from the
   moment at which it is acquired until it is released (`Responder.HoldsClaim`), and the phase says
   whether it does (`Phase.holds`).
4. There are such attempts: a `letter` to somebody who is away.
-/

namespace Autoresponder

open Responder (Question Conversation Judgement)

/-! ## 1. Attempts -/

namespace Components

variable {σ : Type} {c : Components σ} {failure? : StoreCall → Option StoreFailure}
  {call : StoreCall}

/-- The same components, but some calls fail before they reach the store. -/
def intercepted (c : Components σ) (failure? : StoreCall → Option StoreFailure) : Components σ :=
  { c with store := Store.intercept failure? c.store }

theorem serve_intercepted_of_none (h : failure? call = none) (s : σ) :
    (c.intercepted failure?).serve (.store call) s = c.store.call call s := by
  show (Store.intercept failure? c.store).call call s = _
  unfold Store.intercept
  dsimp only
  rw [h]

theorem serve_intercepted_of_some {e : StoreFailure} (h : failure? call = some e) (s : σ) :
    (c.intercepted failure?).serve (.store call) s = (.error e, s) := by
  show (Store.intercept failure? c.store).call call s = _
  unfold Store.intercept
  dsimp only
  rw [h]
  rfl

end Components

/-- A run of the responder for one message. -/
structure Attempt where
  /-- The domain of recipients without one. -/
  domain : Text
  incoming : Incoming
  now : Instant
  /-- What the lookup says. -/
  policy : Except LookupFailure Policy
  /-- What becomes of the reply. -/
  delivery : Except DeliveryFailure Unit

namespace Attempt

def recipient (a : Attempt) : Address := a.incoming.recipient.qualify a.domain

/-- A sender who is to be answered. -/
structure Errand where
  policy : Policy
  sender : Address
  cited : Citation

/-- What the lookup and the message lead to. -/
inductive Prospect where
  /-- The store is not asked. -/
  | ended (result : Except Failure Outcome)
  | errand (e : Errand)

def prospect [Charsets] (a : Attempt) : Prospect :=
  match a.policy with
  | .error e => .ended (.error (.lookup e))
  | .ok policy =>
    match Responder.judge policy a.incoming a.now with
    | .error e => .ended (.error (.message e))
    | .ok (.leave outcome) => .ended (.ok outcome)
    | .ok (.answer sender cited) => .errand ⟨policy, sender, cited⟩

/-- The sender who is to be answered, if there is one. -/
def sender? [Charsets] (a : Attempt) : Option Address :=
  match a.prospect with
  | .ended _ => none
  | .errand e => some e.sender

/-- The key that the attempt is about, if its message passes the lookup and the screening. -/
def target? [Charsets] (a : Attempt) : Option Key :=
  a.sender?.map fun sender => Key.of sender a.recipient

/-- All that the attempt says. -/
def talk [Charsets] (a : Attempt) (interval : Interval) : Conversation (Except Failure Outcome) :=
  Responder.process ⟨interval, a.domain⟩ a.incoming a.now

/-- Who answers the attempt. -/
def components (a : Attempt) : Components Backend where
  lookup _ _ b := (a.policy, b)
  store := Backend.store
  deliver _ _ b := (a.delivery, b)

variable {a : Attempt} {k : Key} {e : Errand}

theorem target?_eq_some [Charsets] :
    a.target? = some k ↔ ∃ e, a.prospect = .errand e ∧ Key.of e.sender a.recipient = k := by
  unfold target? sender?
  cases a.prospect with
  | ended result => simp
  | errand e => simp

/-- A message that passes the lookup and the screening. -/
theorem sender?_of_screen [Charsets] {policy : Policy} {m : Inbound} {sender : Address}
    (hpolicy : a.policy = .ok policy) (hactive : policy.isActiveAt a.now = true)
    (hparse : Inbound.parse a.incoming.message = .ok m)
    (hscreen : m.screen a.incoming.envelope policy.aliases = .reply sender) :
    a.sender? = some sender := by
  have hjudge : Responder.judge policy a.incoming a.now = .ok (.answer sender m.citation) := by
    unfold Responder.judge
    rw [hactive, hparse]
    dsimp only
    rw [hscreen]
    rfl
  rw [sender?, prospect, hpolicy]
  dsimp only
  rw [hjudge]

/-- The attempt when it has heard of the policy. -/
def resolved [Charsets] (a : Attempt) (interval : Interval) :
    Conversation (Except Failure Outcome) :=
  match a.prospect with
  | .ended result => .done result
  | .errand e =>
    Responder.answer ⟨interval, a.domain⟩ e.policy a.recipient e.sender e.cited a.now

/-- The first question is about the policy. -/
theorem exists_talk [Charsets] (a : Attempt) (interval : Interval) :
    ∃ next, a.talk interval = .ask (.resolve a.recipient a.now) next ∧
      next a.policy = a.resolved interval := by
  refine ⟨_, rfl, ?_⟩
  unfold resolved prospect
  cases a.policy with
  | error e => rfl
  | ok policy =>
    dsimp only
    cases Responder.judge policy a.incoming a.now with
    | error e => rfl
    | ok judgement => cases judgement <;> rfl

theorem advance_talk [Charsets] (a : Attempt) (interval : Interval) (b : Backend) :
    (a.talk interval).advance a.components.serve b =
      (a.resolved interval, [⟨.resolve a.recipient a.now, a.policy⟩], b) := by
  obtain ⟨next, htalk, hnext⟩ := a.exists_talk interval
  rw [htalk, ← hnext]
  rfl

/-- A question that is no call for a key. -/
def Avoids (k : Key) (q : Question) : Prop := ∀ c, q = .store c → c.key ≠ k

theorem avoids_store {c : StoreCall} (h : c.key ≠ k) : Avoids k (.store c) := by
  rintro c' ⟨⟩
  exact h

theorem avoids_deliver (recipient : Address) (message : Text) :
    Avoids k (.deliver recipient message) := by
  rintro c ⟨⟩

theorem deliver_avoids {key : Key} (h : key ≠ k) (sender : Address) (reply : Text)
    (now claimedAt : Instant) (previous : Option Instant) :
    (Responder.deliver key sender reply now claimedAt previous).AsksOnly (Avoids k) := by
  refine .ask (avoids_deliver sender reply) fun delivery => ?_
  cases delivery with
  | error e => exact .ask (avoids_store h) fun _ => .done _
  | ok _ => exact .ask (avoids_store h) fun _ => .done _

theorem answer_avoids {r : Responder} {recipient sender : Address} (h : Key.of sender recipient ≠ k)
    (policy : Policy) (cited : Citation) (now : Instant) :
    (r.answer policy recipient sender cited now).AsksOnly (Avoids k) := by
  refine .ask (avoids_store h) fun check => ?_
  match check with
  | .error e => exact .done _
  | .ok true => exact .done _
  | .ok false =>
    refine .ask (avoids_store h) fun claim => ?_
    match claim with
    | .error e => exact .done _
    | .ok .suppressed => exact .done _
    | .ok (.acquired claimedAt previous) => exact deliver_avoids h _ _ _ _ _

/-- An attempt makes no call for a key that it is not about. -/
theorem resolved_avoids [Charsets] (h : a.target? ≠ some k) (interval : Interval) :
    (a.resolved interval).AsksOnly (Avoids k) := by
  unfold resolved
  cases hprospect : a.prospect with
  | ended result => exact .done result
  | errand e =>
    refine answer_avoids (fun hkey => ?_) _ _ _
    exact h (target?_eq_some.mpr ⟨e, hprospect, hkey⟩)

/-- What an attempt asks about other keys changes nothing here. -/
theorem serve_holds {s : Slot} (a : Attempt) (q : Question) (b : Backend) (hq : Avoids k q)
    (h : b.Holds k s) : (a.components.serve q b).2.Holds k s := by
  cases q with
  | resolve recipient now => exact h
  | store c => exact Backend.call_holds_of_ne c (hq c rfl) h
  | deliver recipient message => exact h

end Attempt

/-! ## 2. Phases -/

/-- How far an attempt has come. -/
inductive Phase where
  | resolving
  | checking
  | claiming
  /-- The claim is acquired, and replaces what was recorded before. -/
  | delivering (previous : Option Instant)
  | releasing (previous : Option Instant) (e : DeliveryFailure)
  | recording
  | ended (result : Except Failure Outcome)

namespace Attempt

/-- The key of an errand. -/
def key (a : Attempt) (e : Errand) : Key := Key.of e.sender a.recipient

/-- The reply of an errand. -/
def reply (a : Attempt) (e : Errand) : Text :=
  (Reply.compose e.policy e.sender a.recipient e.cited a.domain).render

/-- What an attempt does in the course of one question, to its phase and to the slot of its key. -/
def move (a : Attempt) (n : Int) : Phase → Slot → Phase × Slot
  | .resolving, s => (.checking, s)
  | .checking, s => (if s.recent a.now n then .ended (.ok .suppressed) else .claiming, s)
  | .claiming, s =>
    if s.recent a.now n then (.ended (.ok .suppressed), s)
    else (.delivering (s.map Stamp.time), some (.ofInstant a.now))
  | .delivering previous, s =>
    match a.delivery with
    | .error e => (.releasing previous e, s)
    | .ok () => (.recording, s)
  | .releasing previous e, s =>
    (.ended (.error (.delivery e)),
      if s = some (.ofInstant a.now) then previous.map .ofInstant else s)
  | .recording, _ => (.ended (.ok .sent), some (.ofInstant a.now))
  | .ended result, s => (.ended result, s)

end Attempt

/-- What follows on the answer to a claim. -/
def Attempt.afterClaim (a : Attempt) (e : Attempt.Errand) :
    Except StoreFailure Claim → Conversation (Except Failure Outcome)
  | .error failure => .done (.error (.store failure))
  | .ok .suppressed => .done (.ok .suppressed)
  | .ok (.acquired claimedAt previous) =>
    Responder.deliver (a.key e) e.sender (a.reply e) a.now claimedAt previous

/-- What an attempt has still to say in a phase. -/
def Phase.talk [Charsets] (a : Attempt) (interval : Interval) (e : Attempt.Errand) :
    Phase → Conversation (Except Failure Outcome)
  | .resolving => a.talk interval
  | .checking => a.resolved interval
  | .claiming => .ask (.store (.claim (a.key e) a.now interval)) (a.afterClaim e)
  | .delivering previous =>
    Responder.deliver (a.key e) e.sender (a.reply e) a.now a.now.truncate previous
  | .releasing previous failure =>
    .ask (.store (.release (a.key e) a.now.truncate previous)) fun _ =>
      .done (.error (.delivery failure))
  | .recording => .ask (.store (.record (a.key e) a.now)) fun _ => .done (.ok .sent)
  | .ended result => .done result

/-- What follows on the answer to a check. -/
def Attempt.afterCheck [Charsets] (a : Attempt) (interval : Interval) (e : Attempt.Errand) :
    Except StoreFailure Bool → Conversation (Except Failure Outcome)
  | .error failure => .done (.error (.store failure))
  | .ok true => .done (.ok .suppressed)
  | .ok false => Phase.claiming.talk a interval e

theorem Attempt.resolved_of_errand [Charsets] {a : Attempt} {e : Attempt.Errand}
    (he : a.prospect = .errand e) (interval : Interval) :
    a.resolved interval =
      .ask (.store (.check (a.key e) a.now interval)) (a.afterCheck interval e) := by
  rw [Attempt.resolved, he]
  refine congrArg (Dialogue.ask (Question.store (.check (a.key e) a.now interval)))
    (funext fun check => ?_)
  match check with
  | .error _ => rfl
  | .ok true => rfl
  | .ok false =>
    refine congrArg (Dialogue.ask (Question.store (.claim (a.key e) a.now interval)))
      (funext fun claim => ?_)
    match claim with
    | .error _ => rfl
    | .ok .suppressed => rfl
    | .ok (.acquired _ _) => rfl

/-! ## 3. Claims -/

namespace Responder

/-- Whether a claim is held after an exchange, if it is known whether one was held before. -/
def claimAfter : Bool → Exchange Question Question.Answer → Bool
  | _, ⟨.store (.claim _ _ _), .ok (.acquired _ _)⟩ => true
  | _, ⟨.store (.release _ _ _), .ok _⟩ => false
  | held, _ => held

/-- A claim has been acquired and not been released since. -/
def HoldsClaim (heard : List (Exchange Question Question.Answer)) : Prop :=
  heard.foldl claimAfter false = true

end Responder

/-- An attempt in this phase holds a claim. -/
def Phase.holds : Phase → Bool
  | .delivering _ => true
  | .releasing _ _ => true
  | .recording => true
  | .ended (.ok .sent) => true
  | _ => false

namespace Attempt

variable {a : Attempt} {e : Errand} {interval : Interval} {n : Int} {b : Backend} {s : Slot}

/-- A call is answered from the slot of its key. -/
theorem advance_store {α : Type} (c : StoreCall)
    {next : Except StoreFailure c.Answer → Conversation α} (h : b.Holds c.key s) :
    (Dialogue.ask (.store c) next).advance a.components.serve b =
      (next (.ok (Slot.answer c s)), [⟨.store c, .ok (Slot.answer c s)⟩],
        (Backend.store.call c b).2) := by
  have hanswer := (Backend.call_holds c h).1
  simp only [Dialogue.advance, Components.serve, components]
  rw [hanswer]

/-- One question of an attempt: what it has then still to say, the slot of its key, and its
claim. -/
theorem advance_phase [Charsets] (hn : interval.IsSeconds n) (he : a.prospect = .errand e)
    (hb : b.Holds (a.key e) s) (p : Phase) :
    ((p.talk a interval e).advance a.components.serve b).1 = (a.move n p s).1.talk a interval e ∧
      ((p.talk a interval e).advance a.components.serve b).2.2.Holds (a.key e) (a.move n p s).2 ∧
      ((p.talk a interval e).advance a.components.serve b).2.1.foldl Responder.claimAfter p.holds =
        (a.move n p s).1.holds := by
  cases p with
  | resolving =>
    simp only [Phase.talk, advance_talk]
    exact ⟨rfl, hb, rfl⟩
  | checking =>
    have hadvance : (Phase.checking.talk a interval e).advance a.components.serve b = _ :=
      (congrArg (fun talk => talk.advance a.components.serve b)
        (resolved_of_errand he interval)).trans
        (advance_store (.check (a.key e) a.now interval) hb)
    have hholds := (Backend.call_holds (.check (a.key e) a.now interval) hb).2
    rw [hadvance]
    simp only [Slot.answer, Slot.suppresses_eq hn, move]
    cases s.recent a.now n with
    | true => exact ⟨rfl, hholds, rfl⟩
    | false => exact ⟨rfl, hholds, rfl⟩
  | claiming =>
    have hadvance : (Phase.claiming.talk a interval e).advance a.components.serve b = _ :=
      advance_store (.claim (a.key e) a.now interval) hb
    have hholds := (Backend.call_holds (.claim (a.key e) a.now interval) hb).2
    rw [hadvance]
    simp only [Slot.answer, Slot.after, Slot.blocks_eq hn, move] at hholds ⊢
    cases hrecent : s.recent a.now n with
    | true =>
      rw [hrecent] at hholds
      exact ⟨rfl, hholds, rfl⟩
    | false =>
      rw [hrecent] at hholds
      exact ⟨rfl, hholds, rfl⟩
  | delivering previous =>
    simp only [Phase.talk, Responder.deliver, Dialogue.advance, Components.serve, components, move]
    cases a.delivery with
    | error failure => exact ⟨rfl, hb, rfl⟩
    | ok _ => exact ⟨rfl, hb, rfl⟩
  | releasing previous failure =>
    have hadvance : ((Phase.releasing previous failure).talk a interval e).advance
        a.components.serve b = _ := advance_store (.release (a.key e) a.now.truncate previous) hb
    rw [hadvance]
    exact ⟨rfl, (Backend.call_holds (.release (a.key e) a.now.truncate previous) hb).2, rfl⟩
  | recording =>
    have hadvance : (Phase.recording.talk a interval e).advance a.components.serve b = _ :=
      advance_store (.record (a.key e) a.now) hb
    rw [hadvance]
    exact ⟨rfl, (Backend.call_holds (.record (a.key e) a.now) hb).2, rfl⟩
  | ended result => exact ⟨rfl, hb, rfl⟩

/-! ## 4. A letter -/

def ann : Address := ⟨"ann".toList, some "example.com".toList⟩

def bob : Address := ⟨"bob".toList, some "example.com".toList⟩

def letterText : Bytes := Utf8.encode "To: bob@example.com\n\n".toList

theorem valid_secondOf (second : UInt8) : Instant.Valid (second.toNat : Int) 0 := by
  have hlt := second.toNat_lt
  refine ⟨?_, ?_, by decide, fun h => absurd h (by decide)⟩
  · unfold Instant.firstSecond
    omega
  · unfold Instant.lastSecond
    omega

/-- A letter from Ann to Bob, who is away, at one of the first 256 seconds. -/
def letter (second : UInt8) (delivery : Except DeliveryFailure Unit) : Attempt where
  domain := "example.com".toList
  incoming := ⟨bob, some ann.text, letterText⟩
  now := ⟨(second.toNat : Int), 0, valid_secondOf second⟩
  policy := .ok (Policy.always bob)
  delivery := delivery

/-- Two letters, five seconds apart. -/
def twoLetters (later : Bool) : Attempt :=
  letter (if later then 5 else 0) (.ok ())

def tenSeconds : Interval := ⟨10000000000, by decide⟩

theorem tenSeconds_isSeconds : tenSeconds.IsSeconds 10 := rfl

theorem letter_screened :
    ((Inbound.parse letterText).toOption.map fun m => m.screen (some ann.text) [bob.localPart]) =
      some (.reply ann) := by
  decide +kernel

theorem letter_target? (second : UInt8) (delivery : Except DeliveryFailure Unit) :
    (letter second delivery).target? = some (Key.of ann bob) := by
  obtain ⟨m, hparse, hscreen⟩ := Option.map_eq_some_iff.mp letter_screened
  have hparse : Inbound.parse letterText = .ok m := by
    cases h : Inbound.parse letterText with
    | error e =>
      rw [h] at hparse
      cases hparse
    | ok m' =>
      rw [h] at hparse
      cases hparse
      rfl
  rw [target?, sender?_of_screen (a := letter second delivery) rfl rfl hparse hscreen]
  rfl

end Attempt
end Autoresponder
