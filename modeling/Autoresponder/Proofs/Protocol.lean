import Autoresponder.Proofs.Questions
import Autoresponder.Responder
import Mathlib.Data.List.Infix
/-!
# The protocol of the responder

What the responder asks and what it makes of the answers, whoever answers. Nothing is assumed about
the answers; they may be errors, and they need not fit together.

1. An `Event` is a question with its answer.
2. A message is judged by the policy first, then by its header, then by the screening
   (`judged`).
3. There are ten ways through one message, each with its own questions (`Course`). Every run takes
   one of them (`process_course`).
4. From this follows what is asked, when, with what, and what comes of it (`Protocol`): the
   questions have a fixed order, each is asked for a reason, and a failed delivery takes back
   exactly the claim that was acquired (`process_protocol`).
-/

namespace Autoresponder.Responder

/-! ## 1. Events -/

/-- A question of the responder with its answer. -/
inductive Event where
  | resolve (recipient : Address) (now : Instant) (answer : Except LookupFailure Policy)
  | check (key : Key) (now : Instant) (interval : Interval) (answer : Except StoreFailure Bool)
  | claim (key : Key) (now : Instant) (interval : Interval) (answer : Except StoreFailure Claim)
  | deliver (recipient : Address) (message : Text) (answer : Except DeliveryFailure Unit)
  | release (key : Key) (claimedAt : Instant) (previous : Option Instant)
      (answer : Except StoreFailure Unit)
  | record (key : Key) (now : Instant) (answer : Except StoreFailure Unit)

/-- The questions, without what they are about. -/
inductive Event.Kind where
  | resolve | check | claim | deliver | release | record
  deriving DecidableEq, Repr

namespace Event

/-- An exchange with the responder as an event. -/
def ofExchange : Exchange Question Question.Answer → Event
  | ⟨.resolve recipient now, answer⟩ => .resolve recipient now answer
  | ⟨.store (.check key now interval), answer⟩ => .check key now interval answer
  | ⟨.store (.claim key now interval), answer⟩ => .claim key now interval answer
  | ⟨.store (.release key claimedAt previous), answer⟩ => .release key claimedAt previous answer
  | ⟨.store (.record key now), answer⟩ => .record key now answer
  | ⟨.deliver recipient message, answer⟩ => .deliver recipient message answer

def kind : Event → Kind
  | .resolve _ _ _ => .resolve
  | .check _ _ _ _ => .check
  | .claim _ _ _ _ => .claim
  | .deliver _ _ _ => .deliver
  | .release _ _ _ _ => .release
  | .record _ _ _ => .record

/-- The key that a call of the store is about. -/
def key? : Event → Option Key
  | .check key _ _ _ => some key
  | .claim key _ _ _ => some key
  | .release key _ _ _ => some key
  | .record key _ _ => some key
  | _ => none

end Event

variable [Charsets]

/-- What is said about a message. -/
def events {σ : Type} (r : Responder) (m : Incoming) (now : Instant)
    (serve : Server Question Question.Answer σ) (s : σ) : List Event :=
  ((r.process m now).transcript serve s).map Event.ofExchange

/-- What becomes of a message. -/
def result {σ : Type} (r : Responder) (m : Incoming) (now : Instant)
    (serve : Server Question Question.Answer σ) (s : σ) : Except Failure Outcome :=
  ((r.process m now).run serve s).1

/-! ## 2. Judgements -/

variable {policy : Policy} {m : Incoming} {now : Instant}

theorem judge_of_inactive (h : policy.isActiveAt now = false) :
    judge policy m now = .ok (.leave .inactive) := by
  rw [judge, h]
  rfl

theorem judge_of_malformed (h : policy.isActiveAt now = true) {e : MessageError}
    (hparse : Inbound.parse m.message = .error e) : judge policy m now = .error e := by
  rw [judge, h, hparse]
  rfl

theorem judge_of_skip (h : policy.isActiveAt now = true) {inbound : Inbound}
    (hparse : Inbound.parse m.message = .ok inbound) {reason : SkipReason}
    (hscreen : inbound.screen m.envelope policy.aliases = .skip reason) :
    judge policy m now = .ok (.leave (.ignored reason)) := by
  rw [judge, h, hparse]
  dsimp only
  rw [hscreen]
  rfl

theorem judge_of_reply (h : policy.isActiveAt now = true) {inbound : Inbound}
    (hparse : Inbound.parse m.message = .ok inbound) {sender : Address}
    (hscreen : inbound.screen m.envelope policy.aliases = .reply sender) :
    judge policy m now = .ok (.answer sender inbound.citation) := by
  rw [judge, h, hparse]
  dsimp only
  rw [hscreen]
  rfl

/-- The four ways to judge a message. -/
inductive Judged (policy : Policy) (m : Incoming) (now : Instant) :
    Except MessageError Judgement → Prop
  | inactive (h : policy.isActiveAt now = false) : Judged policy m now (.ok (.leave .inactive))
  | malformed (h : policy.isActiveAt now = true) (e : MessageError)
      (hparse : Inbound.parse m.message = .error e) : Judged policy m now (.error e)
  | ignored (h : policy.isActiveAt now = true) (inbound : Inbound)
      (hparse : Inbound.parse m.message = .ok inbound) (reason : SkipReason)
      (hscreen : inbound.screen m.envelope policy.aliases = .skip reason) :
      Judged policy m now (.ok (.leave (.ignored reason)))
  | answer (h : policy.isActiveAt now = true) (inbound : Inbound)
      (hparse : Inbound.parse m.message = .ok inbound) (sender : Address)
      (hscreen : inbound.screen m.envelope policy.aliases = .reply sender) :
      Judged policy m now (.ok (.answer sender inbound.citation))

theorem judged (policy : Policy) (m : Incoming) (now : Instant) :
    Judged policy m now (judge policy m now) := by
  cases hactive : policy.isActiveAt now with
  | false =>
    rw [judge_of_inactive hactive]
    exact .inactive hactive
  | true =>
    cases hparse : Inbound.parse m.message with
    | error e =>
      rw [judge_of_malformed hactive hparse]
      exact .malformed hactive e hparse
    | ok inbound =>
      cases hscreen : inbound.screen m.envelope policy.aliases with
      | skip reason =>
        rw [judge_of_skip hactive hparse hscreen]
        exact .ignored hactive inbound hparse reason hscreen
      | reply sender =>
        rw [judge_of_reply hactive hparse hscreen]
        exact .answer hactive inbound hparse sender hscreen

theorem judge_eq_inactive_iff :
    judge policy m now = .ok (.leave .inactive) ↔ policy.isActiveAt now = false := by
  refine ⟨fun h => ?_, judge_of_inactive⟩
  have hjudged := judged policy m now
  rw [h] at hjudged
  cases hjudged with
  | inactive h => exact h

theorem judge_eq_error_iff {e : MessageError} :
    judge policy m now = .error e ↔
      policy.isActiveAt now = true ∧ Inbound.parse m.message = .error e := by
  refine ⟨fun h => ?_, fun h => judge_of_malformed h.1 h.2⟩
  have hjudged := judged policy m now
  rw [h] at hjudged
  cases hjudged with
  | malformed hactive e hparse => exact ⟨hactive, hparse⟩

theorem judge_eq_ignored_iff {reason : SkipReason} :
    judge policy m now = .ok (.leave (.ignored reason)) ↔
      policy.isActiveAt now = true ∧ ∃ inbound, Inbound.parse m.message = .ok inbound ∧
        inbound.screen m.envelope policy.aliases = .skip reason := by
  refine ⟨fun h => ?_, fun ⟨hactive, _, hparse, hscreen⟩ => judge_of_skip hactive hparse hscreen⟩
  have hjudged := judged policy m now
  rw [h] at hjudged
  cases hjudged with
  | ignored hactive inbound hparse reason hscreen => exact ⟨hactive, inbound, hparse, hscreen⟩

/-! ## 3. Courses -/

/-- The recipient that a message is for. -/
def recipientOf (r : Responder) (m : Incoming) : Address := m.recipient.qualify r.domain

/-- A policy under which a message is to be answered, and to whom. -/
structure Passing (m : Incoming) (now : Instant) where
  policy : Policy
  sender : Address
  inbound : Inbound
  active : policy.isActiveAt now = true
  parsed : Inbound.parse m.message = .ok inbound
  screened : inbound.screen m.envelope policy.aliases = .reply sender

namespace Passing

theorem judge_eq (p : Passing m now) :
    judge p.policy m now = .ok (.answer p.sender p.inbound.citation) :=
  judge_of_reply p.active p.parsed p.screened

/-- Under one policy a message is to be answered in one way. -/
@[simp] theorem policy_inj {p p' : Passing m now} : p.policy = p'.policy ↔ p = p' := by
  constructor
  · intro h
    obtain ⟨policy, sender, inbound, active, parsed, screened⟩ := p
    obtain ⟨policy', sender', inbound', active', parsed', screened'⟩ := p'
    obtain rfl : policy = policy' := h
    obtain rfl : inbound = inbound' := Except.ok.inj (parsed.symm.trans parsed')
    obtain rfl : sender = sender' := Verdict.reply.inj (screened.symm.trans screened')
    rfl
  · rintro rfl
    rfl

/-- Under a policy that does not lead to an answer, no message is to be answered. -/
theorem policy_ne {judgement : Except MessageError Judgement} (h : judge policy m now = judgement)
    (hj : ∀ sender cited, judgement ≠ .ok (.answer sender cited)) (p : Passing m now) :
    p.policy ≠ policy := by
  rintro rfl
  exact hj _ _ (h.symm.trans p.judge_eq)

/-- The key of the sender and the recipient. -/
def key (p : Passing m now) (r : Responder) : Key := Key.of p.sender (r.recipientOf m)

/-- The reply to the sender. -/
def reply (p : Passing m now) (r : Responder) : Text :=
  (Reply.compose p.policy p.sender (r.recipientOf m) p.inbound.citation r.domain).render

end Passing

/-- The ways through a message, with what is said and what becomes of it. -/
inductive Course (r : Responder) (m : Incoming) (now : Instant) :
    List Event → Except Failure Outcome → Prop
  | lookupFailed (e : LookupFailure) :
      Course r m now [.resolve (r.recipientOf m) now (.error e)] (.error (.lookup e))
  | inactive (policy : Policy) (h : judge policy m now = .ok (.leave .inactive)) :
      Course r m now [.resolve (r.recipientOf m) now (.ok policy)] (.ok .inactive)
  | malformed (policy : Policy) (e : MessageError) (h : judge policy m now = .error e) :
      Course r m now [.resolve (r.recipientOf m) now (.ok policy)] (.error (.message e))
  | ignored (policy : Policy) (reason : SkipReason)
      (h : judge policy m now = .ok (.leave (.ignored reason))) :
      Course r m now [.resolve (r.recipientOf m) now (.ok policy)] (.ok (.ignored reason))
  | checkFailed (p : Passing m now) (e : StoreFailure) :
      Course r m now
        [.resolve (r.recipientOf m) now (.ok p.policy), .check (p.key r) now r.interval (.error e)]
        (.error (.store e))
  | found (p : Passing m now) :
      Course r m now
        [.resolve (r.recipientOf m) now (.ok p.policy), .check (p.key r) now r.interval (.ok true)]
        (.ok .suppressed)
  | claimFailed (p : Passing m now) (e : StoreFailure) :
      Course r m now
        [.resolve (r.recipientOf m) now (.ok p.policy), .check (p.key r) now r.interval (.ok false),
          .claim (p.key r) now r.interval (.error e)]
        (.error (.store e))
  | overtaken (p : Passing m now) :
      Course r m now
        [.resolve (r.recipientOf m) now (.ok p.policy), .check (p.key r) now r.interval (.ok false),
          .claim (p.key r) now r.interval (.ok .suppressed)]
        (.ok .suppressed)
  | undelivered (p : Passing m now) (claimedAt : Instant) (previous : Option Instant)
      (e : DeliveryFailure) (answer : Except StoreFailure Unit) :
      Course r m now
        [.resolve (r.recipientOf m) now (.ok p.policy), .check (p.key r) now r.interval (.ok false),
          .claim (p.key r) now r.interval (.ok (.acquired claimedAt previous)),
          .deliver p.sender (p.reply r) (.error e), .release (p.key r) claimedAt previous answer]
        (.error (.delivery e))
  | sent (p : Passing m now) (claimedAt : Instant) (previous : Option Instant)
      (answer : Except StoreFailure Unit) :
      Course r m now
        [.resolve (r.recipientOf m) now (.ok p.policy), .check (p.key r) now r.interval (.ok false),
          .claim (p.key r) now r.interval (.ok (.acquired claimedAt previous)),
          .deliver p.sender (p.reply r) (.ok ()), .record (p.key r) now answer]
        (.ok .sent)

section Runs

variable {σ : Type} {serve : Server Question Question.Answer σ} {r : Responder}

theorem follows_answer (p : Passing m now) :
    Dialogue.Follows serve (r.answer p.policy (r.recipientOf m) p.sender p.inbound.citation now)
      fun xs => Course r m now
        (.resolve (r.recipientOf m) now (.ok p.policy) :: xs.map Event.ofExchange) := by
  refine .of_ask fun check => ?_
  match check with
  | .error e => exact .of_done (.checkFailed p e)
  | .ok true => exact .of_done (.found p)
  | .ok false =>
    refine .of_ask fun claim => ?_
    match claim with
    | .error e => exact .of_done (.claimFailed p e)
    | .ok .suppressed => exact .of_done (.overtaken p)
    | .ok (.acquired claimedAt previous) =>
      refine .of_ask fun delivery => ?_
      match delivery with
      | .error e =>
        exact .of_ask fun answer => .of_done (.undelivered p claimedAt previous e answer)
      | .ok () => exact .of_ask fun answer => .of_done (.sent p claimedAt previous answer)

theorem process_course (r : Responder) (m : Incoming) (now : Instant)
    (serve : Server Question Question.Answer σ) (s : σ) :
    Course r m now (r.events m now serve s) (r.result m now serve s) := by
  suffices h : Dialogue.Follows serve (r.process m now) fun xs =>
      Course r m now (xs.map Event.ofExchange) from h s
  refine .of_ask fun resolution => ?_
  match resolution with
  | .error e => exact .of_done (.lookupFailed e)
  | .ok policy =>
    have hjudged := judged policy m now
    dsimp only
    generalize hj : judge policy m now = judgement at hjudged ⊢
    cases hjudged with
    | inactive h => exact .of_done (.inactive policy hj)
    | malformed h e hparse => exact .of_done (.malformed policy e hj)
    | ignored h inbound hparse reason hscreen => exact .of_done (.ignored policy reason hj)
    | answer h inbound hparse sender hscreen =>
      exact follows_answer ⟨policy, sender, inbound, h, hparse, hscreen⟩

end Runs

/-! ## 4. The protocol -/

namespace Course

variable {r : Responder} {es : List Event} {result : Except Failure Outcome}

theorem order (h : Course r m now es result) :
    es.map Event.kind <+: [.resolve, .check, .claim, .deliver, .release] ∨
      es.map Event.kind <+: [.resolve, .check, .claim, .deliver, .record] := by
  cases h <;> simp [Event.kind]

theorem resolve_iff (h : Course r m now es result) (recipient : Address) (t : Instant) :
    (∃ answer, .resolve recipient t answer ∈ es) ↔ recipient = r.recipientOf m ∧ t = now := by
  cases h <;> simp

/-- A check is asked for a message that is to be answered. -/
theorem check_iff (h : Course r m now es result) (k : Key) (t : Instant) (d : Interval) :
    (∃ answer, .check k t d answer ∈ es) ↔
      (∃ p : Passing m now, .resolve (r.recipientOf m) now (.ok p.policy) ∈ es ∧ k = p.key r) ∧
        t = now ∧ d = r.interval := by
  cases h with
  | lookupFailed e => simp
  | inactive policy h => simp [Passing.policy_ne h]
  | malformed policy e h => simp [Passing.policy_ne h]
  | ignored policy reason h => simp [Passing.policy_ne h]
  | _ => simp

theorem claim_iff (h : Course r m now es result) (k : Key) (t : Instant) (d : Interval) :
    (∃ answer, .claim k t d answer ∈ es) ↔
      .check k now r.interval (.ok false) ∈ es ∧ t = now ∧ d = r.interval := by
  cases h <;> simp

theorem deliver_iff (h : Course r m now es result) (recipient : Address) (reply : Text) :
    (∃ answer, .deliver recipient reply answer ∈ es) ↔
      ∃ p : Passing m now, .resolve (r.recipientOf m) now (.ok p.policy) ∈ es ∧
        (∃ claimedAt previous,
          .claim (p.key r) now r.interval (.ok (.acquired claimedAt previous)) ∈ es) ∧
        recipient = p.sender ∧ reply = p.reply r := by
  cases h <;> simp

theorem release_iff (h : Course r m now es result) (k : Key) (claimedAt : Instant)
    (previous : Option Instant) :
    (∃ answer, .release k claimedAt previous answer ∈ es) ↔
      .claim k now r.interval (.ok (.acquired claimedAt previous)) ∈ es ∧
        ∃ recipient reply e, .deliver recipient reply (.error e) ∈ es := by
  cases h <;> simp

theorem record_iff (h : Course r m now es result) (k : Key) (t : Instant) :
    (∃ answer, .record k t answer ∈ es) ↔
      (∃ claimedAt previous,
          .claim k now r.interval (.ok (.acquired claimedAt previous)) ∈ es) ∧
        (∃ recipient reply, .deliver recipient reply (.ok ()) ∈ es) ∧ t = now := by
  cases h <;> simp

/-- All calls of the store are for the recipient and the screened sender. -/
theorem key_eq (h : Course r m now es result) :
    ∀ e ∈ es, ∀ k ∈ e.key?, ∃ p : Passing m now,
      .resolve (r.recipientOf m) now (.ok p.policy) ∈ es ∧ k = p.key r := by
  cases h <;> simp [Event.key?]

theorem sent_iff (h : Course r m now es result) :
    result = .ok .sent ↔ ∃ recipient reply, .deliver recipient reply (.ok ()) ∈ es := by
  cases h <;> simp

theorem undelivered_iff (h : Course r m now es result) (e : DeliveryFailure) :
    result = .error (.delivery e) ↔
      ∃ recipient reply, .deliver recipient reply (.error e) ∈ es := by
  cases h with
  | undelivered => simp [eq_comm]
  | _ => simp

theorem suppressed_iff (h : Course r m now es result) :
    result = .ok .suppressed ↔ (∃ k, .check k now r.interval (.ok true) ∈ es) ∨
      ∃ k, .claim k now r.interval (.ok .suppressed) ∈ es := by
  cases h <;> simp

theorem storeFailed_iff (h : Course r m now es result) (e : StoreFailure) :
    result = .error (.store e) ↔ (∃ k, .check k now r.interval (.error e) ∈ es) ∨
      ∃ k, .claim k now r.interval (.error e) ∈ es := by
  cases h with
  | checkFailed => simp [eq_comm]
  | claimFailed => simp [eq_comm]
  | _ => simp

theorem lookupFailed_iff (h : Course r m now es result) (e : LookupFailure) :
    result = .error (.lookup e) ↔ .resolve (r.recipientOf m) now (.error e) ∈ es := by
  cases h with
  | lookupFailed => simp [eq_comm]
  | _ => simp

theorem malformed_iff (h : Course r m now es result) (e : MessageError) :
    result = .error (.message e) ↔ ∃ policy, .resolve (r.recipientOf m) now (.ok policy) ∈ es ∧
      policy.isActiveAt now = true ∧ Inbound.parse m.message = .error e := by
  simp only [← judge_eq_error_iff]
  cases h with
  | inactive policy h => simp [h]
  | malformed policy e h => simp [h]
  | ignored policy reason h => simp [h]
  | lookupFailed e => simp
  | _ => simp [Passing.judge_eq]

theorem inactive_iff (h : Course r m now es result) :
    result = .ok .inactive ↔ ∃ policy, .resolve (r.recipientOf m) now (.ok policy) ∈ es ∧
      policy.isActiveAt now = false := by
  simp only [← judge_eq_inactive_iff (m := m)]
  cases h with
  | inactive policy h => simp [h]
  | malformed policy e h => simp [h]
  | ignored policy reason h => simp [h]
  | lookupFailed e => simp
  | _ => simp [Passing.judge_eq]

theorem ignored_iff (h : Course r m now es result) (reason : SkipReason) :
    result = .ok (.ignored reason) ↔ ∃ policy, .resolve (r.recipientOf m) now (.ok policy) ∈ es ∧
      policy.isActiveAt now = true ∧ ∃ inbound, Inbound.parse m.message = .ok inbound ∧
        inbound.screen m.envelope policy.aliases = .skip reason := by
  simp only [← judge_eq_ignored_iff]
  cases h with
  | inactive policy h => simp [h]
  | malformed policy e h => simp [h]
  | ignored policy reason h => simp [h]
  | lookupFailed e => simp
  | _ => simp [Passing.judge_eq]

/-- What fails is the lookup, the message, the store or the delivery, and the status tells the mail
system which of them it was, as far as that matters to it. -/
theorem status (h : Course r m now es result) (e : Failure) (he : result = .error e) :
    (∃ cause, e = .lookup cause ∧ e.exitStatus = DeliveryFailure.temporary) ∨
      (∃ cause, e = .message cause ∧ e.exitStatus = Failure.badData) ∨
      (∃ cause, e = .store cause ∧ e.exitStatus = DeliveryFailure.temporary) ∨
      ∃ cause, e = .delivery cause ∧ e.exitStatus = cause.exitStatus := by
  cases h with
  | lookupFailed cause => cases he; exact .inl ⟨cause, rfl, rfl⟩
  | malformed policy cause h => cases he; exact .inr (.inl ⟨cause, rfl, rfl⟩)
  | checkFailed p cause => cases he; exact .inr (.inr (.inl ⟨cause, rfl, rfl⟩))
  | claimFailed p cause => cases he; exact .inr (.inr (.inl ⟨cause, rfl, rfl⟩))
  | undelivered p claimedAt previous cause answer =>
    cases he
    exact .inr (.inr (.inr ⟨cause, rfl, rfl⟩))
  | _ => cases he

end Course

/-- What the responder asks about a message, and what becomes of it. -/
structure Protocol (r : Responder) (m : Incoming) (now : Instant) (es : List Event)
    (result : Except Failure Outcome) : Prop where
  /-- The questions have a fixed order, and each is asked at most once. -/
  order : es.map Event.kind <+: [.resolve, .check, .claim, .deliver, .release] ∨
    es.map Event.kind <+: [.resolve, .check, .claim, .deliver, .record]
  resolve : ∀ recipient t,
    (∃ answer, .resolve recipient t answer ∈ es) ↔ recipient = r.recipientOf m ∧ t = now
  /-- All calls of the store are for the recipient and the screened sender. -/
  key : ∀ e ∈ es, ∀ k ∈ e.key?, ∃ p : Passing m now,
    .resolve (r.recipientOf m) now (.ok p.policy) ∈ es ∧ k = p.key r
  check : ∀ k t d, (∃ answer, .check k t d answer ∈ es) ↔
    (∃ p : Passing m now, .resolve (r.recipientOf m) now (.ok p.policy) ∈ es ∧ k = p.key r) ∧
      t = now ∧ d = r.interval
  claim : ∀ k t d, (∃ answer, .claim k t d answer ∈ es) ↔
    .check k now r.interval (.ok false) ∈ es ∧ t = now ∧ d = r.interval
  /-- The reply goes to the sender whose key has been claimed. -/
  deliver : ∀ recipient reply, (∃ answer, .deliver recipient reply answer ∈ es) ↔
    ∃ p : Passing m now, .resolve (r.recipientOf m) now (.ok p.policy) ∈ es ∧
      (∃ claimedAt previous,
        .claim (p.key r) now r.interval (.ok (.acquired claimedAt previous)) ∈ es) ∧
      recipient = p.sender ∧ reply = p.reply r
  /-- A failed delivery takes back exactly the claim that was acquired. -/
  release : ∀ k claimedAt previous, (∃ answer, .release k claimedAt previous answer ∈ es) ↔
    .claim k now r.interval (.ok (.acquired claimedAt previous)) ∈ es ∧
      ∃ recipient reply e, .deliver recipient reply (.error e) ∈ es
  record : ∀ k t, (∃ answer, .record k t answer ∈ es) ↔
    (∃ claimedAt previous, .claim k now r.interval (.ok (.acquired claimedAt previous)) ∈ es) ∧
      (∃ recipient reply, .deliver recipient reply (.ok ()) ∈ es) ∧ t = now
  sent : result = .ok .sent ↔ ∃ recipient reply, .deliver recipient reply (.ok ()) ∈ es
  undelivered : ∀ e, result = .error (.delivery e) ↔
    ∃ recipient reply, .deliver recipient reply (.error e) ∈ es
  suppressed : result = .ok .suppressed ↔ (∃ k, .check k now r.interval (.ok true) ∈ es) ∨
    ∃ k, .claim k now r.interval (.ok .suppressed) ∈ es
  storeFailed : ∀ e, result = .error (.store e) ↔
    (∃ k, .check k now r.interval (.error e) ∈ es) ∨ ∃ k, .claim k now r.interval (.error e) ∈ es
  lookupFailed : ∀ e, result = .error (.lookup e) ↔
    .resolve (r.recipientOf m) now (.error e) ∈ es
  malformed : ∀ e, result = .error (.message e) ↔
    ∃ policy, .resolve (r.recipientOf m) now (.ok policy) ∈ es ∧
      policy.isActiveAt now = true ∧ Inbound.parse m.message = .error e
  inactive : result = .ok .inactive ↔ ∃ policy, .resolve (r.recipientOf m) now (.ok policy) ∈ es ∧
    policy.isActiveAt now = false
  ignored : ∀ reason, result = .ok (.ignored reason) ↔
    ∃ policy, .resolve (r.recipientOf m) now (.ok policy) ∈ es ∧
      policy.isActiveAt now = true ∧ ∃ inbound, Inbound.parse m.message = .ok inbound ∧
        inbound.screen m.envelope policy.aliases = .skip reason
  status : ∀ e, result = .error e →
    (∃ cause, e = .lookup cause ∧ e.exitStatus = DeliveryFailure.temporary) ∨
      (∃ cause, e = .message cause ∧ e.exitStatus = Failure.badData) ∨
      (∃ cause, e = .store cause ∧ e.exitStatus = DeliveryFailure.temporary) ∨
      ∃ cause, e = .delivery cause ∧ e.exitStatus = cause.exitStatus

theorem Course.protocol {r : Responder} {es : List Event} {result : Except Failure Outcome}
    (h : Course r m now es result) : Protocol r m now es result where
  order := h.order
  resolve := h.resolve_iff
  key := h.key_eq
  check := h.check_iff
  claim := h.claim_iff
  deliver := h.deliver_iff
  release := h.release_iff
  record := h.record_iff
  sent := h.sent_iff
  undelivered := h.undelivered_iff
  suppressed := h.suppressed_iff
  storeFailed := h.storeFailed_iff
  lookupFailed := h.lookupFailed_iff
  malformed := h.malformed_iff
  inactive := h.inactive_iff
  ignored := h.ignored_iff
  status := h.status

/-- The responder keeps to the protocol, whoever answers it. -/
theorem process_protocol {σ : Type} (r : Responder) (m : Incoming) (now : Instant)
    (serve : Server Question Question.Answer σ) (s : σ) :
    Protocol r m now (r.events m now serve s) (r.result m now serve s) :=
  (process_course r m now serve s).protocol

end Autoresponder.Responder
