import Autoresponder.Proofs.Attempts
/-!
# One attempt after the other

Attempts of which each begins when the one before it is over. Whatever the backend is, they answer
as a machine does that remembers one second for each key.

1. A `Turn` is an attempt that nothing comes between. Its release and its record may fail before
   they reach the backend.
2. `Turn.refer` is the machine: a message gets no reply while the interval since the last second is
   not over, and the second changes when a reply is sent, or when the claim of a failed one cannot
   be taken back.
3. Turns on a backend without records answer as the machine does (`Turn.takeAll_referAll`).
4. So the replies for a key come in the order of their times and an interval apart
   (`Turn.sent_after_sent`), and a message that comes an interval after the last second is not
   suppressed (`Turn.not_suppressed`). All of this together is `Turn.takeAll_refines`.
-/

namespace Autoresponder

open Responder (Question Conversation)

/-! ## 1. Turns -/

/-- An attempt, and what keeps its last calls from the backend. -/
structure Turn where
  attempt : Attempt
  releaseFails : Option StoreFailure := none
  recordFails : Option StoreFailure := none

/-- What the mail system sees of an attempt. -/
structure Response where
  result : Except Failure Outcome
  /-- The replies that the attempt tries to deliver. -/
  deliveries : List (Address × Text)

/-- The replies in what an attempt says. -/
def Responder.deliveries (heard : List (Exchange Question Question.Answer)) :
    List (Address × Text) :=
  heard.filterMap fun x =>
    match x.question with
    | .deliver recipient message => some (recipient, message)
    | _ => none

namespace Turn

def failure? (t : Turn) : StoreCall → Option StoreFailure
  | .release _ _ _ => t.releaseFails
  | .record _ _ => t.recordFails
  | _ => none

/-- Who answers the attempt. -/
def components (t : Turn) : Components Backend :=
  { t.attempt.components with store := Store.intercept t.failure? Backend.store }

/-- What comes of a conversation. -/
def tell (t : Turn) (talk : Conversation (Except Failure Outcome)) (b : Backend) :
    Response × Backend :=
  (⟨(talk.run t.components.serve b).1, Responder.deliveries (talk.transcript t.components.serve b)⟩,
    (talk.run t.components.serve b).2)

/-- The attempt from its beginning to its end. -/
def take [Charsets] (t : Turn) (interval : Interval) (b : Backend) : Response × Backend :=
  t.tell (t.attempt.talk interval) b

/-- Attempts one after the other. -/
def takeAll [Charsets] (interval : Interval) : List Turn → Backend → List Response × Backend
  | [], b => ([], b)
  | t :: ts, b =>
    let (response, b) := t.take interval b
    let (responses, b) := takeAll interval ts b
    (response :: responses, b)

/-! ## 2. The machine -/

/-- The last second for each key. -/
abbrev Ledger : Type := Key → Option Int

/-- The last second is less than an interval ago. -/
def Ledger.recent (last : Ledger) (k : Key) (now n : Int) : Bool :=
  (last k).any fun l => now - l < n

/-- What the machine answers, and what it remembers then. -/
def refer [Charsets] (n : Int) (t : Turn) (last : Ledger) : Response × Ledger :=
  match t.attempt.prospect with
  | .ended result => (⟨result, []⟩, last)
  | .errand e =>
    let k := t.attempt.key e
    let now := t.attempt.now.seconds
    let delivered := [(e.sender, t.attempt.reply e)]
    if last.recent k now n then (⟨.ok .suppressed, []⟩, last)
    else
      match t.attempt.delivery with
      | .ok () => (⟨.ok .sent, delivered⟩, Function.update last k (some now))
      | .error failure =>
        (⟨.error (.delivery failure), delivered⟩,
          if t.releaseFails.isSome then Function.update last k (some now) else last)

/-- The machine on turns one after the other. -/
def referAll [Charsets] (n : Int) : List Turn → Ledger → List Response × Ledger
  | [], last => ([], last)
  | t :: ts, last =>
    let (response, last) := t.refer n last
    let (responses, last) := referAll n ts last
    (response :: responses, last)

/-! ## 3. The backend and the machine -/

variable {t : Turn} {interval : Interval} {n : Int} {b : Backend} {k : Key} {s : Slot}

theorem take_eq [Charsets] (t : Turn) (interval : Interval) (b : Backend) :
    t.take interval b = t.tell (t.attempt.resolved interval) b := by
  obtain ⟨next, htalk, hnext⟩ := t.attempt.exists_talk interval
  rw [take, htalk, ← hnext]
  rfl

theorem serve_of_none {c : StoreCall} (hc : t.failure? c = none) :
    t.components.serve (.store c) b = Backend.store.call c b :=
  Components.serve_intercepted_of_none hc b

theorem serve_of_some {c : StoreCall} {e : StoreFailure} (hc : t.failure? c = some e) :
    t.components.serve (.store c) b = (.error e, b) :=
  Components.serve_intercepted_of_some hc b

/-- A call of a turn reaches the backend or fails. Either way other keys keep their slots. -/
theorem serve_holds (t : Turn) (q : Question) (b : Backend) (hq : Attempt.Avoids k q)
    (h : b.Holds k s) : (t.components.serve q b).2.Holds k s := by
  cases q with
  | resolve recipient now => exact h
  | store c =>
    cases hc : t.failure? c with
    | none =>
      rw [serve_of_none hc]
      exact Backend.call_holds_of_ne c (hq c rfl) h
    | some e =>
      rw [serve_of_some hc]
      exact h
  | deliver recipient message => exact h

theorem take_holds_of_ne [Charsets] (hk : t.attempt.target? ≠ some k) (h : b.Holds k s) :
    (t.take interval b).2.Holds k s := by
  rw [take_eq]
  exact (Attempt.resolved_avoids hk interval).run_induction (I := fun b : Backend => b.Holds k s)
    (fun q b => t.serve_holds q b) h

/-- A call that reaches the backend. -/
theorem tell_store (c : StoreCall)
    {next : Except StoreFailure c.Answer → Conversation (Except Failure Outcome)}
    (hc : t.failure? c = none) (h : b.Holds c.key s) :
    t.tell (.ask (.store c) next) b =
      t.tell (next (.ok (Slot.answer c s))) (Backend.store.call c b).2 := by
  have hserve : t.components.serve (.store c) b =
      (.ok (Slot.answer c s), (Backend.store.call c b).2) :=
    (serve_of_none hc).trans (Prod.ext (Backend.call_holds c h).1 rfl)
  simp only [tell, Dialogue.run, Dialogue.transcript, hserve]
  rfl

/-- A call that does not reach it. -/
theorem tell_store_of_some (c : StoreCall)
    {next : Except StoreFailure c.Answer → Conversation (Except Failure Outcome)}
    {e : StoreFailure} (hc : t.failure? c = some e) :
    t.tell (.ask (.store c) next) b = t.tell (next (.error e)) b := by
  simp only [tell, Dialogue.run, Dialogue.transcript, serve_of_some hc]
  rfl

/-- What follows on a delivery. -/
def afterDelivery (k : Key) (now claimedAt : Instant) (previous : Option Instant) :
    Except DeliveryFailure Unit → Conversation (Except Failure Outcome)
  | .error failure =>
    .ask (.store (.release k claimedAt previous)) fun _ => .done (.error (.delivery failure))
  | .ok () => .ask (.store (.record k now)) fun _ => .done (.ok .sent)

theorem tell_deliver (sender : Address) (reply : Text) (now claimedAt : Instant)
    (previous : Option Instant) :
    t.tell (Responder.deliver k sender reply now claimedAt previous) b =
      let r := t.tell (afterDelivery k now claimedAt previous t.attempt.delivery) b
      (⟨r.1.result, (sender, reply) :: r.1.deliveries⟩, r.2) := by
  have hdeliver : Responder.deliver k sender reply now claimedAt previous =
      .ask (.deliver sender reply) (afterDelivery k now claimedAt previous) := by
    refine congrArg (Dialogue.ask (Question.deliver sender reply)) (funext fun delivery => ?_)
    match delivery with
    | .error _ => rfl
    | .ok () => rfl
  rw [hdeliver]
  rfl

/-- What a turn answers, from the slot of its key. -/
def respond (n : Int) (t : Turn) (e : Attempt.Errand) (s : Slot) : Response :=
  if s.recent t.attempt.now n then ⟨.ok .suppressed, []⟩
  else
    ⟨match t.attempt.delivery with
      | .ok () => .ok .sent
      | .error failure => .error (.delivery failure), [(e.sender, t.attempt.reply e)]⟩

/-- What a turn makes of the slot of its key. -/
def settle (n : Int) (t : Turn) (s : Slot) : Slot :=
  if s.recent t.attempt.now n then s
  else
    match t.attempt.delivery with
    | .ok () => some (.ofInstant t.attempt.now)
    | .error _ =>
      if t.releaseFails.isSome then some (.ofInstant t.attempt.now)
      else (s.map Stamp.time).map .ofInstant

/-- The end of a turn whose reply has been delivered. -/
theorem tell_record (hb : b.Holds k (some (.ofInstant t.attempt.now))) :
    ∃ b', t.tell (.ask (.store (.record k t.attempt.now)) fun _ => .done (.ok .sent)) b =
        (⟨.ok .sent, []⟩, b') ∧
      b'.Holds k (some (.ofInstant t.attempt.now)) := by
  cases hc : t.failure? (.record k t.attempt.now) with
  | none => exact ⟨_, tell_store _ hc hb, (Backend.call_holds (.record k t.attempt.now) hb).2⟩
  | some e => exact ⟨_, tell_store_of_some _ hc, hb⟩

/-- The end of a turn whose reply has not been delivered. -/
theorem tell_release (hb : b.Holds k (some (.ofInstant t.attempt.now))) (previous : Option Instant)
    (failure : DeliveryFailure) :
    ∃ b', t.tell (.ask (.store (.release k t.attempt.now.truncate previous)) fun _ =>
          .done (.error (.delivery failure))) b = (⟨.error (.delivery failure), []⟩, b') ∧
      b'.Holds k
        (if t.releaseFails.isSome then some (.ofInstant t.attempt.now)
          else previous.map .ofInstant) := by
  cases hc : t.releaseFails with
  | none =>
    have hafter := (Backend.call_holds (.release k t.attempt.now.truncate previous) hb).2
    refine ⟨_, tell_store _ hc hb, ?_⟩
    rwa [Slot.after, Stamp.ofInstant_truncate, if_pos rfl] at hafter
  | some e => exact ⟨_, tell_store_of_some _ hc, hb⟩

/-- A turn on its slot. -/
theorem tell_resolved [Charsets] (hn : interval.IsSeconds n) {e : Attempt.Errand}
    (he : t.attempt.prospect = .errand e) (hb : b.Holds (t.attempt.key e) s) :
    ∃ b', t.tell (t.attempt.resolved interval) b = (t.respond n e s, b') ∧
      b'.Holds (t.attempt.key e) (t.settle n s) := by
  have hcheck : t.tell (t.attempt.resolved interval) b = _ :=
    (congrArg (fun talk => t.tell talk b) (Attempt.resolved_of_errand he interval)).trans
      (tell_store (.check (t.attempt.key e) t.attempt.now interval) rfl hb)
  have hchecked : (Backend.store.call (.check (t.attempt.key e) t.attempt.now interval) b).2.Holds
      (t.attempt.key e) s :=
    (Backend.call_holds (.check (t.attempt.key e) t.attempt.now interval) hb).2
  rw [hcheck]
  -- nobody comes between the check and the claim, so the claim finds the slot of the check
  generalize (Backend.store.call (.check (t.attempt.key e) t.attempt.now interval) b).2 = b
    at hchecked ⊢
  simp only [Slot.answer, Slot.suppresses_eq hn, respond, settle]
  cases hrecent : s.recent t.attempt.now n with
  | true => exact ⟨b, rfl, hchecked⟩
  | false =>
    have hacquired : t.attempt.afterClaim e
        (.ok (Slot.answer (.claim (t.attempt.key e) t.attempt.now interval) s)) =
          Responder.deliver (t.attempt.key e) e.sender (t.attempt.reply e) t.attempt.now
            t.attempt.now.truncate (s.map Stamp.time) := by
      rw [Slot.answer, Slot.blocks_eq hn, hrecent]
      rfl
    have hclaim : t.tell (Phase.claiming.talk t.attempt interval e) b = _ :=
      (tell_store (.claim (t.attempt.key e) t.attempt.now interval) rfl hchecked).trans
        (congrArg (fun talk => t.tell talk _) hacquired)
    have hclaimed : (Backend.store.call (.claim (t.attempt.key e) t.attempt.now interval) b).2.Holds
        (t.attempt.key e) (some (.ofInstant t.attempt.now)) := by
      have hafter :=
        (Backend.call_holds (.claim (t.attempt.key e) t.attempt.now interval) hchecked).2
      rwa [Slot.after, Slot.blocks_eq hn, hrecent] at hafter
    simp only [Attempt.afterCheck]
    rw [hclaim, tell_deliver]
    cases t.attempt.delivery with
    | ok _ =>
      obtain ⟨b', htell, hb'⟩ := tell_record hclaimed
      rw [afterDelivery, htell]
      exact ⟨b', rfl, hb'⟩
    | error failure =>
      obtain ⟨b', htell, hb'⟩ := tell_release hclaimed (s.map Stamp.time) failure
      rw [afterDelivery, htell]
      exact ⟨b', rfl, hb'⟩

/-- The seconds of a ledger are those that a backend holds. -/
def Ledger.Shows (last : Ledger) (b : Backend) : Prop :=
  ∀ k, ∃ s, b.Holds k s ∧ s.map Stamp.second = last k

variable {last : Ledger}

theorem Ledger.recent_eq (hs : s.map Stamp.second = last k) (now : Instant) (n : Int) :
    last.recent k now.seconds n = s.recent now n := by
  rw [recent, ← hs]
  cases s <;> rfl

/-- The machine on a turn with an errand, and the slot of its key. -/
theorem refer_of_errand [Charsets] {e : Attempt.Errand} (he : t.attempt.prospect = .errand e)
    (hs : s.map Stamp.second = last (t.attempt.key e)) :
    (t.refer n last).1 = t.respond n e s ∧
      (t.refer n last).2 (t.attempt.key e) = (t.settle n s).map Stamp.second ∧
      ∀ k, k ≠ t.attempt.key e → (t.refer n last).2 k = last k := by
  unfold refer respond settle
  rw [he]
  dsimp only
  rw [Ledger.recent_eq hs]
  cases s.recent t.attempt.now n with
  | true => exact ⟨rfl, hs.symm, fun _ _ => rfl⟩
  | false =>
    simp only [Bool.false_eq_true, if_false]
    cases t.attempt.delivery with
    | ok _ => exact ⟨rfl, Function.update_self .., fun k hk => Function.update_of_ne hk ..⟩
    | error failure =>
      refine ⟨rfl, ?_⟩
      cases t.releaseFails.isSome with
      | true => exact ⟨Function.update_self .., fun k hk => Function.update_of_ne hk ..⟩
      | false =>
        refine ⟨hs.symm.trans ?_, fun _ _ => rfl⟩
        cases s <;> rfl

/-- A turn answers as the machine does, and keeps to its ledger. -/
theorem take_refer [Charsets] (hn : interval.IsSeconds n) (h : last.Shows b) (t : Turn) :
    (t.take interval b).1 = (t.refer n last).1 ∧
      (t.refer n last).2.Shows (t.take interval b).2 := by
  cases he : t.attempt.prospect with
  | ended result =>
    rw [take_eq, Attempt.resolved, refer, he]
    exact ⟨rfl, h⟩
  | errand e =>
    obtain ⟨s, hb, hs⟩ := h (t.attempt.key e)
    obtain ⟨hresponse, hlast, hothers⟩ := refer_of_errand (n := n) he hs
    obtain ⟨b', htell, hb'⟩ := tell_resolved hn he hb
    have htake : t.take interval b = (t.respond n e s, b') := (take_eq t interval b).trans htell
    refine ⟨by rw [htake, hresponse], fun k => ?_⟩
    by_cases hk : k = t.attempt.key e
    · subst hk
      rw [htake]
      exact ⟨t.settle n s, hb', hlast.symm⟩
    · -- the other keys keep their slots, and the machine their seconds
      obtain ⟨s', hb, hs⟩ := h k
      refine ⟨s', take_holds_of_ne (fun htarget => ?_) hb, hs.trans (hothers k hk).symm⟩
      obtain ⟨e', he', rfl⟩ := Attempt.target?_eq_some.mp htarget
      rw [he] at he'
      obtain rfl := Attempt.Prospect.errand.inj he'
      exact hk rfl

theorem takeAll_referAll [Charsets] (hn : interval.IsSeconds n) (ts : List Turn)
    (h : last.Shows b) :
    (takeAll interval ts b).1 = (referAll n ts last).1 ∧
      (referAll n ts last).2.Shows (takeAll interval ts b).2 := by
  induction ts generalizing b last with
  | nil => exact ⟨rfl, h⟩
  | cons t ts ih =>
    obtain ⟨hresponse, hshows⟩ := take_refer hn h t
    obtain ⟨hresponses, hshows⟩ := ih hshows
    exact ⟨congrArg₂ List.cons hresponse hresponses, hshows⟩

/-- Nothing has been answered yet. -/
def Ledger.empty : Ledger := fun _ => none

theorem Ledger.shows_blank (hb : b.Blank) : Ledger.empty.Shows b := fun k => ⟨none, hb.holds k, rfl⟩

/-! ## 4. Times of replies -/

theorem Ledger.recent_eq_false {l : Int} {now : Int} (hl : last k = some l) :
    last.recent k now n = false ↔ l + n ≤ now := by
  rw [recent, hl, Option.any_some, decide_eq_false_iff_not]
  omega

/-- The machine suppresses a reply exactly while the interval is not over. -/
theorem refer_suppressed [Charsets] {e : Attempt.Errand} (he : t.attempt.prospect = .errand e) :
    (t.refer n last).1.result = .ok .suppressed ↔
      last.recent (t.attempt.key e) t.attempt.now.seconds n = true := by
  unfold refer
  rw [he]
  dsimp only
  cases last.recent (t.attempt.key e) t.attempt.now.seconds n with
  | true => exact ⟨fun _ => rfl, fun _ => rfl⟩
  | false =>
    simp only [Bool.false_eq_true, if_false, iff_false]
    cases t.attempt.delivery with
    | ok _ => exact nofun
    | error failure => exact nofun

/-- A second that is remembered is one that was remembered before, or the time of a turn that comes
an interval after it. -/
theorem refer_last [Charsets] (n : Int) (t : Turn) (last : Ledger) (k : Key) :
    (t.refer n last).2 k = last k ∨
      (t.refer n last).2 k = some t.attempt.now.seconds ∧
        ∀ l, last k = some l → l + n ≤ t.attempt.now.seconds := by
  unfold refer
  cases t.attempt.prospect with
  | ended result => exact .inl rfl
  | errand e =>
    dsimp only
    cases hrecent : last.recent (t.attempt.key e) t.attempt.now.seconds n with
    | true => exact .inl rfl
    | false =>
      have hupdate :
          (Function.update last (t.attempt.key e) (some t.attempt.now.seconds)) k = last k ∨
          (Function.update last (t.attempt.key e) (some t.attempt.now.seconds)) k =
              some t.attempt.now.seconds ∧
            ∀ l, last k = some l → l + n ≤ t.attempt.now.seconds := by
        by_cases hk : k = t.attempt.key e
        · subst hk
          exact .inr ⟨Function.update_self .., fun l hl => (Ledger.recent_eq_false hl).mp hrecent⟩
        · exact .inl (Function.update_of_ne hk ..)
      simp only [Bool.false_eq_true, if_false]
      cases t.attempt.delivery with
      | ok _ => exact hupdate
      | error failure =>
        cases t.releaseFails.isSome with
        | true => exact hupdate
        | false => exact .inl rfl

theorem referAll_last [Charsets] (hpos : 0 < n) (ts : List Turn) {l : Int} (hl : last k = some l) :
    ∃ l', (referAll n ts last).2 k = some l' ∧ l ≤ l' := by
  induction ts generalizing last l with
  | nil => exact ⟨l, hl, Int.le_refl l⟩
  | cons t ts ih =>
    rcases refer_last n t last k with hsame | ⟨hnow, hbehind⟩
    · exact ih (hsame.trans hl)
    · obtain ⟨l', hl', hle⟩ := ih hnow
      have hnext := hbehind l hl
      exact ⟨l', hl', by omega⟩

/-- A reply that is sent is remembered, and comes an interval after the one before it. -/
theorem refer_sent [Charsets] {e : Attempt.Errand} (he : t.attempt.prospect = .errand e)
    (hsent : (t.refer n last).1.result = .ok .sent) :
    (t.refer n last).2 (t.attempt.key e) = some t.attempt.now.seconds ∧
      ∀ l, last (t.attempt.key e) = some l → l + n ≤ t.attempt.now.seconds := by
  have hrecent : last.recent (t.attempt.key e) t.attempt.now.seconds n = false := by
    rw [← Bool.not_eq_true]
    intro h
    rw [(refer_suppressed he).mpr h] at hsent
    cases hsent
  refine ⟨?_, fun l hl => (Ledger.recent_eq_false hl).mp hrecent⟩
  unfold refer at hsent ⊢
  rw [he] at hsent ⊢
  simp only [hrecent, Bool.false_eq_true, if_false] at hsent ⊢
  cases hdelivery : t.attempt.delivery with
  | ok _ => exact Function.update_self ..
  | error failure =>
    rw [hdelivery] at hsent
    cases hsent

theorem referAll_append [Charsets] (ts us : List Turn) (last : Ledger) :
    (referAll n (ts ++ us) last).2 = (referAll n us (referAll n ts last).2).2 := by
  induction ts generalizing last with
  | nil => rfl
  | cons t ts ih => exact ih _

/-- The result of a turn that follows on others. -/
def resultAfter [Charsets] (interval : Interval) (b : Backend) (earlier : List Turn) (t : Turn) :
    Except Failure Outcome :=
  (t.take interval (takeAll interval earlier b).2).1.result

theorem resultAfter_eq [Charsets] (hn : interval.IsSeconds n) (hb : b.Blank) (earlier : List Turn)
    (t : Turn) :
    resultAfter interval b earlier t =
      (t.refer n (referAll n earlier Ledger.empty).2).1.result := by
  obtain ⟨-, hshows⟩ := takeAll_referAll hn earlier (Ledger.shows_blank hb)
  rw [resultAfter, (take_refer hn hshows t).1]

/-- Replies for a key come in the order of their times, and an interval apart. -/
theorem sent_after_sent [Charsets] (hn : interval.IsSeconds n) (hpos : 0 < n) (hb : b.Blank)
    {earlier between : List Turn} {t u : Turn} (ht : t.attempt.target? = some k)
    (hu : u.attempt.target? = some k) (hsent : resultAfter interval b earlier t = .ok .sent)
    (hsent' : resultAfter interval b (earlier ++ t :: between) u = .ok .sent) :
    t.attempt.now.seconds + n ≤ u.attempt.now.seconds := by
  rw [resultAfter_eq hn hb] at hsent hsent'
  obtain ⟨e, he, rfl⟩ := Attempt.target?_eq_some.mp ht
  obtain ⟨e', he', hkey⟩ := Attempt.target?_eq_some.mp hu
  have hremembered := (refer_sent he hsent).1
  obtain ⟨l, hl, hle⟩ := referAll_last hpos between hremembered
  rw [referAll_append] at hsent'
  have hbehind := (refer_sent he' hsent').2 l
  have hkey : u.attempt.key e' = t.attempt.key e := hkey
  rw [hkey] at hbehind
  have hnext := hbehind hl
  omega

/-- A message that comes an interval after the last second is not suppressed. -/
theorem not_suppressed [Charsets] (hn : interval.IsSeconds n) (hb : b.Blank) {earlier : List Turn}
    {t : Turn} {l : Int} (ht : t.attempt.target? = some k)
    (hl : (referAll n earlier Ledger.empty).2 k = some l)
    (hbehind : l + n ≤ t.attempt.now.seconds) :
    resultAfter interval b earlier t ≠ .ok .suppressed := by
  obtain ⟨e, he, rfl⟩ := Attempt.target?_eq_some.mp ht
  rw [resultAfter_eq hn hb, ne_eq, refer_suppressed he, Bool.not_eq_true]
  exact (Ledger.recent_eq_false hl).mpr hbehind

/-- Turns on a backend without records answer as the machine does. So the replies for a key come in
the order of their times and an interval apart, and a message that comes an interval after the last
second is not suppressed. As the machine, a key/value server forgets nothing by itself. -/
theorem takeAll_refines [Charsets] (hn : interval.IsSeconds n) (hb : b.Blank) :
    (∀ ts, (takeAll interval ts b).1 = (referAll n ts Ledger.empty).1) ∧
      (0 < n → ∀ earlier between t u k,
        t.attempt.target? = some k → u.attempt.target? = some k →
        resultAfter interval b earlier t = .ok .sent →
        resultAfter interval b (earlier ++ t :: between) u = .ok .sent →
        t.attempt.now.seconds + n ≤ u.attempt.now.seconds) ∧
      ∀ earlier t k l, t.attempt.target? = some k →
        (referAll n earlier Ledger.empty).2 k = some l → l + n ≤ t.attempt.now.seconds →
        resultAfter interval b earlier t ≠ .ok .suppressed :=
  ⟨fun ts => (takeAll_referAll hn ts (Ledger.shows_blank hb)).1,
    fun hpos _ _ _ _ _ ht hu hsent hsent' => sent_after_sent hn hpos hb ht hu hsent hsent',
    fun _ _ _ _ ht hl hbehind => not_suppressed hn hb ht hl hbehind⟩

/-- Of two letters, five seconds apart, the machine and a table answer the first. -/
theorem takeAll_twoLetters :
    Attempt.tenSeconds.IsSeconds 10 ∧ (Backend.table {}).Blank ∧
      (takeAll Attempt.tenSeconds [⟨Attempt.twoLetters false, none, none⟩,
          ⟨Attempt.twoLetters true, none, none⟩] (.table {})).1 =
        (referAll 10 [⟨Attempt.twoLetters false, none, none⟩, ⟨Attempt.twoLetters true, none, none⟩]
          Ledger.empty).1 :=
  ⟨rfl, Backend.blank_table,
    (takeAll_refines Attempt.tenSeconds_isSeconds Backend.blank_table).1 _⟩

end Turn
end Autoresponder
