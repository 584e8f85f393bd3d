import Autoresponder.Proofs.Board
/-!
# One reply in a window

Attempts about one key whose times lie less than an interval apart, on a backend whose record of
that key is no obstacle to any of them. At no moment do two of them hold a claim, and at most one
sends its reply.

1. A board is `Free` or it is `HeldBy` one attempt. The holder's second is in the slot, so every
   other attempt finds a record that is less than an interval old; and a holder whose delivery fails
   hands back the record that it has replaced.
2. So it is at every moment of every race (`Attempt.race_oneReply`).
-/

namespace Autoresponder

variable {ι : Type} {a : ι → Attempt} {n : Int} {k : Key} {before : Slot}

namespace Board

/-! ## 1. Holders -/

/-- Nobody holds a claim, and the record is what it was at the start. -/
structure Free (a : ι → Attempt) (before : Slot) (y : Board ι) : Prop where
  nobody : ∀ i, (y.phase i).holds = false
  record : y.slot.map Stamp.time = before.map Stamp.time
  /-- Whoever is through has failed, or has met somebody who failed later. -/
  ended : ∀ i r, y.phase i = .ended r → ∃ j e, (a j).delivery = .error e

/-- One attempt holds the claim, and would hand back the record of the start. -/
structure HeldBy (a : ι → Attempt) (before : Slot) (h : ι) (y : Board ι) : Prop where
  holder : (y.phase h).holds = true
  only : ∀ i, (y.phase i).holds = true → i = h
  slot : y.slot = some (.ofInstant (a h).now)
  pending : ∀ q, (y.phase h).pending = some q → q = before.map Stamp.time

variable {y : Board ι} {i h : ι} {p : Phase} {s : Slot}

/-- At most one attempt holds a claim. -/
theorem holds_unique (hboard : Free a before y ∨ ∃ h, HeldBy a before h y) {j : ι}
    (hi : (y.phase i).holds = true) (hj : (y.phase j).holds = true) : i = j := by
  rcases hboard with hy | ⟨h, hy⟩
  · rw [hy.nobody i] at hi
    cases hi
  · rw [hy.only i hi, hy.only j hj]

variable [DecidableEq ι]

/-- An attempt without a claim goes on without one, and the record stays as it is. -/
theorem Free.of_not_holds (hy : y.Free a before) (hp : p.holds = false)
    (hended : ∀ r, p = .ended r → ∃ j e, (a j).delivery = .error e) :
    Free a before (y.set i p y.slot) where
  nobody := forall_set (P := fun _ q => q.holds = false) hp (fun j _ => hy.nobody j) _
  record := hy.record
  ended := forall_set (P := fun _ q => ∀ r, q = .ended r → ∃ j e, (a j).delivery = .error e) hended
    (fun j _ => hy.ended j) _

/-- The first claim while nobody holds one. -/
theorem heldBy_of_claim (hnobody : ∀ i, (y.phase i).holds = false)
    (hrecord : y.slot.map Stamp.time = before.map Stamp.time) :
    HeldBy a before i
      (y.set i (.delivering (y.slot.map Stamp.time)) (some (.ofInstant (a i).now))) where
  holder := by
    rw [set_phase_self]
    rfl
  only j hj := by
    by_contra hne
    rw [set_phase_of_ne _ hne, hnobody j] at hj
    exact Bool.false_ne_true hj
  slot := rfl
  pending q hq := by
    rw [set_phase_self] at hq
    exact (Option.some.inj hq).symm.trans hrecord

/-- The holder goes on with its claim. -/
theorem HeldBy.of_holds (hy : y.HeldBy a before h) (hp : p.holds = true)
    (hpending : p.pending = none ∨ p.pending = (y.phase h).pending) :
    HeldBy a before h (y.set h p (some (.ofInstant (a h).now))) where
  holder := by rw [set_phase_self, hp]
  only := forall_set (P := fun j q => q.holds = true → j = h) (fun _ => rfl)
    (fun j _ => hy.only j) _
  slot := rfl
  pending q hq := by
    rw [set_phase_self] at hq
    rcases hpending with hnone | hsame
    · rw [hnone] at hq
      cases hq
    · exact hy.pending q (hsame.symm.trans hq)

/-- Somebody else goes on without a claim. -/
theorem HeldBy.of_not_holds (hy : y.HeldBy a before h) (hi : i ≠ h) (hp : p.holds = false) :
    HeldBy a before h (y.set i p y.slot) where
  holder := by rw [set_phase_of_ne _ hi.symm, hy.holder]
  only j hj := hy.only j (holds_of_set_of_false hp hj)
  slot := hy.slot
  pending q hq := by
    rw [set_phase_of_ne _ hi.symm] at hq
    exact hy.pending q hq

/-- The holder hands back the record of the start. -/
theorem HeldBy.free_of_release (hy : y.HeldBy a before h) {q : Option Instant}
    (hq : (y.phase h).pending = some q) {e : DeliveryFailure} (he : (a h).delivery = .error e)
    (hp : p.holds = false) :
    Free a before (y.set h p (q.map .ofInstant)) where
  nobody := forall_set (P := fun _ q => q.holds = false) hp
    (fun j hj => Bool.eq_false_iff.mpr fun hholds => hj (hy.only j hholds)) _
  record := by
    rw [hy.pending q hq]
    cases before <;> rfl
  ended _ _ _ := ⟨h, e, he⟩

/-- On a free board nothing keeps an attempt from claiming. -/
theorem Free.move (hy : y.Free a before) (hfree : ∀ i, before.recent (a i).now n = false)
    (hmoves : (a i).Moves n (y.phase i) y.slot p s) :
    Free a before (y.set i p s) ∨ ∃ h, HeldBy a before h (y.set i p s) := by
  have hrecent : y.slot.recent (a i).now n = false :=
    (Slot.recent_congr hy.record (a i).now n).trans (hfree i)
  have hnobody := hy.nobody i
  have hended := hy.ended i
  generalize hphase : y.phase i = q at hmoves hnobody hended
  generalize hslot : y.slot = t at hmoves hrecent
  cases hmoves with
  | resolved => exact .inl (hslot ▸ hy.of_not_holds rfl nofun)
  | found _ hfound => rw [hfound] at hrecent; cases hrecent
  | checked => exact .inl (hslot ▸ hy.of_not_holds rfl nofun)
  | overtaken _ hfound => rw [hfound] at hrecent; cases hrecent
  | claimed => exact .inr ⟨i, hslot ▸ heldBy_of_claim hy.nobody hy.record⟩
  | rested _ result => exact .inl (hslot ▸ hy.of_not_holds hnobody hended)
  | failed => cases hnobody
  | delivered => cases hnobody
  | released => cases hnobody
  | overwritten => cases hnobody
  | recorded => cases hnobody

/-- While a claim is held, nobody else acquires one. -/
theorem HeldBy.move (hy : y.HeldBy a before h) (hallowed : (y.phase i).Allowed (a i))
    (hclose : ∀ i j, (a i).now.seconds - (a j).now.seconds < n)
    (hmoves : (a i).Moves n (y.phase i) y.slot p s) :
    Free a before (y.set i p s) ∨ ∃ h, HeldBy a before h (y.set i p s) := by
  have hrecent : y.slot.recent (a i).now n = true := by
    rw [hy.slot, Slot.recent_ofInstant]
    exact decide_eq_true (hclose i h)
  by_cases hi : i = h
  · -- the holder goes on, or fails and takes its claim back
    subst hi
    have hholder := hy.holder
    have hgo := fun p hp hpending => hy.of_holds (p := p) hp hpending
    have hback := fun q hq e he p hp => hy.free_of_release (q := q) hq (e := e) he (p := p) hp
    have hslot := hy.slot
    generalize hphase : y.phase i = q at hmoves hholder hgo hback hallowed
    generalize y.slot = t at hmoves hslot
    subst hslot
    cases hmoves with
    | failed _ previous e _ => exact .inr ⟨i, hgo _ rfl (.inr rfl)⟩
    | delivered => exact .inr ⟨i, hgo _ rfl (.inl rfl)⟩
    | released previous e => exact .inl (hback previous rfl e hallowed _ rfl)
    | overwritten _ _ _ hne => exact absurd rfl hne
    | recorded => exact .inr ⟨i, hgo _ rfl (.inl rfl)⟩
    | rested _ result => exact .inr ⟨i, hgo _ hholder (.inl rfl)⟩
    | resolved => cases hholder
    | found => cases hholder
    | checked => cases hholder
    | overtaken => cases hholder
    | claimed => cases hholder
  · -- somebody else finds the second of the holder
    have hnot : (y.phase i).holds = false :=
      Bool.eq_false_iff.mpr fun hholds => hi (hy.only i hholds)
    have hgo := fun p hp => hy.of_not_holds (p := p) hi hp
    generalize hphase : y.phase i = q at hmoves hnot
    generalize y.slot = t at hmoves hrecent hgo
    cases hmoves with
    | resolved => exact .inr ⟨h, hgo _ rfl⟩
    | found => exact .inr ⟨h, hgo _ rfl⟩
    | checked _ hfree => rw [hfree] at hrecent; cases hrecent
    | overtaken => exact .inr ⟨h, hgo _ rfl⟩
    | claimed _ hfree => rw [hfree] at hrecent; cases hrecent
    | rested => exact .inr ⟨h, hgo _ hnot⟩
    | failed => cases hnot
    | delivered => cases hnot
    | released => cases hnot
    | overwritten => cases hnot
    | recorded => cases hnot

theorem run_free_or_heldBy [Charsets] (hfree : ∀ i, before.recent (a i).now n = false)
    (hclose : ∀ i j, (a i).now.seconds - (a j).now.seconds < n) (schedule : List ι) :
    (∀ i, (((start before).run a n k schedule).phase i).Allowed (a i)) ∧
      (Free a before ((start before).run a n k schedule) ∨
        ∃ h, HeldBy a before h ((start before).run a n k schedule)) := by
  refine run_start_induction (I := fun y => y.Free a before ∨ ∃ h, y.HeldBy a before h)
    (fun y i p s hallowed hy _ hmoves => ?_) (.inl ⟨fun _ => rfl, rfl, nofun⟩) schedule
  rcases hy with hy | ⟨h, hy⟩
  · exact hy.move hfree hmoves
  · exact hy.move (hallowed i) hclose hmoves

end Board

/-! ## 2. Races -/

namespace Attempt

variable [DecidableEq ι]

/-- Of the attempts, at most one holds a claim and at most one sends its reply, and the record of
the key is not lost. -/
structure OneReply (a : ι → Attempt) (k : Key) (before : Option Record) (x : Race ι) : Prop where
  exclusive : ∀ i j, Responder.HoldsClaim (x.heard i) → Responder.HoldsClaim (x.heard j) → i = j
  sent_unique : ∀ i j, x.result? i = some (.ok .sent) → x.result? j = some (.ok .sent) → i = j
  results : ∀ i r, x.result? i = some r →
    r = .ok .sent ∨ r = .ok .suppressed ∨ ∃ e, (a i).delivery = .error e ∧ r = .error (.delivery e)
  one_sent : (∀ i, (x.result? i).isSome) → (∀ i, (a i).delivery = .ok ()) →
    ∃ i, x.result? i = some (.ok .sent) ∧ ∀ j, j ≠ i → x.result? j = some (.ok .suppressed)
  record_kept : (∀ i, (x.result? i).isSome) → (∀ i, x.result? i ≠ some (.ok .sent)) →
    (x.state.get k).1 = .ok before

/-- Attempts about one key, less than an interval apart and all of them an interval behind the
record, under every schedule. On a key/value server no value expires by itself meanwhile. -/
theorem race_oneReply [Charsets] [Nonempty ι] {interval : Interval} (hn : interval.IsSeconds n)
    {b : Backend} (hb : b.Working) {record : Option Record} (hrecord : (b.get k).1 = .ok record)
    (htarget : ∀ i, (a i).target? = some k)
    (hclose : ∀ i j, (a i).now.seconds - (a j).now.seconds < n)
    (hexpired : ∀ i, ∀ r ∈ record, n ≤ (a i).now.seconds - r.lastSent.seconds) (schedule : List ι) :
    OneReply a k record (race a interval b schedule) := by
  obtain ⟨before, hholds, rfl⟩ := Backend.exists_holds hb hrecord
  have hfree : ∀ i, before.recent (a i).now n = false := by
    intro i
    cases before with
    | none => rfl
    | some x => exact decide_eq_false (Int.not_lt.mpr (hexpired i _ rfl))
  have hshows := Board.shows_race (a := a) hn hholds schedule
  obtain ⟨hallowed, hboard⟩ := Board.run_free_or_heldBy (k := k) hfree hclose schedule
  generalize (Board.start before).run a n k schedule = y at hshows hallowed hboard
  generalize race a interval b schedule = x at hshows
  have hcases := fun i r (hr : x.result? i = some r) =>
    hshows.result_cases (htarget i) (hallowed i) hr
  refine
    { exclusive := fun i j hi hj => ?_
      sent_unique := fun i j hi hj => ?_
      results := fun i r hr => ?_
      one_sent := fun hdone hok => ?_
      record_kept := fun hdone hnone => ?_ }
  · exact Board.holds_unique hboard ((hshows.holdsClaim_iff (htarget i)).mp hi)
      ((hshows.holdsClaim_iff (htarget j)).mp hj)
  · exact Board.holds_unique hboard (hshows.holds_of_sent (htarget i) hi)
      (hshows.holds_of_sent (htarget j) hj)
  · rcases hcases i r hr with rfl | ⟨rfl, -⟩ | ⟨e, rfl, he⟩
    · exact .inr (.inl rfl)
    · exact .inl rfl
    · exact .inr (.inr ⟨e, he, rfl⟩)
  · rcases hboard with hy | ⟨h, hy⟩
    · -- nobody holds a claim, but somebody is through, and so a delivery has failed
      obtain ⟨i⟩ := ‹Nonempty ι›
      obtain ⟨r, hr⟩ := Option.isSome_iff_exists.mp (hdone i)
      obtain ⟨j, e, he⟩ := hy.ended i r ((hshows.result?_eq_some (htarget i)).mp hr)
      rw [hok j] at he
      cases he
    · refine ⟨h, hshows.sent_of_holds (htarget h) (hallowed h) (hdone h) hy.holder, fun j hj => ?_⟩
      obtain ⟨r, hr⟩ := Option.isSome_iff_exists.mp (hdone j)
      rcases hcases j r hr with rfl | ⟨rfl, -⟩ | ⟨e, -, he⟩
      · exact hr
      · exact absurd (hy.only j (hshows.holds_of_sent (htarget j) hr)) hj
      · rw [hok j] at he
        cases he
  · rcases hboard with hy | ⟨h, hy⟩
    · rw [Backend.get_of_holds hshows.slot]
      have hrecord := congrArg (Option.map Record.mk) hy.record
      rw [Option.map_map, Option.map_map] at hrecord
      exact congrArg Except.ok hrecord
    · have hsent := hshows.sent_of_holds (htarget h) (hallowed h) (hdone h) hy.holder
      exact absurd hsent (hnone h)

/-- A table with an old reply of Bob's to Ann. -/
def oldReply : Table := { rows := [(Key.of ann bob, .seconds (-100))] }

/-- Only the first of two letters is answered. -/
theorem twoLetters_oneReply :
    OneReply twoLetters (Key.of ann bob) (some ⟨⟨-100, 0, by decide⟩⟩)
      (race twoLetters tenSeconds (.table oldReply)
        [false, true, false, true, false, true, true, false, false]) := by
  have hholds : (Backend.table oldReply).Holds (Key.of ann bob) (some ⟨-100, by decide, true⟩) :=
    ⟨rfl, if_pos rfl, by rintro x ⟨⟩; rfl⟩
  refine race_oneReply (b := .table oldReply) tenSeconds_isSeconds rfl (Backend.get_of_holds hholds)
    (fun _ => letter_target? _ _) (by decide) (fun i => ?_) _
  rintro r ⟨⟩
  cases i <;> decide

end Attempt
end Autoresponder
