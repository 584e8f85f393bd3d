import Autoresponder.Proofs.Board
/-!
# Replies an interval apart

Attempts on a backend without records, with times in any order. Two replies for one key should be an
interval apart, but a record that is written late undoes a claim that has been acquired meanwhile:
the responder records its reply without looking at what is recorded, and the slot goes back in time.

1. A `LateRecord` is what this takes: a first attempt, and two more that come an interval after it
   and are themselves less than an interval apart. All three deliver their replies.
2. Without such attempts any two replies are an interval apart. Until somebody claims who will
   deliver, a board is `Unsettled`: claims of failing attempts are stacked on each other. From then
   on it is `Settled`: the slot does not go back behind the first of the replies.
3. With such attempts there is a schedule that sends two replies too close together
   (`Board.run_lateSchedule`). So the replies are an interval apart exactly where there are none
   (`Attempt.spaced_iff`).
-/

namespace Autoresponder

/-! ## 1. Late records -/

namespace Attempt

/-- The times of two attempts are an interval apart. -/
def Apart (n : Int) (a b : Attempt) : Prop :=
  a.now.seconds + n ≤ b.now.seconds ∨ b.now.seconds + n ≤ a.now.seconds

instance (n : Int) (a b : Attempt) : Decidable (a.Apart n b) :=
  inferInstanceAs (Decidable (_ ∨ _))

variable [Charsets] {ι : Type}

/-- Any two attempts about one key that send their replies are an interval apart. -/
def Spaced (a : ι → Attempt) (n : Int) (x : Race ι) : Prop :=
  ∀ i j k, i ≠ j → (a i).target? = some k → (a j).target? = some k →
    x.result? i = some (.ok .sent) → x.result? j = some (.ok .sent) → (a i).Apart n (a j)

/-- Two attempts less than an interval apart, both an interval behind a first one. All are about one
key and deliver their replies. -/
structure LateRecord (a : ι → Attempt) (n : Int) (k : Key) (f i j : ι) : Prop where
  ne : i ≠ j
  target_first : (a f).target? = some k
  target_left : (a i).target? = some k
  target_right : (a j).target? = some k
  delivered_first : (a f).delivery = .ok ()
  delivered_left : (a i).delivery = .ok ()
  delivered_right : (a j).delivery = .ok ()
  left_behind : (a f).now.seconds + n ≤ (a i).now.seconds
  right_behind : (a f).now.seconds + n ≤ (a j).now.seconds
  close : ¬(a i).Apart n (a j)

end Attempt

/-! ## 2. Replies without late records -/

/-- What a move does to the claims and the slot. -/
inductive Attempt.Effect (a : Attempt) (n : Int) : Phase → Slot → Phase → Slot → Prop
  | quiet {p p' : Phase} (s : Slot) (hholds : p'.holds = p.holds)
      (hpending : p'.pending = none ∨ p'.pending = p.pending) : Effect a n p s p' s
  | claim {p : Phase} (s : Slot) (hp : p.holds = false) (h : s.recent a.now n = false) :
      Effect a n p s (.delivering (s.map Stamp.time)) (some (.ofInstant a.now))
  | release {p p' : Phase} (s : Slot) (previous : Option Instant) (hp : p.holds = true)
      (hpending : p.pending = some previous) (hp' : p'.holds = false) (e : DeliveryFailure)
      (he : a.delivery = .error e) :
      Effect a n p s p' (if s = some (.ofInstant a.now) then previous.map .ofInstant else s)
  | record {p p' : Phase} (s : Slot) (hp : p.holds = true) (hp' : p'.holds = true)
      (hpending : p'.pending = none) (hok : a.delivery = .ok ()) :
      Effect a n p s p' (some (.ofInstant a.now))

theorem Attempt.Moves.effect {a : Attempt} {n : Int} {p p' : Phase} {s s' : Slot}
    (h : a.Moves n p s p' s') (hp : p.Allowed a) : a.Effect n p s p' s' := by
  cases h with
  | resolved => exact .quiet _ rfl (.inl rfl)
  | found => exact .quiet _ rfl (.inl rfl)
  | checked => exact .quiet _ rfl (.inl rfl)
  | overtaken => exact .quiet _ rfl (.inl rfl)
  | claimed _ h => exact .claim _ rfl h
  | failed => exact .quiet _ rfl (.inr rfl)
  | delivered => exact .quiet _ rfl (.inl rfl)
  | released previous e =>
    have heffect : a.Effect n (.releasing previous e) (some (.ofInstant a.now))
        (.ended (.error (.delivery e))) _ := .release _ previous rfl rfl rfl e hp
    rwa [if_pos rfl] at heffect
  | overwritten _ previous e h =>
    have heffect : a.Effect n (.releasing previous e) s (.ended (.error (.delivery e))) _ :=
      .release s previous rfl rfl rfl e hp
    rwa [if_neg h] at heffect
  | recorded => exact .record _ rfl rfl rfl hp
  | rested => exact .quiet _ rfl (.inl rfl)

variable {ι : Type} {a : ι → Attempt} {n : Int} {k : Key}

namespace Board

/-- The slot holds a time, and no earlier one than that of an attempt. -/
def Reaches (s : Slot) (t : Instant) : Prop := ∃ x, s = some x ∧ t.seconds ≤ x.second

theorem Reaches.recent {t now : Instant} (h : Reaches s t) (hs : s.recent now n = false) :
    ∃ x, s = some x ∧ t.seconds ≤ x.second ∧ x.second + n ≤ now.seconds := by
  obtain ⟨x, rfl, hx⟩ := h
  have hage : ¬now.seconds - x.second < n := of_decide_eq_false hs
  exact ⟨x, rfl, hx, by omega⟩

theorem reaches_ofInstant {t t' : Instant} (h : t.seconds ≤ t'.seconds) :
    Reaches (some (.ofInstant t')) t := ⟨_, rfl, h⟩

variable [Charsets]

/-- The claims of failing attempts: an interval apart, each with the earlier ones behind it. -/
structure Unsettled (a : ι → Attempt) (n : Int) (k : Key) (y : Board ι) : Prop where
  target : ∀ i, (y.phase i).holds = true → (a i).target? = some k
  failing : ∀ i, (y.phase i).holds = true → ∃ e, (a i).delivery = .error e
  slot : ∀ i, (y.phase i).holds = true → Reaches y.slot (a i).now
  apart : ∀ i j, i ≠ j → (y.phase i).holds = true → (y.phase j).holds = true → (a i).Apart n (a j)
  pending : ∀ i j, (y.phase j).holds = true → (a j).now.seconds < (a i).now.seconds →
    ∀ q, (y.phase i).pending = some q → ∃ t, q = some t ∧ (a j).now.seconds ≤ t.seconds

/-- An attempt whose claim came before that of the first reply. It fails. -/
def Early (a : ι → Attempt) (n : Int) (f j : ι) : Prop :=
  (∃ e, (a j).delivery = .error e) ∧ (a j).now.seconds + n ≤ (a f).now.seconds

/-- An attempt whose claim came after that of the first reply. It hands nothing earlier back. -/
def Late (a : ι → Attempt) (n : Int) (f j : ι) (p : Phase) : Prop :=
  (a f).now.seconds + n ≤ (a j).now.seconds ∧
    ∀ q, p.pending = some q → ∃ t, q = some t ∧ (a f).now.seconds ≤ t.seconds

/-- The claim of the first attempt that delivers its reply, and the claims before and after it. -/
structure Settled (a : ι → Attempt) (n : Int) (k : Key) (f : ι) (y : Board ι) : Prop where
  target : ∀ i, (y.phase i).holds = true → (a i).target? = some k
  holder : (y.phase f).holds = true
  delivered : (a f).delivery = .ok ()
  slot : Reaches y.slot (a f).now
  others : ∀ j, j ≠ f → (y.phase j).holds = true → Early a n f j ∨ Late a n f j (y.phase j)

variable {y : Board ι} {i f : ι} {p : Phase} {s : Slot}

/-- A claim is an interval behind all that are held. -/
theorem Unsettled.behind (hy : y.Unsettled a n k) (hs : y.slot.recent (a i).now n = false) {j : ι}
    (hj : (y.phase j).holds = true) : (a j).now.seconds + n ≤ (a i).now.seconds := by
  obtain ⟨x, -, hx, hage⟩ := (hy.slot j hj).recent hs
  omega

theorem unsettled_start : (start none : Board ι).Unsettled a n k where
  target _ h := by cases h
  failing _ h := by cases h
  slot _ h := by cases h
  apart _ _ _ h := by cases h
  pending _ _ h := by cases h

/-- Two replies behind the first one are an interval apart, unless the record of the first is
late. -/
theorem Settled.apart (hy : y.Settled a n k f) (hlate : ∀ i j, ¬Attempt.LateRecord a n k f i j)
    {i j : ι} (hne : i ≠ j) (hi : (y.phase i).holds = true) (hj : (y.phase j).holds = true)
    (hoki : (a i).delivery = .ok ()) (hokj : (a j).delivery = .ok ()) : (a i).Apart n (a j) := by
  have hbehind : ∀ l, l ≠ f → (y.phase l).holds = true → (a l).delivery = .ok () →
      (a f).now.seconds + n ≤ (a l).now.seconds := by
    intro l hlf hl hok
    rcases hy.others l hlf hl with ⟨⟨e, he⟩, -⟩ | ⟨hlate, -⟩
    · rw [hok] at he
      cases he
    · exact hlate
  by_cases hif : i = f
  · subst hif
    exact .inl (hbehind j hne.symm hj hokj)
  · by_cases hjf : j = f
    · subst hjf
      exact .inr (hbehind i hne hi hoki)
    · by_contra hclose
      exact hlate i j
        { ne := hne
          target_first := hy.target f hy.holder
          target_left := hy.target i hi
          target_right := hy.target j hj
          delivered_first := hy.delivered
          delivered_left := hoki
          delivered_right := hokj
          left_behind := hbehind i hif hi hoki
          right_behind := hbehind j hjf hj hokj
          close := hclose }

variable [DecidableEq ι]

theorem Unsettled.quiet (hy : y.Unsettled a n k) (hholds : p.holds = (y.phase i).holds)
    (hpending : p.pending = none ∨ p.pending = (y.phase i).pending) :
    (y.set i p y.slot).Unsettled a n k := by
  have hback : ∀ j, ((y.set i p y.slot).phase j).holds = true → (y.phase j).holds = true :=
    fun j => holds_of_set fun hp => hholds.symm.trans hp
  exact
    { target := fun j hj => hy.target j (hback j hj)
      failing := fun j hj => hy.failing j (hback j hj)
      slot := fun j hj => hy.slot j (hback j hj)
      apart := fun j l hne hj hl => hy.apart j l hne (hback j hj) (hback l hl)
      pending := fun j l hl hlt q hq =>
        hy.pending j l (hback l hl) hlt q (pending_of_set hpending hq) }

/-- The claim of an attempt that will fail. -/
theorem Unsettled.claim_of_failing (hy : y.Unsettled a n k) (hpos : 0 < n)
    (htarget : (a i).target? = some k) (hs : y.slot.recent (a i).now n = false)
    {e : DeliveryFailure} (he : (a i).delivery = .error e) :
    (y.set i (.delivering (y.slot.map Stamp.time)) (some (.ofInstant (a i).now))).Unsettled a n
      k where
  target := forall_holds_set hy.target htarget _ _
  failing := forall_holds_set hy.failing ⟨e, he⟩ _ _
  slot := by
    refine forall_holds_set (Q := fun j => Reaches (some (.ofInstant (a i).now)) (a j).now)
      (fun j hj => ?_) (reaches_ofInstant (Int.le_refl _)) _ _
    have hbehind := hy.behind hs hj
    exact reaches_ofInstant (by omega)
  apart j l hne hj hl := by
    by_cases hji : j = i
    · have hli : l ≠ i := fun hli => hne (hji.trans hli.symm)
      rw [set_phase_of_ne _ hli] at hl
      exact .inr (hji ▸ hy.behind hs hl)
    · rw [set_phase_of_ne _ hji] at hj
      by_cases hli : l = i
      · exact .inl (hli ▸ hy.behind hs hj)
      · rw [set_phase_of_ne _ hli] at hl
        exact hy.apart j l hne hj hl
  pending j l hl hlt q hq := by
    by_cases hji : j = i
    · subst hji
      have hlj : l ≠ j := by
        rintro rfl
        omega
      rw [set_phase_of_ne _ hlj] at hl
      rw [set_phase_self] at hq
      obtain ⟨x, hx, hle⟩ := hy.slot l hl
      refine ⟨x.time, ?_, hle⟩
      rw [← Option.some.inj hq, hx, Option.map_some]
    · rw [set_phase_of_ne _ hji] at hq
      by_cases hli : l = i
      · -- the last claim lies behind all others, and not in front of one
        have hj : (y.phase j).holds = true := by
          by_contra hnot
          rw [Phase.pending_eq_none (Bool.eq_false_iff.mpr hnot)] at hq
          cases hq
        have hbehind := hy.behind hs hj
        rw [hli] at hlt
        omega
      · rw [set_phase_of_ne _ hli] at hl
        exact hy.pending j l hl hlt q hq

/-- The claim of the first attempt that will deliver its reply. -/
theorem Unsettled.claim_of_delivered (hy : y.Unsettled a n k) (htarget : (a i).target? = some k)
    (hs : y.slot.recent (a i).now n = false) (hok : (a i).delivery = .ok ()) :
    (y.set i (.delivering (y.slot.map Stamp.time)) (some (.ofInstant (a i).now))).Settled a n k
      i where
  target := forall_holds_set hy.target htarget _ _
  holder := by
    rw [set_phase_self]
    rfl
  delivered := hok
  slot := reaches_ofInstant (Int.le_refl _)
  others j hji hj := by
    rw [set_phase_of_ne _ hji] at hj
    exact .inl ⟨hy.failing j hj, hy.behind hs hj⟩

/-- A release hands back a time that all other claims lie behind. -/
theorem Unsettled.release (hy : y.Unsettled a n k) (hpos : 0 < n) (hi : (y.phase i).holds = true)
    {previous : Option Instant} (hpending : (y.phase i).pending = some previous)
    (hp : p.holds = false) :
    (y.set i p (if y.slot = some (.ofInstant (a i).now) then previous.map .ofInstant
      else y.slot)).Unsettled a n k := by
  generalize hs : (if y.slot = some (.ofInstant (a i).now) then previous.map .ofInstant
    else y.slot) = s
  have hback : ∀ j, ((y.set i p s).phase j).holds = true → (y.phase j).holds = true :=
    fun j => holds_of_set_of_false hp
  refine
    { target := fun j hj => hy.target j (hback j hj)
      failing := fun j hj => hy.failing j (hback j hj)
      slot := fun j hj => ?_
      apart := fun j l hne hj hl => hy.apart j l hne (hback j hj) (hback l hl)
      pending := fun j l hl hlt q hq => hy.pending j l (hback l hl) hlt q
        (pending_of_set (.inl (Phase.pending_eq_none hp)) hq) }
  have hji : j ≠ i := by
    rintro rfl
    rw [set_phase_self, hp] at hj
    cases hj
  have hj := hback j hj
  rw [set_slot, ← hs]
  split
  · rename_i hslot
    -- the claim in the slot is the last one, so that of `j` lies behind what it hands back
    obtain ⟨x, hx, hle⟩ := hy.slot j hj
    rw [hslot] at hx
    obtain rfl := Option.some.inj hx
    have hlt : (a j).now.seconds < (a i).now.seconds := by
      rcases hy.apart j i hji hj hi with hbefore | hafter
      · omega
      · have hle : (a j).now.seconds ≤ (a i).now.seconds := hle
        omega
    obtain ⟨t, rfl, ht⟩ := hy.pending i j hj hlt previous hpending
    exact reaches_ofInstant ht
  · exact hy.slot j hj

theorem Unsettled.effect (hy : y.Unsettled a n k) (hpos : 0 < n) (htarget : (a i).target? = some k)
    (h : (a i).Effect n (y.phase i) y.slot p s) :
    (y.set i p s).Unsettled a n k ∨ ∃ f, (y.set i p s).Settled a n k f := by
  have hquiet := fun p hholds hpending => hy.quiet (i := i) (p := p) hholds hpending
  have hclaim := fun hs e he => hy.claim_of_failing hpos htarget hs (e := e) he
  have hfirst := fun hs hok => hy.claim_of_delivered htarget hs hok
  have hrelease := fun hi previous (hpending : (y.phase i).pending = some previous) p hp =>
    hy.release hpos hi hpending (p := p) hp
  have hfailing := hy.failing i
  generalize y.phase i = q at h hquiet hrelease hfailing
  generalize y.slot = t at h hquiet hclaim hfirst hrelease
  cases h with
  | quiet _ hholds hpending => exact .inl (hquiet _ hholds hpending)
  | claim _ _ hs =>
    cases hdelivery : (a i).delivery with
    | error e => exact .inl (hclaim hs e hdelivery)
    | ok _ => exact .inr ⟨i, hfirst hs hdelivery⟩
  | release _ previous hi hpending hp' e he => exact .inl (hrelease hi previous hpending _ hp')
  | record _ hi _ _ hok =>
    obtain ⟨e, he⟩ := hfailing hi
    rw [hok] at he
    cases he

theorem Settled.quiet (hy : y.Settled a n k f) (hholds : p.holds = (y.phase i).holds)
    (hpending : p.pending = none ∨ p.pending = (y.phase i).pending) :
    (y.set i p y.slot).Settled a n k f := by
  have hback : ∀ j, ((y.set i p y.slot).phase j).holds = true → (y.phase j).holds = true :=
    fun j => holds_of_set fun hp => hholds.symm.trans hp
  refine
    { target := fun j hj => hy.target j (hback j hj)
      holder := ?_
      delivered := hy.delivered
      slot := hy.slot
      others := fun j hjf hj => ?_ }
  · by_cases hfi : f = i
    · subst hfi
      rw [set_phase_self, hholds, hy.holder]
    · rw [set_phase_of_ne _ hfi, hy.holder]
  · rcases hy.others j hjf (hback j hj) with hearly | ⟨hlate, hq⟩
    · exact .inl hearly
    · exact .inr ⟨hlate, fun q h => hq q (pending_of_set hpending h)⟩

/-- A later claim is an interval behind the first reply. -/
theorem Settled.claim (hy : y.Settled a n k f) (hpos : 0 < n) (htarget : (a i).target? = some k)
    (hi : (y.phase i).holds = false) (hs : y.slot.recent (a i).now n = false) :
    (y.set i (.delivering (y.slot.map Stamp.time))
      (some (.ofInstant (a i).now))).Settled a n k f := by
  obtain ⟨x, hx, hle, hage⟩ := hy.slot.recent hs
  have hfi : f ≠ i := by
    rintro rfl
    rw [hy.holder] at hi
    cases hi
  refine
    { target := forall_holds_set hy.target htarget _ _
      holder := by rw [set_phase_of_ne _ hfi, hy.holder]
      delivered := hy.delivered
      slot := reaches_ofInstant (by omega)
      others := fun j hjf hj => ?_ }
  by_cases hji : j = i
  · subst hji
    refine .inr ⟨by omega, fun q hq => ⟨x.time, ?_, hle⟩⟩
    rw [set_phase_self] at hq
    rw [← Option.some.inj hq, hx, Option.map_some]
  · rw [set_phase_of_ne _ hji] at hj ⊢
    exact hy.others j hjf hj

/-- A release does not go back behind the first reply: an early claim is not in the slot any more,
and a late one hands back the first reply or a later time. -/
theorem Settled.release (hy : y.Settled a n k f) (hpos : 0 < n) (hi : (y.phase i).holds = true)
    {previous : Option Instant} (hpending : (y.phase i).pending = some previous)
    (hp : p.holds = false) {e : DeliveryFailure} (he : (a i).delivery = .error e) :
    (y.set i p (if y.slot = some (.ofInstant (a i).now) then previous.map .ofInstant
      else y.slot)).Settled a n k f := by
  have hif : i ≠ f := by
    rintro rfl
    rw [hy.delivered] at he
    cases he
  have hslot : Reaches (if y.slot = some (.ofInstant (a i).now) then previous.map .ofInstant
      else y.slot) (a f).now := by
    split
    · rename_i hown
      rcases hy.others i hif hi with ⟨-, hearly⟩ | ⟨-, hq⟩
      · -- an early claim would be a second before the first reply
        obtain ⟨x, hx, hle⟩ := hy.slot
        rw [hown] at hx
        obtain rfl := Option.some.inj hx
        have hle : (a f).now.seconds ≤ (a i).now.seconds := hle
        omega
      · obtain ⟨t, rfl, ht⟩ := hq previous hpending
        exact reaches_ofInstant ht
    · exact hy.slot
  generalize (if y.slot = some (.ofInstant (a i).now) then previous.map .ofInstant
    else y.slot) = s at hslot ⊢
  have hback : ∀ j, ((y.set i p s).phase j).holds = true → (y.phase j).holds = true :=
    fun j => holds_of_set_of_false hp
  refine
    { target := fun j hj => hy.target j (hback j hj)
      holder := by rw [set_phase_of_ne _ hif.symm, hy.holder]
      delivered := hy.delivered
      slot := hslot
      others := fun j hjf hj => ?_ }
  rcases hy.others j hjf (hback j hj) with hearly | ⟨hlate, hq⟩
  · exact .inl hearly
  · exact .inr ⟨hlate, fun q h => hq q (pending_of_set (.inl (Phase.pending_eq_none hp)) h)⟩

/-- A record does not go back behind the first reply either, but it may go back behind a later
claim. -/
theorem Settled.record (hy : y.Settled a n k f) (hpos : 0 < n) (hi : (y.phase i).holds = true)
    (hp : p.holds = true) (hpending : p.pending = none) (hok : (a i).delivery = .ok ()) :
    (y.set i p (some (.ofInstant (a i).now))).Settled a n k f := by
  have hback : ∀ j, ((y.set i p (some (.ofInstant (a i).now))).phase j).holds = true →
      (y.phase j).holds = true := fun j => holds_of_set fun _ => hi
  refine
    { target := fun j hj => hy.target j (hback j hj)
      holder := ?_
      delivered := hy.delivered
      slot := reaches_ofInstant ?_
      others := fun j hjf hj => ?_ }
  · by_cases hfi : f = i
    · subst hfi
      rw [set_phase_self, hp]
    · rw [set_phase_of_ne _ hfi, hy.holder]
  · by_cases hif : i = f
    · rw [hif]
    · rcases hy.others i hif hi with ⟨⟨e, he⟩, -⟩ | ⟨hlate, -⟩
      · rw [hok] at he
        cases he
      · omega
  · -- the times to hand back are those of the claims, and a record does not touch them
    rcases hy.others j hjf (hback j hj) with hearly | ⟨hlate, hq⟩
    · exact .inl hearly
    · exact .inr ⟨hlate, fun q h => hq q (pending_of_set (.inl hpending) h)⟩

theorem Settled.effect (hy : y.Settled a n k f) (hpos : 0 < n) (htarget : (a i).target? = some k)
    (h : (a i).Effect n (y.phase i) y.slot p s) : (y.set i p s).Settled a n k f := by
  have hquiet := fun p hholds hpending => hy.quiet (i := i) (p := p) hholds hpending
  have hclaim := fun hi hs => hy.claim (i := i) hpos htarget hi hs
  have hrelease := fun hi previous (hpending : (y.phase i).pending = some previous) p hp e he =>
    hy.release hpos hi hpending (p := p) hp (e := e) he
  have hrecord := fun hi p hp hpending hok => hy.record (i := i) hpos hi (p := p) hp hpending hok
  generalize y.phase i = q at h hquiet hclaim hrelease hrecord
  generalize y.slot = t at h hquiet hclaim hrelease
  cases h with
  | quiet _ hholds hpending => exact hquiet _ hholds hpending
  | claim _ hi hs => exact hclaim hi hs
  | release _ previous hi hpending hp' e he => exact hrelease hi previous hpending _ hp' e he
  | record _ hi hp' hpending hok => exact hrecord hi _ hp' hpending hok

theorem run_settled (hpos : 0 < n) (schedule : List ι) :
    (∀ i, (((start none).run a n k schedule).phase i).Allowed (a i)) ∧
      (((start none).run a n k schedule).Unsettled a n k ∨
        ∃ f, ((start none).run a n k schedule).Settled a n k f) := by
  refine run_start_induction (I := fun y => y.Unsettled a n k ∨ ∃ f, y.Settled a n k f)
    (fun y i p s hallowed hy htarget hmoves => ?_) (.inl unsettled_start) schedule
  have heffect := hmoves.effect (hallowed i)
  rcases hy with hy | ⟨f, hy⟩
  · exact hy.effect hpos htarget heffect
  · exact .inr ⟨f, hy.effect hpos htarget heffect⟩

/-! ## 3. Schedules with a late record -/

/-- The first attempt records its reply between the claims of the two others. -/
def lateSchedule (f i j : ι) : List ι :=
  [f, f, f] ++ ([i, i, i] ++ ([f, f] ++ ([j, j, j] ++ ([i, i] ++ [j, j]))))

theorem run_lateSchedule {j : ι} (h : Attempt.LateRecord a n k f i j) (hpos : 0 < n) :
    ((start none).run a n k (lateSchedule f i j)).phase i = .ended (.ok .sent) ∧
      ((start none).run a n k (lateSchedule f i j)).phase j = .ended (.ok .sent) := by
  have hbehind := h.left_behind
  have hbehind' := h.right_behind
  have hif : i ≠ f := by
    rintro rfl
    omega
  have hjf : j ≠ f := by
    rintro rfl
    omega
  have hfree : ∀ l, (a f).now.seconds + n ≤ (a l).now.seconds →
      Slot.recent (some (.ofInstant (a f).now)) (a l).now n = false := by
    intro l hl
    rw [Slot.recent_ofInstant]
    exact decide_eq_false (by omega)
  unfold lateSchedule
  -- the first claim is old enough for the second one, and is written again before the third one
  rw [run_append, run_claim h.target_first rfl rfl]
  rw [run_append, run_claim h.target_left (by rw [set_phase_of_ne _ hif]; rfl) (hfree i hbehind)]
  rw [run_append, run_deliver h.target_first
    (by rw [set_phase_of_ne _ hif.symm, set_phase_self]) h.delivered_first]
  rw [run_append, run_claim h.target_right
    (by rw [set_phase_of_ne _ hjf, set_phase_of_ne _ h.ne.symm, set_phase_of_ne _ hjf]; rfl)
    (hfree j hbehind')]
  rw [run_append, run_deliver h.target_left
    (by rw [set_phase_of_ne _ h.ne, set_phase_of_ne _ hif, set_phase_self]) h.delivered_left]
  rw [run_deliver h.target_right
    (by rw [set_phase_of_ne _ h.ne.symm, set_phase_self]) h.delivered_right]
  exact ⟨by rw [set_phase_of_ne _ h.ne, set_phase_self], set_phase_self _ _ _ _⟩

end Board

namespace Attempt

variable [DecidableEq ι] {interval : Interval} {b : Backend}

/-- The late record of a race sends two replies less than an interval apart. -/
theorem not_spaced_of_lateRecord [Charsets] (hn : interval.IsSeconds n) (hpos : 0 < n)
    (hb : b.Blank) {f i j : ι} (h : LateRecord a n k f i j) :
    ¬Spaced a n (race a interval b (Board.lateSchedule f i j)) := by
  intro hspaced
  have hshows := Board.shows_race (a := a) hn (hb.holds k) (Board.lateSchedule f i j)
  obtain ⟨hi, hj⟩ := Board.run_lateSchedule h hpos
  exact h.close (hspaced i j k h.ne h.target_left h.target_right
    ((hshows.result?_eq_some h.target_left).mpr hi)
    ((hshows.result?_eq_some h.target_right).mpr hj))

theorem spaced_of_forall_not_lateRecord [Charsets] (hn : interval.IsSeconds n) (hpos : 0 < n)
    (hb : b.Blank) (h : ∀ k f i j, ¬LateRecord a n k f i j) (schedule : List ι) :
    Spaced a n (race a interval b schedule) := by
  intro i j k hne hi hj hsenti hsentj
  have hshows := Board.shows_race (a := a) hn (hb.holds k) schedule
  obtain ⟨hallowed, hy⟩ := Board.run_settled (a := a) (k := k) hpos schedule
  have hdelivered : ∀ l, (a l).target? = some k →
      (race a interval b schedule).result? l = some (.ok .sent) →
      (((Board.start none).run a n k schedule).phase l).holds = true ∧ (a l).delivery = .ok () := by
    intro l hl hsent
    refine ⟨hshows.holds_of_sent hl hsent, ?_⟩
    rcases hshows.result_cases hl (hallowed l) hsent with h | ⟨-, hok⟩ | ⟨e, h, -⟩
    · cases h
    · exact hok
    · cases h
  obtain ⟨hholdi, hoki⟩ := hdelivered i hi hsenti
  obtain ⟨hholdj, hokj⟩ := hdelivered j hj hsentj
  rcases hy with hy | ⟨f, hy⟩
  · obtain ⟨e, he⟩ := hy.failing i hholdi
    rw [hoki] at he
    cases he
  · exact hy.apart (h k f) hne hholdi hholdj hoki hokj

/-- Three letters, of which the second and the third come ten seconds after the first. -/
def threeLetters (i : Fin 3) : Attempt := letter (if i = 0 then 0 else 10) (.ok ())

/-- The second and the third letter are both answered in the same second. -/
theorem not_spaced_threeLetters :
    ¬Spaced threeLetters 10
      (race threeLetters tenSeconds (.table {}) [0, 0, 0, 1, 1, 1, 0, 0, 2, 2, 2, 1, 1, 2, 2]) :=
  not_spaced_of_lateRecord (k := Key.of ann bob) tenSeconds_isSeconds (by decide)
    Backend.blank_table
    { ne := by decide
      target_first := letter_target? _ _
      target_left := letter_target? _ _
      target_right := letter_target? _ _
      delivered_first := rfl
      delivered_left := rfl
      delivered_right := rfl
      left_behind := by decide
      right_behind := by decide
      close := by decide }

/-- Replies for one key are an interval apart under every schedule, unless a record can be late. On
a key/value server no value expires by itself meanwhile. -/
theorem spaced_iff [Charsets] (hn : interval.IsSeconds n) (hpos : 0 < n) (hb : b.Blank) :
    (∀ schedule, Spaced a n (race a interval b schedule)) ↔
      ∀ k f i j, ¬LateRecord a n k f i j := by
  constructor
  · intro h k f i j hlate
    exact not_spaced_of_lateRecord hn hpos hb hlate (h _)
  · exact spaced_of_forall_not_lateRecord hn hpos hb

theorem spaced_twoLetters :
    tenSeconds.IsSeconds 10 ∧ (0 : Int) < 10 ∧ (Backend.table {}).Blank ∧
      ∀ schedule, Spaced twoLetters 10 (race twoLetters tenSeconds (.table {}) schedule) := by
  refine ⟨rfl, by decide, Backend.blank_table, ?_⟩
  refine (spaced_iff tenSeconds_isSeconds (by decide) Backend.blank_table).mpr fun k f i j h => ?_
  have hbehind := h.left_behind
  revert hbehind
  cases f <;> cases i <;> decide

end Attempt
end Autoresponder
