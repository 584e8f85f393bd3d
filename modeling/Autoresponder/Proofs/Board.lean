import Autoresponder.Proofs.Attempts
/-!
# Attempts about one key

Attempts that share a backend meet in the slot of a key. Who looks at one key has to know only the
phases of the attempts about it, and its slot.

1. `Attempt.race` is what a schedule makes of attempts that share a backend.
2. A `Board` has the phases of the attempts and the slot of one key. It changes by moves
   (`Attempt.Moves`), and what every move preserves, a schedule preserves (`Board.run_induction`).
3. The board shows the race (`Board.shows_race`): the results of the attempts about its key, the
   claims that they hold, and the record.
-/

namespace Autoresponder

open Responder (Question)

/-! ## 1. Races -/

/-- Attempts in progress that share a backend. -/
abbrev Race (ι : Type) : Type :=
  Interleaving ι Question Question.Answer (Except Failure Outcome) Backend

/-- What becomes of attempts that share a backend, if a schedule says who is next. -/
def Attempt.race [Charsets] {ι : Type} [DecidableEq ι] (a : ι → Attempt) (interval : Interval)
    (b : Backend) (schedule : List ι) : Race ι :=
  (Interleaving.start (fun i => (a i).talk interval) b).run (fun i => (a i).components.serve)
    schedule

/-! ## 2. Boards -/

/-- The phases of attempts, and the slot of one key. -/
structure Board (ι : Type) where
  phase : ι → Phase
  slot : Slot

/-- What an attempt can do in the course of one question. -/
inductive Attempt.Moves (a : Attempt) (n : Int) : Phase → Slot → Phase → Slot → Prop
  | resolved (s : Slot) : Moves a n .resolving s .checking s
  | found (s : Slot) (h : s.recent a.now n = true) :
      Moves a n .checking s (.ended (.ok .suppressed)) s
  | checked (s : Slot) (h : s.recent a.now n = false) : Moves a n .checking s .claiming s
  | overtaken (s : Slot) (h : s.recent a.now n = true) :
      Moves a n .claiming s (.ended (.ok .suppressed)) s
  | claimed (s : Slot) (h : s.recent a.now n = false) :
      Moves a n .claiming s (.delivering (s.map Stamp.time)) (some (.ofInstant a.now))
  | failed (s : Slot) (previous : Option Instant) (e : DeliveryFailure)
      (h : a.delivery = .error e) :
      Moves a n (.delivering previous) s (.releasing previous e) s
  | delivered (s : Slot) (previous : Option Instant) (h : a.delivery = .ok ()) :
      Moves a n (.delivering previous) s .recording s
  | released (previous : Option Instant) (e : DeliveryFailure) :
      Moves a n (.releasing previous e) (some (.ofInstant a.now)) (.ended (.error (.delivery e)))
        (previous.map .ofInstant)
  | overwritten (s : Slot) (previous : Option Instant) (e : DeliveryFailure)
      (h : s ≠ some (.ofInstant a.now)) :
      Moves a n (.releasing previous e) s (.ended (.error (.delivery e))) s
  | recorded (s : Slot) : Moves a n .recording s (.ended (.ok .sent)) (some (.ofInstant a.now))
  | rested (s : Slot) (result : Except Failure Outcome) :
      Moves a n (.ended result) s (.ended result) s

theorem Attempt.moves_move (a : Attempt) (n : Int) (p : Phase) (s : Slot) :
    a.Moves n p s (a.move n p s).1 (a.move n p s).2 := by
  cases p with
  | resolving => exact .resolved s
  | checking =>
    simp only [move]
    split
    · rename_i h
      exact .found s h
    · rename_i h
      exact .checked s (Bool.eq_false_iff.mpr h)
  | claiming =>
    simp only [move]
    split
    · rename_i h
      exact .overtaken s h
    · rename_i h
      exact .claimed s (Bool.eq_false_iff.mpr h)
  | delivering previous =>
    simp only [move]
    split
    · rename_i h
      exact .failed s previous _ h
    · rename_i h
      exact .delivered s previous h
  | releasing previous e =>
    simp only [move]
    split
    · rename_i h
      subst h
      exact .released previous e
    · rename_i h
      exact .overwritten s previous e h
  | recording => exact .recorded s
  | ended result => exact .rested s result

/-- What a phase says about the delivery, and what results there are. -/
def Phase.Allowed (a : Attempt) : Phase → Prop
  | .releasing _ e => a.delivery = .error e
  | .recording => a.delivery = .ok ()
  | .ended result =>
    result = .ok .suppressed ∨ result = .ok .sent ∧ a.delivery = .ok () ∨
      ∃ e, result = .error (.delivery e) ∧ a.delivery = .error e
  | _ => True

/-- What a release would restore. -/
def Phase.pending : Phase → Option (Option Instant)
  | .delivering previous => some previous
  | .releasing previous _ => some previous
  | _ => none

theorem Phase.pending_eq_none {p : Phase} (h : p.holds = false) : p.pending = none := by
  cases p with
  | delivering previous => cases h
  | releasing previous e => cases h
  | resolving => rfl
  | checking => rfl
  | claiming => rfl
  | recording => rfl
  | ended result => rfl

theorem Attempt.Moves.allowed {a : Attempt} {n : Int} {p p' : Phase} {s s' : Slot}
    (h : a.Moves n p s p' s') (hp : p.Allowed a) : p'.Allowed a := by
  cases h with
  | resolved => trivial
  | found => exact .inl rfl
  | checked => trivial
  | overtaken => exact .inl rfl
  | claimed => trivial
  | failed _ _ _ h => exact h
  | delivered _ _ h => exact h
  | released previous e => exact .inr (.inr ⟨e, rfl, hp⟩)
  | overwritten _ previous e _ => exact .inr (.inr ⟨e, rfl, hp⟩)
  | recorded => exact .inr (.inl ⟨rfl, hp⟩)
  | rested => exact hp

namespace Board

variable {ι : Type} {a : ι → Attempt} {interval : Interval} {n : Int} {k : Key}

/-- Nothing has happened yet. -/
def start (s : Slot) : Board ι := ⟨fun _ => .resolving, s⟩

section Moves

variable [DecidableEq ι]

/-- The board with another phase of one attempt, and another slot. -/
def set (y : Board ι) (i : ι) (p : Phase) (s : Slot) : Board ι := ⟨Function.update y.phase i p, s⟩

@[simp] theorem set_phase_self (y : Board ι) (i : ι) (p : Phase) (s : Slot) :
    (y.set i p s).phase i = p := Function.update_self ..

theorem set_phase_of_ne (y : Board ι) {i j : ι} (h : j ≠ i) (p : Phase) (s : Slot) :
    (y.set i p s).phase j = y.phase j := Function.update_of_ne h ..

@[simp] theorem set_slot (y : Board ι) (i : ι) (p : Phase) (s : Slot) : (y.set i p s).slot = s :=
  rfl

theorem set_set (y : Board ι) (i : ι) (p p' : Phase) (s s' : Slot) :
    (y.set i p s).set i p' s' = y.set i p' s' :=
  congrArg (Board.mk · s') (Function.update_idem ..)

/-- What is true of all phases but one stays true if it is true of the new phase of that one. -/
theorem forall_set {P : ι → Phase → Prop} {y : Board ι} {i : ι} {p : Phase} (hp : P i p)
    (hy : ∀ j, j ≠ i → P j (y.phase j)) (s : Slot) (j : ι) : P j ((y.set i p s).phase j) := by
  by_cases hji : j = i
  · subst hji
    rwa [set_phase_self]
  · rw [set_phase_of_ne _ hji]
    exact hy j hji

theorem holds_of_set {y : Board ι} {i j : ι} {p : Phase} {s : Slot}
    (hp : p.holds = true → (y.phase i).holds = true) (hj : ((y.set i p s).phase j).holds = true) :
    (y.phase j).holds = true :=
  forall_set (P := fun j q => q.holds = true → (y.phase j).holds = true) hp (fun _ _ h => h) s j hj

/-- An attempt that ends up without a claim makes no new holder. -/
theorem holds_of_set_of_false {y : Board ι} {i j : ι} {p : Phase} {s : Slot} (hp : p.holds = false)
    (hj : ((y.set i p s).phase j).holds = true) : (y.phase j).holds = true :=
  holds_of_set (fun h => absurd (hp.symm.trans h) Bool.false_ne_true) hj

/-- What is true of all holders of claims and of the attempt that moves stays true. -/
theorem forall_holds_set {Q : ι → Prop} {y : Board ι} {i : ι}
    (hy : ∀ j, (y.phase j).holds = true → Q j) (hi : Q i) (p : Phase) (s : Slot) (j : ι)
    (hj : ((y.set i p s).phase j).holds = true) : Q j :=
  forall_set (P := fun j q => q.holds = true → Q j) (fun _ => hi) (fun j _ => hy j) s j hj

theorem pending_of_set {y : Board ι} {i j : ι} {p : Phase} {s : Slot} {q : Option Instant}
    (hp : p.pending = none ∨ p.pending = (y.phase i).pending)
    (hj : ((y.set i p s).phase j).pending = some q) : (y.phase j).pending = some q := by
  have hi : p.pending = some q → (y.phase i).pending = some q := by
    intro hq
    rcases hp with hnone | hsame
    · rw [hnone] at hq
      cases hq
    · exact hsame.symm.trans hq
  exact forall_set (P := fun j p => p.pending = some q → (y.phase j).pending = some q) hi
    (fun _ _ h => h) s j hj

variable [Charsets]

/-- An attempt about the key moves. -/
def step (a : ι → Attempt) (n : Int) (k : Key) (i : ι) (y : Board ι) : Board ι :=
  if (a i).target? = some k then
    y.set i ((a i).move n (y.phase i) y.slot).1 ((a i).move n (y.phase i) y.slot).2
  else y

theorem step_of_target {i : ι} (h : (a i).target? = some k) (y : Board ι) :
    y.step a n k i =
      y.set i ((a i).move n (y.phase i) y.slot).1 ((a i).move n (y.phase i) y.slot).2 :=
  if_pos h

def run (a : ι → Attempt) (n : Int) (k : Key) (schedule : List ι) (y : Board ι) : Board ι :=
  schedule.foldl (fun y i => y.step a n k i) y

theorem run_append (schedule schedule' : List ι) (y : Board ι) :
    y.run a n k (schedule ++ schedule') = (y.run a n k schedule).run a n k schedule' :=
  List.foldl_append

/-- An attempt that nobody disturbs acquires its claim. -/
theorem run_claim {y : Board ι} {i : ι} (htarget : (a i).target? = some k)
    (hp : y.phase i = .resolving) (hs : y.slot.recent (a i).now n = false) :
    y.run a n k [i, i, i] =
      y.set i (.delivering (y.slot.map Stamp.time)) (some (.ofInstant (a i).now)) := by
  have hresolved : y.step a n k i = y.set i .checking y.slot := by
    rw [step_of_target htarget, hp]
    rfl
  have hchecked : (y.set i .checking y.slot).step a n k i = y.set i .claiming y.slot := by
    rw [step_of_target htarget, set_phase_self, set_slot, set_set]
    simp only [Attempt.move, hs, Bool.false_eq_true, if_false]
  have hclaimed : (y.set i .claiming y.slot).step a n k i =
      y.set i (.delivering (y.slot.map Stamp.time)) (some (.ofInstant (a i).now)) := by
    rw [step_of_target htarget, set_phase_self, set_slot, set_set]
    simp only [Attempt.move, hs, Bool.false_eq_true, if_false]
  show ((y.step a n k i).step a n k i).step a n k i = _
  rw [hresolved, hchecked, hclaimed]

/-- An attempt whose delivery succeeds records its reply, whatever has been recorded meanwhile. -/
theorem run_deliver {y : Board ι} {i : ι} (htarget : (a i).target? = some k)
    {previous : Option Instant} (hp : y.phase i = .delivering previous)
    (hok : (a i).delivery = .ok ()) :
    y.run a n k [i, i] = y.set i (.ended (.ok .sent)) (some (.ofInstant (a i).now)) := by
  have hdelivered : y.step a n k i = y.set i .recording y.slot := by
    rw [step_of_target htarget, hp]
    simp only [Attempt.move, hok]
  have hrecorded : (y.set i .recording y.slot).step a n k i =
      y.set i (.ended (.ok .sent)) (some (.ofInstant (a i).now)) := by
    rw [step_of_target htarget, set_phase_self, set_set]
    rfl
  show (y.step a n k i).step a n k i = _
  rw [hdelivered, hrecorded]

theorem run_induction {I : Board ι → Prop}
    (hmove : ∀ y i p s, I y → (a i).target? = some k → (a i).Moves n (y.phase i) y.slot p s →
      I (y.set i p s))
    (schedule : List ι) {y : Board ι} (hy : I y) : I (y.run a n k schedule) := by
  induction schedule generalizing y with
  | nil => exact hy
  | cons i schedule ih =>
    refine ih ?_
    show I (y.step a n k i)
    unfold step
    split
    · rename_i htarget
      exact hmove y i _ _ hy htarget ((a i).moves_move n _ _)
    · exact hy

/-- As `run_induction`, for a race from its start. -/
theorem run_start_induction {I : Board ι → Prop} {s : Slot}
    (hmove : ∀ y i p s, (∀ j, (y.phase j).Allowed (a j)) → I y → (a i).target? = some k →
      (a i).Moves n (y.phase i) y.slot p s → I (y.set i p s))
    (hstart : I (start s)) (schedule : List ι) :
    (∀ i, (((start s).run a n k schedule).phase i).Allowed (a i)) ∧
      I ((start s).run a n k schedule) := by
  refine run_induction (I := fun y => (∀ i, (y.phase i).Allowed (a i)) ∧ I y)
    (fun y i p s ⟨hallowed, hy⟩ htarget hmoves => ?_) schedule ⟨fun _ => trivial, hstart⟩
  have hset : ∀ j, ((y.set i p s).phase j).Allowed (a j) :=
    forall_set (P := fun j q => q.Allowed (a j)) (hmoves.allowed (hallowed i))
      (fun j _ => hallowed j) s
  exact ⟨hset, hmove y i p s hallowed hy htarget hmoves⟩

end Moves

/-! ## 3. Boards and races -/

variable [Charsets]

/-- The board shows the attempts about its key, and its slot. The other attempts are about other
keys. -/
structure Shows (y : Board ι) (a : ι → Attempt) (interval : Interval) (k : Key) (x : Race ι) :
    Prop where
  slot : x.state.Holds k y.slot
  about : ∀ i e, (a i).prospect = .errand e → (a i).key e = k →
    x.talk i = (y.phase i).talk (a i) interval e ∧
      (x.heard i).foldl Responder.claimAfter false = (y.phase i).holds
  others : ∀ i, (a i).target? ≠ some k →
    x.talk i = (a i).talk interval ∨ (x.talk i).AsksOnly (Attempt.Avoids k)

variable {x : Race ι} {y : Board ι}

theorem shows_start {b : Backend} {s : Slot} (hb : b.Holds k s) :
    (start s).Shows a interval k (Interleaving.start (fun i => (a i).talk interval) b) where
  slot := hb
  about _ _ _ _ := ⟨rfl, rfl⟩
  others _ _ := .inl rfl

theorem Shows.result?_eq_some (h : y.Shows a interval k x) {i : ι} (hi : (a i).target? = some k)
    {r : Except Failure Outcome} : x.result? i = some r ↔ y.phase i = .ended r := by
  obtain ⟨e, hprospect, hkey⟩ := Attempt.target?_eq_some.mp hi
  rw [Interleaving.result?, (h.about i e hprospect hkey).1]
  cases y.phase i with
  | ended result => simp [Phase.talk, Dialogue.result?]
  | checking =>
    rw [Phase.talk, Attempt.resolved, hprospect]
    simp [Responder.answer, Dialogue.result?]
  | resolving => simp [Phase.talk, Attempt.talk, Responder.process, Dialogue.result?]
  | claiming => simp [Phase.talk, Dialogue.result?]
  | delivering previous => simp [Phase.talk, Responder.deliver, Dialogue.result?]
  | releasing previous e => simp [Phase.talk, Dialogue.result?]
  | recording => simp [Phase.talk, Dialogue.result?]

/-- Whoever has sent its reply keeps its claim. -/
theorem Shows.holds_of_sent (h : y.Shows a interval k x) {i : ι} (hi : (a i).target? = some k)
    (hsent : x.result? i = some (.ok .sent)) : (y.phase i).holds = true := by
  rw [(h.result?_eq_some hi).mp hsent]
  rfl

theorem Shows.result_cases (h : y.Shows a interval k x) {i : ι} (hi : (a i).target? = some k)
    (hallowed : (y.phase i).Allowed (a i)) {r : Except Failure Outcome}
    (hr : x.result? i = some r) :
    r = .ok .suppressed ∨ r = .ok .sent ∧ (a i).delivery = .ok () ∨
      ∃ e, r = .error (.delivery e) ∧ (a i).delivery = .error e := by
  rwa [(h.result?_eq_some hi).mp hr] at hallowed

/-- Who is through and still holds a claim has sent its reply. -/
theorem Shows.sent_of_holds (h : y.Shows a interval k x) {i : ι} (hi : (a i).target? = some k)
    (hallowed : (y.phase i).Allowed (a i)) (hdone : (x.result? i).isSome)
    (hholds : (y.phase i).holds = true) : x.result? i = some (.ok .sent) := by
  obtain ⟨r, hr⟩ := Option.isSome_iff_exists.mp hdone
  rw [(h.result?_eq_some hi).mp hr] at hholds
  rcases h.result_cases hi hallowed hr with rfl | ⟨rfl, -⟩ | ⟨e, rfl, -⟩
  · cases hholds
  · exact hr
  · cases hholds

theorem Shows.holdsClaim_iff (h : y.Shows a interval k x) {i : ι} (hi : (a i).target? = some k) :
    Responder.HoldsClaim (x.heard i) ↔ (y.phase i).holds = true := by
  obtain ⟨e, hprospect, hkey⟩ := Attempt.target?_eq_some.mp hi
  rw [Responder.HoldsClaim, (h.about i e hprospect hkey).2]

variable [DecidableEq ι]

/-- An attempt about the key makes its move. -/
theorem Shows.step_of_target (hn : interval.IsSeconds n) (h : y.Shows a interval k x) {i : ι}
    (hi : (a i).target? = some k) :
    (y.set i ((a i).move n (y.phase i) y.slot).1 ((a i).move n (y.phase i) y.slot).2).Shows a
      interval k (x.step (fun i => (a i).components.serve) i) := by
  obtain ⟨e, hprospect, rfl⟩ := Attempt.target?_eq_some.mp hi
  obtain ⟨htalk, hclaim⟩ := h.about i e hprospect rfl
  obtain ⟨htalk', hslot, hclaim'⟩ := Attempt.advance_phase hn hprospect h.slot (y.phase i)
  rw [← htalk] at htalk' hslot hclaim'
  refine ⟨hslot, fun j e' hprospect' hkey => ?_, fun j hj => ?_⟩
  · by_cases hji : j = i
    · subst hji
      -- an attempt has one errand only
      have he : e' = e := by
        rw [hprospect] at hprospect'
        exact (Attempt.Prospect.errand.inj hprospect').symm
      subst he
      simp only [Interleaving.step, Function.update_self, List.foldl_append, hclaim, set_phase_self]
      exact ⟨htalk', hclaim'⟩
    · simp only [Interleaving.step, Function.update_of_ne hji, set_phase_of_ne _ hji]
      exact h.about j e' hprospect' hkey
  · have hji : j ≠ i := by
      rintro rfl
      exact hj hi
    simp only [Interleaving.step, Function.update_of_ne hji]
    exact h.others j hj

/-- An attempt about another key leaves the board alone. -/
theorem Shows.step_of_ne (h : y.Shows a interval k x) {i : ι} (hi : (a i).target? ≠ some k) :
    y.Shows a interval k (x.step (fun i => (a i).components.serve) i) := by
  have hafter : ((x.talk i).advance (a i).components.serve x.state).1.AsksOnly (Attempt.Avoids k) ∧
      ((x.talk i).advance (a i).components.serve x.state).2.2.Holds k y.slot := by
    -- the first question is about the policy, and after it the attempt avoids the key
    rcases h.others i hi with htalk | havoids
    · rw [htalk, Attempt.advance_talk]
      exact ⟨Attempt.resolved_avoids hi interval, h.slot⟩
    · exact ⟨havoids.advance _, havoids.advance_state (I := fun b : Backend => b.Holds k y.slot)
        (fun q b => (a i).serve_holds q b) h.slot⟩
  refine ⟨hafter.2, fun j e hprospect hkey => ?_, fun j hj => ?_⟩
  · have hji : j ≠ i := by
      rintro rfl
      exact hi (Attempt.target?_eq_some.mpr ⟨e, hprospect, hkey⟩)
    simp only [Interleaving.step, Function.update_of_ne hji]
    exact h.about j e hprospect hkey
  · by_cases hji : j = i
    · subst hji
      simp only [Interleaving.step, Function.update_self]
      exact .inr hafter.1
    · simp only [Interleaving.step, Function.update_of_ne hji]
      exact h.others j hj

theorem Shows.run (hn : interval.IsSeconds n) (h : y.Shows a interval k x) (schedule : List ι) :
    (y.run a n k schedule).Shows a interval k
      (x.run (fun i => (a i).components.serve) schedule) := by
  induction schedule generalizing x y with
  | nil => exact h
  | cons i schedule ih =>
    refine ih ?_
    show (y.step a n k i).Shows a interval k (x.step _ i)
    unfold Board.step
    split
    · rename_i hi
      exact h.step_of_target hn hi
    · rename_i hi
      exact h.step_of_ne hi

/-- What a schedule makes of a race is on the board. -/
theorem shows_race (hn : interval.IsSeconds n) {b : Backend} {s : Slot} (hb : b.Holds k s)
    (schedule : List ι) :
    ((start s).run a n k schedule).Shows a interval k (Attempt.race a interval b schedule) :=
  (shows_start hb).run hn schedule

end Board
end Autoresponder
