import Autoresponder.Proofs.Exclusion
import Autoresponder.Proofs.Spacing
import Mathlib.Data.Set.Finite.Lemmas
/-!
# Failed attempts that overlap

A failed attempt takes its claim back and restores what the claim has replaced. What it has replaced
may itself be the claim of an attempt that fails. If that one was released first, its release has
found the later claim and done nothing, and the later release restores the time of a reply that
nobody has sent.

1. An `Overlap` is what this takes: two attempts that fail, the first an interval behind the record
   and the second an interval behind the first. Whoever would deliver a reply has to come early
   enough to be kept from it by the second one.
2. Without two such attempts a board has at most one claim at a time (`Board.Alone`) until somebody
   claims who will deliver (`Board.Committed`).
3. With two of them, but with somebody whom none of the failed claims keeps from claiming
   (`Board.Unreached`), a reply is sent in the end.
4. With an overlap there is a schedule that leaves the time of the first attempt behind
   (`Board.run_overlapSchedule`). So attempts that send nothing leave no trace exactly where nothing
   overlaps (`Attempt.traceless_iff`).
-/

namespace Autoresponder

variable {ι : Type} {a : ι → Attempt} {n : Int} {k : Key} {before : Slot}

/-! ## 1. Overlaps -/

namespace Attempt

/-- The reply of the attempt is not delivered. -/
def Fails (a : Attempt) : Prop := ∃ e, a.delivery = .error e

theorem Fails.not_ok {a : Attempt} (h : a.Fails) : a.delivery ≠ .ok () := by
  obtain ⟨e, he⟩ := h
  rw [he]
  exact nofun

/-- If all attempts are through and none has sent its reply, the record of the key is the one of the
start. -/
def Traceless (k : Key) (record : Option Record) (x : Race ι) : Prop :=
  (∀ i, (x.result? i).isSome) → (∀ i, x.result? i ≠ some (.ok .sent)) →
    (x.state.get k).1 = .ok record

/-- Two attempts that fail, each an interval behind what it replaces. All attempts that would
deliver their replies come less than an interval after the second one. -/
structure Overlap (a : ι → Attempt) (n : Int) (record : Option Record) (i j : ι) : Prop where
  fails_first : (a i).Fails
  fails_second : (a j).Fails
  behind_record : ∀ r ∈ record, r.lastSent.seconds + n ≤ (a i).now.seconds
  behind_first : (a i).now.seconds + n ≤ (a j).now.seconds
  reached : ∀ l, (a l).delivery = .ok () → (a l).now.seconds < (a j).now.seconds + n

/-- Of the attempts that fail, one has the last time. -/
theorem exists_last_fails [Finite ι] (h : ∃ i, (a i).Fails) :
    ∃ j, (a j).Fails ∧ ∀ l, (a l).Fails → (a l).now.seconds ≤ (a j).now.seconds :=
  Set.exists_max_image {i | (a i).Fails} (fun i => (a i).now.seconds) (Set.toFinite _) h

end Attempt

open Attempt (Fails)

/-- A slot keeps nobody from claiming who comes an interval after its record. -/
theorem Slot.recent_eq_false_iff {s : Slot} {now : Instant} :
    s.recent now n = false ↔
      ∀ r ∈ s.map (fun x => (⟨x.time⟩ : Record)), r.lastSent.seconds + n ≤ now.seconds := by
  cases s with
  | none => exact ⟨fun _ _ hr => (nomatch hr), fun _ => rfl⟩
  | some x =>
    have hage : Slot.recent (some x) now n = false ↔ ¬x.age now < n := decide_eq_false_iff_not
    rw [hage, Option.map_some]
    constructor
    · rintro hnot r ⟨⟩
      exact Int.add_le_of_le_sub_left (Int.not_lt.mp hnot)
    · intro hall hlt
      have hle : x.second + n ≤ now.seconds := hall _ rfl
      unfold Stamp.age at hlt
      omega

theorem Slot.recent_ofInstant_eq_false {t now : Instant} :
    recent (some (.ofInstant t)) now n = false ↔ t.seconds + n ≤ now.seconds := by
  rw [recent_ofInstant, decide_eq_false_iff_not]
  omega

/-- Nobody is suppressed by a slot that lets it claim. -/
theorem Attempt.Moves.ne_suppressed {a : Attempt} {p p' : Phase} {s s' : Slot}
    (hmoves : a.Moves n p s p' s') (hfree : s.recent a.now n = false)
    (hp : p ≠ .ended (.ok .suppressed)) : p' ≠ .ended (.ok .suppressed) := by
  cases hmoves with
  | resolved => exact nofun
  | found _ h =>
    rw [hfree] at h
    cases h
  | checked => exact nofun
  | overtaken _ h =>
    rw [hfree] at h
    cases h
  | claimed => exact nofun
  | failed => exact nofun
  | delivered => exact nofun
  | released => exact nofun
  | overwritten => exact nofun
  | recorded => exact nofun
  | rested => exact hp

namespace Board

/-! ## 2. One claim at a time -/

/-- Somebody has a claim and will deliver its reply. -/
def Committed (a : ι → Attempt) (y : Board ι) : Prop :=
  ∃ i, (y.phase i).holds = true ∧ (a i).delivery = .ok ()

/-- Nobody has a claim, and the record is what it was at the start. -/
structure Untouched (before : Slot) (y : Board ι) : Prop where
  nobody : ∀ i, (y.phase i).holds = false
  record : y.slot.map Stamp.time = before.map Stamp.time

/-- At most one attempt has a claim. It fails, and will restore the record of the start. -/
def Alone (a : ι → Attempt) (n : Int) (before : Slot) (y : Board ι) : Prop :=
  y.Untouched before ∨
    ∃ h, (a h).Fails ∧ before.recent (a h).now n = false ∧ y.HeldBy a before h

/-- Of two attempts that fail, the second never comes an interval after the first, if the first can
claim. -/
def Unpaired (a : ι → Attempt) (n : Int) (before : Slot) : Prop :=
  ∀ i j, (a i).Fails → before.recent (a i).now n = false → (a j).Fails →
    (a j).now.seconds < (a i).now.seconds + n

variable [DecidableEq ι] {y : Board ι} {i h : ι} {p : Phase} {s : Slot}

/-- Whoever has a claim and delivers keeps the claim. -/
theorem Committed.effect (hy : y.Committed a) (heffect : (a i).Effect n (y.phase i) y.slot p s) :
    (y.set i p s).Committed a := by
  obtain ⟨f, hholds, hok⟩ := hy
  refine ⟨f, ?_, hok⟩
  by_cases hfi : f = i
  · subst hfi
    rw [set_phase_self]
    generalize y.phase f = q at heffect hholds
    cases heffect with
    | quiet _ hsame _ => rw [hsame, hholds]
    | claim => rfl
    | release _ _ _ _ _ e he =>
      rw [hok] at he
      cases he
    | record _ _ hp _ _ => exact hp
  · rw [set_phase_of_ne _ hfi]
    exact hholds

theorem committed_of_holds (hp : p.holds = true) (hok : (a i).delivery = .ok ()) :
    (y.set i p s).Committed a :=
  ⟨i, by rw [set_phase_self, hp], hok⟩

/-- The first claim is that of somebody who delivers, or it is the only one. -/
theorem Untouched.effect (hy : y.Untouched before)
    (heffect : (a i).Effect n (y.phase i) y.slot p s) :
    (y.set i p s).Committed a ∨ (y.set i p s).Alone a n before := by
  have hnobody := hy.nobody i
  have hquiet : ∀ p : Phase, p.holds = false → (y.set i p y.slot).Untouched before := by
    intro p hp
    exact ⟨forall_set (P := fun _ q => q.holds = false) hp (fun j _ => hy.nobody j) _, hy.record⟩
  have hclaim := heldBy_of_claim (a := a) (i := i) hy.nobody hy.record
  have hrecord := hy.record
  generalize y.phase i = q at heffect hnobody
  generalize y.slot = t at heffect hquiet hclaim hrecord
  cases heffect with
  | quiet _ hsame _ => exact .inr (.inl (hquiet p (hsame.trans hnobody)))
  | claim _ _ hfree =>
    cases hdelivery : (a i).delivery with
    | ok _ => exact .inl (committed_of_holds rfl hdelivery)
    | error e =>
      rw [Slot.recent_congr hrecord] at hfree
      exact .inr (.inr ⟨i, ⟨e, hdelivery⟩, hfree, hclaim⟩)
  | release _ _ hp =>
    rw [hnobody] at hp
    cases hp
  | record _ hp =>
    rw [hnobody] at hp
    cases hp

/-- A second claim is that of somebody who delivers. -/
theorem HeldBy.alone (hy : y.HeldBy a before h) (hfails : (a h).Fails)
    (hfree : before.recent (a h).now n = false) (hunpaired : Unpaired a n before)
    (heffect : (a i).Effect n (y.phase i) y.slot p s) :
    (y.set i p s).Committed a ∨ (y.set i p s).Alone a n before := by
  have hslot := hy.slot
  by_cases hi : i = h
  · -- the holder keeps its claim, or takes it back
    subst hi
    have hholder := hy.holder
    have hkeep := fun p hp hpending => hy.of_holds (p := p) hp hpending
    have hback := fun q hq e he p hp => hy.free_of_release (q := q) hq (e := e) he (p := p) hp
    generalize y.phase i = q at heffect hholder hkeep hback
    generalize y.slot = t at heffect hslot
    subst hslot
    cases heffect with
    | quiet _ hsame hpending =>
      exact .inr (.inr ⟨i, hfails, hfree, hkeep p (hsame.trans hholder) hpending⟩)
    | claim _ hp =>
      rw [hholder] at hp
      cases hp
    | release _ previous _ hpending hp e he =>
      rw [if_pos rfl]
      have hfreed := hback previous hpending e he p hp
      exact .inr (.inl ⟨hfreed.nobody, hfreed.record⟩)
    | record _ _ _ _ hok => exact absurd hok hfails.not_ok
  · have hnot : (y.phase i).holds = false :=
      Bool.eq_false_iff.mpr fun hholds => hi (hy.only i hholds)
    have hgo := fun p hp => hy.of_not_holds (p := p) hi hp
    generalize y.phase i = q at heffect hnot
    generalize y.slot = t at heffect hslot hgo
    subst hslot
    cases heffect with
    | quiet _ hsame _ => exact .inr (.inr ⟨h, hfails, hfree, hgo p (hsame.trans hnot)⟩)
    | claim _ _ hold =>
      cases hdelivery : (a i).delivery with
      | ok _ => exact .inl (committed_of_holds rfl hdelivery)
      | error e =>
        have hbehind := Slot.recent_ofInstant_eq_false.mp hold
        have hclose := hunpaired h i hfails hfree ⟨e, hdelivery⟩
        omega
    | release _ _ hp =>
      rw [hnot] at hp
      cases hp
    | record _ hp =>
      rw [hnot] at hp
      cases hp

theorem run_alone [Charsets] (hunpaired : Unpaired a n before) (schedule : List ι) :
    ((start before).run a n k schedule).Committed a ∨
      ((start before).run a n k schedule).Alone a n before := by
  refine (run_start_induction (k := k) (I := fun y => y.Committed a ∨ y.Alone a n before)
    (fun y i p s hallowed hy _ hmoves => ?_) (.inr (.inl ⟨fun _ => rfl, rfl⟩)) schedule).2
  have heffect := hmoves.effect (hallowed i)
  rcases hy with hy | hy | ⟨h, hfails, hfree, hy⟩
  · exact .inl (hy.effect heffect)
  · exact hy.effect heffect
  · exact hy.alone hfails hfree hunpaired heffect

/-! ## 3. Out of reach -/

/-- Nothing keeps an attempt from claiming: not the slot, and not what a release would restore. -/
structure Unreached (a : ι → Attempt) (n : Int) (l : ι) (y : Board ι) : Prop where
  slot : y.slot.recent (a l).now n = false
  pending : ∀ i q, (y.phase i).pending = some q →
    Slot.recent (q.map .ofInstant) (a l).now n = false
  unanswered : y.phase l ≠ .ended (.ok .suppressed)

/-- Failed attempts an interval before somebody do not come into its way. -/
theorem Unreached.effect {l : ι} (hy : y.Unreached a n l)
    (hbehind : ∀ f, (a f).Fails → (a f).now.seconds + n ≤ (a l).now.seconds)
    (heffect : (a i).Effect n (y.phase i) y.slot p s)
    (hunanswered : (y.set i p s).phase l ≠ .ended (.ok .suppressed)) :
    (y.set i p s).Committed a ∨ (y.set i p s).Unreached a n l := by
  have hslot := hy.slot
  have hpending := hy.pending
  have hsame : ∀ {p : Phase} {s : Slot}, p.pending = none ∨ p.pending = (y.phase i).pending →
      ∀ j q, ((y.set i p s).phase j).pending = some q →
        Slot.recent (q.map .ofInstant) (a l).now n = false :=
    fun hp j q hq => hy.pending j q (pending_of_set hp hq)
  have hrestored := hy.pending i
  generalize hphase : y.phase i = q at heffect hsame hrestored
  generalize ht : y.slot = t at heffect hslot
  cases heffect with
  | quiet _ _ hp => exact .inr ⟨hslot, hsame hp, hunanswered⟩
  | claim _ _ _ =>
    cases hdelivery : (a i).delivery with
    | ok _ => exact .inl (committed_of_holds rfl hdelivery)
    | error e =>
      refine .inr ⟨Slot.recent_ofInstant_eq_false.mpr (hbehind i ⟨e, hdelivery⟩), fun j q hq => ?_,
        hunanswered⟩
      by_cases hji : j = i
      · -- the new claim would restore what was in the slot
        subst hji
        rw [set_phase_self] at hq
        have hq : t.map Stamp.time = q := Option.some.inj hq
        rw [← hq, ← hslot]
        refine Slot.recent_congr ?_ _ _
        cases t <;> rfl
      · rw [set_phase_of_ne _ hji] at hq
        exact hpending j q hq
  | release _ previous _ hp hp' e he =>
    refine .inr ⟨?_, hsame (.inl (Phase.pending_eq_none hp')), hunanswered⟩
    rw [set_slot]
    split
    · exact hrestored previous hp
    · exact hslot
  | record _ _ hp' _ hok => exact .inl (committed_of_holds hp' hok)

theorem run_unreached [Charsets] {l : ι} (hfree : before.recent (a l).now n = false)
    (hbehind : ∀ f, (a f).Fails → (a f).now.seconds + n ≤ (a l).now.seconds) (schedule : List ι) :
    ((start before).run a n k schedule).Committed a ∨
      ((start before).run a n k schedule).Unreached a n l := by
  have hstart : (start before).Unreached a n l := by
    refine ⟨hfree, fun _ _ hq => ?_, fun hended => ?_⟩
    · cases hq
    · cases hended
  refine (run_start_induction (k := k) (I := fun y => y.Committed a ∨ y.Unreached a n l)
    (fun y i p s hallowed hy _ hmoves => ?_) (.inr hstart) schedule).2
  have heffect := hmoves.effect (hallowed i)
  rcases hy with hy | hy
  · exact .inl (hy.effect heffect)
  · refine hy.effect hbehind heffect ?_
    by_cases hli : l = i
    · subst hli
      rw [set_phase_self]
      exact hmoves.ne_suppressed hy.slot hy.unanswered
    · rw [set_phase_of_ne _ hli]
      exact hy.unanswered

/-! ## 4. Schedules that leave a trace -/

variable [Charsets]

/-- An attempt whose delivery fails takes its claim back, if it is still there. -/
theorem run_undelivered (htarget : (a i).target? = some k) {previous : Option Instant}
    (hp : y.phase i = .delivering previous) {e : DeliveryFailure}
    (he : (a i).delivery = .error e) :
    y.run a n k [i, i] = y.set i (.ended (.error (.delivery e)))
      (if y.slot = some (.ofInstant (a i).now) then previous.map .ofInstant else y.slot) := by
  have hfailed : y.step a n k i = y.set i (.releasing previous e) y.slot := by
    rw [step_of_target htarget, hp]
    simp only [Attempt.move, he]
  have hreleased : (y.set i (.releasing previous e) y.slot).step a n k i =
      y.set i (.ended (.error (.delivery e)))
        (if y.slot = some (.ofInstant (a i).now) then previous.map .ofInstant else y.slot) := by
    rw [step_of_target htarget, set_phase_self, set_slot, set_set]
    rfl
  show (y.step a n k i).step a n k i = _
  rw [hfailed, hreleased]

/-- An attempt that finds a recent record ends. -/
theorem run_found (htarget : (a i).target? = some k) (hp : y.phase i = .resolving)
    (hs : y.slot.recent (a i).now n = true) :
    y.run a n k [i, i] = y.set i (.ended (.ok .suppressed)) y.slot := by
  have hresolved : y.step a n k i = y.set i .checking y.slot := by
    rw [step_of_target htarget, hp]
    rfl
  have hfound : (y.set i .checking y.slot).step a n k i =
      y.set i (.ended (.ok .suppressed)) y.slot := by
    rw [step_of_target htarget, set_phase_self, set_slot, set_set]
    simp only [Attempt.move, hs, if_true]
  show (y.step a n k i).step a n k i = _
  rw [hresolved, hfound]

/-- As `run_found`, for attempts one after the other. -/
theorem run_all_found {ls : List ι} (hnodup : ls.Nodup) (htarget : ∀ l ∈ ls, (a l).target? = some k)
    (hp : ∀ l ∈ ls, y.phase l = .resolving) (hs : ∀ l ∈ ls, y.slot.recent (a l).now n = true) :
    (y.run a n k (ls.flatMap fun l => [l, l])).slot = y.slot ∧
      (∀ l ∈ ls, (y.run a n k (ls.flatMap fun l => [l, l])).phase l = .ended (.ok .suppressed)) ∧
      ∀ l, l ∉ ls → (y.run a n k (ls.flatMap fun l => [l, l])).phase l = y.phase l := by
  induction ls generalizing y with
  | nil => exact ⟨rfl, fun _ hl => (nomatch hl), fun _ _ => rfl⟩
  | cons m ls ih =>
    obtain ⟨hm, hnodup⟩ := List.nodup_cons.mp hnodup
    have hother : ∀ l ∈ ls, l ≠ m := fun l hl hlm => hm (hlm ▸ hl)
    have hrun := run_found (n := n) (htarget m List.mem_cons_self) (hp m List.mem_cons_self)
      (hs m List.mem_cons_self)
    obtain ⟨hslot, hin, hout⟩ :=
      ih (y := y.set m (.ended (.ok .suppressed)) y.slot) hnodup
        (fun l hl => htarget l (List.mem_cons_of_mem _ hl))
        (fun l hl => by rw [set_phase_of_ne _ (hother l hl), hp l (List.mem_cons_of_mem _ hl)])
        (fun l hl => hs l (List.mem_cons_of_mem _ hl))
    rw [List.flatMap_cons, run_append, hrun]
    refine ⟨hslot, fun l hl => ?_, fun l hl => ?_⟩
    · rcases List.mem_cons.mp hl with rfl | hl
      · rw [hout l hm, set_phase_self]
      · exact hin l hl
    · have hlm : l ≠ m := fun h => hl (h ▸ List.mem_cons_self)
      rw [hout l (fun h => hl (List.mem_cons_of_mem _ h)), set_phase_of_ne _ hlm]

/-- The claim of an attempt on top of that of another one. -/
def stacked (a : ι → Attempt) (before : Slot) (i j : ι) : Board ι :=
  ((start before).set i (.delivering (before.map Stamp.time)) (some (.ofInstant (a i).now))).set j
    (.delivering (some (Stamp.ofInstant (a i).now).time)) (some (.ofInstant (a j).now))

theorem run_stacked {j : ι} (htarget : ∀ l, (a l).target? = some k) (hij : i ≠ j)
    (hfree : before.recent (a i).now n = false)
    (hbehind : (a i).now.seconds + n ≤ (a j).now.seconds) :
    (start before).run a n k ([i, i, i] ++ [j, j, j]) = stacked a before i j := by
  rw [run_append, run_claim (htarget i) rfl hfree, run_claim (htarget j)]
  · rfl
  · rw [set_phase_of_ne _ hij.symm]
    rfl
  · exact Slot.recent_ofInstant_eq_false.mpr hbehind

/-- Two attempts claim one after the other, and fail in the same order. The others come in
between. -/
def overlapSchedule (i j : ι) (ls : List ι) : List ι :=
  [i, i, i] ++ [j, j, j] ++ (ls.flatMap (fun l => [l, l]) ++ ([i, i] ++ [j, j]))

/-- The second of the first attempt stays behind, and nobody has sent a reply. -/
theorem run_overlapSchedule {j : ι} {ls : List ι} (htarget : ∀ l, (a l).target? = some k)
    (hpos : 0 < n) (hi : (a i).Fails) (hj : (a j).Fails)
    (hfree : before.recent (a i).now n = false)
    (hbehind : (a i).now.seconds + n ≤ (a j).now.seconds) (hnodup : ls.Nodup) (hil : i ∉ ls)
    (hjl : j ∉ ls) (hreached : ∀ l ∈ ls, (a l).now.seconds < (a j).now.seconds + n) :
    ((start before).run a n k (overlapSchedule i j ls)).slot = some (.ofInstant (a i).now) ∧
      ∀ l ∈ i :: j :: ls, ∃ r, r ≠ .ok .sent ∧
        ((start before).run a n k (overlapSchedule i j ls)).phase l = .ended r := by
  obtain ⟨e, he⟩ := hi
  obtain ⟨e', he'⟩ := hj
  have hij : i ≠ j := by
    rintro rfl
    omega
  have hsecond : (some (.ofInstant (a j).now) : Slot) ≠ some (.ofInstant (a i).now) := by
    intro heq
    have hseconds : (a j).now.seconds = (a i).now.seconds :=
      congrArg Stamp.second (Option.some.inj heq)
    omega
  -- the others find the second claim
  have hresolving : ∀ l ∈ ls, (stacked a before i j).phase l = .resolving := by
    intro l hl
    have hli : l ≠ i := fun h => hil (h ▸ hl)
    have hlj : l ≠ j := fun h => hjl (h ▸ hl)
    rw [stacked, set_phase_of_ne _ hlj, set_phase_of_ne _ hli]
    rfl
  have hrecent : ∀ l ∈ ls, (stacked a before i j).slot.recent (a l).now n = true := by
    intro l hl
    have hlt := hreached l hl
    rw [stacked, set_slot, Slot.recent_ofInstant]
    exact decide_eq_true (by omega)
  obtain ⟨hslot, hin, hout⟩ :=
    run_all_found (n := n) hnodup (fun l _ => htarget l) hresolving hrecent
  unfold overlapSchedule
  rw [run_append, run_stacked htarget hij hfree hbehind, run_append]
  generalize (stacked a before i j).run a n k (ls.flatMap fun l => [l, l]) = y at hslot hin hout ⊢
  -- the first release finds the second claim, and the second one restores the first claim
  have hphase_i : y.phase i = .delivering (before.map Stamp.time) := by
    rw [hout i hil, stacked, set_phase_of_ne _ hij, set_phase_self]
  have hphase_j : y.phase j = .delivering (some (Stamp.ofInstant (a i).now).time) := by
    rw [hout j hjl, stacked, set_phase_self]
  have hfirst : y.run a n k [i, i] =
      y.set i (.ended (.error (.delivery e))) (some (.ofInstant (a j).now)) := by
    rw [run_undelivered (htarget i) hphase_i he, hslot, stacked, set_slot, if_neg hsecond]
  have hboth : y.run a n k ([i, i] ++ [j, j]) =
      (y.set i (.ended (.error (.delivery e))) (some (.ofInstant (a j).now))).set j
        (.ended (.error (.delivery e'))) (some (.ofInstant (a i).now)) := by
    rw [run_append, hfirst, run_undelivered (htarget j)
      (by rw [set_phase_of_ne _ hij.symm, hphase_j]) he', set_slot]
    exact congrArg _ (if_pos rfl)
  rw [hboth]
  refine ⟨rfl, fun l hl => ?_⟩
  by_cases hlj : l = j
  · subst hlj
    exact ⟨.error (.delivery e'), nofun, set_phase_self _ _ _ _⟩
  · by_cases hli : l = i
    · subst hli
      exact ⟨.error (.delivery e), nofun, by rw [set_phase_of_ne _ hlj, set_phase_self]⟩
    · have hl : l ∈ ls := by simpa [hli, hlj] using hl
      exact ⟨.ok .suppressed, nofun, by rw [set_phase_of_ne _ hlj, set_phase_of_ne _ hli, hin l hl]⟩

end Board

namespace Attempt

variable [DecidableEq ι] {interval : Interval} {b : Backend} {record : Option Record}

/-- The schedule of an overlap sends nothing, and changes the record. -/
theorem not_traceless_of_overlap [Charsets] (hn : interval.IsSeconds n) (hpos : 0 < n)
    (hb : b.Working) (hrecord : (b.get k).1 = .ok record) (htarget : ∀ l, (a l).target? = some k)
    {i j : ι} (h : Overlap a n record i j) {ls : List ι} (hnodup : ls.Nodup)
    (hls : ∀ l, l ∈ ls ↔ l ≠ i ∧ l ≠ j)
    (hreached : ∀ l ∈ ls, (a l).now.seconds < (a j).now.seconds + n) :
    ¬Traceless k record (race a interval b (Board.overlapSchedule i j ls)) := by
  obtain ⟨before, hholds, rfl⟩ := Backend.exists_holds hb hrecord
  have hshows := Board.shows_race (a := a) hn hholds (Board.overlapSchedule i j ls)
  have hfree := Slot.recent_eq_false_iff.mpr h.behind_record
  obtain ⟨hslot, hended⟩ := Board.run_overlapSchedule htarget hpos h.fails_first
    h.fails_second hfree h.behind_first hnodup (fun hi => ((hls i).mp hi).1 rfl)
    (fun hj => ((hls j).mp hj).2 rfl) hreached
  have hall : ∀ l, ∃ r, r ≠ .ok .sent ∧
      (race a interval b (Board.overlapSchedule i j ls)).result? l = some r := by
    intro l
    have hl : l ∈ i :: j :: ls := by
      by_cases hli : l = i
      · exact hli ▸ List.mem_cons_self
      · by_cases hlj : l = j
        · exact hlj ▸ List.mem_cons_of_mem _ List.mem_cons_self
        · exact List.mem_cons_of_mem _ (List.mem_cons_of_mem _ ((hls l).mpr ⟨hli, hlj⟩))
    obtain ⟨r, hr, hphase⟩ := hended l hl
    exact ⟨r, hr, (hshows.result?_eq_some (htarget l)).mpr hphase⟩
  intro htraceless
  have hsame := htraceless
    (fun l => by
      obtain ⟨r, -, hr⟩ := hall l
      exact Option.isSome_of_eq_some hr)
    (fun l hsent => by
      obtain ⟨r, hne, hr⟩ := hall l
      rw [hr] at hsent
      exact hne (Option.some.inj hsent))
  rw [Backend.get_of_holds hshows.slot, hslot] at hsame
  -- the time left behind is later than that of the record
  have hbehind : (a i).now.seconds + n ≤ (a i).now.seconds :=
    h.behind_record ⟨(Stamp.ofInstant (a i).now).time⟩ (Except.ok.inj hsame).symm
  omega

theorem traceless_of_not_overlap [Charsets] [Finite ι] (hn : interval.IsSeconds n) (hpos : 0 < n)
    (hb : b.Working) (hrecord : (b.get k).1 = .ok record) (htarget : ∀ l, (a l).target? = some k)
    (h : ∀ i j, ¬Overlap a n record i j) (schedule : List ι) :
    Traceless k record (race a interval b schedule) := by
  obtain ⟨before, hholds, rfl⟩ := Backend.exists_holds hb hrecord
  have hshows := Board.shows_race (a := a) hn hholds schedule
  have hallowed := (Board.run_start_induction (a := a) (n := n) (k := k) (s := before)
    (I := fun _ => True) (fun _ _ _ _ _ _ _ _ => trivial) trivial schedule).1
  intro hdone hnone
  have hsent : ∀ i, (((Board.start before).run a n k schedule).phase i).holds = true → False :=
    fun i hi => hnone i (hshows.sent_of_holds (htarget i) (hallowed i) (hdone i) hi)
  by_cases hunpaired : Board.Unpaired a n before
  · rcases Board.run_alone (k := k) hunpaired schedule with
      ⟨i, hi, -⟩ | huntouched | ⟨i, -, -, hheld⟩
    · exact (hsent i hi).elim
    · rw [Backend.get_of_holds hshows.slot]
      have hrecord := congrArg (Option.map Record.mk) huntouched.record
      rw [Option.map_map, Option.map_map] at hrecord
      exact congrArg Except.ok hrecord
    · exact (hsent i hheld.holder).elim
  · -- the last failed attempt does not overlap, so somebody is out of the reach of all of them
    unfold Board.Unpaired at hunpaired
    push Not at hunpaired
    obtain ⟨i, j, hi, hfree, hj, hbehind⟩ := hunpaired
    obtain ⟨m, hm, hlast⟩ := exists_last_fails ⟨j, hj⟩
    have hjm := hlast j hj
    have hrecord := Slot.recent_eq_false_iff.mp hfree
    obtain ⟨l, hok, hfar⟩ :
        ∃ l, (a l).delivery = .ok () ∧ (a m).now.seconds + n ≤ (a l).now.seconds := by
      by_contra hnot
      push Not at hnot
      exact h i m ⟨hi, hm, hrecord, by omega, hnot⟩
    have hfreel : before.recent (a l).now n = false := by
      refine Slot.recent_eq_false_iff.mpr fun r hr => ?_
      have hri := hrecord r hr
      omega
    have hbehindl : ∀ f, (a f).Fails → (a f).now.seconds + n ≤ (a l).now.seconds := by
      intro f hf
      have hfm := hlast f hf
      omega
    rcases Board.run_unreached (k := k) hfreel hbehindl schedule with ⟨i, hi, -⟩ | hunreached
    · exact (hsent i hi).elim
    · obtain ⟨r, hr⟩ := Option.isSome_iff_exists.mp (hdone l)
      have hphase := (hshows.result?_eq_some (htarget l)).mp hr
      rcases hshows.result_cases (htarget l) (hallowed l) hr with rfl | ⟨rfl, -⟩ | ⟨e, -, he⟩
      · exact absurd hphase hunreached.unanswered
      · exact absurd hr (hnone l)
      · rw [hok] at he
        cases he

/-- Two letters, ten seconds apart, that cannot be answered. -/
def twoFailures (later : Bool) : Attempt :=
  letter (if later then 10 else 0) (.error (.killed "sendmail".toList))

/-- Nobody is answered, and the time of the first letter stays behind. -/
theorem not_traceless_twoFailures :
    ¬Traceless (Key.of ann bob) none
      (race twoFailures tenSeconds (.table {})
        [false, false, false, true, true, true, false, false, true, true]) :=
  have hunlocked : (Backend.table {}).Working := rfl
  not_traceless_of_overlap (i := false) (j := true) tenSeconds_isSeconds (by decide) hunlocked
    (Backend.get_of_holds (Backend.blank_table.holds (Key.of ann bob)))
    (fun _ => letter_target? _ _)
    { fails_first := ⟨_, rfl⟩
      fails_second := ⟨_, rfl⟩
      behind_record := fun r hr => nomatch hr
      behind_first := by decide
      reached := fun l hl => nomatch hl }
    .nil (by decide) fun l hl => nomatch hl

/-- Attempts about one key that send no reply leave its record as it was, under every schedule,
unless two of them overlap. On a key/value server no value expires by itself meanwhile. -/
theorem traceless_iff [Charsets] [Finite ι] (hn : interval.IsSeconds n) (hpos : 0 < n)
    (hb : b.Working) (hrecord : (b.get k).1 = .ok record) (htarget : ∀ l, (a l).target? = some k) :
    (∀ schedule, Traceless k record (race a interval b schedule)) ↔
      ∀ i j, ¬Overlap a n record i j := by
  refine ⟨fun htraceless i j h => ?_, traceless_of_not_overlap hn hpos hb hrecord htarget⟩
  -- of the attempts that fail, the last one overlaps too, and it reaches all others
  obtain ⟨m, hm, hlast⟩ := exists_last_fails ⟨j, h.fails_second⟩
  have hjm := hlast j h.fails_second
  have hij := h.behind_first
  have hreached : ∀ l, (a l).now.seconds < (a m).now.seconds + n := by
    intro l
    cases hdelivery : (a l).delivery with
    | ok _ =>
      have hl := h.reached l hdelivery
      omega
    | error e =>
      have hl := hlast l ⟨e, hdelivery⟩
      omega
  have hoverlap : Overlap a n record i m :=
    { fails_first := h.fails_first
      fails_second := hm
      behind_record := h.behind_record
      behind_first := by omega
      reached := fun l _ => hreached l }
  have := Fintype.ofFinite ι
  refine not_traceless_of_overlap hn hpos hb hrecord htarget hoverlap
    (Finset.nodup_toList (Finset.univ.filter fun l => l ≠ i ∧ l ≠ m)) (fun l => ?_)
    (fun l _ => hreached l) (htraceless _)
  rw [Finset.mem_toList, Finset.mem_filter]
  exact ⟨fun hl => hl.2, fun hl => ⟨Finset.mem_univ l, hl⟩⟩

/-- Two letters that cannot be answered and come less than ten seconds apart. -/
def closeFailures (later : Bool) : Attempt :=
  letter (if later then 9 else 0) (.error (.killed "sendmail".toList))

theorem traceless_closeFailures :
    tenSeconds.IsSeconds 10 ∧ (0 : Int) < 10 ∧ (Backend.table {}).Working ∧
      ((Backend.table {}).get (Key.of ann bob)).1 = .ok none ∧
      (∀ l, (closeFailures l).target? = some (Key.of ann bob)) ∧
      ∀ schedule, Traceless (Key.of ann bob) none
        (race closeFailures tenSeconds (.table {}) schedule) := by
  have hget : ((Backend.table {}).get (Key.of ann bob)).1 = .ok none :=
    Backend.get_of_holds (Backend.blank_table.holds (Key.of ann bob))
  have htarget : ∀ l, (closeFailures l).target? = some (Key.of ann bob) :=
    fun _ => letter_target? _ _
  have hunlocked : (Backend.table {}).Working := rfl
  refine ⟨rfl, by decide, hunlocked, hget, htarget, ?_⟩
  refine (traceless_iff tenSeconds_isSeconds (by decide) hunlocked hget htarget).mpr fun i j h => ?_
  have hbehind := h.behind_first
  revert hbehind
  cases i <;> cases j <;> decide

end Attempt
end Autoresponder
