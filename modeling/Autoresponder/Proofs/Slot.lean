import Autoresponder.Suppression.Store
/-!
# What a store holds for one key

A table and a key/value server keep their records in different ways, but a call sees and changes the
record of its own key only, and does the same with it in both. This module says what that is; the
modules for the kinds of stores say how each keeps to it.

1. A `Slot` is what a store holds for one key: nothing, or a whole second. Other software may have
   written the second in a spelling of its own; a release does not recognize it then, but every
   other call does.
2. `Slot.answer` and `Slot.after` say what each of the four calls answers and leaves behind, in
   integers without bounds.
3. The times and intervals that there are need no more than 64 bits, and their differences no more
   than 53 (`Instant.seconds_bounds`, `Interval.wholeSeconds_bounds`).
4. Under an interval of whole seconds a check and a claim make the same comparison
   (`Slot.suppresses_eq`, `Slot.blocks_eq`).
-/

namespace Autoresponder

theorem Instant.valid_seconds (t : Instant) : Instant.Valid t.seconds 0 :=
  Instant.valid_zero t.valid

/-! ## 1. Slots -/

/-- A second that a store holds. -/
structure Stamp where
  second : Int
  valid : Instant.Valid second 0
  /-- The second is written as the responder writes it. -/
  own : Bool
  deriving DecidableEq, Repr

namespace Stamp

/-- The second as a time. -/
def time (x : Stamp) : Instant := ⟨x.second, 0, x.valid⟩

/-- What a claim or a record at a time leaves behind. -/
def ofInstant (t : Instant) : Stamp := ⟨t.seconds, t.valid_seconds, true⟩

/-- The whole seconds from the stamp to a time. -/
def age (x : Stamp) (now : Instant) : Int := now.seconds - x.second

end Stamp

/-- What a store holds for one key. -/
abbrev Slot : Type := Option Stamp

namespace Slot

/-- The check: the exact interval is not over. -/
def suppresses (s : Slot) (now : Instant) (interval : Interval) : Bool :=
  s.any fun x => x.age now * nanosPerSecond < interval.nanoseconds

/-- The test of a claim: the whole seconds of the interval are not over. -/
def blocks (s : Slot) (now : Instant) (interval : Interval) : Bool :=
  s.any fun x => x.age now < interval.wholeSeconds

/-! ## 2. Calls -/

/-- What a call answers. -/
def answer : (c : StoreCall) → Slot → c.Answer
  | .check _ now interval, s => s.suppresses now interval
  | .claim _ now interval, s =>
    if s.blocks now interval then .suppressed else .acquired now.truncate (s.map Stamp.time)
  | .release _ _ _, _ => ()
  | .record _ _, _ => ()

/-- What a call leaves behind. -/
def after : StoreCall → Slot → Slot
  | .check _ _ _, s => s
  | .claim _ now interval, s => if s.blocks now interval then s else some (.ofInstant now)
  | .release _ claimedAt previous, s =>
    if s = some (.ofInstant claimedAt) then previous.map .ofInstant else s
  | .record _ now, _ => some (.ofInstant now)

/-- A claim is suppressed where the slot blocks it. -/
theorem answer_claim_eq_suppressed {s : Slot} {k : Key} {now : Instant} {interval : Interval} :
    answer (.claim k now interval) s = Claim.suppressed ↔ s.blocks now interval = true := by
  show (if s.blocks now interval then Claim.suppressed
    else .acquired now.truncate (s.map Stamp.time)) =
    .suppressed ↔ _
  cases s.blocks now interval <;> simp

/-- A claim is acquired where nothing blocks it, and then for the second of the claim. -/
theorem answer_claim_eq_acquired {s : Slot} {k : Key} {now claimedAt : Instant}
    {interval : Interval} {previous : Option Instant} :
    answer (.claim k now interval) s = Claim.acquired claimedAt previous ↔
      s.blocks now interval = false ∧ now.truncate = claimedAt ∧ s.map Stamp.time = previous := by
  show (if s.blocks now interval then Claim.suppressed
    else .acquired now.truncate (s.map Stamp.time)) =
    .acquired claimedAt previous ↔ _
  cases s.blocks now interval <;> simp

end Slot

/-! ## 3. Times and intervals in 64 bits -/

namespace Instant

theorem seconds_bounds (t : Instant) : -8334601228800 ≤ t.seconds ∧ t.seconds ≤ 8210266876799 :=
  ⟨t.valid.1, t.valid.2.1⟩

end Instant

theorem Stamp.second_bounds (x : Stamp) : -8334601228800 ≤ x.second ∧ x.second ≤ 8210266876799 :=
  x.time.seconds_bounds

theorem Stamp.ofInstant_time (x : Stamp) (h : x.own = true) : Stamp.ofInstant x.time = x := by
  obtain ⟨second, valid, own⟩ := x
  subst h
  rfl

theorem Stamp.ofInstant_truncate (t : Instant) : ofInstant t.truncate = ofInstant t := rfl

theorem Stamp.ofSeconds?_second (x : Stamp) : Instant.ofSeconds? x.second = some x.time :=
  dif_pos x.valid

theorem Stamp.exists_of_ofSeconds? {n : Int} {t : Instant} (h : Instant.ofSeconds? n = some t)
    (own : Bool) :
    ∃ x : Stamp, x.second = n ∧ x.own = own ∧ x.time = t := by
  unfold Instant.ofSeconds? Instant.of? at h
  split at h
  · rename_i hvalid
    exact ⟨⟨n, hvalid, own⟩, rfl, rfl, Option.some.inj h⟩
  · cases h

/-- Between whole seconds no leap second is seen. -/
theorem Instant.since_truncate (now last : Instant) :
    now.truncate.since last.truncate = (now.seconds - last.seconds) * nanosPerSecond := by
  have hleap : now.truncate.leapSeconds last.truncate = 0 := by
    simp [Instant.leapSeconds, Instant.inLeapSecond, Instant.truncate, nanosPerSecond]
  rw [Instant.since, hleap, Int.add_zero]
  simp [Instant.truncate]

/-- Records hold whole seconds. -/
theorem Record.suppresses_truncate (x : Stamp) (now : Instant) (interval : Interval) :
    Record.suppresses ⟨x.time⟩ now.truncate interval =
      decide (x.age now * nanosPerSecond < interval.nanoseconds) := by
  have hsince : now.truncate.since x.time = x.age now * nanosPerSecond := now.since_truncate x.time
  rw [Record.suppresses, hsince]

theorem Interval.wholeSeconds_bounds (d : Interval) :
    -9223372036854775 ≤ d.wholeSeconds ∧ d.wholeSeconds ≤ 9223372036854775 := by
  obtain ⟨hlow, hhigh⟩ := d.inRange
  unfold Interval.bound at hlow hhigh
  unfold Interval.wholeSeconds nanosPerSecond
  rw [Int.tdiv_eq_ediv, Int.sign_natCast_of_ne_zero (by decide)]
  split <;> omega

/-! ## 4. Intervals of whole seconds -/

/-- An interval without a fraction of a second. -/
def Interval.IsSeconds (d : Interval) (n : Int) : Prop := d.nanoseconds = n * nanosPerSecond

instance (d : Interval) (n : Int) : Decidable (d.IsSeconds n) := Int.instDecidableEq _ _

theorem Interval.IsSeconds.wholeSeconds_eq {d : Interval} {n : Int} (h : d.IsSeconds n) :
    d.wholeSeconds = n := by
  rw [Interval.wholeSeconds, h]
  exact Int.mul_tdiv_cancel n (by decide)

namespace Slot

/-- The second in a slot is less than some seconds ago. -/
def recent (s : Slot) (now : Instant) (n : Int) : Bool := s.any fun x => x.age now < n

theorem recent_ofInstant (t now : Instant) (n : Int) :
    recent (some (.ofInstant t)) now n = decide (now.seconds - t.seconds < n) := rfl

/-- Only the time in a slot matters, and not its spelling. -/
theorem recent_congr {s s' : Slot} (h : s.map Stamp.time = s'.map Stamp.time) (now : Instant)
    (n : Int) : s.recent now n = s'.recent now n := by
  have htime : ∀ s : Slot, s.recent now n =
      (s.map Stamp.time).any fun t => now.seconds - t.seconds < n := by
    intro s
    cases s <;> rfl
  rw [htime s, htime s', h]

theorem suppresses_eq {d : Interval} {n : Int} (h : d.IsSeconds n) (s : Slot) (now : Instant) :
    s.suppresses now d = s.recent now n := by
  unfold suppresses recent
  congr 1
  funext x
  rw [decide_eq_decide, h]
  exact Int.mul_lt_mul_right (by decide)

theorem blocks_eq {d : Interval} {n : Int} (h : d.IsSeconds n) (s : Slot) (now : Instant) :
    s.blocks now d = s.recent now n := by
  rw [blocks, h.wholeSeconds_eq, recent]

end Slot
end Autoresponder
