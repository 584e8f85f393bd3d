import Autoresponder.Proofs.Slot
import Autoresponder.Suppression.Table
/-!
# Slots of a table

A table that works keeps a slot for every key (`Table.Holds`). Its seconds are numbers of 64 bits,
in which the differences of two times are exact (`Table.blocks_encode`).

1. A read gives the slot as it is: `Table.get_of_holds`.
2. A call answers what its slot answers, and leaves behind what its slot leaves behind:
   `Table.call_holds`.
3. It leaves the slots of other keys alone: `Table.call_holds_of_ne`. What other software has
   written for them stays there too, whether it can be read or not: `Table.get_call_of_ne`.
-/

namespace Autoresponder.Table

variable {t : Table} {k : Key} {s : Slot}

/-- The table works and holds a slot for a key. In a table every second has one spelling. -/
structure Holds (t : Table) (k : Key) (s : Slot) : Prop where
  unlocked : t.locked = false
  row : Dictionary.find? k t.rows = s.map fun x => .seconds (Int64.ofInt x.second)
  own : ∀ x ∈ s, x.own = true

/-! ## 1. Reading -/

theorem toInt_encode (p : Instant) : (encode p).toInt = p.seconds := by
  have h := p.seconds_bounds
  exact Int64.toInt_ofInt_of_le (by omega) (by omega)

theorem toInt_ofInt_second (x : Stamp) : (Int64.ofInt x.second).toInt = x.second :=
  toInt_encode x.time

theorem encode_inj {a b : Instant} : encode a = encode b ↔ a.seconds = b.seconds := by
  constructor
  · intro h
    have hab := congrArg Int64.toInt h
    rwa [toInt_encode, toInt_encode] at hab
  · intro h
    rw [encode, encode, h]

/-- Differences of 64 bits are taken modulo 2⁶⁴. -/
def modulus : Nat := 18446744073709551616

/-- The test of a claim, with the difference in 64 bits. -/
theorem blocks_some (n : Int64) (now : Instant) (interval : Interval) :
    blocks (some n) (encode now) (Int64.ofInt interval.wholeSeconds) =
      decide (Int.bmod (now.seconds - n.toInt) modulus < interval.wholeSeconds) := by
  have hinterval := interval.wholeSeconds_bounds
  rw [blocks, Option.any_some, decide_eq_decide, Int64.lt_iff_toInt_lt, Int64.toInt_sub,
    toInt_encode, Int64.toInt_ofInt_of_le (by omega) (by omega)]
  rfl

/-- The test of a claim, in 64 bits and without bounds. -/
theorem blocks_encode (s : Slot) (now : Instant) (interval : Interval) :
    blocks (s.map fun x => Int64.ofInt x.second) (encode now) (Int64.ofInt interval.wholeSeconds) =
      s.blocks now interval := by
  cases s with
  | none => rfl
  | some x =>
    have hx := x.second_bounds
    have hnow := now.seconds_bounds
    -- the difference of two times does not leave the 64 bits
    have hage : Int.bmod (now.seconds - x.second) modulus = x.age now :=
      Int.bmod_eq_of_le (by unfold modulus; omega) (by unfold modulus; omega)
    rw [Option.map_some, blocks_some, toInt_ofInt_second, hage]
    rfl

theorem read_of_holds (h : t.Holds k s) :
    t.read k = .ok (s.map fun x => Int64.ofInt x.second) := by
  rw [read, h.row]
  cases s <;> rfl

theorem decode?_slot (s : Slot) :
    decode? (s.map fun x => Int64.ofInt x.second) = .ok (s.map Stamp.time) := by
  cases s with
  | none => rfl
  | some x =>
    simp only [Option.map_some, decode?, decode, toInt_ofInt_second, x.ofSeconds?_second]
    rfl

theorem get_of_holds (h : t.Holds k s) : t.get k = .ok (s.map fun x => ⟨x.time⟩) := by
  rw [get, read_of_holds h]
  show (decode? _).map _ = _
  rw [decode?_slot]
  cases s <;> rfl

/-- Every record that can be read is in a slot. -/
theorem exists_holds {r : Option Record} (hunlocked : t.locked = false)
    (hget : t.get k = .ok r) : ∃ s, t.Holds k s ∧ s.map (fun x => ⟨x.time⟩) = r := by
  unfold get read at hget
  cases hrow : Dictionary.find? k t.rows with
  | none =>
    rw [hrow] at hget
    cases hget
    exact ⟨none, ⟨hunlocked, hrow, fun x hx => nomatch hx⟩, rfl⟩
  | some cell =>
    rw [hrow] at hget
    cases cell with
    | other text => cases hget
    | seconds n =>
      simp only [decode?, decode] at hget
      cases htime : Instant.ofSeconds? n.toInt with
      | none =>
        rw [htime] at hget
        cases hget
      | some p =>
        rw [htime] at hget
        cases hget
        obtain ⟨x, hsecond, hown, rfl⟩ := Stamp.exists_of_ofSeconds? htime true
        refine ⟨some x, ⟨hunlocked, ?_, ?_⟩, rfl⟩
        · rw [hrow, Option.map_some, hsecond, Int64.ofInt_toInt]
        · rintro y ⟨⟩
          exact hown

/-! ## 2. Calls -/

theorem write_holds (hunlocked : t.locked = false) (k : Key) (p : Instant) :
    (t.write k (encode p)).Holds k (some (.ofInstant p)) where
  unlocked := hunlocked
  row := by
    rw [write, Dictionary.find?_put, if_pos rfl]
    rfl
  own := by
    intro x hx
    cases hx
    rfl

theorem remove_holds (hunlocked : t.locked = false) (k : Key) : (t.remove k).Holds k none where
  unlocked := hunlocked
  row := by
    rw [remove, Dictionary.find?_erase, if_pos rfl]
    rfl
  own := by
    intro x hx
    cases hx

theorem check_of_holds (h : t.Holds k s) (now : Instant) (interval : Interval) :
    t.check k now interval = .ok (s.suppresses now interval) := by
  rw [check, get_of_holds h]
  cases s with
  | none => rfl
  | some x => exact congrArg Except.ok (Record.suppresses_truncate x now interval)

/-- The row of a key is the one that a claim has written. -/
theorem row_eq_iff (h : t.Holds k s) (claimedAt : Instant) :
    Dictionary.find? k t.rows = some (.seconds (encode claimedAt)) ↔
      s = some (.ofInstant claimedAt) := by
  rw [h.row]
  cases s with
  | none => simp
  | some x =>
    have hx : Stamp.ofInstant x.time = x := x.ofInstant_time (h.own x rfl)
    constructor
    · intro heq
      have hrow : encode x.time = encode claimedAt := by
        simpa [encode, Stamp.time] using heq
      rw [← hx]
      simp only [Stamp.ofInstant, encode_inj.mp hrow]
    · intro heq
      cases heq
      rfl

theorem claim_of_holds (h : t.Holds k s) (now : Instant) (interval : Interval) :
    (t.claim k now interval).1 =
        .ok (if s.blocks now interval then .suppressed
          else .acquired now.truncate (s.map Stamp.time)) ∧
      (t.claim k now interval).2.Holds k
        (if s.blocks now interval then s else some (.ofInstant now)) := by
  unfold claim
  rw [h.unlocked, if_neg Bool.false_ne_true, read_of_holds h]
  dsimp only
  rw [blocks_encode, decode?_slot]
  split
  · exact ⟨rfl, h⟩
  · exact ⟨rfl, write_holds h.unlocked k now⟩

/-- What a claim does with a number that a slot need not hold. -/
theorem claim_of_seconds {n : Int64} (hunlocked : t.locked = false)
    (hrow : Dictionary.find? k t.rows = some (.seconds n)) (now : Instant) (interval : Interval) :
    t.claim k now interval =
      if Int.bmod (now.seconds - n.toInt) modulus < interval.wholeSeconds then (.ok .suppressed, t)
      else ((decode? (some n)).map (Claim.acquired now.truncate), t.write k (encode now)) := by
  have hread : t.read k = .ok (some n) := by rw [read, hrow]
  unfold claim
  rw [hunlocked, if_neg Bool.false_ne_true, hread]
  dsimp only
  rw [blocks_some]
  exact ite_congr (decide_eq_true_eq) (fun _ => rfl) fun _ => rfl

theorem release_of_holds (h : t.Holds k s) (claimedAt : Instant) (previous : Option Instant) :
    (t.release k claimedAt previous).1 = .ok () ∧
      (t.release k claimedAt previous).2.Holds k
        (if s = some (.ofInstant claimedAt) then previous.map .ofInstant else s) := by
  unfold release
  rw [h.unlocked, if_neg Bool.false_ne_true]
  simp only [row_eq_iff h]
  split
  · cases previous with
    | none => exact ⟨rfl, remove_holds h.unlocked k⟩
    | some p => exact ⟨rfl, write_holds h.unlocked k p⟩
  · exact ⟨rfl, h⟩

theorem record_of_holds (h : t.Holds k s) (now : Instant) :
    (t.record k now).1 = .ok () ∧ (t.record k now).2.Holds k (some (.ofInstant now)) := by
  rw [record, h.unlocked, if_neg Bool.false_ne_true]
  exact ⟨rfl, write_holds h.unlocked k now⟩

/-- The table keeps to the slots. -/
theorem call_holds (c : StoreCall) (h : t.Holds c.key s) :
    (store.call c t).1 = .ok (Slot.answer c s) ∧
      (store.call c t).2.Holds c.key (Slot.after c s) := by
  cases c with
  | check k now interval => exact ⟨check_of_holds h now interval, h⟩
  | claim k now interval => exact claim_of_holds h now interval
  | release k claimedAt previous => exact release_of_holds h claimedAt previous
  | record k now => exact record_of_holds h now

/-! ## 3. Other keys -/

/-- A call does nothing to a table, or writes or removes the row of its key. -/
theorem call_cases (c : StoreCall) (t : Table) :
    (store.call c t).2 = t ∨ (∃ n, (store.call c t).2 = t.write c.key n) ∨
      (store.call c t).2 = t.remove c.key := by
  cases c with
  | check k now interval => exact .inl rfl
  | claim k now interval =>
    simp only [store, claim]
    split
    · exact .inl rfl
    · split
      · exact .inl rfl
      · split
        · exact .inl rfl
        · exact .inr (.inl ⟨_, rfl⟩)
  | release k claimedAt previous =>
    simp only [store, release]
    split
    · exact .inl rfl
    · split
      · cases previous with
        | none => exact .inr (.inr rfl)
        | some p => exact .inr (.inl ⟨_, rfl⟩)
      · exact .inl rfl
  | record k now =>
    simp only [store, record]
    split
    · exact .inl rfl
    · exact .inr (.inl ⟨_, rfl⟩)

theorem call_holds_of_ne (c : StoreCall) (hk : c.key ≠ k) (h : t.Holds k s) :
    (store.call c t).2.Holds k s := by
  rcases call_cases c t with heq | ⟨n, heq⟩ | heq
  · rw [heq]
    exact h
  · rw [heq]
    refine ⟨h.unlocked, ?_, h.own⟩
    rw [write, Dictionary.find?_put, if_neg hk, h.row]
  · rw [heq]
    refine ⟨h.unlocked, ?_, h.own⟩
    rw [remove, Dictionary.find?_erase, if_neg hk, h.row]

/-- What a key reads is in its row. -/
theorem get_congr {t' : Table} (h : Dictionary.find? k t'.rows = Dictionary.find? k t.rows) :
    t'.get k = t.get k := by
  unfold get read
  rw [h]

theorem get_call_of_ne (c : StoreCall) (hk : c.key ≠ k) (t : Table) :
    (store.call c t).2.get k = t.get k := by
  rcases call_cases c t with heq | ⟨n, heq⟩ | heq
  · rw [heq]
  · rw [heq]
    exact get_congr ((Dictionary.find?_put _ _ _ _).trans (if_neg hk))
  · rw [heq]
    exact get_congr ((Dictionary.find?_erase _ _ _).trans (if_neg hk))

end Autoresponder.Table
