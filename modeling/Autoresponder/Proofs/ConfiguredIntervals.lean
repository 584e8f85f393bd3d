import Autoresponder.Proofs.ServerSlot
import Autoresponder.Proofs.TableSlot
/-!
# Configured intervals

The interval between two replies is configured as a number of seconds, which may be longer than any
interval that there is. It is then tested in three ways: a check compares nanoseconds, a table
compares numbers of 64 bits, and a script of a key/value server compares floating-point numbers.

1. An interval keeps a number of seconds up to `Interval.mostSeconds` and is the longest one beyond.
   Two times are not so far apart by a factor of five hundred, so a difference of times is compared
   with the interval as with the number (`Interval.lt_nanoseconds_iff`,
   `Interval.lt_wholeSeconds_iff`).
2. A script reads its arguments as the numbers that were written (`Numeral.read?_ofInt`). The
   seconds of an interval may need a bit more than such a number has; then they are rounded, but not
   to infinity (`Binary64.ofInt_finite`).
3. So each of the three tests decides whether the seconds of two times are less than the configured
   number apart, and on the way nothing leaves the range of its format (`Interval.ofSeconds_exact`).
-/

namespace Autoresponder

/-! ## 1. The interval of a number of seconds -/

namespace Interval

/-- The whole seconds of the longest interval. -/
def mostSeconds : Nat := 9223372036854775

variable {n : Nat}

theorem isSeconds_ofSeconds (h : n ≤ mostSeconds) : (ofSeconds n).IsSeconds n := by
  have hrange : -bound ≤ (n : Int) * nanosPerSecond ∧ (n : Int) * nanosPerSecond ≤ bound := by
    unfold mostSeconds at h
    unfold bound nanosPerSecond
    omega
  rw [IsSeconds, ofSeconds, ofNanoseconds?, dif_pos hrange, Option.getD_some]

theorem ofSeconds_of_lt (h : mostSeconds < n) : ofSeconds n = longest := by
  have hrange : ¬(-bound ≤ (n : Int) * nanosPerSecond ∧ (n : Int) * nanosPerSecond ≤ bound) := by
    unfold mostSeconds at h
    unfold bound nanosPerSecond
    omega
  rw [ofSeconds, ofNanoseconds?, dif_neg hrange, Option.getD_none]

theorem wholeSeconds_ofSeconds (n : Nat) : (ofSeconds n).wholeSeconds = min n mostSeconds := by
  rcases Nat.lt_or_ge mostSeconds n with h | h
  · rw [ofSeconds_of_lt h, Nat.min_eq_right h.le]
    decide
  · rw [(isSeconds_ofSeconds h).wholeSeconds_eq, Nat.min_eq_left h]

/-- What is shorter than the longest interval is compared with the nanoseconds of an interval as
with its seconds. -/
theorem lt_nanoseconds_iff {a : Int} (ha : a < mostSeconds) :
    a * nanosPerSecond < (ofSeconds n).nanoseconds ↔ a < n := by
  rcases Nat.lt_or_ge mostSeconds n with h | h
  · rw [ofSeconds_of_lt h]
    unfold mostSeconds at ha h
    unfold longest bound nanosPerSecond
    dsimp only
    omega
  · rw [isSeconds_ofSeconds h]
    exact Int.mul_lt_mul_right (by decide)

theorem lt_wholeSeconds_iff {a : Int} (ha : a < mostSeconds) :
    a < (ofSeconds n).wholeSeconds ↔ a < n := by
  rw [wholeSeconds_ofSeconds]
  omega

end Interval

theorem Stamp.age_lt_mostSeconds (x : Stamp) (now : Instant) :
    x.age now < Interval.mostSeconds := by
  have hx := x.second_bounds
  have hnow := now.seconds_bounds
  unfold Stamp.age Interval.mostSeconds
  omega

namespace Slot

variable (s : Slot) (now : Instant) (n : Nat)

theorem suppresses_ofSeconds : s.suppresses now (.ofSeconds n) = s.recent now n := by
  unfold suppresses recent
  congr 1
  funext x
  exact decide_eq_decide.mpr (Interval.lt_nanoseconds_iff (x.age_lt_mostSeconds now))

theorem blocks_ofSeconds : s.blocks now (.ofSeconds n) = s.recent now n := by
  unfold blocks recent
  congr 1
  funext x
  exact decide_eq_decide.mpr (Interval.lt_wholeSeconds_iff (x.age_lt_mostSeconds now))

end Slot

/-! ## 2. Numbers in a script -/

namespace Binary64

theorem divEven_le (n d : Nat) : divEven n d ≤ n / d + 1 := by
  unfold divEven
  dsimp only
  split <;> omega

/-- Rounding never goes above a power of two that the number has not passed. -/
theorem roundUnits_le {n e : Nat} (h : n < 2 ^ e) : roundUnits n 1 ≤ 2 ^ e := by
  have hpos : 0 < 2 ^ (n.log2 - 52) := Nat.two_pow_pos _
  rw [roundUnits_one]
  rcases Nat.lt_or_ge n.log2 52 with hlog | hlog
  · -- nothing is cut off
    have hunit : n.log2 - 52 = 0 := by omega
    have hself : divEven n 1 = n := by
      have hdiv := divEven_mul Nat.one_pos n
      rwa [Nat.mul_one] at hdiv
    rw [hunit, Nat.pow_zero, hself, Nat.mul_one]
    exact h.le
  · have hn : n ≠ 0 := by
      rintro rfl
      exact absurd hlog (by decide)
    have hlt : n.log2 < e := (Nat.log2_lt hn).mpr h
    have hquotient : n / 2 ^ (n.log2 - 52) < 2 ^ 53 := by
      rw [Nat.div_lt_iff_lt_mul hpos, ← pow_add]
      have hexponent : 53 + (n.log2 - 52) = n.log2 + 1 := by omega
      rw [hexponent]
      exact Nat.lt_log2_self
    have hrounded : divEven n (2 ^ (n.log2 - 52)) ≤ 2 ^ 53 := (divEven_le _ _).trans hquotient
    calc divEven n (2 ^ (n.log2 - 52)) * 2 ^ (n.log2 - 52)
        ≤ 2 ^ 53 * 2 ^ (n.log2 - 52) := Nat.mul_le_mul_right _ hrounded
      _ = 2 ^ (53 + (n.log2 - 52)) := (pow_add _ _ _).symm
      _ ≤ 2 ^ e := Nat.pow_le_pow_right Nat.two_pos (by omega)

/-- A number of 64 bits may be rounded, but is not too large. -/
theorem ofInt_finite {n : Int} (h : n.natAbs < 2 ^ 64) :
    ∃ units, ofInt n = .finite (n < 0) units := by
  have hbits : n.natAbs * one < 2 ^ (64 + fractionBits) := by
    rw [one_eq, pow_add]
    exact Nat.mul_lt_mul_of_pos_right h (Nat.two_pow_pos _)
  have hrounded : roundUnits (n.natAbs * one) 1 < overflow :=
    calc roundUnits (n.natAbs * one) 1 ≤ 2 ^ (64 + fractionBits) := roundUnits_le hbits
      _ < 2 ^ (fractionBits + 1024) := Nat.pow_lt_pow_right Nat.one_lt_two (by omega)
      _ = overflow := overflow_eq.symm
  clear hbits
  unfold ofInt ofUnits
  dsimp only
  generalize roundUnits (n.natAbs * one) 1 = r at hrounded ⊢
  exact ⟨r, if_neg (Nat.not_le.mpr hrounded)⟩

/-- A whole number without an exponent is rounded once. -/
theorem ofDecimal_whole (negative : Bool) {m : Nat} (hm : m ≠ 0) (hsize : m < 2 ^ 64) :
    ofDecimal negative m 0 = ofUnits negative (m * one) 1 := by
  have hdigits : (Nat.toDigits 10 m).length ≤ 20 := by
    rw [Nat.length_toDigits_le_iff (by decide) (by decide)]
    omega
  unfold ofDecimal
  dsimp only
  rw [if_neg hm, if_neg (by omega), if_neg (by omega), if_pos (Int.le_refl 0)]
  simp

theorem ofInt_zero : ofInt 0 = .finite false 0 := by
  have hunits := ofUnits_mul_one false (Nat.zero_le (2 ^ 53))
  rw [Nat.zero_mul] at hunits
  rw [ofInt, Int.natAbs_zero, Nat.zero_mul]
  exact hunits

end Binary64

namespace Numeral

/-- A script reads a number of 64 bits as it was written, with one rounding. -/
theorem read?_ofInt {n : Int} (h : n.natAbs < 2 ^ 64) :
    read? (Text.ofInt n) = some (Binary64.ofInt n) := by
  obtain ⟨negative, hread, hsign⟩ := Binary64.ofText?_eq_ofDecimal (Text.integer?_ofInt n)
  rw [read?_eq_ofText? (Text.integer?_ofInt n)]
  rcases eq_or_ne n 0 with rfl | hn
  · have hzero : Binary64.ofText? (Text.ofInt 0) = some (.finite false 0) := rfl
    rw [hzero, Binary64.ofInt_zero]
  · have hnegative : negative = decide (n < 0) := by
      cases negative with
      | false =>
        have hpos : (n.natAbs : Int) = n := hsign
        exact (decide_eq_false (by omega)).symm
      | true =>
        have hneg : -(n.natAbs : Int) = n := hsign
        exact (decide_eq_true (by omega)).symm
    rw [hread, Binary64.ofDecimal_whole negative (Int.natAbs_ne_zero.mpr hn) h, hnegative,
      Binary64.ofInt]

end Numeral

/-! ## 3. Three tests of one interval -/

/-- The test of a check: times in whole seconds are times, and their difference is an interval. -/
structure Record.ExactTest (n : Nat) (last now : Instant) : Prop where
  stores : Instant.ofSeconds? now.seconds = some now.truncate
  subtracts : ∃ d : Interval, d.nanoseconds = now.truncate.since last.truncate ∧
    d.IsSeconds (now.seconds - last.seconds)
  decides : Record.suppresses ⟨last.truncate⟩ now.truncate (.ofSeconds n) = true ↔
    now.seconds - last.seconds < n

/-- The test of a claim of a table: nothing that it counts with wraps around. -/
structure Table.ExactTest (n : Nat) (last now : Instant) : Prop where
  reads_last : (encode last).toInt = last.seconds
  reads_now : (encode now).toInt = now.seconds
  reads_interval :
    (Int64.ofInt (Interval.ofSeconds n).wholeSeconds).toInt = (Interval.ofSeconds n).wholeSeconds
  subtracts : (encode now - encode last).toInt = now.seconds - last.seconds
  decides : blocks (some (encode last)) (encode now)
    (Int64.ofInt (Interval.ofSeconds n).wholeSeconds) = true ↔
    now.seconds - last.seconds < n

/-- The test of a claim of a key/value server that holds a text: the script reads and subtracts the
times without loss. It may have to round the interval, but does not take it for infinity. -/
structure KeyValue.ExactTest (n : Nat) (last now : Instant) (t : Text) : Prop where
  reads_now : Numeral.read? (Text.ofInt now.seconds) = some (.ofInt now.seconds) ∧
    Binary64.IsWhole (.ofInt now.seconds) now.seconds
  reads_interval :
    Numeral.read? (Text.ofInt (Interval.ofSeconds n).wholeSeconds) =
        some (.ofInt (Interval.ofSeconds n).wholeSeconds) ∧
      ∃ units, Binary64.ofInt (Interval.ofSeconds n).wholeSeconds = .finite false units
  subtracts : ∃ x, Numeral.read? t = some x ∧ Binary64.IsWhole x last.seconds ∧
    Binary64.IsWhole ((Binary64.ofInt now.seconds).sub x) (now.seconds - last.seconds)
  decides : ∀ (server : Server) (name : Text) (expiry : Nat), server.value? name = some t →
    ((server.run (claim name now.seconds (Interval.ofSeconds n).wholeSeconds expiry)).1 = some [0] ↔
      now.seconds - last.seconds < n)

section Tests

variable (n : Nat) (last now : Instant)

theorem Record.exactTest : Record.ExactTest n last now where
  stores := dif_pos now.valid_seconds
  subtracts := by
    have hlast := last.seconds_bounds
    have hnow := now.seconds_bounds
    have hrange : -Interval.bound ≤ (now.seconds - last.seconds) * nanosPerSecond ∧
        (now.seconds - last.seconds) * nanosPerSecond ≤ Interval.bound := by
      unfold Interval.bound nanosPerSecond
      omega
    exact ⟨⟨_, hrange⟩, (now.since_truncate last).symm, rfl⟩
  decides := by
    have htest := Record.suppresses_truncate (.ofInstant last) now (.ofSeconds n)
    have hslot := Slot.suppresses_ofSeconds (some (.ofInstant last)) now n
    rw [Slot.suppresses, Option.any_some, Slot.recent_ofInstant] at hslot
    exact (Bool.eq_iff_iff.mp (htest.trans hslot)).trans decide_eq_true_iff

theorem Table.exactTest : Table.ExactTest n last now where
  reads_last := toInt_encode last
  reads_now := toInt_encode now
  reads_interval := by
    have h := (Interval.ofSeconds n).wholeSeconds_bounds
    exact Int64.toInt_ofInt_of_le (by omega) (by omega)
  subtracts := by
    have hlast := last.seconds_bounds
    have hnow := now.seconds_bounds
    rw [Int64.toInt_sub, toInt_encode, toInt_encode]
    exact Int.bmod_eq_of_le (by omega) (by omega)
  decides := by
    have htest := blocks_encode (some (.ofInstant last)) now (.ofSeconds n)
    rw [Slot.blocks_ofSeconds, Slot.recent_ofInstant] at htest
    exact (Bool.eq_iff_iff.mp htest).trans decide_eq_true_iff

theorem KeyValue.exactTest {t : Text} (h : number? t = some last.seconds) :
    KeyValue.ExactTest n last now t := by
  have hlast := last.seconds_bounds
  have hnow := now.seconds_bounds
  have hinterval := (Interval.ofSeconds n).wholeSeconds_bounds
  have hpositive : ¬(Interval.ofSeconds n).wholeSeconds < 0 := by
    rw [Interval.wholeSeconds_ofSeconds]
    omega
  have hwholeNow : Binary64.IsWhole (.ofInt now.seconds) now.seconds :=
    Binary64.isWhole_ofInt (by omega)
  obtain ⟨x, hread, hwhole⟩ := Numeral.read?_of_integer? (number?_eq_some.mp h).1 (by omega)
  have htest := lt_of_isWhole (x := .ofInstant last) hwhole now (.ofSeconds n)
  rw [Slot.blocks_ofSeconds, Slot.recent_ofInstant] at htest
  refine ⟨⟨Numeral.read?_ofInt (by omega), hwholeNow⟩, ⟨Numeral.read?_ofInt (by omega), ?_⟩,
    ⟨x, hread, hwhole, hwholeNow.sub hwhole (by omega)⟩, ?_⟩
  · have hfinite := Binary64.ofInt_finite (n := (Interval.ofSeconds n).wholeSeconds) (by omega)
    rwa [decide_eq_false hpositive] at hfinite
  · intro server name expiry hvalue
    by_cases hrecent : now.seconds - last.seconds < n
    · rw [run_claim_of_recent hvalue hread (htest.trans (decide_eq_true hrecent))]
      exact iff_of_true rfl hrecent
    · rw [run_claim_of_old hvalue hread (htest.trans (decide_eq_false hrecent))]
      exact iff_of_false (by simp) hrecent

end Tests

namespace Interval

/-- Each of the three tests compares the seconds between two times with the configured number,
without bounds and without loss, whether the number is kept as an interval or saturates. -/
theorem ofSeconds_exact (n : Nat) (last now : Instant) :
    (ofSeconds n).wholeSeconds = min n mostSeconds ∧
      Record.ExactTest n last now ∧ Table.ExactTest n last now ∧
        ∀ t, KeyValue.number? t = some last.seconds → KeyValue.ExactTest n last now t :=
  ⟨wholeSeconds_ofSeconds n, Record.exactTest n last now, Table.exactTest n last now,
    fun _ ht => KeyValue.exactTest n last now ht⟩

/-- The longest configuration, a leap second, and a record that other software has spelled in its
own way. -/
theorem ofSeconds_exact_longest :
    KeyValue.number? "+00".toList = some 0 ∧
      KeyValue.ExactTest 18446744073709551615 ⟨0, 0, by decide⟩ ⟨1483228799, 1500000000, by decide⟩
        "+00".toList := by
  have hnumber : KeyValue.number? "+00".toList = some 0 := by decide
  obtain ⟨-, -, -, hscript⟩ :=
    ofSeconds_exact 18446744073709551615 ⟨0, 0, by decide⟩ ⟨1483228799, 1500000000, by decide⟩
  exact ⟨hnumber, hscript _ hnumber⟩

end Interval
end Autoresponder
