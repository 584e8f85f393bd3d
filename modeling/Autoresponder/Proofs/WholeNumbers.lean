import Autoresponder.Suppression.KeyValue.Numeral
import Mathlib.Algebra.Order.Ring.Int
import Mathlib.Data.Nat.Log
import Mathlib.Tactic.Linarith
/-!
# Whole numbers in server scripts

The scripts of a key/value server know binary floating point only, and compare whole numbers with
it. This is safe as long as the numbers need no more than 53 bits.

1. Up to 2⁵³ a whole number is its own rounding (`isWhole_ofInt`), and differences are exact
   (`IsWhole.sub`).
2. Comparing a difference below 2⁵³ with *any* whole number is exact (`IsWhole.lt_ofInt`): a bound
   that has to be rounded stays beyond 2⁵³.
-/

namespace Autoresponder.Binary64

/-- `x` is the whole number `n`. A zero may have either sign. -/
def IsWhole (x : Binary64) (n : Int) : Prop :=
  ∃ negative units, x = .finite negative units ∧ signed negative units = n * one

/-- The bits of a number behind the binary point. -/
def fractionBits : Nat := 1074

theorem one_eq : one = 2 ^ fractionBits := by
  unfold one fractionBits
  -- the exponent goes out of sight, so that nothing tries to evaluate the power
  generalize 1074 = e
  exact Nat.pow_eq

theorem overflow_eq : overflow = 2 ^ (fractionBits + 1024) := by
  have hbits : 2098 = fractionBits + 1024 := rfl
  unfold overflow
  rw [hbits]
  generalize fractionBits + 1024 = e
  exact Nat.pow_eq

theorem one_pos : 0 < one := one_eq ▸ Nat.two_pow_pos fractionBits

/-! ## 1. Rounding -/

theorem divEven_mul {u : Nat} (hu : 0 < u) (k : Nat) : divEven (k * u) u = k := by
  have hq : k * u / u = k := Nat.mul_div_cancel k hu
  have hr : k * u % u = 0 := Nat.mul_mod_left k u
  unfold divEven
  simp [hq, hr, hu.ne]

theorem le_divEven (n d : Nat) : n / d ≤ divEven n d := by
  unfold divEven
  dsimp only
  split <;> omega

/-- The unit in the last place of a rounded number. -/
theorem roundUnits_one (n : Nat) :
    roundUnits n 1 = divEven n (2 ^ (n.log2 - 52)) * 2 ^ (n.log2 - 52) := by
  simp [roundUnits]

/-- A multiple of the unit in its last place is not rounded. -/
theorem roundUnits_of_dvd {n : Nat} (h : 2 ^ (n.log2 - 52) ∣ n) : roundUnits n 1 = n := by
  obtain ⟨k, hk⟩ := h
  have hpos : 0 < 2 ^ (n.log2 - 52) := Nat.two_pow_pos _
  rw [roundUnits_one]
  generalize 2 ^ (n.log2 - 52) = u at hk hpos ⊢
  subst hk
  rw [Nat.mul_comm u k, divEven_mul hpos]

theorem log2_mul_one {m : Nat} (hm : m ≠ 0) : (m * one).log2 = m.log2 + fractionBits := by
  rw [one_eq, Nat.log2_eq_log_two, Nat.log2_eq_log_two]
  -- on the bits behind the point, since nothing here should evaluate the power
  induction fractionBits with
  | zero => simp
  | succ e ih =>
    rw [Nat.pow_succ, ← Nat.mul_assoc, Nat.log_mul_base Nat.one_lt_two, ih, Nat.add_assoc]
    exact Nat.mul_ne_zero hm (Nat.two_pow_pos e).ne'

/-- A whole number of at most 53 bits, or 2⁵³, is not rounded. -/
theorem roundUnits_mul_one {m : Nat} (h : m ≤ 2 ^ 53) : roundUnits (m * one) 1 = m * one := by
  rcases Nat.eq_zero_or_pos m with rfl | hm
  · rw [Nat.zero_mul]
    rfl
  apply roundUnits_of_dvd
  rw [log2_mul_one hm.ne', one_eq]
  rcases Nat.lt_or_ge m (2 ^ 53) with hlt | hge
  · have hlog : m.log2 < 53 := (Nat.log2_lt hm.ne').mpr hlt
    exact Dvd.dvd.mul_left (Nat.pow_dvd_pow 2 (by omega)) m
  · -- the bound itself has 54 bits, of which the last is zero
    have hm53 : m = 2 ^ 53 := Nat.le_antisymm h hge
    subst hm53
    rw [Nat.log2_two_pow, ← pow_add]
    exact Nat.pow_dvd_pow 2 (by omega)

/-- Rounding never goes below a power of two that the number has reached. -/
theorem le_roundUnits {n e : Nat} (he : 52 ≤ e) (h : 2 ^ e ≤ n) : 2 ^ e ≤ roundUnits n 1 := by
  have hn : n ≠ 0 := by
    have := Nat.two_pow_pos e
    omega
  have hlog : e ≤ n.log2 := (Nat.le_log2 hn).mpr h
  have hsplit : 2 ^ n.log2 = 2 ^ 52 * 2 ^ (n.log2 - 52) := by
    rw [← pow_add]
    congr 1
    omega
  -- the rounded quotient keeps the leading bit of the number
  have hq : 2 ^ 52 ≤ n / 2 ^ (n.log2 - 52) := by
    rw [Nat.le_div_iff_mul_le (Nat.two_pow_pos _), ← hsplit]
    exact Nat.log2_self_le hn
  calc 2 ^ e ≤ 2 ^ n.log2 := Nat.pow_le_pow_right (by omega) hlog
    _ = 2 ^ 52 * 2 ^ (n.log2 - 52) := hsplit
    _ ≤ divEven n (2 ^ (n.log2 - 52)) * 2 ^ (n.log2 - 52) :=
        Nat.mul_le_mul_right _ (hq.trans (le_divEven _ _))
    _ = roundUnits n 1 := (roundUnits_one n).symm

/-! ## 2. Numbers, differences, comparisons -/

theorem mul_one_lt_overflow {m : Nat} (h : m ≤ 2 ^ 53) : m * one < overflow := by
  rw [one_eq, overflow_eq]
  calc m * 2 ^ fractionBits ≤ 2 ^ 53 * 2 ^ fractionBits := Nat.mul_le_mul_right _ h
    _ = 2 ^ (53 + fractionBits) := (pow_add _ _ _).symm
    _ < 2 ^ (fractionBits + 1024) := Nat.pow_lt_pow_right Nat.one_lt_two (by omega)

theorem ofUnits_mul_one (negative : Bool) {m : Nat} (h : m ≤ 2 ^ 53) :
    ofUnits negative (m * one) 1 = .finite negative (m * one) := by
  unfold ofUnits
  rw [roundUnits_mul_one h]
  exact if_neg (Nat.not_le.mpr (mul_one_lt_overflow h))

theorem signed_mul (negative : Bool) (m u : Nat) :
    signed negative (m * u) = signed negative m * u := by
  cases negative with
  | false => exact Int.natCast_mul m u
  | true =>
    have hneg : -((m * u : Nat) : Int) = -(m : Int) * u := by rw [Int.natCast_mul, Int.neg_mul]
    exact hneg

/-- A sign and a magnitude as a number. -/
theorem isWhole_ofUnits (negative : Bool) {m : Nat} (h : m ≤ 2 ^ 53) :
    IsWhole (ofUnits negative (m * one) 1) (if negative then -m else m) :=
  ⟨negative, m * one, ofUnits_mul_one negative h, signed_mul negative m one⟩

theorem isWhole_ofInt {n : Int} (h : n.natAbs ≤ 2 ^ 53) : IsWhole (ofInt n) n := by
  have hsign : (if decide (n < 0) then -(n.natAbs : Int) else n.natAbs) = n := by
    rcases Int.lt_or_le n 0 with hn | hn
    · rw [decide_eq_true hn, if_pos rfl]
      omega
    · rw [decide_eq_false (Int.not_lt.mpr hn), if_neg Bool.false_ne_true]
      omega
  have hn := isWhole_ofUnits (n < 0) h
  rwa [hsign] at hn

theorem IsWhole.sub {x y : Binary64} {a b : Int} (hx : IsWhole x a) (hy : IsWhole y b)
    (h : (a - b).natAbs ≤ 2 ^ 53) : IsWhole (x.sub y) (a - b) := by
  obtain ⟨s, m, rfl, hm⟩ := hx
  obtain ⟨t, n, rfl, hn⟩ := hy
  have hone : (0 : Int) < one := by exact_mod_cast one_pos
  have hd : signed s m - signed t n = (a - b) * one := by rw [hm, hn, Int.sub_mul]
  have hneg : decide ((a - b) * one < 0) = decide (a - b < 0) := by
    have hlt := Int.mul_lt_mul_right (b := a - b) (c := 0) hone
    rw [Int.zero_mul] at hlt
    exact decide_eq_decide.mpr hlt
  have habs : ((a - b) * one).natAbs = (a - b).natAbs * one := by
    rw [Int.natAbs_mul, Int.natAbs_natCast]
  have hsub : (Binary64.finite s m).sub (.finite t n) = ofInt (a - b) := by
    simp only [Binary64.sub, ofInt, hd, hneg, habs]
  rw [hsub]
  exact isWhole_ofInt h

theorem IsWhole.lt_iff {x y : Binary64} {a b : Int} (hx : IsWhole x a) (hy : IsWhole y b) :
    x.lt y = decide (a < b) := by
  obtain ⟨s, m, rfl, hm⟩ := hx
  obtain ⟨t, n, rfl, hn⟩ := hy
  have hone : (0 : Int) < one := by exact_mod_cast one_pos
  simp only [lt, hm, hn]
  exact decide_eq_decide.mpr (Int.mul_lt_mul_right hone)

/-- The magnitude of a whole number in units. -/
theorem units_of_signed {negative : Bool} {units : Nat} {n : Int}
    (h : signed negative units = n * one) : units = n.natAbs * one := by
  have habs := congrArg Int.natAbs h
  rw [Int.natAbs_mul, Int.natAbs_natCast] at habs
  rw [← habs]
  cases negative <;> simp [signed]

/-- A bound beyond 2⁵³ may be rounded, and may even become infinite, but it does not come nearer to
zero than 2⁵³. -/
theorem IsWhole.lt_ofInt_of_large {x : Binary64} {a n : Int} (hx : IsWhole x a)
    (ha : a.natAbs < 2 ^ 53) (hn : 2 ^ 53 ≤ n.natAbs) : x.lt (ofInt n) = decide (0 < n) := by
  obtain ⟨s, m, rfl, hm⟩ := hx
  have hsmall : m < 2 ^ 53 * one := by
    rw [units_of_signed hm]
    exact Nat.mul_lt_mul_of_pos_right ha one_pos
  have hlarge : 2 ^ 53 * one ≤ roundUnits (n.natAbs * one) 1 := by
    have hpow : 2 ^ 53 * one = 2 ^ (53 + fractionBits) := by rw [pow_add, one_eq]
    have hreach : 2 ^ 53 * one ≤ n.natAbs * one := Nat.mul_le_mul_right _ hn
    rw [hpow] at hreach ⊢
    exact le_roundUnits (by omega) hreach
  have hlt : m < roundUnits (n.natAbs * one) 1 := hsmall.trans_le hlarge
  clear hsmall hlarge hm
  -- from here on it only matters that the rounded bound is above the magnitude, whether it is
  -- finite or not
  unfold ofInt ofUnits
  dsimp only
  generalize roundUnits (n.natAbs * one) 1 = r at hlt ⊢
  rcases Int.lt_or_le n 0 with hneg | hpos
  · rw [decide_eq_true hneg, decide_eq_false (by omega : ¬0 < n)]
    split
    · rfl
    · refine decide_eq_false ?_
      cases s <;> simp only [signed, Bool.false_eq_true, if_true, if_false] <;> omega
  · rw [decide_eq_false (by omega : ¬n < 0), decide_eq_true (by omega : 0 < n)]
    split
    · rfl
    · refine decide_eq_true ?_
      cases s <;> simp only [signed, Bool.false_eq_true, if_true, if_false] <;> omega

/-- A small whole number is compared with any whole number as the integers are. -/
theorem IsWhole.lt_ofInt {x : Binary64} {a : Int} (hx : IsWhole x a) (ha : a.natAbs < 2 ^ 53)
    (n : Int) : x.lt (ofInt n) = decide (a < n) := by
  rcases Nat.lt_or_ge n.natAbs (2 ^ 53) with hn | hn
  · exact hx.lt_iff (isWhole_ofInt hn.le)
  · rw [hx.lt_ofInt_of_large ha hn]
    exact decide_eq_decide.mpr (by omega)

end Autoresponder.Binary64
