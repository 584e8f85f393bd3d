import Autoresponder.Proofs.WholeNumbers
import Autoresponder.Suppression.KeyValue
import Mathlib.Data.List.TakeWhile
/-!
# Decimal numerals

The key/value store keeps seconds as decimal numerals, and reads them in two ways: a client as a
number of 64 bits, a script as a floating-point number.

1. A number is written so that it is read back (`integer?_ofInt`). What reads as a number is a run
   of digits behind at most one sign (`integer?_cases`).
2. What reads as a number of at most 53 bits, a script reads as the same number
   (`read?_of_integer?`), also where other software has written it with a plus sign or with zeros in
   front.
3. A script answers with the number that it has read (`toInteger_of_isWhole`).
4. A client reads the numbers of 64 bits (`number?_eq_some`).
-/

namespace Autoresponder

open Binary64 (IsWhole)

namespace Text

/-! ## 1. Writing and reading back -/

theorem isDigit_eq (c : Char) : isDigit c = c.isDigit := by
  simp [isDigit, Char.isDigit, Char.le_def]

theorem natural?_eq_some {s : Text} {n : Nat} :
    natural? s = some n ↔ s ≠ [] ∧ s.all isDigit ∧ digitsValue s = n := by
  unfold natural?
  cases s with
  | nil => simp
  | cons c cs => simp [and_assoc]

theorem all_isDigit_ofNat (n : Nat) : (ofNat n).all isDigit := by
  rw [List.all_eq_true]
  intro c hc
  rw [isDigit_eq]
  exact Nat.isDigit_of_mem_toDigits (by decide) (by decide) hc

theorem digitsValue_ofNat (n : Nat) : digitsValue (ofNat n) = n := by
  have h := Nat.ofDigitChars_ten_toDigits (n := n)
  rwa [Nat.ofDigitChars_eq_foldl] at h

theorem natural?_ofNat (n : Nat) : natural? (ofNat n) = some n :=
  natural?_eq_some.mpr ⟨Nat.toDigits_ne_nil, all_isDigit_ofNat n, digitsValue_ofNat n⟩

/-- A numeral without a sign. -/
theorem integer?_of_natural? {s : Text} {n : Nat} (h : natural? s = some n) :
    integer? s = some (n : Int) := by
  have hs := (natural?_eq_some.mp h).2.1
  unfold integer?
  split
  · simp [isDigit] at hs
  · simp [isDigit] at hs
  · rw [h]
    rfl

theorem integer?_ofInt (n : Int) : integer? (ofInt n) = some n := by
  cases n with
  | ofNat n => exact integer?_of_natural? (natural?_ofNat n)
  | negSucc n =>
    simp only [ofInt, integer?, natural?_ofNat]
    rfl

/-- A numeral is a run of digits behind at most one sign. -/
theorem integer?_cases {t : Text} {n : Int} (h : integer? t = some n) :
    ∃ s m, natural? s = some m ∧
      (t = s ∧ n = m ∨ t = '+' :: s ∧ n = m ∨ t = '-' :: s ∧ n = -(m : Int)) := by
  unfold integer? at h
  split at h <;> rename_i s
  · cases hs : natural? s with
    | none => simp [hs] at h
    | some m => exact ⟨s, m, hs, .inr (.inr ⟨rfl, by simpa [hs] using h.symm⟩)⟩
  · cases hs : natural? s with
    | none => simp [hs] at h
    | some m => exact ⟨s, m, hs, .inr (.inl ⟨rfl, by simpa [hs] using h.symm⟩)⟩
  · cases hs : natural? t with
    | none => simp [hs] at h
    | some m => exact ⟨t, m, hs, .inl ⟨rfl, by simpa [hs] using h.symm⟩⟩

theorem dropWhile_of_forall_not {α : Type} {p : α → Bool} {s : List α} (h : ∀ a ∈ s, p a = false) :
    s.dropWhile p = s := by
  rw [List.dropWhile_eq_self_iff]
  intro hl hp
  rw [h _ (List.getElem_mem hl)] at hp
  exact Bool.false_ne_true hp

theorem dropEndWhile_of_forall_not {α : Type} {p : α → Bool} {s : List α}
    (h : ∀ a ∈ s, p a = false) : dropEndWhile p s = s := by
  have hrev : s.reverse.dropWhile p = s.reverse :=
    dropWhile_of_forall_not fun a ha => h a (List.mem_reverse.mp ha)
  rw [dropEndWhile, hrev, List.reverse_reverse]

theorem toLower_of_isDigit {c : Char} (h : isDigit c) : c.toLower = c := by
  simp only [isDigit, Bool.and_eq_true, decide_eq_true_iff, Char.le_def] at h
  have hupper : ¬(c.val ≥ 'A'.val ∧ c.val ≤ 'Z'.val) := by
    rintro ⟨hA, -⟩
    have h9 : c.val.toNat ≤ '9'.val.toNat := h.2
    have h65 : 'A'.val.toNat ≤ c.val.toNat := hA
    exact absurd (h65.trans h9) (by decide)
  exact dif_neg hupper

/-- Digits are not the name of anything, in whatever case. -/
theorem sameFolded_of_isDigit {s name : Text} (hs : s.all isDigit)
    (hname : (foldCase name).all isDigit = false) : sameFolded s name = false := by
  have hfold : foldCase s = s := by
    rw [List.all_eq_true] at hs
    exact (List.map_congr_left fun c hc => toLower_of_isDigit (hs c hc)).trans (List.map_id _)
  rw [sameFolded, hfold, beq_eq_false_iff_ne]
  rintro rfl
  rw [hname] at hs
  exact Bool.false_ne_true hs

end Text

/-! ## 2. Reading in a script -/

namespace Binary64

theorem takeWhile_isDigit {s : Text} (hs : s.all Text.isDigit) : s.takeWhile Text.isDigit = s :=
  List.takeWhile_eq_self_iff.mpr (List.all_eq_true.mp hs)

theorem dropWhile_isDigit {s : Text} (hs : s.all Text.isDigit) : s.dropWhile Text.isDigit = [] :=
  List.dropWhile_eq_nil_iff.mpr (List.all_eq_true.mp hs)

/-- Digits without a point and an exponent. -/
theorem magnitude?_of_digits (negative : Bool) {s : Text} (hne : s ≠ []) (hs : s.all Text.isDigit) :
    magnitude? negative s = some (ofDecimal negative (Text.digitsValue s) 0) := by
  have hempty : s.isEmpty = false := List.isEmpty_eq_false_iff.mpr hne
  simp [magnitude?, takeWhile_isDigit hs, dropWhile_isDigit hs, hempty, exponent?]

theorem isWhole_ofDecimal (negative : Bool) {m : Nat} (hm : m ≤ 2 ^ 53) :
    IsWhole (ofDecimal negative m 0) (if negative then -m else m) := by
  unfold ofDecimal
  dsimp only
  split
  · rename_i h0
    subst h0
    refine ⟨negative, 0, rfl, ?_⟩
    have hzero := signed_mul negative 0 one
    rwa [Nat.zero_mul] at hzero
  · have hlen : (Nat.toDigits 10 m).length ≤ 16 := by
      rw [Nat.length_toDigits_le_iff (by decide) (by decide)]
      omega
    rw [if_neg (by omega), if_neg (by omega), if_pos (Int.le_refl 0)]
    simpa using isWhole_ofUnits negative hm

/-- What `ofText?` does behind the sign, for digits. -/
theorem ofText?_unsigned (negative : Bool) {s : Text} (hne : s ≠ []) (hs : s.all Text.isDigit) :
    (if Text.sameFolded s "inf".toList || Text.sameFolded s "infinity".toList then
      some (.infinite negative)
    else if Text.sameFolded s "nan".toList then some .nan
    else magnitude? negative s) = some (ofDecimal negative (Text.digitsValue s) 0) := by
  rw [Text.sameFolded_of_isDigit hs (by decide), Text.sameFolded_of_isDigit hs (by decide),
    Text.sameFolded_of_isDigit hs (by decide), Bool.or_self, if_neg Bool.false_ne_true,
    if_neg Bool.false_ne_true, magnitude?_of_digits negative hne hs]

theorem splitSign_of_isDigit {s : Text} (hs : s.all Text.isDigit) : splitSign s = (false, s) := by
  unfold splitSign
  split
  · simp [Text.isDigit] at hs
  · simp [Text.isDigit] at hs
  · rfl

/-- Behind the sign of a numeral there are digits. -/
theorem splitSign_of_integer? {t : Text} {n : Int} (h : Text.integer? t = some n) :
    ∃ negative s, splitSign t = (negative, s) ∧ s ≠ [] ∧ s.all Text.isDigit ∧
      (if negative then -(Text.digitsValue s : Int) else Text.digitsValue s) = n := by
  obtain ⟨s, m, hs, hcases⟩ := Text.integer?_cases h
  obtain ⟨hne, hdigits, rfl⟩ := Text.natural?_eq_some.mp hs
  rcases hcases with ⟨rfl, rfl⟩ | ⟨rfl, rfl⟩ | ⟨rfl, rfl⟩
  · exact ⟨false, t, splitSign_of_isDigit hdigits, hne, hdigits, rfl⟩
  · exact ⟨false, s, rfl, hne, hdigits, rfl⟩
  · exact ⟨true, s, rfl, hne, hdigits, rfl⟩

/-- Digits behind at most one sign. A zero may have either sign. -/
theorem ofText?_eq_ofDecimal {t : Text} {n : Int} (h : Text.integer? t = some n) :
    ∃ negative, ofText? t = some (ofDecimal negative n.natAbs 0) ∧
      (if negative then -(n.natAbs : Int) else n.natAbs) = n := by
  obtain ⟨negative, s, hsign, hne, hdigits, rfl⟩ := splitSign_of_integer? h
  have habs : (if negative then -(Text.digitsValue s : Int) else Text.digitsValue s).natAbs =
      Text.digitsValue s := by
    cases negative with
    | false => exact Int.natAbs_natCast _
    | true => exact (Int.natAbs_neg _).trans (Int.natAbs_natCast _)
  refine ⟨negative, ?_, by rw [habs]⟩
  rw [habs, ofText?, hsign]
  exact ofText?_unsigned negative hne hdigits

theorem ofText?_of_integer? {t : Text} {n : Int} (h : Text.integer? t = some n)
    (hn : n.natAbs ≤ 2 ^ 53) : ∃ x, ofText? t = some x ∧ IsWhole x n := by
  obtain ⟨negative, hread, hsign⟩ := ofText?_eq_ofDecimal h
  have hwhole := isWhole_ofDecimal negative hn
  rw [hsign] at hwhole
  exact ⟨_, hread, hwhole⟩

end Binary64

namespace Numeral

/-- The characters of a decimal numeral are no blanks, and none of them ends a text. -/
theorem plain_of_integer? {t : Text} {n : Int} (h : Text.integer? t = some n) :
    ∀ c ∈ t, isSpace c = false ∧ (c == '\x00') = false := by
  have hdigit : ∀ c, Text.isDigit c → isSpace c = false ∧ (c == '\x00') = false := by
    intro c hc
    simp only [Text.isDigit, Bool.and_eq_true, decide_eq_true_iff, Char.le_def,
      UInt32.le_iff_toNat_le] at hc
    have h0 : ('0' : Char).val.toNat = 48 := rfl
    have h9 : ('9' : Char).val.toNat = 57 := rfl
    have hlow : 48 ≤ c.toNat := h0 ▸ hc.1
    constructor
    · have hblank : c ≠ ' ' := by
        rintro rfl
        exact absurd hlow (by decide)
      simp [isSpace, hblank]
      omega
    · rw [beq_eq_false_iff_ne]
      rintro rfl
      exact absurd hlow (by decide)
  obtain ⟨s, m, hs, hcases⟩ := Text.integer?_cases h
  have hall := List.all_eq_true.mp (Text.natural?_eq_some.mp hs).2.1
  rcases hcases with ⟨rfl, -⟩ | ⟨rfl, -⟩ | ⟨rfl, -⟩
  · exact fun c hc => hdigit c (hall c hc)
  · exact List.forall_mem_cons.mpr ⟨by decide, fun c hc => hdigit c (hall c hc)⟩
  · exact List.forall_mem_cons.mpr ⟨by decide, fun c hc => hdigit c (hall c hc)⟩

/-- Nothing is cut off a decimal numeral. -/
theorem body_of_integer? {t : Text} {n : Int} (h : Text.integer? t = some n) :
    Text.dropEndWhile isSpace ((Text.upTo (· == '\x00') t).dropWhile isSpace) = t := by
  have hplain := plain_of_integer? h
  have hup : Text.upTo (· == '\x00') t = t :=
    List.takeWhile_eq_self_iff.mpr fun c hc => by simp only [(hplain c hc).2, Bool.not_false]
  rw [hup, Text.dropWhile_of_forall_not fun c hc => (hplain c hc).1,
    Text.dropEndWhile_of_forall_not fun c hc => (hplain c hc).1]

/-- Digits are not the name of NaN. -/
theorem isTaggedNaN_of_isDigit {s : Text} (hs : s.all Text.isDigit) : isTaggedNaN s = false := by
  have hstart : (s.take 4).all Text.isDigit := by
    rw [List.all_eq_true] at hs ⊢
    exact fun c hc => hs c (List.mem_of_mem_take hc)
  unfold isTaggedNaN
  rw [Text.sameFolded_of_isDigit hstart (by decide)]
  rfl

/-- A decimal numeral is not taken for a hexadecimal one, nor for NaN. -/
theorem read?_eq_ofText? {t : Text} {n : Int} (h : Text.integer? t = some n) :
    read? t = Binary64.ofText? t := by
  obtain ⟨negative, s, hsign, -, hdigits, -⟩ := Binary64.splitSign_of_integer? h
  have hhex : ∀ c rest, Text.isDigit c = false → s ≠ '0' :: c :: rest := by
    rintro c rest hc rfl
    simp [hc] at hdigits
  unfold read?
  rw [body_of_integer? h]
  dsimp only
  rw [hsign]
  -- behind the sign there are digits, so it does not start as the other numerals do
  split
  · rename_i heq
    exact absurd heq (hhex 'x' _ (by decide))
  · rename_i heq
    exact absurd heq (hhex 'X' _ (by decide))
  · rw [isTaggedNaN_of_isDigit hdigits, if_neg Bool.false_ne_true]

theorem read?_of_integer? {t : Text} {n : Int} (h : Text.integer? t = some n)
    (hn : n.natAbs ≤ 2 ^ 53) : ∃ x, read? t = some x ∧ IsWhole x n := by
  rw [read?_eq_ofText? h]
  exact Binary64.ofText?_of_integer? h hn

/-! ## 3. Answers of a script -/

theorem toInteger_of_isWhole {x : Binary64} {n : Int} (hx : IsWhole x n)
    (hn : Signed64.holds n) : toInteger x = n := by
  obtain ⟨s, u, rfl, hu⟩ := hx
  have hone : (Binary64.one : Int) ≠ 0 := by exact_mod_cast Binary64.one_pos.ne'
  have hdiv : u / Binary64.one = n.natAbs := by
    rw [Binary64.units_of_signed hu, Nat.mul_div_cancel _ Binary64.one_pos]
  have htruncate : Binary64.signed s (u / Binary64.one) = n := by
    apply Int.eq_of_mul_eq_mul_right hone
    rw [← hu, hdiv, Binary64.units_of_signed hu, Binary64.signed_mul]
  simp [toInteger, Binary64.truncate?, htruncate, hn]

end Numeral

/-! ## 4. Reading in a client -/

namespace KeyValue

theorem number?_eq_some {t : Text} {n : Int} :
    number? t = some n ↔ Text.integer? t = some n ∧ Signed64.holds n := by
  simp [number?, Option.filter_eq_some_iff]

theorem number?_ofInt {n : Int} (h : Signed64.holds n) : number? (Text.ofInt n) = some n :=
  number?_eq_some.mpr ⟨Text.integer?_ofInt n, h⟩

end KeyValue
end Autoresponder
