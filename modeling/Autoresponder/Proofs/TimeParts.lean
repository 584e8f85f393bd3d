import Autoresponder.Directory.GeneralizedTime
import Autoresponder.Proofs.DayCount
import Autoresponder.Proofs.Numerals
import Autoresponder.Proofs.Texts
/-!
# The parts of a generalized time

The digits of a clock time and the zone behind them, each with the text that it is written as. What
the reader takes apart is compared with these texts, in both directions.

1. A number in a field of digits is read back, and digits are the field of the number that is read
   from them (`Text.digitsValue_field`, `Text.field_digitsValue`).
2. The fourteen digits of a clock time spell it, and fourteen digits are those of the clock time
   that they spell (`civil_digits`, `digits_civil`). Of minutes and seconds that are zero, the zeros
   may be left out (`shows_iff`).
3. A zone is read from the end of a text as what it was written for, and whatever is read there is a
   zone that was written, or nothing where the text does not look like one (`splitZone?_append`,
   `exists_zone_of_splitZone?`). The hours and minutes that are read make less than a day, but the
   minutes can be more than 59 (`Zone.Accepted` and `Zone.Proper`).
-/

namespace Autoresponder

/-! ## 1. Fields of digits -/

namespace Text

/-- The last decimal digits of a number, as many as the field is wide. -/
def field : Nat → Nat → Text
  | 0, _ => []
  | width + 1, n => field width (n / 10) ++ [Nat.digitChar (n % 10)]

theorem length_field (width n : Nat) : (field width n).length = width := by
  induction width generalizing n with
  | zero => rfl
  | succ width ih => rw [field, List.length_append, ih, List.length_singleton]

theorem isDigit_digitChar {n : Nat} (h : n < 10) : isDigit (Nat.digitChar n) = true := by
  interval_cases n <;> rfl

theorem toNat_digitChar {n : Nat} (h : n < 10) : (Nat.digitChar n).toNat - '0'.toNat = n := by
  interval_cases n <;> rfl

theorem all_isDigit_field (width n : Nat) : (field width n).all isDigit = true := by
  induction width generalizing n with
  | zero => rfl
  | succ width ih =>
    rw [field, List.all_append, ih, List.all_cons, isDigit_digitChar (Nat.mod_lt n (by decide))]
    rfl

theorem digitsValue_concat (s : Text) (c : Char) :
    digitsValue (s ++ [c]) = 10 * digitsValue s + (c.toNat - '0'.toNat) := by
  rw [digitsValue, List.foldl_append]
  rfl

theorem digitsValue_field {width n : Nat} (h : n < 10 ^ width) :
    digitsValue (field width n) = n := by
  induction width generalizing n with
  | zero =>
    rw [Nat.pow_zero, Nat.lt_one_iff] at h
    rw [h]
    rfl
  | succ width ih =>
    have hrest : n / 10 < 10 ^ width := by
      rw [Nat.pow_succ] at h
      omega
    rw [field, digitsValue_concat, ih hrest, toNat_digitChar (Nat.mod_lt n (by decide))]
    omega

theorem digit_cases {c : Char} (h : isDigit c = true) : ∃ n < 10, c = Nat.digitChar n := by
  have hbounds : '0' ≤ c ∧ c ≤ '9' := by simpa [isDigit] using h
  have hascii : c.toNat < 0x80 := Nat.lt_of_le_of_lt hbounds.2 (by decide)
  exact forall_ascii (P := fun c => isDigit c = true → ∃ n < 10, c = Nat.digitChar n)
    (by decide) hascii h

/-- What holds of the ten digits. -/
theorem forall_isDigit {P : Char → Prop} (h : ∀ n < 10, P (Nat.digitChar n)) {c : Char}
    (hc : isDigit c = true) :
    P c := by
  obtain ⟨n, hn, rfl⟩ := digit_cases hc
  exact h n hn

theorem isBlank_of_isDigit {c : Char} (h : isDigit c = true) : isBlank c = false :=
  forall_isDigit (P := fun c => isBlank c = false) (by decide) h

/-- Digits are the field of their value. -/
theorem field_digitsValue {s : Text} {width : Nat} (h : s.all isDigit = true)
    (hlength : s.length = width) :
    field width (digitsValue s) = s := by
  subst hlength
  -- a field grows at its end, and so does the value
  induction s using List.reverseRecOn with
  | nil => rfl
  | append_singleton s c ih =>
    rw [List.all_append, Bool.and_eq_true, List.all_cons, List.all_nil, Bool.and_true] at h
    obtain ⟨n, hn, rfl⟩ := digit_cases h.2
    have hdiv : (10 * digitsValue s + n) / 10 = digitsValue s := by omega
    have hmod : (10 * digitsValue s + n) % 10 = n := by omega
    rw [digitsValue_concat, toNat_digitChar hn, List.length_append, List.length_singleton, field,
      hdiv, hmod, ih h.1]

theorem digitsValue_lt {s : Text} {width : Nat} (h : s.all isDigit = true)
    (hlength : s.length = width) :
    digitsValue s < 10 ^ width := by
  subst hlength
  induction s using List.reverseRecOn with
  | nil => exact Nat.one_pos
  | append_singleton s c ih =>
    rw [List.all_append, Bool.and_eq_true, List.all_cons, List.all_nil, Bool.and_true] at h
    obtain ⟨n, hn, rfl⟩ := digit_cases h.2
    have hs := ih h.1
    rw [digitsValue_concat, toNat_digitChar hn, List.length_append, List.length_singleton,
      Nat.pow_succ]
    omega

theorem all_isDigit_of_subset {s t : Text} (h : s.all isDigit = true) (hsub : t ⊆ s) :
    t.all isDigit = true :=
  List.all_eq_true.2 fun c hc => List.all_eq_true.1 h c (hsub hc)

end Text

/-! ## 2. Clock times in digits -/

/-- The fourteen digits of a clock time. -/
def CivilTime.digits (t : CivilTime) : Text :=
  Text.field 4 t.date.year ++ (Text.field 2 t.date.month ++ (Text.field 2 t.date.day ++
    (Text.field 2 t.hour ++ (Text.field 2 t.minute ++ Text.field 2 t.second))))

namespace GeneralizedTime

/-- The last part of a clock time that is written. -/
inductive Precision where
  | hours
  | minutes
  | seconds
  deriving DecidableEq, Repr

namespace Precision

/-- The number of digits. -/
def count : Precision → Nat
  | hours => 10
  | minutes => 12
  | seconds => 14

/-- The parts of a time that are not written are zero. -/
def Shows (p : Precision) (t : CivilTime) : Prop :=
  match p with
  | hours => t.minute = 0 ∧ t.second = 0
  | minutes => t.second = 0
  | seconds => True

/-- The zeros for what is not written. -/
def zeros (p : Precision) : Text := List.replicate (14 - p.count) '0'

end Precision

theorem padded?_eq_some_iff {s filled : Text} :
    padded? s = some filled ↔
      s.all Text.isDigit = true ∧ ∃ p : Precision, s.length = p.count ∧ s ++ p.zeros = filled := by
  unfold padded?
  by_cases hdigits : s.all Text.isDigit = true
  · rw [hdigits, Bool.not_true, if_neg Bool.false_ne_true]
    constructor
    · intro h
      split at h
      · next hlength => exact ⟨rfl, .hours, hlength, Option.some.inj h⟩
      · split at h
        · next hlength => exact ⟨rfl, .minutes, hlength, Option.some.inj h⟩
        · split at h
          · next hlength =>
              exact ⟨rfl, .seconds, hlength, (List.append_nil s).trans (Option.some.inj h)⟩
          · cases h
    · rintro ⟨-, p, hlength, rfl⟩
      cases p with
      | hours =>
        rw [if_pos (show s.length = 10 from hlength)]
        rfl
      | minutes =>
        rw [if_neg (hlength.trans_ne (by decide)), if_pos (show s.length = 12 from hlength)]
        rfl
      | seconds =>
        rw [if_neg (hlength.trans_ne (by decide)), if_neg (hlength.trans_ne (by decide)),
          if_pos (show s.length = 14 from hlength)]
        exact congrArg some (List.append_nil s).symm
  · rw [Bool.eq_false_iff.2 hdigits]
    simp

theorem length_digits (t : CivilTime) : t.digits.length = 14 := rfl

theorem all_isDigit_digits (t : CivilTime) : t.digits.all Text.isDigit = true := by
  simp [CivilTime.digits, Text.all_isDigit_field, -List.all_eq_true]

/-- The time fits into its digits. -/
structure Fits (t : CivilTime) : Prop where
  valid : t.Valid
  year : t.date.year < 10000

theorem civil_digits {t : CivilTime} (h : Fits t) : civil t.digits = t := by
  obtain ⟨⟨hdate, hhour, hminute, hsecond⟩, hyear⟩ := h
  have hmonth := hdate.month_bounds
  have hday : t.date.day ≤ 31 := hdate.2.trans (Date.daysInMonth_le _ _)
  obtain ⟨⟨year, month, day⟩, hour, minute, second⟩ := t
  dsimp only at *
  show (⟨⟨Text.digitsValue (Text.field 4 year), Text.digitsValue (Text.field 2 month),
    Text.digitsValue (Text.field 2 day)⟩, Text.digitsValue (Text.field 2 hour),
    Text.digitsValue (Text.field 2 minute), Text.digitsValue (Text.field 2 second)⟩ : CivilTime) = _
  rw [Text.digitsValue_field (by omega), Text.digitsValue_field (by omega),
    Text.digitsValue_field (by omega), Text.digitsValue_field (by omega),
    Text.digitsValue_field (by omega), Text.digitsValue_field (by omega)]

theorem digits_civil {s : Text} (h : s.all Text.isDigit = true) (hlength : s.length = 14) :
    (civil s).digits = s := by
  have hpart : ∀ start count, start + count ≤ 14 → Text.field count
      (Text.digitsValue ((s.drop start).take count)) = (s.drop start).take count := by
    intro start count hend
    have hcount : ((s.drop start).take count).length = count := by
      rw [List.length_take, List.length_drop]
      omega
    have hsub : (s.drop start).take count ⊆ s :=
      List.Subset.trans (List.take_subset count _) (List.drop_subset start s)
    exact Text.field_digitsValue (Text.all_isDigit_of_subset h hsub) hcount
  -- the fields stand one behind the other and leave nothing
  have hsplit : ∀ start count,
      (s.drop start).take count ++ s.drop (start + count) = s.drop start := by
    intro start count
    rw [← List.drop_drop, List.take_append_drop]
  have hrest : s.drop 14 = [] := List.drop_eq_nil_of_le hlength.le
  have hlast := hsplit 12 2
  rw [hrest, List.append_nil] at hlast
  unfold CivilTime.digits civil
  dsimp only
  rw [hpart 0 4 (by decide), hpart 4 2 (by decide), hpart 6 2 (by decide), hpart 8 2 (by decide),
    hpart 10 2 (by decide), hpart 12 2 (by decide), hlast, hsplit 10 2, hsplit 8 2, hsplit 6 2,
      hsplit 4 2,
    hsplit 0 4, List.drop_zero]

/-- The parts that are not written are zero exactly if zeros may be written for them. -/
theorem shows_iff {p : Precision} {t : CivilTime} (h : Fits t) :
    p.Shows t ↔ t.digits.take p.count ++ p.zeros = t.digits := by
  constructor
  · intro hshows
    have hzero : Text.field 2 0 = ['0', '0'] := by decide
    unfold CivilTime.digits
    cases p with
    | hours =>
      rw [hshows.1, hshows.2, hzero]
      rfl
    | minutes =>
      rw [show t.second = 0 from hshows, hzero]
      rfl
    | seconds => rfl
  · intro hzeros
    have hcivil : civil (t.digits.take p.count ++ p.zeros) = t := by rw [hzeros, civil_digits h]
    cases p with
    | hours =>
      exact ⟨(congrArg CivilTime.minute hcivil).symm, (congrArg CivilTime.second hcivil).symm⟩
    | minutes => exact (congrArg CivilTime.second hcivil).symm
    | seconds => trivial

/-! ## 3. Zones -/

/-- What a text says about the zone. -/
inductive Zone where
  | missing
  /-- The letter `Z` or `z`. -/
  | utc (small : Bool)
  /-- A sign with hours and perhaps minutes. -/
  | offset (behind : Bool) (hours : Nat) (minutes : Option Nat)
  deriving DecidableEq, Repr

namespace Zone

def sign (behind : Bool) : Char := if behind then '-' else '+'

/-- Two digits for the hours, and two for the minutes if they are written. -/
def digits (hours : Nat) (minutes : Option Nat) : Text :=
  Text.field 2 hours ++ minutes.elim [] (Text.field 2)

def text : Zone → Text
  | missing => []
  | utc small => [if small then 'z' else 'Z']
  | offset behind hours minutes => sign behind :: digits hours minutes

/-- The seconds that the clocks of the zone are ahead of UTC. -/
def seconds : Zone → Int
  | missing => 0
  | utc _ => 0
  | offset behind hours minutes =>
    let size : Int := hours * 3600 + minutes.getD 0 * 60
    if behind then -size else size

/-- The offset is a time of day. -/
def Proper : Zone → Prop
  | missing => True
  | utc _ => True
  | offset _ hours minutes => hours < 24 ∧ minutes.getD 0 < 60

/-- The offset is less than a day, with whatever minutes two digits can write. -/
def Accepted : Zone → Prop
  | missing => True
  | utc _ => True
  | offset _ hours minutes => minutes.getD 0 < 100 ∧ hours * 3600 + minutes.getD 0 * 60 < 86400

variable {z : Zone}

theorem Proper.accepted (h : z.Proper) : z.Accepted := by
  cases z with
  | missing => trivial
  | utc => trivial
  | offset behind hours minutes =>
    obtain ⟨hhours, hminutes⟩ : hours < 24 ∧ minutes.getD 0 < 60 := h
    exact ⟨by omega, by omega⟩

/-- Zones are whole minutes and less than a day. -/
theorem Accepted.seconds_bounds (h : z.Accepted) :
    -86400 < z.seconds ∧ z.seconds < 86400 ∧ z.seconds % 60 = 0 := by
  cases z with
  | missing => decide
  | utc small => exact ⟨neg_lt_zero.2 (by decide), show (0 : Int) < 86400 by decide, rfl⟩
  | offset behind hours minutes =>
    obtain ⟨-, hsize⟩ : minutes.getD 0 < 100 ∧ hours * 3600 + minutes.getD 0 * 60 < 86400 := h
    unfold seconds
    dsimp only
    split <;> omega

theorem all_isDigit_digits (hours : Nat) (minutes : Option Nat) :
    (digits hours minutes).all Text.isDigit = true := by
  unfold digits
  cases minutes with
  | none => rw [Option.elim_none, List.append_nil, Text.all_isDigit_field]
  | some minutes =>
    rw [Option.elim_some, List.all_append, Text.all_isDigit_field, Text.all_isDigit_field,
      Bool.and_true]

theorem isBlank_of_mem_text {c : Char} (h : c ∈ z.text) : Text.isBlank c = false := by
  cases z with
  | missing => cases h
  | utc small =>
    rw [text, List.mem_singleton] at h
    subst h
    cases small <;> rfl
  | offset behind hours minutes =>
    rw [text, List.mem_cons] at h
    obtain rfl | hdigit := h
    · cases behind <;> rfl
    · exact Text.isBlank_of_isDigit (List.all_eq_true.1 (all_isDigit_digits hours minutes) c hdigit)

/-- An offset ends with a digit. -/
theorem text_offset_concat (behind : Bool) (hours : Nat) (minutes : Option Nat) :
    ∃ front n, (offset behind hours minutes).text = front ++ [Nat.digitChar (n % 10)] := by
  cases minutes with
  | none => exact ⟨sign behind :: Text.field 1 (hours / 10), hours, rfl⟩
  | some minutes =>
    exact ⟨sign behind :: (Text.field 2 hours ++ Text.field 1 (minutes / 10)), minutes, rfl⟩

theorem sign_beq (behind : Bool) : (sign behind == '-') = behind := by cases behind <;> rfl

theorem hours_lt {behind : Bool} {hours : Nat} {minutes : Option Nat}
    (h : (offset behind hours minutes).Accepted) :
    hours < 100 := by
  obtain ⟨-, hsize⟩ : minutes.getD 0 < 100 ∧ hours * 3600 + minutes.getD 0 * 60 < 86400 := h
  omega

theorem digits_injective {hours hours' : Nat} {minutes minutes' : Option Nat} (h : hours < 100)
    (h' : hours' < 100) (hminutes : minutes.getD 0 < 100) (hminutes' : minutes'.getD 0 < 100)
    (heq : digits hours minutes = digits hours' minutes') :
    hours = hours' ∧ minutes = minutes' := by
  have hvalue : ∀ n m : Nat, n < 100 → m < 100 → Text.field 2 n = Text.field 2 m → n = m := by
    intro n m hn hm hfield
    calc
      n = Text.digitsValue (Text.field 2 n) := (Text.digitsValue_field hn).symm
      _ = Text.digitsValue (Text.field 2 m) := congrArg Text.digitsValue hfield
      _ = m := Text.digitsValue_field hm
  obtain ⟨hhours, hrest⟩ := List.append_inj heq (by rw [Text.length_field, Text.length_field])
  refine ⟨hvalue hours hours' h h' hhours, ?_⟩
  cases minutes with
  | none =>
    cases minutes' with
    | none => rfl
    | some minutes' => cases hrest
  | some minutes =>
    cases minutes' with
    | none => cases hrest
    | some minutes' => rw [hvalue minutes minutes' hminutes hminutes' hrest]

theorem text_injective {z z' : Zone} (h : z.Accepted) (h' : z'.Accepted) (heq : z.text = z'.text) :
    z = z' := by
  cases z with
  | missing =>
    cases z' with
    | missing => rfl
    | utc small' => cases heq
    | offset behind' hours' minutes' => cases heq
  | utc small =>
    cases z' with
    | missing => cases heq
    | utc small' =>
      revert heq
      cases small <;> cases small' <;> decide
    | offset behind' hours' minutes' => cases (List.cons.inj heq).2
  | offset behind hours minutes =>
    cases z' with
    | missing => cases heq
    | utc small' => cases (List.cons.inj heq).2
    | offset behind' hours' minutes' =>
      obtain ⟨hsign, hdigits⟩ := List.cons.inj heq
      have hbehind : behind = behind' := by rw [← sign_beq behind, hsign, sign_beq]
      obtain ⟨hhours, hminutes⟩ := digits_injective (hours_lt h) (hours_lt h') h.1 h'.1 hdigits
      rw [hbehind, hhours, hminutes]

end Zone

theorem zoneOffset?_text {behind : Bool} {hours : Nat} {minutes : Option Nat}
    (h : (Zone.offset behind hours minutes).Accepted) :
    zoneOffset? (Zone.sign behind) (Zone.digits hours minutes) =
      some (Zone.offset behind hours minutes).seconds := by
  have hhours : Text.digitsValue (Text.field 2 hours) = hours :=
    Text.digitsValue_field (Zone.hours_lt h)
  obtain ⟨hminutes, hsize⟩ : minutes.getD 0 < 100 ∧ hours * 3600 + minutes.getD 0 * 60 < 86400 := h
  have hday : (hours : Int) * 3600 + (minutes.getD 0 : Nat) * 60 < secondsPerDay := by
    unfold secondsPerDay
    omega
  unfold zoneOffset?
  rw [Zone.sign_beq, Zone.all_isDigit_digits, Bool.not_true, if_neg Bool.false_ne_true]
  cases minutes with
  | none =>
    have hlength : (Zone.digits hours none).length = 2 := rfl
    rw [if_pos hlength, Zone.digits, Option.elim_none, List.append_nil, hhours]
    exact if_pos hday
  | some minutes =>
    have hlength : (Zone.digits hours (some minutes)).length = 4 := rfl
    have htake : (Zone.digits hours (some minutes)).take 2 = Text.field 2 hours := rfl
    have hdrop : (Zone.digits hours (some minutes)).drop 2 = Text.field 2 minutes := rfl
    have hvalue : Text.digitsValue (Text.field 2 minutes) = minutes :=
      Text.digitsValue_field hminutes
    rw [hlength, if_neg (by decide), if_pos rfl, htake, hdrop, hhours, hvalue]
    exact if_pos hday

theorem exists_zone_of_zoneOffset? {behind : Bool} {digits : Text} {offset : Int}
    (h : zoneOffset? (Zone.sign behind) digits = some offset) :
    ∃ hours minutes, (Zone.offset behind hours minutes).Accepted ∧
      digits = Zone.digits hours minutes ∧
      (Zone.offset behind hours minutes).seconds = offset := by
  unfold zoneOffset? at h
  rw [Zone.sign_beq] at h
  split at h
  · cases h
  · next hdigits =>
    rw [Bool.not_eq_true', Bool.not_eq_false] at hdigits
    dsimp only at h
    split at h
    · cases h
    · next hours minutes hparts =>
      split at h
      · next hday =>
        unfold secondsPerDay at hday
        split at hparts
        · next hlength =>
          obtain ⟨rfl, rfl⟩ := Prod.mk.inj (Option.some.inj hparts)
          refine ⟨Text.digitsValue digits, none, ⟨by decide, ?_⟩, ?_, Option.some.inj h⟩
          · rw [Option.getD_none]
            omega
          · rw [Zone.digits, Text.field_digitsValue hdigits hlength, Option.elim_none,
              List.append_nil]
        · split at hparts
          · next hlength =>
            obtain ⟨rfl, rfl⟩ := Prod.mk.inj (Option.some.inj hparts)
            have htake : (digits.take 2).length = 2 := by
              rw [List.length_take]
              omega
            have hdrop : (digits.drop 2).length = 2 := by
              rw [List.length_drop]
              omega
            have hminutes := Text.all_isDigit_of_subset hdigits (List.drop_subset 2 digits)
            have hhours := Text.all_isDigit_of_subset hdigits (List.take_subset 2 digits)
            refine ⟨Text.digitsValue (digits.take 2), some (Text.digitsValue (digits.drop 2)),
              ⟨Text.digitsValue_lt hminutes hdrop, ?_⟩, ?_, Option.some.inj h⟩
            · rw [Option.getD_some]
              omega
            · rw [Zone.digits, Text.field_digitsValue hhours htake, Option.elim_some,
                Text.field_digitsValue hminutes hdrop, List.take_append_drop]
          · cases hparts
      · cases h

def isSign (c : Char) : Bool := c == '+' || c == '-'

def isSeparator (c : Char) : Bool := c == '.' || c == ','

/-- Nothing in the text is read as a zone. -/
structure Zoneless (s : Text) : Prop where
  unsigned : ∀ c ∈ s, isSign c = false
  notCapital : s.getLast? ≠ some 'Z'
  notSmall : s.getLast? ≠ some 'z'

theorem isSign_of_isDigit {c : Char} (h : Text.isDigit c = true) : isSign c = false :=
  Text.forall_isDigit (P := fun c => isSign c = false) (by decide) h

theorem isSeparator_of_isDigit {c : Char} (h : Text.isDigit c = true) : isSeparator c = false :=
  Text.forall_isDigit (P := fun c => isSeparator c = false) (by decide) h

theorem separator_cases {c : Char} (h : isSeparator c = true) : c = '.' ∨ c = ',' :=
  (Bool.or_eq_true_iff.1 h).imp eq_of_beq eq_of_beq

/-- Digits and separators are no zone. -/
theorem zoneless_of_forall {s : Text} (h : ∀ c ∈ s, Text.isDigit c = true ∨ isSeparator c = true) :
    Zoneless s := by
  have hletter : ∀ c, Text.isDigit c = false → isSeparator c = false → s.getLast? ≠ some c := by
    intro c hdigit hseparator hlast
    have hc := h c (List.mem_of_getLast? hlast)
    rw [hdigit, hseparator] at hc
    exact hc.elim Bool.false_ne_true Bool.false_ne_true
  refine ⟨fun c hc => ?_, hletter 'Z' rfl rfl, hletter 'z' rfl rfl⟩
  obtain hdigit | hseparator := h c hc
  · exact isSign_of_isDigit hdigit
  · obtain rfl | rfl := separator_cases hseparator <;> rfl

theorem Zoneless.append {s t : Text} (hs : Zoneless s) (ht : Zoneless t) : Zoneless (s ++ t) := by
  have hletter : ∀ c, s.getLast? ≠ some c → t.getLast? ≠ some c → (s ++ t).getLast? ≠ some c := by
    intro c hs' ht' hlast
    rw [List.getLast?_append, Option.or_eq_some_iff] at hlast
    exact hlast.elim ht' fun h => hs' h.2
  refine ⟨fun c hc => ?_, hletter 'Z' hs.notCapital ht.notCapital,
    hletter 'z' hs.notSmall ht.notSmall⟩
  exact (List.mem_append.1 hc).elim (hs.unsigned c) (ht.unsigned c)

theorem Zoneless.of_append {s t : Text} (h : Zoneless (s ++ t)) : Zoneless t := by
  have hletter : ∀ c, (s ++ t).getLast? ≠ some c → t.getLast? ≠ some c := by
    intro c hne hlast
    exact hne (by rw [List.getLast?_append, hlast, Option.some_or])
  exact ⟨fun c hc => h.unsigned c (List.mem_append_right s hc), hletter 'Z' h.notCapital,
    hletter 'z' h.notSmall⟩

/-- A zone is read as it is written. One that is left out is read so if nothing else looks like a
zone. -/
theorem splitZone?_append {rest : Text} {z : Zone} (h : z.Accepted)
    (hbare : z = .missing → Zoneless rest) :
    splitZone? (rest ++ z.text) = some (rest, z.seconds) := by
  cases z with
  | missing =>
    obtain ⟨hunsigned, hcapital, hsmall⟩ := hbare rfl
    have hnone : Text.breakLast? (fun c => c == '+' || c == '-') rest = none :=
      Text.breakLast?_eq_none_iff.2 hunsigned
    rw [Zone.text, List.append_nil, splitZone?, Text.dropSuffix?_singleton_eq_none_iff.2 hcapital,
      Text.dropSuffix?_singleton_eq_none_iff.2 hsmall, hnone]
    rfl
  | utc small =>
    cases small with
    | false =>
      rw [Zone.text, if_neg Bool.false_ne_true, splitZone?, Text.dropSuffix?_append]
      rfl
    | true =>
      have hcapital : (rest ++ ['z']).getLast? ≠ some 'Z' := by
        rw [List.getLast?_concat]
        decide
      rw [Zone.text, if_pos rfl, splitZone?, Text.dropSuffix?_singleton_eq_none_iff.2 hcapital,
        Text.dropSuffix?_append]
      rfl
  | offset behind hours minutes =>
    -- neither letter can be mistaken for the last digit, nor a digit for the sign
    obtain ⟨front, n, hfront⟩ := Zone.text_offset_concat behind hours minutes
    have hletter : ∀ c, Text.isDigit c = false →
        (rest ++ (Zone.offset behind hours minutes).text).getLast? ≠ some c := by
      intro c hc hlast
      rw [hfront, ← List.append_assoc, List.getLast?_concat, Option.some_inj] at hlast
      rw [← hlast, Text.isDigit_digitChar (Nat.mod_lt n (by decide))] at hc
      cases hc
    have hdigits : ∀ c ∈ Zone.digits hours minutes, isSign c = false := fun c hc =>
      isSign_of_isDigit (List.all_eq_true.1 (Zone.all_isDigit_digits hours minutes) c hc)
    have hbreak : Text.breakLast? (fun c => c == '+' || c == '-')
        (rest ++ (Zone.offset behind hours minutes).text) =
          some (rest, Zone.sign behind, Zone.digits hours minutes) :=
      Text.breakLast?_append (by cases behind <;> rfl) hdigits rest
    rw [splitZone?, Text.dropSuffix?_singleton_eq_none_iff.2 (hletter 'Z' rfl),
      Text.dropSuffix?_singleton_eq_none_iff.2 (hletter 'z' rfl), hbreak]
    dsimp only [Option.or]
    rw [zoneOffset?_text h]
    rfl

/-- Whatever is read as a zone is the text of one. -/
theorem exists_zone_of_splitZone? {s rest : Text} {offset : Int}
    (h : splitZone? s = some (rest, offset)) :
    ∃ z : Zone, z.Accepted ∧ (z = .missing → Zoneless rest) ∧ s = rest ++ z.text ∧
      z.seconds = offset := by
  unfold splitZone? at h
  split at h
  · next before hletter =>
    obtain ⟨rfl, rfl⟩ := Prod.mk.inj (Option.some.inj h)
    obtain hcapital | ⟨-, hsmall⟩ := Option.or_eq_some_iff.1 hletter
    · exact ⟨.utc false, trivial, nofun, Text.eq_append_of_dropSuffix? hcapital, rfl⟩
    · exact ⟨.utc true, trivial, nofun, Text.eq_append_of_dropSuffix? hsmall, rfl⟩
  · next hletter =>
    obtain ⟨hcapital, hsmall⟩ := Option.or_eq_none_iff.1 hletter
    split at h
    · next hunsigned =>
      obtain ⟨rfl, rfl⟩ := Prod.mk.inj (Option.some.inj h)
      exact ⟨.missing, trivial, fun _ => ⟨Text.breakLast?_eq_none_iff.1 hunsigned,
        Text.dropSuffix?_singleton_eq_none_iff.1 hcapital,
          Text.dropSuffix?_singleton_eq_none_iff.1 hsmall⟩,
        (List.append_nil s).symm, rfl⟩
    · next before sign digits hbreak =>
      obtain ⟨size, hsize, hrest⟩ := Option.map_eq_some_iff.1 h
      obtain ⟨rfl, rfl⟩ := Prod.mk.inj hrest
      obtain ⟨behind, rfl⟩ : ∃ behind, sign = Zone.sign behind := by
        obtain hplus | hminus := Bool.or_eq_true_iff.1 (Text.breakLast?_eq_some hbreak).1
        · exact ⟨false, eq_of_beq hplus⟩
        · exact ⟨true, eq_of_beq hminus⟩
      obtain ⟨hours, minutes, haccepted, rfl, hseconds⟩ := exists_zone_of_zoneOffset? hsize
      exact ⟨.offset behind hours minutes, haccepted, nofun, Text.eq_append_of_breakLast? hbreak,
        hseconds⟩

end GeneralizedTime
end Autoresponder
