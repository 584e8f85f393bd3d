import Autoresponder.Time.Calendar
import Mathlib.Tactic.IntervalCases
/-!
# Counting days

The number of a day is computed from its year, month and day. Here the days are counted one by one,
as a calendar goes from one to the next.

1. A month starts where the one before it ends, and so does a year (`Date.daysBeforeMonth_succ`,
   `Date.daysBeforeYear_succ`).
2. `Date.next` is the day after a date, and its number is one more (`Date.dayNumber_next`). Every
   date but the first one of the year 0 is the day after another one (`Date.exists_previous`).
3. `Date.Counts` counts the days from 1970-01-01, forward and backward. Exactly the dates that exist
   are counted, and each by its number (`Date.counts_iff`).
-/

namespace Autoresponder.Date

/-! ## 1. Months and years -/

theorem month_of_daysInMonth_pos {year month : Nat} (h : 0 < daysInMonth year month) :
    1 ≤ month ∧ month ≤ 12 := by
  unfold daysInMonth at h
  split at h <;> omega

theorem daysInMonth_pos {year month : Nat} (h : 1 ≤ month) (h' : month ≤ 12) :
    0 < daysInMonth year month := by
  interval_cases month
  case «2» =>
    rw [daysInMonth]
    split <;> decide
  all_goals exact Nat.succ_pos _

theorem daysInMonth_le (year month : Nat) : daysInMonth year month ≤ 31 := by
  unfold daysInMonth
  split <;> (try split) <;> omega

theorem daysBeforeMonth_succ (year : Nat) {month : Nat} (h : 1 ≤ month) :
    daysBeforeMonth year (month + 1) = daysBeforeMonth year month + daysInMonth year month := by
  obtain ⟨m, rfl⟩ := Nat.exists_eq_add_of_le' h
  rw [daysBeforeMonth, Nat.add_sub_cancel, List.range_succ, List.foldl_append]
  rfl

theorem daysBeforeMonth_le (year month : Nat) : daysBeforeMonth year month ≤ 31 * month := by
  induction month with
  | zero => exact Nat.le_refl 0
  | succ month ih =>
    rcases Nat.eq_zero_or_pos month with rfl | hpos
    · exact Nat.zero_le _
    · have hmonth := daysInMonth_le year month
      rw [daysBeforeMonth_succ year hpos]
      omega

def daysInYear (year : Nat) : Nat := if isLeapYear year then 366 else 365

theorem daysBeforeMonth_thirteen (year : Nat) : daysBeforeMonth year 13 = daysInYear year := by
  show 31 + (if isLeapYear year then 29 else 28) + 31 + 30 + 31 + 30 + 31 + 31 + 30 + 31 + 30 +
    31 = daysInYear year
  unfold daysInYear
  split <;> rfl

theorem isLeapYear_iff (year : Nat) :
    isLeapYear year = true ↔ year % 4 = 0 ∧ (year % 100 ≠ 0 ∨ year % 400 = 0) := by
  simp [isLeapYear]

theorem daysBeforeYear_succ (year : Nat) :
    daysBeforeYear (year + 1) = daysBeforeYear year + daysInYear year := by
  -- each of the three terms grows after a multiple of its divisor
  have hfour : year % 4 = 0 ∧ (year + 1 + 3) / 4 = (year + 3) / 4 + 1 ∨
      year % 4 ≠ 0 ∧ (year + 1 + 3) / 4 = (year + 3) / 4 := by omega
  have hcentury : year % 100 = 0 ∧ (year + 1 + 99) / 100 = (year + 99) / 100 + 1 ∨
      year % 100 ≠ 0 ∧ (year + 1 + 99) / 100 = (year + 99) / 100 := by omega
  have hcycle : year % 400 = 0 ∧ (year + 1 + 399) / 400 = (year + 399) / 400 + 1 ∨
      year % 400 ≠ 0 ∧ (year + 1 + 399) / 400 = (year + 399) / 400 := by omega
  have horder : (year + 99) / 100 ≤ 365 * year + (year + 3) / 4 := by omega
  have hmultiples : (year % 400 = 0 → year % 100 = 0) ∧ (year % 100 = 0 → year % 4 = 0) := by omega
  simp only [daysBeforeYear, daysInYear, isLeapYear_iff]
  generalize (year + 1 + 3) / 4 = a', (year + 1 + 99) / 100 = b', (year + 1 + 399) / 400 = c',
    (year + 3) / 4 = a, (year + 99) / 100 = b, (year + 399) / 400 = c,
    year % 4 = four, year % 100 = century, year % 400 = cycle at *
  split <;> omega

/-! ## 2. The next day -/

/-- The day after a date. -/
def next (d : Date) : Date :=
  if d.day < daysInMonth d.year d.month then { d with day := d.day + 1 }
  else if d.month < 12 then ⟨d.year, d.month + 1, 1⟩
  else ⟨d.year + 1, 1, 1⟩

/-- The first date of the year 0. -/
def first : Date := ⟨0, 1, 1⟩

variable {d : Date}

theorem Valid.month_bounds (h : d.Valid) : 1 ≤ d.month ∧ d.month ≤ 12 :=
  month_of_daysInMonth_pos (Nat.lt_of_lt_of_le h.1 h.2)

theorem Valid.next (h : d.Valid) : d.next.Valid := by
  have hmonth := h.month_bounds
  unfold Date.next
  split
  · next hlt => exact ⟨Nat.le_add_left 1 _, hlt⟩
  · split
    · next hlt => exact ⟨Nat.le_refl 1, daysInMonth_pos (Nat.le_add_left 1 _) hlt⟩
    · exact ⟨Nat.le_refl 1, daysInMonth_pos (Nat.le_refl 1) (Nat.le_add_left 1 11)⟩

theorem dayNumber_next (h : d.Valid) : d.next.dayNumber = d.dayNumber + 1 := by
  have hmonth := h.month_bounds
  obtain ⟨hday, hlast⟩ := h
  unfold Date.next dayNumber
  split
  · dsimp only
    omega
  · have hend : d.day = daysInMonth d.year d.month := by omega
    split
    · have hbefore := daysBeforeMonth_succ d.year hmonth.1
      dsimp only
      omega
    · have hdecember : d.month = 12 := by omega
      have hbefore : daysBeforeMonth d.year 13 =
          daysBeforeMonth d.year 12 + daysInMonth d.year 12 :=
        daysBeforeMonth_succ d.year (Nat.le_add_left 1 11)
      have hthirteen := daysBeforeMonth_thirteen d.year
      have hyear := daysBeforeYear_succ d.year
      have hjanuary : daysBeforeMonth (d.year + 1) 1 = 0 := rfl
      rw [hdecember] at hend ⊢
      dsimp only
      omega

theorem exists_previous (h : d.Valid) (hd : d ≠ first) : ∃ p : Date, p.Valid ∧ p.next = d := by
  have hmonth := h.month_bounds
  obtain ⟨year, month, day⟩ := d
  obtain ⟨hday, hlast⟩ : 1 ≤ day ∧ day ≤ daysInMonth year month := h
  replace hmonth : 1 ≤ month ∧ month ≤ 12 := hmonth
  rcases Nat.lt_or_ge 1 day with hlater | hfirst
  · -- within a month
    have hinner : day - 1 < daysInMonth year month := by omega
    refine ⟨⟨year, month, day - 1⟩, ⟨Nat.le_sub_one_of_lt hlater, hinner.le⟩, ?_⟩
    rw [Date.next, if_pos hinner]
    exact congrArg (Date.mk year month) (Nat.sub_add_cancel hday)
  obtain rfl : day = 1 := Nat.le_antisymm hfirst hday
  rcases Nat.lt_or_ge 1 month with hlater | hfirst
  · -- the last day of the month before
    have hpos : 0 < daysInMonth year (month - 1) := daysInMonth_pos (by omega) (by omega)
    have hinner : month - 1 < 12 := by omega
    refine ⟨⟨year, month - 1, daysInMonth year (month - 1)⟩, ⟨hpos, Nat.le_refl _⟩, ?_⟩
    rw [Date.next, if_neg (Nat.lt_irrefl _), if_pos hinner]
    exact congrArg (Date.mk year · 1) (Nat.sub_add_cancel hmonth.1)
  · -- the last day of the year before
    obtain rfl : month = 1 := Nat.le_antisymm hfirst hmonth.1
    have hyear : 1 ≤ year := Nat.pos_of_ne_zero fun hzero => hd (hzero ▸ rfl)
    refine ⟨⟨year - 1, 12, daysInMonth (year - 1) 12⟩, ⟨Nat.le_add_left 1 30, Nat.le_refl _⟩, ?_⟩
    rw [Date.next, if_neg (Nat.lt_irrefl _), if_neg (Nat.lt_irrefl _)]
    exact congrArg (Date.mk · 1 1) (Nat.sub_add_cancel hyear)

/-! ## 3. Counting from 1970-01-01 -/

/-- The date is so many days after 1970-01-01: the days are counted one by one, forward or
backward. -/
inductive Counts : Date → Int → Prop
  | epoch : Counts ⟨1970, 1, 1⟩ 0
  | next {d : Date} {days : Int} (hd : d.Valid) (h : Counts d days) : Counts d.next (days + 1)
  | previous {d : Date} {days : Int} (hd : d.Valid) (h : Counts d.next (days + 1)) : Counts d days

theorem Counts.sound {days : Int} (h : d.Counts days) : d.Valid ∧ d.dayNumber = days := by
  induction h with
  | epoch => exact ⟨by decide, rfl⟩
  | next hd _ ih => exact ⟨hd.next, by rw [dayNumber_next hd, ih.2]⟩
  | previous hd _ ih =>
    have hnumber := dayNumber_next hd
    exact ⟨hd, by omega⟩

/-- A date is counted together with the next one. -/
theorem counts_next_iff (h : d.Valid) (days : Int) : d.next.Counts (days + 1) ↔ d.Counts days :=
  ⟨.previous h, .next h⟩

theorem dayNumber_first_le (d : Date) : first.dayNumber ≤ d.dayNumber := by
  have hzero : daysBeforeYear 0 + daysBeforeMonth 0 1 + (1 - 1) = 0 := rfl
  unfold dayNumber first
  dsimp only
  rw [hzero]
  omega

/-- A date is counted together with the first one: there are only finitely many dates between
them. -/
theorem counts_iff_first (h : d.Valid) (days : Int) :
    d.Counts days ↔ first.Counts (days - (d.dayNumber - first.dayNumber)) := by
  obtain ⟨k, hk⟩ : ∃ k : Nat, d.dayNumber - first.dayNumber = k :=
    Int.eq_ofNat_of_zero_le (Int.sub_nonneg_of_le (dayNumber_first_le d))
  rw [hk]
  induction k generalizing d days with
  | zero =>
    have hfirst : d = first := by
      by_contra hne
      obtain ⟨p, hp, rfl⟩ := exists_previous h hne
      have hnumber := dayNumber_next hp
      have hlow := dayNumber_first_le p
      omega
    rw [hfirst, Int.natCast_zero, Int.sub_zero]
  | succ k ih =>
    have hne : d ≠ first := by
      rintro rfl
      omega
    obtain ⟨p, hp, rfl⟩ := exists_previous h hne
    have hnumber := dayNumber_next hp
    have hprevious := ih hp (days - 1) (by omega)
    rw [← counts_next_iff hp, Int.sub_add_cancel] at hprevious
    have hdays : days - 1 - (k : Int) = days - ((k + 1 : Nat) : Int) := by omega
    rw [hprevious, hdays]

theorem counts_iff {days : Int} : d.Counts days ↔ d.Valid ∧ d.dayNumber = days := by
  constructor
  · exact Counts.sound
  · rintro ⟨hd, rfl⟩
    -- by way of the first date, 1970-01-01 leads to every other one
    have hepoch := (counts_iff_first (by decide) 0).mp Counts.epoch
    have hzero : dayNumber ⟨1970, 1, 1⟩ = 0 := rfl
    have hdays : (0 : Int) - (0 - first.dayNumber) =
        d.dayNumber - (d.dayNumber - first.dayNumber) := by omega
    rw [hzero, hdays] at hepoch
    exact (counts_iff_first hd d.dayNumber).mpr hepoch

end Autoresponder.Date
