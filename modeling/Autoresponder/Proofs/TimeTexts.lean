import Autoresponder.Proofs.TimeParts
/-!
# Texts of generalized time

A text of generalized time is put together from the digits of a clock time, a fraction and a zone.
The reader takes it apart from both ends, and does not look at all that it cuts off.

1. `Written` is what such a text is put together from. It is `WellFormed` if the fraction has digits
   and nothing but digits, and the offset is a time of day; `Accepted` says what is read.
2. What is accepted is read as it is written (`Written.parse?_of_trim`). Whatever is read is
   accepted (`exists_written_of_parse?`), and in one way only (`Written.Accepted.unique`).
3. An accepted time always denotes an instant (`exists_parse?`).
4. Behind a point or a comma anything is accepted, and minutes above 59 are in a zone, and that is
   all that can be wrong with a text that is read (`accepts_iff`, `not_forall_accepts_wellFormed`).
5. A time with a regular fraction and zone, with blanks around it, denotes the instant at which the
   clocks of its zone show it (`denotes_clock`).
-/

namespace Autoresponder.GeneralizedTime

/-! ## 1. What is written -/

/-- What is written of a time: its digits as far as the precision goes, then a fraction and a
zone. -/
structure Written where
  clock : CivilTime
  precision : Precision
  fraction : Text
  zone : Zone
  deriving DecidableEq, Repr

/-- A separator with digits behind it, or nothing. -/
def IsFraction (s : Text) : Prop :=
  s = [] ∨ ∃ separator digits,
    isSeparator separator = true ∧ digits.all Text.isDigit = true ∧ s = separator :: digits

namespace Written

def digits (w : Written) : Text := w.clock.digits.take w.precision.count

def text (w : Written) : Text := w.digits ++ w.fraction ++ w.zone.text

/-- The digits name a date that exists and a time of day. -/
structure Dated (w : Written) : Prop where
  fits : Fits w.clock
  shows : w.precision.Shows w.clock

/-- The fraction is a separator with digits, and the offset a time of day. -/
structure Regular (w : Written) : Prop extends w.Dated where
  fraction : IsFraction w.fraction
  zone : w.zone.Proper

/-- No separator stands alone. -/
structure WellFormed (w : Written) : Prop extends w.Regular where
  fractionDigit : w.fraction.length ≠ 1

/-- What is read: the fraction is anything behind a separator, and the offset less than a day. -/
structure Accepted (w : Written) : Prop extends w.Dated where
  fraction : ∀ c ∈ w.fraction.head?, isSeparator c = true
  zone : w.zone.Accepted
  zoneless : w.zone = .missing → Zoneless w.fraction

variable {w w' : Written}

theorem all_isDigit_digits (w : Written) : w.digits.all Text.isDigit = true :=
  Text.all_isDigit_of_subset (GeneralizedTime.all_isDigit_digits w.clock) (List.take_subset _ _)

theorem isDigit_of_mem {c : Char} (h : c ∈ w.digits) : Text.isDigit c = true :=
  List.all_eq_true.1 w.all_isDigit_digits c h

theorem length_digits (w : Written) : w.digits.length = w.precision.count := by
  rw [digits, List.length_take, GeneralizedTime.length_digits]
  cases w.precision <;> rfl

theorem isDigit_or_isSeparator (h : IsFraction w.fraction) {c : Char} (hc : c ∈ w.fraction) :
    Text.isDigit c = true ∨ isSeparator c = true := by
  obtain hnil | ⟨separator, digits, hseparator, hdigits, hfraction⟩ := h
  · rw [hnil] at hc
    cases hc
  · rw [hfraction, List.mem_cons] at hc
    obtain rfl | hc := hc
    · exact .inr hseparator
    · exact .inl (List.all_eq_true.1 hdigits c hc)

theorem Regular.accepted (h : w.Regular) : w.Accepted where
  toDated := h.toDated
  fraction := by
    intro c hc
    obtain hnil | ⟨separator, digits, hseparator, -, hfraction⟩ := h.fraction
    · rw [hnil] at hc
      cases hc
    · rw [hfraction] at hc
      cases hc
      exact hseparator
  zone := h.zone.accepted
  zoneless := fun _ => zoneless_of_forall fun _ => isDigit_or_isSeparator h.fraction

/-! ## 2. Reading -/

theorem splitZone?_text (h : w.Accepted) :
    splitZone? w.text = some (w.digits ++ w.fraction, w.zone.seconds) := by
  have hdigits : Zoneless w.digits := zoneless_of_forall fun c hc => .inl (isDigit_of_mem hc)
  exact splitZone?_append h.zone fun hmissing => hdigits.append (h.zoneless hmissing)

theorem upTo_separator (h : w.Accepted) :
    Text.upTo isSeparator (w.digits ++ w.fraction) = w.digits :=
  Text.upTo_append (fun _ hc => isSeparator_of_isDigit (isDigit_of_mem hc)) h.fraction

theorem padded?_digits (h : w.Dated) : padded? w.digits = some w.clock.digits :=
  padded?_eq_some_iff.2
    ⟨w.all_isDigit_digits, w.precision, w.length_digits, (shows_iff h.fits).1 h.shows⟩

/-- An accepted time is read as it is written. -/
theorem parse?_of_trim (h : w.Accepted) {v : Text} (hv : Text.trim v = w.text) :
    parse? v = w.clock.instant? w.zone.seconds := by
  have hdigits : Text.upTo (fun c => c == '.' || c == ',') (w.digits ++ w.fraction) = w.digits :=
    upTo_separator h
  rw [parse?, hv, splitZone?_text h]
  dsimp only
  rw [hdigits, padded?_digits h.toDated]
  dsimp only
  rw [civil_digits h.fits]

end Written

theorem valid_of_instant? {t : CivilTime} {offset : Int} {i : Instant}
    (h : t.instant? offset = some i) :
    t.Valid := by
  by_contra hinvalid
  rw [CivilTime.instant?, if_neg hinvalid] at h
  cases h

/-- Digits that are filled up to a valid time are written for it. -/
theorem exists_precision_of_padded? {digits filled : Text} (h : padded? digits = some filled)
    (hvalid : (civil filled).Valid) :
    ∃ p : Precision, Fits (civil filled) ∧ p.Shows (civil filled) ∧
      (civil filled).digits.take p.count = digits := by
  obtain ⟨hdigits, p, hlength, rfl⟩ := padded?_eq_some_iff.1 h
  have hfilled : (digits ++ p.zeros).all Text.isDigit = true := by
    rw [List.all_append, hdigits]
    cases p <;> rfl
  have hcount : (digits ++ p.zeros).length = 14 := by
    rw [List.length_append, hlength]
    cases p <;> rfl
  have hwidth : ((digits ++ p.zeros).take 4).length = 4 := by
    rw [List.length_take, hcount]
    rfl
  have hyear : (civil (digits ++ p.zeros)).date.year < 10000 :=
    Text.digitsValue_lt (Text.all_isDigit_of_subset hfilled (List.take_subset 4 _)) hwidth
  have hcivil : (civil (digits ++ p.zeros)).digits = digits ++ p.zeros :=
    digits_civil hfilled hcount
  have htake : (digits ++ p.zeros).take p.count = digits := List.take_left' hlength
  refine ⟨p, ⟨hvalid, hyear⟩, ?_, ?_⟩
  · rw [shows_iff ⟨hvalid, hyear⟩, hcivil, htake]
  · rw [hcivil, htake]

theorem parse?_eq_some {v : Text} {i : Instant} (h : parse? v = some i) :
    ∃ rest offset filled, splitZone? (Text.trim v) = some (rest, offset) ∧
      padded? (Text.upTo isSeparator rest) = some filled ∧
        (civil filled).instant? offset = some i := by
  unfold parse? at h
  split at h
  · cases h
  · next rest offset hsplit =>
    split at h
    · cases h
    · next filled hpadded => exact ⟨rest, offset, filled, hsplit, hpadded, h⟩

/-- A text that denotes an instant is an accepted time. -/
theorem exists_written_of_parse? {v : Text} {i : Instant} (h : parse? v = some i) :
    ∃ w : Written, w.Accepted ∧ Text.trim v = w.text := by
  obtain ⟨rest, offset, filled, hsplit, hpadded, hinstant⟩ := parse?_eq_some h
  obtain ⟨z, hz, hzoneless, htext, -⟩ := exists_zone_of_splitZone? hsplit
  obtain ⟨p, hfits, hshows, hdigits⟩ :=
    exists_precision_of_padded? hpadded (valid_of_instant? hinstant)
  obtain ⟨fraction, hrest, hfraction⟩ := Text.exists_append_of_upTo isSeparator rest
  refine ⟨⟨civil filled, p, fraction, z⟩, ⟨⟨hfits, hshows⟩, hfraction, hz, fun hmissing => ?_⟩, ?_⟩
  · rw [hrest] at hzoneless
    exact (hzoneless hmissing).of_append
  · rw [htext, Written.text, Written.digits, hdigits, ← hrest]

namespace Written

variable {w w' : Written}

/-- A text is read in one way. -/
theorem Accepted.unique (h : w.Accepted) (h' : w'.Accepted) (htext : w.text = w'.text) :
    w = w' := by
  -- what the reader finds in the text is found for both
  have hsplit := splitZone?_text h
  rw [htext, splitZone?_text h', Option.some_inj, Prod.mk.injEq] at hsplit
  have hrest : w'.digits ++ w'.fraction = w.digits ++ w.fraction := hsplit.1
  have hdigits := upTo_separator h
  rw [← hrest, upTo_separator h'] at hdigits
  have hfraction : w'.fraction = w.fraction := by rwa [hdigits, List.append_cancel_left_eq] at hrest
  have hzone : w.zone.text = w'.zone.text := by
    rwa [text, text, hrest, List.append_cancel_left_eq] at htext
  have hpadded := padded?_digits h.toDated
  rw [← hdigits, padded?_digits h'.toDated, Option.some_inj] at hpadded
  have hclock : w.clock = w'.clock := by rw [← civil_digits h.fits, ← hpadded, civil_digits h'.fits]
  have hprecision : w.precision = w'.precision := by
    have hcount := congrArg List.length hdigits
    rw [length_digits, length_digits] at hcount
    revert hcount
    cases w.precision <;> cases w'.precision <;> decide
  obtain ⟨clock, precision, fraction, zone⟩ := w
  have hzones := Zone.text_injective h.zone h'.zone hzone
  exact congr (congr (congr (congrArg Written.mk hclock) hprecision) hfraction.symm) hzones

end Written

/-! ## 3. Instants -/

theorem Fits.dayNumber_bounds {t : CivilTime} (h : Fits t) :
    -719528 ≤ t.date.dayNumber ∧ t.date.dayNumber < 4000000 := by
  have hfirst := Date.dayNumber_first_le t.date
  have hzero : Date.first.dayNumber = -719528 := by decide
  have hyear := h.year
  have hlast := h.valid.1.2.trans (Date.daysInMonth_le _ _)
  have hmonth := h.valid.1.month_bounds
  have hbefore := Date.daysBeforeMonth_le t.date.year t.date.month
  have hdays : Date.daysBeforeYear t.date.year ≤ 366 * t.date.year + 26 := by
    unfold Date.daysBeforeYear
    omega
  refine ⟨hzero ▸ hfirst, ?_⟩
  unfold Date.dayNumber
  omega

/-- With an offset of whole minutes, below a day, every clock time of four-digit years is an
instant. -/
theorem exists_instant? {t : CivilTime} {offset : Int} (h : Fits t) (hbehind : -86400 < offset)
    (hahead : offset < 86400) (hminutes : offset % 60 = 0) :
    ∃ i, t.instant? offset = some i ∧ (t.second < 60 → i.nanos = 0 ∧
      i.seconds =
        t.date.dayNumber * 86400 + t.hour * 3600 + t.minute * 60 + t.second - offset) := by
  obtain ⟨hlow, hhigh⟩ := h.dayNumber_bounds
  obtain ⟨-, hhour, hminute, hsecond⟩ := h.valid
  rw [CivilTime.instant?, if_pos h.valid]
  unfold secondsPerDay
  dsimp only
  split
  · next hleap =>
    have hvalid : Instant.Valid
        (t.date.dayNumber * 86400 + t.hour * 3600 + t.minute * 60 + 59 - offset)
        nanosPerSecond := by
      unfold Instant.Valid Instant.firstSecond Instant.lastSecond
      exact ⟨by omega, by omega, by decide, by omega⟩
    exact ⟨_, dif_pos hvalid, fun hlt => absurd hleap hlt.ne⟩
  · have hvalid : Instant.Valid
        (t.date.dayNumber * 86400 + t.hour * 3600 + t.minute * 60 + t.second - offset) 0 := by
      unfold Instant.Valid Instant.firstSecond Instant.lastSecond
      exact ⟨by omega, by omega, by decide, fun hone => absurd hone (by decide)⟩
    exact ⟨_, dif_pos hvalid, fun _ => ⟨rfl, rfl⟩⟩

/-- An accepted time denotes an instant. -/
theorem exists_parse? {w : Written} (h : w.Accepted) {v : Text} (hv : Text.trim v = w.text) :
    ∃ i, parse? v = some i ∧ (w.clock.second < 60 → i.nanos = 0 ∧
      i.seconds = w.clock.date.dayNumber * 86400 + w.clock.hour * 3600 + w.clock.minute * 60 +
        w.clock.second - w.zone.seconds) := by
  obtain ⟨hbehind, hahead, hminutes⟩ := h.zone.seconds_bounds
  rw [Written.parse?_of_trim h hv]
  exact exists_instant? h.fits hbehind hahead hminutes

/-! ## 4. What is accepted -/

/-- The accepted times are the texts that denote an instant, and nothing but the fraction and the
minutes of the zone can be wrong with them. -/
theorem accepts_iff (v : Text) :
    ((∃ i, parse? v = some i) ↔ ∃ w : Written, w.Accepted ∧ Text.trim v = w.text) ∧
    (((∃ i, parse? v = some i) → ∃ w : Written, w.WellFormed ∧ Text.trim v = w.text) ↔
      ∀ w : Written, w.Accepted → Text.trim v = w.text →
        IsFraction w.fraction ∧ w.fraction.length ≠ 1 ∧ w.zone.Proper) := by
  have haccepts : (∃ i, parse? v = some i) ↔ ∃ w : Written, w.Accepted ∧ Text.trim v = w.text := by
    constructor
    · rintro ⟨i, hi⟩
      exact exists_written_of_parse? hi
    · rintro ⟨w, hw, hv⟩
      obtain ⟨i, hi, -⟩ := exists_parse? hw hv
      exact ⟨i, hi⟩
  refine ⟨haccepts, ?_, ?_⟩
  · intro hclaim w hw hv
    obtain ⟨w', hw', hv'⟩ := hclaim (haccepts.2 ⟨w, hw, hv⟩)
    obtain rfl : w = w' := hw.unique hw'.accepted (hv.symm.trans hv')
    exact ⟨hw'.fraction, hw'.fractionDigit, hw'.zone⟩
  · intro hsound haccepted
    obtain ⟨w, hw, hv⟩ := haccepts.1 haccepted
    obtain ⟨hfraction, hdigit, hzone⟩ := hsound w hw hv
    exact ⟨w, ⟨⟨hw.toDated, hfraction, hzone⟩, hdigit⟩, hv⟩

/-- What stands behind the point is not looked at. -/
theorem not_forall_accepts_wellFormed :
    ¬∀ v i, parse? v = some i → ∃ w : Written, w.WellFormed ∧ Text.trim v = w.text := by
  intro h
  let soon : Written := ⟨⟨⟨2024, 6, 1⟩, 12, 0, 0⟩, .seconds, ['.', 's', 'o', 'o', 'n'], .utc false⟩
  have hpoint : ∀ c ∈ soon.fraction.head?, isSeparator c = true := by
    intro c hc
    cases hc
    rfl
  have hsoon : soon.Accepted := ⟨⟨⟨by decide, by decide⟩, trivial⟩, hpoint, trivial, nofun⟩
  have htrim : Text.trim "20240601120000.soonZ".toList = soon.text := by decide
  obtain ⟨i, hi, -⟩ := exists_parse? hsoon htrim
  obtain ⟨w, hw, hv⟩ := h _ i hi
  obtain rfl : soon = w := hsoon.unique hw.accepted (htrim.symm.trans hv)
  obtain hnil | ⟨separator, digits, -, hdigits, hfraction⟩ := hw.fraction
  · cases hnil
  · cases hfraction
    exact absurd hdigits (by decide)

/-! ## 5. What a time denotes -/

theorem Written.Regular.trim_text {w : Written} (h : w.Regular) : Text.trim w.text = w.text := by
  refine Text.trim_of_forall_not_isBlank fun c hc => ?_
  rw [Written.text, List.mem_append, List.mem_append] at hc
  obtain (hdigit | hfraction) | hzone := hc
  · exact Text.isBlank_of_isDigit (Written.isDigit_of_mem hdigit)
  · obtain hdigit | hseparator := Written.isDigit_or_isSeparator h.fraction hfraction
    · exact Text.isBlank_of_isDigit hdigit
    · obtain rfl | rfl := separator_cases hseparator <;> rfl
  · exact Zone.isBlank_of_mem_text hzone

/-- A time denotes the instant at which the clocks of its zone show it, with the days counted one by
one. -/
theorem denotes_clock {w : Written} {before after : Text} (h : w.Regular)
    (hsecond : w.clock.second < 60) (hbefore : ∀ c ∈ before, Text.isBlank c = true)
    (hafter : ∀ c ∈ after, Text.isBlank c = true) :
    ∃ i, parse? (before ++ w.text ++ after) = some i ∧ i.nanos = 0 ∧
      ∀ days : Int, w.clock.date.Counts days ↔
        i.seconds = days * 86400 + w.clock.hour * 3600 + w.clock.minute * 60 + w.clock.second -
          w.zone.seconds := by
  have htrim : Text.trim (before ++ w.text ++ after) = w.text := by
    rw [Text.trim_append hbefore hafter, h.trim_text]
  obtain ⟨i, hi, hinstant⟩ := exists_parse? h.accepted htrim
  obtain ⟨hnanos, hseconds⟩ := hinstant hsecond
  refine ⟨i, hi, hnanos, fun days => ?_⟩
  have hvalid : w.clock.date.Valid := h.fits.valid.1
  rw [Date.counts_iff, and_iff_right hvalid, hseconds]
  omega

/-- The first hour of the year 0, where clocks are a minute short of a day ahead. -/
theorem denotes_yearZero :
    ∃ i, parse? " 0000010100.5+2359\n".toList = some i ∧ i.nanos = 0 ∧
      i.seconds = -719529 * 86400 + 60 := by
  have hregular :
      Written.Regular ⟨⟨⟨0, 1, 1⟩, 0, 0, 0⟩, .hours, ['.', '5'], .offset false 23 (some 59)⟩ :=
    ⟨⟨⟨by decide, by decide⟩, rfl, rfl⟩, .inr ⟨'.', ['5'], rfl, rfl, rfl⟩, by decide, by decide⟩
  have hspace : ∀ c ∈ [' '], Text.isBlank c = true := List.forall_mem_singleton.2 rfl
  have hbreak : ∀ c ∈ ['\n'], Text.isBlank c = true := List.forall_mem_singleton.2 rfl
  obtain ⟨i, hi, hnanos, hdays⟩ := denotes_clock hregular (by decide) hspace hbreak
  have hseconds := (hdays (-719528)).1 (Date.counts_iff.2 ⟨by decide, by decide⟩)
  exact ⟨i, hi, hnanos, hseconds.trans (by decide)⟩

end Autoresponder.GeneralizedTime
