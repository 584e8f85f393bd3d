import Autoresponder.Proofs.BackendSlot
/-!
# Checks and claims

A check and a claim ask the same: is the last reply less than an interval ago? The check compares
with the exact interval, and the claim with its whole seconds. Times in a store are whole seconds,
so this makes a difference for one second only, the one in which an interval with a fraction ends.

1. A number of seconds is shorter than an interval exactly if it is shorter than the whole seconds
   of the interval, or if it is just these and a fraction of a second follows
   (`Interval.seconds_lt_iff`).
2. So a check and a claim of the same contents agree unless the interval of the record ends within
   the current second (`Backend.check_iff_claim`). Then the check finds a live record, and the claim
   replaces it (`Backend.not_forall_check_iff_claim`).
-/

namespace Autoresponder

/-! ## 1. Whole seconds -/

theorem Interval.seconds_lt_iff (d : Interval) (n : Int) :
    n * nanosPerSecond < d.nanoseconds ↔
      n < d.wholeSeconds ∨ n = d.wholeSeconds ∧ 0 < d.fraction := by
  have hsplit : nanosPerSecond * d.wholeSeconds + d.fraction = d.nanoseconds :=
    Int.mul_tdiv_add_tmod _ _
  have hlow : -(nanosPerSecond : Int) < d.fraction := Int.lt_tmod_of_pos _ (by decide)
  have hhigh : d.fraction < nanosPerSecond := Int.tmod_lt_of_pos _ (by decide)
  unfold nanosPerSecond at *
  omega

/-! ## 2. Two tests of one record -/

/-- The interval that starts with the record ends within the current second. -/
def Record.EndsWithin (r : Record) (now : Instant) (interval : Interval) : Prop :=
  now.seconds - r.lastSent.seconds = interval.wholeSeconds ∧ 0 < interval.fraction

namespace Slot

variable {now : Instant} {interval : Interval} {x : Stamp}

theorem suppresses_iff :
    suppresses (some x) now interval = true ↔
      blocks (some x) now interval = true ∨ Record.EndsWithin ⟨x.time⟩ now interval := by
  rw [suppresses, blocks, Option.any_some, Option.any_some, decide_eq_true_iff, decide_eq_true_iff,
    Interval.seconds_lt_iff]
  rfl

theorem blocks_of_endsWithin (h : Record.EndsWithin ⟨x.time⟩ now interval) :
    blocks (some x) now interval = false := by
  have hage : x.age now = interval.wholeSeconds := h.1
  rw [blocks, Option.any_some, hage, decide_eq_false (Int.lt_irrefl _)]

/-- The two tests agree, unless the interval ends within the current second. -/
theorem suppresses_iff_blocks {s : Slot} :
    (s.suppresses now interval = true ↔ s.blocks now interval = true) ↔
      ∀ x ∈ s, ¬Record.EndsWithin ⟨x.time⟩ now interval := by
  cases s with
  | none => simp [suppresses, blocks]
  | some x =>
    rw [suppresses_iff]
    constructor
    · rintro hagree y ⟨⟩ hends
      have hblocks := hagree.mp (.inr hends)
      rw [blocks_of_endsWithin hends] at hblocks
      cases hblocks
    · intro hends
      exact or_iff_left (hends x rfl)

end Slot

namespace Backend

variable {b : Backend} {k : Key} {r : Option Record}

/-- Both calls are answered, and the answers agree exactly if the interval of the record does not
end within the current second. Where it does, the check holds the reply back, and the claim lets it
pass. -/
theorem check_iff_claim (hworking : b.Working) (hread : b.records k = .ok r) (now : Instant)
    (interval : Interval) :
    ∃ (suppressed : Bool) (claim : Claim),
      (store.call (.check k now interval) b).1 = .ok suppressed ∧
      (store.call (.claim k now interval) b).1 = .ok claim ∧
      ((suppressed = true ↔ claim = .suppressed) ↔ ∀ record ∈ r, ¬record.EndsWithin now interval) ∧
      ∀ record ∈ r, record.EndsWithin now interval →
        suppressed = true ∧ claim = .acquired now.truncate (some record.lastSent) := by
  obtain ⟨s, hholds, rfl⟩ := exists_holds hworking hread
  refine ⟨s.suppresses now interval, Slot.answer (.claim k now interval) s,
    (call_holds (.check k now interval) hholds).1,
    (call_holds (.claim k now interval) hholds).1, ?_, ?_⟩
  · have hsuppressed : Slot.answer (.claim k now interval) s = Claim.suppressed ↔
        s.blocks now interval = true :=
      Slot.answer_claim_eq_suppressed
    refine (iff_congr Iff.rfl hsuppressed).trans (Slot.suppresses_iff_blocks.trans ?_)
    cases s <;> simp
  · intro record hrecord hends
    obtain ⟨x, rfl, rfl⟩ := Option.map_eq_some_iff.mp hrecord
    exact ⟨Slot.suppresses_iff.mpr (.inr hends),
      Slot.answer_claim_eq_acquired.mpr ⟨Slot.blocks_of_endsWithin hends, rfl, rfl⟩⟩

/-- A reply was sent at the second zero. -/
def answeredAtZero : Backend := .table { rows := [(⟨"user:bob".toList⟩, .seconds 0)] }

/-- Ten seconds and a half. -/
def halfwayPastTen : Interval := ⟨10500000000, by decide⟩

/-- Until the second before the last one, the calls agree. -/
theorem check_iff_claim_nine :
    answeredAtZero.Working ∧
      answeredAtZero.records ⟨"user:bob".toList⟩ = .ok (some ⟨⟨0, 0, by decide⟩⟩) ∧
      ∃ (suppressed : Bool) (claim : Claim),
        (store.call (.check ⟨"user:bob".toList⟩ ⟨9, 0, by decide⟩ halfwayPastTen)
          answeredAtZero).1 = .ok suppressed ∧
        (store.call (.claim ⟨"user:bob".toList⟩ ⟨9, 0, by decide⟩ halfwayPastTen)
          answeredAtZero).1 = .ok claim ∧
        (suppressed = true ↔ claim = .suppressed) := by
  have hread : answeredAtZero.records ⟨"user:bob".toList⟩ = .ok (some ⟨⟨0, 0, by decide⟩⟩) := rfl
  obtain ⟨suppressed, claim, hcheck, hclaim, hagree, -⟩ :=
    check_iff_claim (b := answeredAtZero) rfl hread ⟨9, 0, by decide⟩ halfwayPastTen
  refine ⟨rfl, hread, suppressed, claim, hcheck, hclaim, hagree.mpr ?_⟩
  rintro record ⟨⟩ ⟨hseconds, -⟩
  exact absurd hseconds (by decide)

theorem not_forall_check_iff_claim :
    ¬∀ (b : Backend) (k : Key) (r : Option Record), b.Working → b.records k = .ok r →
      ∀ (now : Instant) (interval : Interval),
        (store.call (.check k now interval) b).1 = .ok true ↔
          (store.call (.claim k now interval) b).1 = .ok Claim.suppressed := by
  intro h
  have hagree := h answeredAtZero ⟨"user:bob".toList⟩ (some ⟨⟨0, 0, by decide⟩⟩) rfl rfl
    ⟨10, 0, by decide⟩ halfwayPastTen
  have hcheck :
      (store.call (.check ⟨"user:bob".toList⟩ ⟨10, 0, by decide⟩ halfwayPastTen)
        answeredAtZero).1 = .ok true := rfl
  have hclaim :
      (store.call (.claim ⟨"user:bob".toList⟩ ⟨10, 0, by decide⟩ halfwayPastTen)
        answeredAtZero).1 =
      .ok (Claim.acquired ⟨10, 0, by decide⟩ (some ⟨0, 0, by decide⟩)) := rfl
  cases hclaim.symm.trans (hagree.mp hcheck)

end Backend
end Autoresponder
