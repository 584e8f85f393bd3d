import Autoresponder.Proofs.Restitution
/-!
# Claims that fail

A claim that fails should leave the store as it was: nothing tells the caller that there is
something to take back. Most failures come before the claim writes: the store does not answer, or
what it holds is no number. One comes too late. A number is compared with the time of the claim and
replaced before anybody asks whether it is the second of a time at all.

1. A `Stored` value is whatever a store keeps under a name; other software may have written it. It
   is `LostTo` a claim if it is a number that stands for no time, and the claim does not find it
   recent.
2. Without such a value under its key, a claim that fails leaves every name of a backend with the
   value that it had. With one, the claim fails and the value is gone
   (`Backend.failed_claim_unchanged_iff`). A row far in the past is enough
   (`Backend.not_forall_failed_claim_unchanged`).
-/

namespace Autoresponder

/-! ## 1. Values -/

/-- What a store keeps under a name. -/
inductive Stored where
  | cell (c : Cell)
  | text (t : Text)
  deriving DecidableEq, Repr

/-- The value is a number, is not recent for a claim, and is the second of no time. Tables subtract
in 64 bits, and scripts in floating-point numbers. -/
def Stored.LostTo (now : Instant) (interval : Interval) : Stored → Prop
  | .cell (.seconds n) =>
    interval.wholeSeconds ≤ Int.bmod (now.seconds - n.toInt) Table.modulus ∧
      ¬Instant.Valid n.toInt 0
  | .cell (.other _) => False
  | .text t =>
    ∃ x, Numeral.read? t = some x ∧
      ((Binary64.ofInt now.seconds).sub x).lt (Binary64.ofInt interval.wholeSeconds) = false ∧
      ¬Instant.Valid (Numeral.toInteger x) 0

namespace Backend

/-- The name of a key in a backend. -/
def nameOf : Backend → Key → Text
  | .nowhere, k => k.text
  | .table _, k => k.text
  | .keyValue client _ _, k => client.keyText k

/-- The value under a name, also under one that no key of the responder has. -/
def value? : Backend → Text → Option Stored
  | .nowhere, _ => none
  | .table t, name => (Dictionary.find? ⟨name⟩ t.rows).map .cell
  | .keyValue _ _ server, name => (server.value? name).map .text

end Backend

theorem Instant.ofSeconds?_eq_none_iff {n : Int} :
    Instant.ofSeconds? n = none ↔ ¬Instant.Valid n 0 :=
  dite_eq_right_iff.trans (by simp)

theorem Instant.ofSeconds?_of_valid {n : Int} (h : Instant.Valid n 0) :
    Instant.ofSeconds? n = some ⟨n, 0, h⟩ :=
  dif_pos h

/-! ## 2. Rows -/

namespace Table

variable {t : Table} {k : Key} {n : Int64} {now : Instant} {interval : Interval}

theorem claim_of_lost (hunlocked : t.locked = false)
    (hrow : Dictionary.find? k t.rows = some (.seconds n))
    (hlost : (Stored.cell (.seconds n)).LostTo now interval) :
    t.claim k now interval = (.error (.outOfRange n), t.write k (encode now)) := by
  obtain ⟨hold, hinvalid⟩ := hlost
  rw [claim_of_seconds hunlocked hrow, if_neg (Int.not_lt.mpr hold), decode?, decode,
    Instant.ofSeconds?_eq_none_iff.mpr hinvalid]
  rfl

theorem claim_of_not_lost (hunlocked : t.locked = false)
    (hrow : ∀ n, Dictionary.find? k t.rows = some (.seconds n) →
      ¬(Stored.cell (.seconds n)).LostTo now interval)
    {e : TableFailure} (herror : (t.claim k now interval).1 = .error e) :
    (t.claim k now interval).2 = t := by
  match hfind : Dictionary.find? k t.rows with
  | none =>
    have hread : t.read k = .ok none := by rw [read, hfind]
    rw [claim, hunlocked, if_neg Bool.false_ne_true, hread] at herror
    cases herror
  | some (.other text) =>
    have hread : t.read k = .error .database := by rw [read, hfind]
    rw [claim, hunlocked, if_neg Bool.false_ne_true, hread]
  | some (.seconds n) =>
    rw [claim_of_seconds hunlocked hfind] at herror ⊢
    split_ifs at herror ⊢ with hrecent
    -- what is not recent is a time, so the claim was acquired
    have hvalid : Instant.Valid n.toInt 0 := by
      by_contra hinvalid
      exact hrow n hfind ⟨Int.not_lt.mp hrecent, hinvalid⟩
    rw [decode?, decode, Instant.ofSeconds?_of_valid hvalid] at herror
    cases herror

end Table

/-! ## 3. Values on a server -/

namespace KeyValue

open Autoresponder (Text)

variable {c : Client} {k : Key} {server : Server} {now : Instant} {interval : Interval}
  {x : Binary64} {t : Text}

theorem value?_run_write (server : Server) (name value : Text) (expiry : Nat) :
    (server.run (write name value expiry)).2.value? name = some value := by
  have hfind : Dictionary.find? name (server.run (write name value expiry)).2.entries =
      some (value, if expiry = 0 then none else some expiry) := by
    unfold write
    split
    · exact (Dictionary.find?_put _ _ _ _).trans (if_pos rfl)
    · exact (Dictionary.find?_put _ _ _ _).trans (if_pos rfl)
  rw [Server.value?, hfind]
  rfl

theorem claimOf_old (now : Instant) (n : Int) :
    claimOf now [1, n] = (decode n).map fun p => .acquired now.truncate (some p) := rfl

theorem claimCall_of_lost (h : server.Working) (hvalue : server.value? (c.keyText k) = some t)
    (hlost : (Stored.text t).LostTo now interval) :
    (∃ e, (claimCall c k now interval server).1 = .error e) ∧
      (claimCall c k now interval server).2.value? (c.keyText k) =
        some (Text.ofInt now.seconds) := by
  obtain ⟨x, hread, hold, hinvalid⟩ := hlost
  rw [claimCall_of_run h (run_claim_of_old hvalue hread hold)]
  refine ⟨⟨.outOfRange (Numeral.toInteger x), ?_⟩, value?_run_write _ _ _ _⟩
  dsimp only
  rw [Option.elim_some, claimOf_old, decode, Instant.ofSeconds?_eq_none_iff.mpr hinvalid]
  rfl

/-- A lost value is not the one that the claim writes. -/
theorem ne_ofInt_of_lost (hlost : (Stored.text t).LostTo now interval) :
    t ≠ Text.ofInt now.seconds := by
  rintro rfl
  obtain ⟨x, hread, -, hinvalid⟩ := hlost
  obtain ⟨v, hreads, hwhole⟩ := (spells_ofInstant now).read?
  obtain rfl : v = x := Option.some.inj (hreads.symm.trans hread)
  rw [Numeral.toInteger_of_isWhole hwhole (holds_seconds now)] at hinvalid
  exact hinvalid now.valid_seconds

theorem claimCall_of_not_lost (h : server.Working)
    (hvalue : ∀ t, server.value? (c.keyText k) = some t → ¬(Stored.text t).LostTo now interval)
    {e : KeyValueFailure} (herror : (claimCall c k now interval server).1 = .error e) :
    (claimCall c k now interval server).2.entries = server.entries := by
  cases hfind : server.value? (c.keyText k) with
  | none =>
    rw [claimCall_of_run h (run_claim_of_none hfind)] at herror
    cases herror
  | some t =>
    cases hread : Numeral.read? t with
    | none =>
      rw [claimCall_of_run h (run_claim_of_unreadable hfind hread)]
      rfl
    | some x =>
      cases hold :
        ((Binary64.ofInt now.seconds).sub x).lt (Binary64.ofInt interval.wholeSeconds) with
      | true =>
        rw [claimCall_of_run h (run_claim_of_recent hfind hread hold)] at herror
        cases herror
      | false =>
        -- what is not recent is a time, so the claim was acquired
        have hvalid : Instant.Valid (Numeral.toInteger x) 0 := by
          by_contra hinvalid
          exact hvalue t hfind ⟨x, hread, hold, hinvalid⟩
        rw [claimCall_of_run h (run_claim_of_old hfind hread hold)] at herror
        dsimp only at herror
        rw [Option.elim_some, claimOf_old, decode, Instant.ofSeconds?_of_valid hvalid] at herror
        cases herror

end KeyValue

/-! ## 4. Backends -/

namespace Backend

variable {b : Backend} {k : Key} {now : Instant} {interval : Interval}

/-- A claim loses the value and fails. -/
theorem claim_of_lost (hworking : b.Working) {v : Stored} (hvalue : b.value? (b.nameOf k) = some v)
    (hlost : v.LostTo now interval) :
    (∃ e, (store.call (.claim k now interval) b).1 = .error e) ∧
      (store.call (.claim k now interval) b).2.value? (b.nameOf k) ≠ some v := by
  cases b with
  | nowhere => exact hworking.elim
  | table t =>
    obtain ⟨c, hrow, rfl⟩ := Option.map_eq_some_iff.mp hvalue
    cases c with
    | other text => exact hlost.elim
    | seconds n =>
      have hclaim : store.call (.claim k now interval) (.table t) =
          (.error (.table (.outOfRange n)), .table (t.write k (Table.encode now))) :=
        congrArg ofTable (Table.claim_of_lost hworking hrow hlost)
      rw [hclaim]
      refine ⟨⟨_, rfl⟩, fun hsame => hlost.2 ?_⟩
      have hwritten : (Backend.table (t.write k (Table.encode now))).value? k.text =
          some (.cell (.seconds (Table.encode now))) :=
        congrArg (Option.map Stored.cell) ((Dictionary.find?_put _ _ _ _).trans (if_pos rfl))
      cases hwritten.symm.trans hsame
      rw [Table.toInt_encode]
      exact now.valid_seconds
  | keyValue client database server =>
    obtain ⟨t, htext, rfl⟩ := Option.map_eq_some_iff.mp hvalue
    obtain ⟨⟨e, herror⟩, hwritten⟩ := KeyValue.claimCall_of_lost hworking htext hlost
    refine ⟨⟨.keyValue e, congrArg (Except.mapError StoreFailure.keyValue) herror⟩, fun hsame => ?_⟩
    have hvalue : some (Stored.text (Text.ofInt now.seconds)) = some (.text t) :=
      (congrArg (Option.map Stored.text) hwritten).symm.trans hsame
    cases hvalue
    exact KeyValue.ne_ofInt_of_lost hlost rfl

/-- A claim that fails for any other reason changes nothing. -/
theorem claim_of_not_lost (hworking : b.Working)
    (hvalue : ∀ v, b.value? (b.nameOf k) = some v → ¬v.LostTo now interval) {e : StoreFailure}
    (herror : (store.call (.claim k now interval) b).1 = .error e) (name : Text) :
    (store.call (.claim k now interval) b).2.value? name = b.value? name := by
  cases b with
  | nowhere => exact hworking.elim
  | table t =>
    obtain ⟨e, herror⟩ := mapError_eq_error herror
    have hsame : (t.claim k now interval).2 = t := Table.claim_of_not_lost hworking
      (fun n hrow => hvalue _ (congrArg (Option.map Stored.cell) hrow)) herror
    exact congrArg (fun t => (Backend.table t).value? name) hsame
  | keyValue client database server =>
    obtain ⟨e, herror⟩ := mapError_eq_error herror
    have hsame := KeyValue.claimCall_of_not_lost hworking
      (fun t htext => hvalue _ (congrArg (Option.map Stored.text) htext)) herror
    exact congrArg (fun es => ((Dictionary.find? name es).map Prod.fst).map Stored.text) hsame

/-- A claim that fails leaves every value as it was, unless it finds a number under its key that
stands for no time and is not recent. -/
theorem failed_claim_unchanged_iff (b : Backend) (k : Key) (now : Instant) (interval : Interval) :
    ((∃ e, (store.call (.claim k now interval) b).1 = .error e) →
        ∀ name, (store.call (.claim k now interval) b).2.value? name = b.value? name) ↔
      ¬(b.Working ∧ ∃ v, b.value? (b.nameOf k) = some v ∧ v.LostTo now interval) := by
  constructor
  · rintro hunchanged ⟨hworking, v, hvalue, hlost⟩
    obtain ⟨herror, hchanged⟩ := claim_of_lost hworking hvalue hlost
    exact hchanged ((hunchanged herror (b.nameOf k)).trans hvalue)
  · rintro hkept ⟨e, herror⟩ name
    by_cases hworking : b.Working
    · exact claim_of_not_lost hworking (fun v hvalue hlost => hkept ⟨hworking, v, hvalue, hlost⟩)
        herror name
    · rw [claim_of_not_working hworking]

/-- A row that other software has written, far before all times. -/
def farPast : Backend := .table { rows := [(⟨"user:bob".toList⟩, .seconds (-9000000000000000000))] }

theorem not_forall_failed_claim_unchanged :
    ¬∀ (b : Backend) (k : Key) (now : Instant) (interval : Interval) (e : StoreFailure),
      (store.call (.claim k now interval) b).1 = .error e →
        ∀ name, (store.call (.claim k now interval) b).2.value? name = b.value? name := by
  intro h
  have hsame := h farPast ⟨"user:bob".toList⟩ ⟨0, 0, by decide⟩ ⟨10000000000, by decide⟩
    (.table (.outOfRange (-9000000000000000000))) rfl "user:bob".toList
  have hzero :
      (store.call (.claim ⟨"user:bob".toList⟩ ⟨0, 0, by decide⟩ ⟨10000000000, by decide⟩)
        farPast).2.value? "user:bob".toList = some (.cell (.seconds 0)) := by decide +kernel
  have hbefore : farPast.value? "user:bob".toList =
      some (.cell (.seconds (-9000000000000000000))) := by
    decide +kernel
  rw [hzero, hbefore] at hsame
  exact absurd hsame (by decide)

end Backend
end Autoresponder
