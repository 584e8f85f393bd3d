import Autoresponder.Proofs.BackendSlot
import Mathlib.Logic.Function.Basic
/-!
# Histories of stores

A table counts in 64 bits and a key/value server in floating-point numbers, and they have different
ways to say that a key has no record. No sequence of calls tells them apart, in whatever order the
times come and however long the intervals are.

1. The `history` of a backend is what it answers to calls one after the other, and the records of
   all keys after each of them.
2. `Slot.history` is what a history has to be, from what the keys hold at the start.
3. Every backend that holds these slots has this history (`Backend.history_of_holds`). So a table
   and a key/value server without records have the same history, and nothing in it fails
   (`Backend.history_table_eq_keyValue`).
-/

namespace Autoresponder

/-! ## 1. Histories of a backend -/

/-- A call with its answer, and the records of all keys after it. -/
structure Moment where
  call : StoreCall
  answer : Except StoreFailure call.Answer
  records : Key → Except StoreFailure (Option Record)

/-- The call is answered, and the records can be read after it. -/
def Moment.Succeeds (m : Moment) : Prop :=
  (∃ answer, m.answer = .ok answer) ∧ ∀ k, ∃ record, m.records k = .ok record

namespace Backend

/-- What comes of calls one after the other. -/
def history : List StoreCall → Backend → List Moment
  | [], _ => []
  | c :: calls, b =>
    let (answer, b) := store.call c b
    ⟨c, answer, b.records⟩ :: history calls b

end Backend

/-! ## 2. Histories of slots -/

namespace Slot

/-- What the keys hold after a call. -/
def afterCall (c : StoreCall) (slots : Key → Slot) : Key → Slot :=
  Function.update slots c.key (after c (slots c.key))

/-- What comes of calls on slots. Nothing fails. -/
def history : List StoreCall → (Key → Slot) → List Moment
  | [], _ => []
  | c :: calls, slots =>
    ⟨c, .ok (answer c (slots c.key)), fun k => .ok ((afterCall c slots k).map fun x => ⟨x.time⟩)⟩ ::
      history calls (afterCall c slots)

theorem history_succeeds (calls : List StoreCall) (slots : Key → Slot) :
    ∀ m ∈ history calls slots, m.Succeeds := by
  induction calls generalizing slots with
  | nil => simp [history]
  | cons c calls ih =>
    exact List.forall_mem_cons.mpr ⟨⟨⟨_, rfl⟩, fun k => ⟨_, rfl⟩⟩, ih _⟩

end Slot

/-! ## 3. Backends and slots -/

namespace Backend

variable {b : Backend} {slots : Key → Slot}

/-- After a call every key holds what its slot says. -/
theorem holds_afterCall (h : ∀ k, b.Holds k (slots k)) (c : StoreCall) (k : Key) :
    (store.call c b).2.Holds k (Slot.afterCall c slots k) := by
  unfold Slot.afterCall
  by_cases hk : k = c.key
  · subst hk
    rw [Function.update_self]
    exact (call_holds c (h c.key)).2
  · rw [Function.update_of_ne hk]
    exact call_holds_of_ne c (Ne.symm hk) (h k)

theorem records_of_holds (h : ∀ k, b.Holds k (slots k)) :
    b.records = fun k => .ok ((slots k).map fun x => ⟨x.time⟩) :=
  funext fun k => get_of_holds (h k)

theorem history_of_holds (calls : List StoreCall) (h : ∀ k, b.Holds k (slots k)) :
    b.history calls = Slot.history calls slots := by
  induction calls generalizing b slots with
  | nil => rfl
  | cons c calls ih =>
    have hafter := holds_afterCall h c
    simp only [history, Slot.history]
    rw [(call_holds c (h c.key)).1, records_of_holds hafter, ih hafter]

/-- A table and a key/value server without records answer every sequence of calls in the same way.
None of the calls fails, and after each of them every key has the same record in both, as long as
nothing expires on the server by itself. -/
theorem history_table_eq_keyValue (calls : List StoreCall) {t : Table} {client : KeyValue.Client}
    {database : Int} {server : KeyValue.Server} (htable : (table t).Blank)
    (hserver : (keyValue client database server).Blank) :
    (table t).history calls = (keyValue client database server).history calls ∧
      ∀ m ∈ (table t).history calls, m.Succeeds := by
  have htable' : (table t).history calls = Slot.history calls fun _ => none :=
    history_of_holds calls htable.holds
  have hserver' : (keyValue client database server).history calls =
      Slot.history calls fun _ => none :=
    history_of_holds calls hserver.holds
  refine ⟨htable'.trans hserver'.symm, ?_⟩
  rw [htable']
  exact Slot.history_succeeds calls _

/-- Calls with a time before the epoch and inside a second, the longest interval and one of a second
and a half, a clock that goes back, and a release that puts back a later time. -/
def mixedCalls : List StoreCall :=
  let bob : Key := ⟨"user:bob".toList⟩
  let eve : Key := ⟨"user:eve".toList⟩
  [.claim bob ⟨-4, 500000000, by decide⟩ .longest,
    .check bob ⟨-3, 0, by decide⟩ ⟨1500000000, by decide⟩,
    .claim bob ⟨7, 0, by decide⟩ .longest,
    .record eve ⟨59, 1000000000, by decide⟩,
    .release bob ⟨-4, 0, by decide⟩ (some ⟨9, 0, by decide⟩),
    .claim bob ⟨7, 0, by decide⟩ .zero,
    .claim bob ⟨9, 0, by decide⟩ ⟨-1500000000, by decide⟩]

theorem history_mixedCalls :
    (table {}).Blank ∧ (keyValue { keyPrefix := [], expiry := 600 } 2 {}).Blank ∧
      (table {}).history mixedCalls =
        (keyValue { keyPrefix := [], expiry := 600 } 2 {}).history mixedCalls ∧
      ∀ m ∈ (table {}).history mixedCalls, m.Succeeds :=
  ⟨blank_table, ⟨⟨rfl, rfl⟩, rfl⟩,
    history_table_eq_keyValue mixedCalls blank_table ⟨⟨rfl, rfl⟩, rfl⟩⟩

end Backend
end Autoresponder
