import Autoresponder.Proofs.ServerSlot
import Autoresponder.Proofs.TableSlot
import Autoresponder.Suppression.Backend
/-!
# Slots of a backend

A backend with records is a table or a key/value server, and keeps a slot for every key that can be
read. The rest of the theory of stores needs the slots only.

1. A call answers what its slot answers, leaves behind what its slot leaves behind, and leaves the
   slots of other keys alone: `Backend.call_holds`, `Backend.call_holds_of_ne`.
2. The record of a key is the second in its slot: `Backend.get_of_holds`. Every record that can be
   read is in a slot: `Backend.exists_holds`.
3. A backend without records holds the empty slot for every key: `Backend.Blank.holds`.
-/

namespace Autoresponder.Backend

/-- The backend has records, works, and holds a slot for a key. -/
def Holds : Backend → Key → Slot → Prop
  | .nowhere, _, _ => False
  | .table t, k, s => t.Holds k s
  | .keyValue client _ server, k, s => KeyValue.Holds client server k s

/-- The backend has records, and every call reaches them. -/
def Working : Backend → Prop
  | .nowhere => False
  | .table t => t.locked = false
  | .keyValue _ _ server => server.Working

/-- The backend works, and has no record yet. -/
def Blank : Backend → Prop
  | .nowhere => False
  | .table t => t.locked = false ∧ t.rows = []
  | .keyValue _ _ server => server.Working ∧ server.entries = []

variable {b : Backend} {k : Key} {s : Slot}

/-! ## 1. Calls -/

theorem call_holds (c : StoreCall) (h : b.Holds c.key s) :
    (store.call c b).1 = .ok (Slot.answer c s) ∧
      (store.call c b).2.Holds c.key (Slot.after c s) := by
  cases b with
  | nowhere => exact h.elim
  | table t =>
    obtain ⟨hanswer, hafter⟩ := Table.call_holds c h
    exact ⟨congrArg (Except.mapError StoreFailure.table) hanswer, hafter⟩
  | keyValue client database server =>
    obtain ⟨hanswer, hafter⟩ := KeyValue.call_holds c h
    exact ⟨congrArg (Except.mapError StoreFailure.keyValue) hanswer, hafter⟩

theorem call_holds_of_ne (c : StoreCall) (hk : c.key ≠ k) (h : b.Holds k s) :
    (store.call c b).2.Holds k s := by
  cases b with
  | nowhere => exact h.elim
  | table t => exact Table.call_holds_of_ne c hk h
  | keyValue client database server => exact KeyValue.call_holds_of_ne c hk h

/-! ## 2. Records -/

/-- The records of all keys. A key may also have none, or one that cannot be read. -/
def records (b : Backend) (k : Key) : Except StoreFailure (Option Record) := (b.get k).1

/-- A call leaves the records of other keys alone, also those that cannot be read. -/
theorem records_call_of_ne (c : StoreCall) (hk : c.key ≠ k) (b : Backend) :
    (store.call c b).2.records k = b.records k := by
  cases b with
  | nowhere => cases c <;> rfl
  | table t => exact congrArg (Except.mapError StoreFailure.table) (Table.get_call_of_ne c hk t)
  | keyValue client database server =>
    exact congrArg (Except.mapError StoreFailure.keyValue) (KeyValue.get_call_of_ne c hk server)

theorem get_of_holds (h : b.Holds k s) : (b.get k).1 = .ok (s.map fun x => ⟨x.time⟩) := by
  cases b with
  | nowhere => exact h.elim
  | table t => exact congrArg (Except.mapError StoreFailure.table) (Table.get_of_holds h)
  | keyValue client database server =>
    exact congrArg (Except.mapError StoreFailure.keyValue) (KeyValue.get_of_holds h).1

theorem mapError_eq_ok {ε ε' α : Type} {f : ε → ε'} {r : Except ε α} {a : α}
    (h : r.mapError f = .ok a) : r = .ok a := by
  cases r with
  | error e => cases h
  | ok a' =>
    cases h
    rfl

theorem mapError_eq_error {ε ε' α : Type} {f : ε → ε'} {r : Except ε α} {e' : ε'}
    (h : r.mapError f = .error e') : ∃ e, r = .error e := by
  cases r with
  | error e => exact ⟨e, rfl⟩
  | ok a => cases h

theorem exists_holds {r : Option Record} (h : b.Working) (hget : (b.get k).1 = .ok r) :
    ∃ s, b.Holds k s ∧ s.map (fun x => ⟨x.time⟩) = r := by
  cases b with
  | nowhere => exact h.elim
  | table t => exact Table.exists_holds h (mapError_eq_ok hget)
  | keyValue client database server => exact KeyValue.exists_holds h (mapError_eq_ok hget)

/-! ## 3. No records -/

theorem blank_table : (table {}).Blank := ⟨rfl, rfl⟩

theorem Blank.holds (h : b.Blank) (k : Key) : b.Holds k none := by
  cases b with
  | nowhere => exact h.elim
  | table t =>
    obtain ⟨hunlocked, hrows⟩ := h
    exact ⟨hunlocked, by rw [hrows]; rfl, fun x hx => nomatch hx⟩
  | keyValue client database server =>
    obtain ⟨hworking, hentries⟩ := h
    refine ⟨hworking, ?_⟩
    show Dictionary.find? (client.keyText k) server.entries = none
    rw [hentries]
    rfl

end Autoresponder.Backend
