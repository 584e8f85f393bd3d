import Autoresponder.Proofs.BackendSlot
/-!
# Pairs of correspondents

A store is asked about pairs: somebody who is away, and somebody who writes. What happens to one
pair must not depend on what happens to others, whatever characters their addresses have.

1. Pairs are `Alike` if they have one recipient and senders of one fingerprint. Just these have one
   key, and one name on a server: the fingerprint has a fixed length, so a key can be read from
   behind (`Key.of_eq_iff`).
2. Backends are `Alike` for a key if they differ at most in the records of other keys. A call on the
   key does the same in both (`Backend.Alike.call`), and a call on another key does not matter
   (`Backend.Alike.call_of_ne`).
3. So the calls on other pairs can be left out of every sequence of calls (`Pair.independent`).
-/

namespace Autoresponder

/-! ## 1. Keys -/

namespace Sha256

theorem length_bigEndian (count n : Nat) : (bigEndian count n).length = count := by
  induction count with
  | zero => rfl
  | succ count ih => exact congrArg (· + 1) ih

theorem length_digest (message : Bytes) : (digest message).length = 32 := by
  simp [digest, State.words, length_bigEndian]

end Sha256

namespace Key

theorem length_fingerprint (sender : Address) : (fingerprint sender).length = 8 := by
  simp [fingerprint, Sha256.length_digest]

theorem length_hex (bytes : Bytes) : (hex bytes).length = 2 * bytes.length := by
  induction bytes with
  | nil => rfl
  | cons b bytes ih =>
    have hcons : (hex (b :: bytes)).length = (hex bytes).length + 2 := rfl
    rw [hcons, ih, List.length_cons]
    omega

theorem hexDigit_inj {m n : Nat} (hm : m < 16) (hn : n < 16)
    (h : Text.hexDigit m = Text.hexDigit n) : m = n := by
  have hall : ∀ m < 16, ∀ n < 16, Text.hexDigit m = Text.hexDigit n → m = n := by decide
  exact hall m hm n hn h

theorem hex_inj {bytes bytes' : Bytes} (h : hex bytes = hex bytes') : bytes = bytes' := by
  induction bytes generalizing bytes' with
  | nil =>
    cases bytes' with
    | nil => rfl
    | cons b' bytes' => cases h
  | cons b bytes ih =>
    cases bytes' with
    | nil => cases h
    | cons b' bytes' =>
      obtain ⟨hhigh, hlow, hrest⟩ :
          Text.hexDigit (b.toNat / 16) = Text.hexDigit (b'.toNat / 16) ∧
            Text.hexDigit (b.toNat % 16) = Text.hexDigit (b'.toNat % 16) ∧
            hex bytes = hex bytes' := by
        injection h with hhigh h
        injection h with hlow hrest
        exact ⟨hhigh, hlow, hrest⟩
      have hb := b.toNat_lt
      have hb' := b'.toNat_lt
      have hhigh := hexDigit_inj (by omega) (by omega) hhigh
      have hlow := hexDigit_inj (by omega) (by omega) hlow
      rw [UInt8.toNat_inj.mp (by omega : b.toNat = b'.toNat), ih hrest]

/-- What follows the recipient in a key. -/
theorem length_behind (sender : Address) : (':' :: hex (fingerprint sender)).length = 17 := by
  rw [List.length_cons, length_hex, length_fingerprint]

/-- The recipient and the fingerprint can be read back from a key. A colon in the recipient does not
matter, since what follows it has one length in all keys. -/
theorem of_eq_iff {sender sender' recipient recipient' : Address} :
    Key.of sender recipient = Key.of sender' recipient' ↔
      recipient.text = recipient'.text ∧ fingerprint sender = fingerprint sender' := by
  constructor
  · intro h
    have htext := congrArg Key.text h
    unfold Key.of at htext
    rw [List.append_assoc, List.append_assoc] at htext
    -- both keys end in parts of one length, whatever stands in the recipients
    have hbehind := List.append_cancel_left htext
    obtain ⟨hrecipient, hsender⟩ := List.append_inj' hbehind
      ((length_behind sender).trans (length_behind sender').symm)
    exact ⟨hrecipient, hex_inj (List.cons.inj hsender).2⟩
  · rintro ⟨hrecipient, hsender⟩
    exact congrArg₂ (fun r f => (⟨"user:".toList ++ r ++ ':' :: hex f⟩ : Key)) hrecipient hsender

end Key

/-- Somebody who writes, and the recipient who is away. -/
structure Pair where
  sender : Address
  recipient : Address

namespace Pair

def key (p : Pair) : Key := Key.of p.sender p.recipient

/-- The pairs have the same recipient, and their senders have the same fingerprint. -/
def Alike (p q : Pair) : Prop :=
  p.recipient.text = q.recipient.text ∧ Key.fingerprint p.sender = Key.fingerprint q.sender

instance (p q : Pair) : Decidable (p.Alike q) := inferInstanceAs (Decidable (_ ∧ _))

theorem key_eq_iff {p q : Pair} : p.key = q.key ↔ p.Alike q := Key.of_eq_iff

end Pair

/-! ## 2. Backends that differ in other records -/

/-- The tables have the same row for a key, and may both be written or neither. -/
structure Table.Alike (k : Key) (t t' : Table) : Prop where
  locked : t.locked = t'.locked
  row : Dictionary.find? k t.rows = Dictionary.find? k t'.rows

namespace Table

variable {k : Key} {t t' : Table}

theorem Alike.write (h : Alike k t t') (n : Int64) : Alike k (t.write k n) (t'.write k n) where
  locked := h.locked
  row := by
    rw [Table.write, Table.write, Dictionary.find?_put, Dictionary.find?_put, if_pos rfl,
      if_pos rfl]

theorem Alike.remove (h : Alike k t t') : Alike k (t.remove k) (t'.remove k) where
  locked := h.locked
  row := by
    rw [Table.remove, Table.remove, Dictionary.find?_erase, Dictionary.find?_erase, if_pos rfl,
      if_pos rfl]

theorem Alike.read (h : Alike k t t') : t.read k = t'.read k := by
  rw [Table.read, Table.read, h.row]

theorem Alike.check (h : Alike k t t') (now : Instant) (interval : Interval) :
    t.check k now interval = t'.check k now interval := by
  rw [Table.check, Table.check, get_congr h.row]

theorem Alike.claim (h : Alike k t t') (now : Instant) (interval : Interval) :
    (t.claim k now interval).1 = (t'.claim k now interval).1 ∧
      Alike k (t.claim k now interval).2 (t'.claim k now interval).2 := by
  unfold Table.claim
  rw [← h.locked, ← h.read]
  split
  · exact ⟨rfl, h⟩
  · split
    · exact ⟨rfl, h⟩
    · split
      · exact ⟨rfl, h⟩
      · exact ⟨rfl, h.write _⟩

theorem Alike.release (h : Alike k t t') (claimedAt : Instant) (previous : Option Instant) :
    (t.release k claimedAt previous).1 = (t'.release k claimedAt previous).1 ∧
      Alike k (t.release k claimedAt previous).2 (t'.release k claimedAt previous).2 := by
  unfold Table.release
  rw [← h.locked, ← h.row]
  split
  · exact ⟨rfl, h⟩
  · split
    · cases previous with
      | none => exact ⟨rfl, h.remove⟩
      | some p => exact ⟨rfl, h.write _⟩
    · exact ⟨rfl, h⟩

theorem Alike.record (h : Alike k t t') (now : Instant) :
    (t.record k now).1 = (t'.record k now).1 ∧ Alike k (t.record k now).2 (t'.record k now).2 := by
  unfold Table.record
  rw [← h.locked]
  split
  · exact ⟨rfl, h⟩
  · exact ⟨rfl, h.write _⟩

theorem Alike.call {c : StoreCall} (h : Alike c.key t t') :
    (store.call c t).1 = (store.call c t').1 ∧
      Alike c.key (store.call c t).2 (store.call c t').2 := by
  cases c with
  | check k now interval => exact ⟨Alike.check h now interval, h⟩
  | claim k now interval => exact Alike.claim h now interval
  | release k claimedAt previous => exact Alike.release h claimedAt previous
  | record k now => exact Alike.record h now

theorem Alike.call_of_ne {c : StoreCall} (hk : c.key ≠ k) (h : Alike k t t') :
    Alike k (store.call c t).2 t' := by
  rcases call_cases c t with heq | ⟨n, heq⟩ | heq
  · rw [heq]
    exact h
  · rw [heq]
    exact ⟨h.locked, (Dictionary.find?_put _ _ _ _).trans ((if_neg hk).trans h.row)⟩
  · rw [heq]
    exact ⟨h.locked, (Dictionary.find?_erase _ _ _).trans ((if_neg hk).trans h.row)⟩

end Table

namespace KeyValue

open Autoresponder (Text)

/-- The servers have the same value under a name, and the same reasons for not running a script. -/
structure Server.Alike (name : Text) (server server' : Server) : Prop where
  stall : server.stall = server'.stall
  scripted : server.scripted = server'.scripted
  value : Dictionary.find? name server.entries = Dictionary.find? name server'.entries

variable {name : Text} {server server' : Server} {client : Client} {k : Key}

theorem Server.Alike.perform (command : Command) (h : server.Alike command.key server') :
    (server.perform command).1 = (server'.perform command).1 ∧
      (server.perform command).2.Alike command.key (server'.perform command).2 := by
  cases command with
  | get name => exact ⟨congrArg (Option.map Prod.fst) h.value, h.stall, h.scripted, h.value⟩
  | set name value =>
    refine ⟨rfl, h.stall, h.scripted, ?_⟩
    show Dictionary.find? name (Dictionary.put name (value, none) server.entries) =
      Dictionary.find? name (Dictionary.put name (value, none) server'.entries)
    rw [Dictionary.find?_put, Dictionary.find?_put, if_pos rfl, if_pos rfl]
  | setExpiring name value expiry =>
    refine ⟨rfl, h.stall, h.scripted, ?_⟩
    show Dictionary.find? name (Dictionary.put name (value, some expiry) server.entries) =
      Dictionary.find? name (Dictionary.put name (value, some expiry) server'.entries)
    rw [Dictionary.find?_put, Dictionary.find?_put, if_pos rfl, if_pos rfl]
  | delete name =>
    refine ⟨rfl, h.stall, h.scripted, ?_⟩
    show Dictionary.find? name (Dictionary.erase name server.entries) =
      Dictionary.find? name (Dictionary.erase name server'.entries)
    rw [Dictionary.find?_erase, Dictionary.find?_erase, if_pos rfl, if_pos rfl]

theorem Server.Alike.run {α : Type} {script : Script α} (habout : About name script)
    (h : server.Alike name server') :
    (server.run script).1 = (server'.run script).1 ∧
      (server.run script).2.Alike name (server'.run script).2 := by
  refine Dialogue.AsksOnly.run_agree (fun command s s' hkey hs => ?_) habout h
  subst hkey
  exact hs.perform command

/-- As long as the servers say something, they have to say the same. -/
theorem Server.Alike.whenAnswering {α : Type} {call call' : Except KeyValueFailure α × Server}
    (h : server.Alike name server') (hcall : call.1 = call'.1 ∧ call.2.Alike name call'.2) :
    (whenAnswering client server call).1 = (whenAnswering client server' call').1 ∧
      (whenAnswering client server call).2.Alike name (whenAnswering client server' call').2 := by
  unfold KeyValue.whenAnswering
  rw [← h.stall]
  split
  · exact hcall
  · exact ⟨rfl, h⟩

theorem Server.Alike.get (h : server.Alike (client.keyText k) server') :
    (get client k server).1 = (get client k server').1 ∧
      (get client k server).2.Alike (client.keyText k) (get client k server').2 := by
  refine h.whenAnswering ?_
  obtain ⟨hanswer, hafter⟩ := Server.Alike.perform (.get (client.keyText k)) h
  generalize server.perform (.get (client.keyText k)) = r at hanswer hafter ⊢
  generalize server'.perform (.get (client.keyText k)) = r' at hanswer hafter ⊢
  obtain ⟨answer, s⟩ := r
  obtain ⟨answer', s'⟩ := r'
  obtain rfl : answer = answer' := hanswer
  cases (answer : Option Text) with
  | none => exact ⟨rfl, hafter⟩
  | some t =>
    dsimp only
    cases number? t with
    | none => exact ⟨rfl, hafter⟩
    | some n => exact ⟨rfl, hafter⟩

theorem Server.Alike.checkCall (h : server.Alike (client.keyText k) server') (now : Instant)
    (interval : Interval) :
    (checkCall client k now interval server).1 = (checkCall client k now interval server').1 ∧
      (checkCall client k now interval server).2.Alike (client.keyText k)
        (checkCall client k now interval server').2 := by
  obtain ⟨hrecord, hafter⟩ := h.get
  refine ⟨?_, hafter⟩
  show ((KeyValue.get client k server).1).map _ = ((KeyValue.get client k server').1).map _
  rw [hrecord]

theorem Server.Alike.claimCall (h : server.Alike (client.keyText k) server') (now : Instant)
    (interval : Interval) :
    (claimCall client k now interval server).1 = (claimCall client k now interval server').1 ∧
      (claimCall client k now interval server).2.Alike (client.keyText k)
        (claimCall client k now interval server').2 := by
  refine h.whenAnswering ?_
  rw [← h.scripted]
  cases server.scripted with
  | some reply => exact ⟨rfl, h⟩
  | none =>
    dsimp only
    obtain ⟨hreply, hafter⟩ := h.run
      (about_claim (client.keyText k) now.seconds interval.wholeSeconds client.expiry)
    generalize server.run _ = r at hreply hafter ⊢
    generalize server'.run _ = r' at hreply hafter ⊢
    obtain ⟨reply, s⟩ := r
    obtain ⟨reply', s'⟩ := r'
    obtain rfl : reply = reply' := hreply
    cases reply with
    | none => exact ⟨rfl, hafter⟩
    | some reply => exact ⟨rfl, hafter⟩

theorem Server.Alike.releaseCall (h : server.Alike (client.keyText k) server') (claimedAt : Instant)
    (previous : Option Instant) :
    (releaseCall client k claimedAt previous server).1 =
        (releaseCall client k claimedAt previous server').1 ∧
      (releaseCall client k claimedAt previous server).2.Alike (client.keyText k)
        (releaseCall client k claimedAt previous server').2 := by
  refine h.whenAnswering ?_
  rw [← h.scripted]
  cases server.scripted with
  | some reply => exact ⟨rfl, h⟩
  | none => exact ⟨rfl, (h.run (about_release _ _ _ _)).2⟩

theorem Server.Alike.recordCall (h : server.Alike (client.keyText k) server') (now : Instant) :
    (recordCall client k now server).1 = (recordCall client k now server').1 ∧
      (recordCall client k now server).2.Alike (client.keyText k)
        (recordCall client k now server').2 := by
  refine h.whenAnswering ?_
  exact ⟨rfl, (h.run (about_write _ _ _)).2⟩

theorem Server.Alike.call {c : StoreCall} (h : server.Alike (client.keyText c.key) server') :
    ((store client).call c server).1 = ((store client).call c server').1 ∧
      ((store client).call c server).2.Alike (client.keyText c.key)
        ((store client).call c server').2 := by
  cases c with
  | check k now interval => exact h.checkCall now interval
  | claim k now interval => exact h.claimCall now interval
  | release k claimedAt previous => exact h.releaseCall claimedAt previous
  | record k now => exact h.recordCall now

theorem Server.Alike.call_of_ne {c : StoreCall} (hk : c.key ≠ k)
    (h : server.Alike (client.keyText k) server') :
    ((store client).call c server).2.Alike (client.keyText k) server' := by
  have hapart := call_apartFrom client c server
  have hname : client.keyText c.key ≠ client.keyText k := mt client.keyText_inj.mp hk
  exact ⟨hapart.stall.trans h.stall, hapart.scripted.trans h.scripted,
    (hapart.others _ hname).trans h.value⟩

end KeyValue

namespace Backend

/-- The backends are of one kind, and differ at most in the records of other keys. -/
inductive Alike (k : Key) : Backend → Backend → Prop
  | nowhere : Alike k .nowhere .nowhere
  | table {t t' : Table} (h : t.Alike k t') : Alike k (.table t) (.table t')
  | keyValue {client : KeyValue.Client} {database : Int} {server server' : KeyValue.Server}
      (h : server.Alike (client.keyText k) server') :
      Alike k (.keyValue client database server) (.keyValue client database server')

variable {b b' : Backend} {k : Key} {c : StoreCall}

theorem Alike.refl (k : Key) (b : Backend) : Alike k b b := by
  cases b with
  | nowhere => exact .nowhere
  | table t => exact .table ⟨rfl, rfl⟩
  | keyValue client database server => exact .keyValue ⟨rfl, rfl, rfl⟩

theorem Alike.records (h : Alike k b b') : b.records k = b'.records k := by
  cases h with
  | nowhere => rfl
  | table h => exact congrArg (Except.mapError StoreFailure.table) (Table.get_congr h.row)
  | keyValue h => exact congrArg (Except.mapError StoreFailure.keyValue) h.get.1

/-- A call on the key sees no difference, and makes none. -/
theorem Alike.call (h : Alike c.key b b') :
    (store.call c b).1 = (store.call c b').1 ∧
      Alike c.key (store.call c b).2 (store.call c b').2 := by
  cases h with
  | nowhere =>
    refine ⟨rfl, ?_⟩
    cases c <;> exact .nowhere
  | table h => exact ⟨congrArg (Except.mapError StoreFailure.table) h.call.1, .table h.call.2⟩
  | keyValue h =>
    exact ⟨congrArg (Except.mapError StoreFailure.keyValue) h.call.1, .keyValue h.call.2⟩

/-- A call on another key makes no difference. -/
theorem Alike.call_of_ne (hk : c.key ≠ k) (h : Alike k b b') : Alike k (store.call c b).2 b' := by
  cases h with
  | nowhere => cases c <;> exact .nowhere
  | table h => exact .table (h.call_of_ne hk)
  | keyValue h => exact .keyValue (h.call_of_ne hk)

end Backend

/-! ## 3. Calls on pairs -/

/-- A call on the key of a pair. -/
structure PairCall where
  pair : Pair
  call : StoreCall
  key_eq : call.key = pair.key

namespace Pair

/-- A backend that is asked about pairs. -/
def serve : Server PairCall (fun c => Except StoreFailure c.call.Answer) Backend :=
  fun c b => Backend.store.call c.call b

/-- Pairs do not depend on each other. In every sequence of calls, those on pairs like one pair are
answered as if there were no others, and they leave the same record. Pairs that are not alike have
different keys, and different names on the server of every client. -/
theorem independent (p : Pair) (calls : List PairCall) (b : Backend) :
    (Server.askAll serve calls b).1.filter (fun x => x.question.pair.Alike p) =
        (Server.askAll serve (calls.filter fun c => c.pair.Alike p) b).1 ∧
      (Server.askAll serve calls b).2.records p.key =
        (Server.askAll serve (calls.filter fun c => c.pair.Alike p) b).2.records p.key ∧
      (∀ q : Pair, q.key = p.key ↔ q.Alike p) ∧
      ∀ (client : KeyValue.Client) (q : Pair),
        client.keyText q.key = client.keyText p.key ↔ q.Alike p := by
  have hkey : ∀ c : PairCall, c.call.key = p.key ↔ c.pair.Alike p := by
    intro c
    rw [c.key_eq, key_eq_iff]
  obtain ⟨hanswers, hend⟩ := Server.askAll_filter serve (fun c => c.pair.Alike p)
    (R := Backend.Alike p.key)
    (fun c b b' hseen h => by
      have hc := (hkey c).mpr (of_decide_eq_true hseen)
      rw [← hc] at h ⊢
      exact h.call)
    (fun c b b' hunseen h => h.call_of_ne (mt (hkey c).mp (of_decide_eq_false hunseen)))
    calls (.refl p.key b)
  exact ⟨hanswers, hend.records, fun _ => key_eq_iff,
    fun client _ => client.keyText_inj.trans key_eq_iff⟩

end Pair
end Autoresponder
