import Autoresponder.Proofs.Numerals
import Autoresponder.Proofs.Questions
import Autoresponder.Proofs.Slot
/-!
# Slots of a key/value server

A server that works keeps a slot for every key of a client (`KeyValue.Holds`), as a decimal numeral
that its scripts read as a floating-point number. The times that there are need fewer than 53 bits,
so the scripts count as the integers do (`KeyValue.lt_of_isWhole`).

1. A value stands for a second in one or more spellings: `Spells`.
2. A script that is about one key leaves the values of all others alone: `run_apartFrom`.
3. A call answers what its slot answers, and leaves behind what its slot leaves behind:
   `KeyValue.call_holds`. It leaves the slots of other keys alone: `KeyValue.call_holds_of_ne`.
-/

namespace Autoresponder.KeyValue

open Autoresponder (Text)
open Binary64 (IsWhole)

/-- The server answers every call, and runs the scripts that it is sent. -/
structure Server.Working (server : Server) : Prop where
  answers : server.stall = .never
  unscripted : server.scripted = none

/-- A text that stands for a second. -/
structure Spells (t : Text) (x : Stamp) : Prop where
  number : number? t = some x.second
  own_iff : x.own = true ↔ t = Text.ofInt x.second

/-- The server holds a slot under a name. -/
def Server.Keeps (server : Server) (name : Text) : Slot → Prop
  | none => Dictionary.find? name server.entries = none
  | some x => ∃ t expiry, Dictionary.find? name server.entries = some (t, expiry) ∧ Spells t x

/-- The server works and holds a slot for a key of a client. -/
structure Holds (c : Client) (server : Server) (k : Key) (s : Slot) : Prop where
  working : server.Working
  keeps : server.Keeps (c.keyText k) s

variable {c : Client} {server server' : Server} {k : Key} {s : Slot}

/-! ## 1. Spellings -/

theorem holds_seconds (p : Instant) : Signed64.holds p.seconds := by
  have h := p.seconds_bounds
  rw [Signed64.holds_iff]
  omega

theorem spells_ofInstant (p : Instant) : Spells (Text.ofInt p.seconds) (.ofInstant p) where
  number := number?_ofInt (holds_seconds p)
  own_iff := ⟨fun _ => rfl, fun _ => rfl⟩

/-- A script reads a spelling of a second as that number. -/
theorem Spells.read? {t : Text} {x : Stamp} (h : Spells t x) :
    ∃ v, Numeral.read? t = some v ∧ IsWhole v x.second := by
  have hx := x.second_bounds
  exact Numeral.read?_of_integer? (number?_eq_some.mp h.number).1 (by omega)

/-- The test of a claim, in floating-point numbers and in integers. -/
theorem lt_of_isWhole {x : Stamp} {v : Binary64} (hv : IsWhole v x.second) (now : Instant)
    (interval : Interval) :
    ((Binary64.ofInt now.seconds).sub v).lt (Binary64.ofInt interval.wholeSeconds) =
      Slot.blocks (some x) now interval := by
  have hx := x.second_bounds
  have hnow := now.seconds_bounds
  have hdiff : IsWhole ((Binary64.ofInt now.seconds).sub v) (x.age now) :=
    (Binary64.isWhole_ofInt (by omega)).sub hv (by omega)
  refine hdiff.lt_ofInt ?_ interval.wholeSeconds
  unfold Stamp.age
  omega

/-- A value is the text that a claim has written. -/
theorem Spells.eq_ofInt_iff {t : Text} {x : Stamp} (h : Spells t x) (claimedAt : Instant) :
    t = Text.ofInt claimedAt.seconds ↔ x = .ofInstant claimedAt := by
  constructor
  · rintro rfl
    have hsecond : x.second = claimedAt.seconds := by
      have hnumber := h.number
      rw [number?_ofInt (holds_seconds claimedAt)] at hnumber
      exact (Option.some.inj hnumber).symm
    have hown : x.own = true := h.own_iff.mpr (by rw [hsecond])
    rw [← x.ofInstant_time hown]
    simp only [Stamp.ofInstant, Stamp.time, hsecond]
  · rintro rfl
    exact h.own_iff.mp rfl

/-! ## 2. Scripts about one key -/

/-- Two servers differ at most in the value under one name, and in the log. -/
structure Server.ApartFrom (name : Text) (server server' : Server) : Prop where
  stall : server'.stall = server.stall
  scripted : server'.scripted = server.scripted
  others : ∀ q, name ≠ q → Dictionary.find? q server'.entries = Dictionary.find? q server.entries

theorem Server.ApartFrom.refl (name : Text) (server : Server) : server.ApartFrom name server :=
  ⟨rfl, rfl, fun _ _ => rfl⟩

theorem Server.ApartFrom.trans {name : Text} {a b d : Server} (hab : a.ApartFrom name b)
    (hbd : b.ApartFrom name d) : a.ApartFrom name d where
  stall := hbd.stall.trans hab.stall
  scripted := hbd.scripted.trans hab.scripted
  others q hq := (hbd.others q hq).trans (hab.others q hq)

/-- The name that a command is about. -/
def Command.key : Command → Text
  | .get k => k
  | .set k _ => k
  | .setExpiring k _ _ => k
  | .delete k => k

/-- All commands of a script are about one name. -/
def About (name : Text) {α : Type} (script : Script α) : Prop :=
  script.AsksOnly fun command => command.key = name

theorem about_write (name value : Text) (expiry : Nat) : About name (write name value expiry) := by
  unfold write
  split
  · exact .ask rfl fun _ => .done _
  · exact .ask rfl fun _ => .done _

theorem about_claim (name : Text) (now interval : Int) (expiry : Nat) :
    About name (claim name now interval expiry) := by
  refine .ask rfl fun last => ?_
  split
  · exact Dialogue.AsksOnly.bind (about_write _ _ _) fun _ => .done _
  · split
    · exact .done _
    · split
      · exact .done _
      · exact Dialogue.AsksOnly.bind (about_write _ _ _) fun _ => .done _

theorem about_release (name : Text) (claimedAt : Int) (previous : Option Int) (expiry : Nat) :
    About name (release name claimedAt previous expiry) := by
  refine .ask rfl fun current => ?_
  split
  · exact .done _
  · split
    · exact .ask rfl fun _ => .done _
    · exact Dialogue.AsksOnly.bind (about_write _ _ _) fun _ => .done _

theorem perform_apartFrom (command : Command) (server : Server) :
    server.ApartFrom command.key (server.perform command).2 := by
  cases command with
  | get name => exact ⟨rfl, rfl, fun _ _ => rfl⟩
  | set name value =>
    refine ⟨rfl, rfl, fun q hq => ?_⟩
    exact (Dictionary.find?_put _ _ _ _).trans (if_neg hq)
  | setExpiring name value expiry =>
    refine ⟨rfl, rfl, fun q hq => ?_⟩
    exact (Dictionary.find?_put _ _ _ _).trans (if_neg hq)
  | delete name =>
    refine ⟨rfl, rfl, fun q hq => ?_⟩
    exact (Dictionary.find?_erase _ _ _).trans (if_neg hq)

theorem run_apartFrom {name : Text} {α : Type} {script : Script α} (h : About name script)
    (server : Server) : server.ApartFrom name (server.run script).2 := by
  refine Dialogue.AsksOnly.run_induction (fun command server' hkey hsame => ?_) h
    (.refl name server)
  exact hsame.trans (hkey ▸ perform_apartFrom command server')

theorem whenAnswering_apartFrom {name : Text} {α : Type}
    {call : Except KeyValueFailure α × Server} (h : server.ApartFrom name call.2) :
    server.ApartFrom name (whenAnswering c server call).2 := by
  unfold whenAnswering
  split
  · exact h
  · exact .refl name server

theorem get_apartFrom (c : Client) (k : Key) (server : Server) :
    server.ApartFrom (c.keyText k) (get c k server).2 := by
  apply whenAnswering_apartFrom
  have hget := perform_apartFrom (.get (c.keyText k)) server
  split
  · rename_i heq
    rw [heq] at hget
    exact hget
  · rename_i heq
    rw [heq] at hget
    split
    · exact hget
    · exact hget

theorem call_apartFrom (c : Client) (call : StoreCall) (server : Server) :
    server.ApartFrom (c.keyText call.key) ((store c).call call server).2 := by
  cases call with
  | check k now interval => exact get_apartFrom c k server
  | claim k now interval =>
    apply whenAnswering_apartFrom
    split
    · -- a server with a reply of its own does not run the script
      exact .refl _ server
    · have hrun := run_apartFrom
        (about_claim (c.keyText k) now.seconds interval.wholeSeconds c.expiry) server
      split
      · rename_i heq
        rw [heq] at hrun
        exact hrun
      · rename_i heq
        rw [heq] at hrun
        exact hrun
  | release k claimedAt previous =>
    apply whenAnswering_apartFrom
    split
    · exact .refl _ server
    · exact run_apartFrom (about_release _ _ _ _) server
  | record k now =>
    apply whenAnswering_apartFrom
    exact run_apartFrom (about_write _ _ _) server

/-! ## 3. Calls -/

/-- A slot is in the value under its name. -/
theorem Holds.of_apartFrom {name : Text} (h : Holds c server k s)
    (hsame : server.ApartFrom name server') (hne : name ≠ c.keyText k) : Holds c server' k s where
  working := ⟨hsame.stall.trans h.working.answers, hsame.scripted.trans h.working.unscripted⟩
  keeps := by
    have hkeeps := h.keeps
    have hvalue := hsame.others _ hne
    cases s with
    | none => exact hvalue.trans hkeeps
    | some x =>
      obtain ⟨t, expiry, hfind, hspells⟩ := hkeeps
      exact ⟨t, expiry, hvalue.trans hfind, hspells⟩

theorem Client.keyText_inj (c : Client) {k k' : Key} : c.keyText k = c.keyText k' ↔ k = k' := by
  constructor
  · intro h
    obtain ⟨t⟩ := k
    obtain ⟨t'⟩ := k'
    unfold keyText at h
    split at h
    · exact congrArg Key.mk h
    · have htail := List.append_cancel_left h
      exact congrArg Key.mk (List.cons.inj htail).2
  · rintro rfl
    rfl

theorem call_holds_of_ne (call : StoreCall) (hk : call.key ≠ k) (h : Holds c server k s) :
    Holds c ((store c).call call server).2 k s :=
  h.of_apartFrom (call_apartFrom c call server) fun heq => hk (c.keyText_inj.mp heq)

/-- What a key reads is in the value under its name. -/
theorem get_congr (hstall : server'.stall = server.stall)
    (hvalue : Dictionary.find? (c.keyText k) server'.entries =
      Dictionary.find? (c.keyText k) server.entries) :
    (get c k server').1 = (get c k server).1 := by
  unfold get whenAnswering Server.perform Server.change
  rw [hstall]
  split
  · dsimp only
    rw [hvalue]
    cases Dictionary.find? (c.keyText k) server.entries with
    | none => rfl
    | some entry =>
      dsimp only [Option.map_some]
      cases number? entry.1 <;> rfl
  · rfl

theorem get_call_of_ne (call : StoreCall) (hk : call.key ≠ k) (server : Server) :
    (get c k ((store c).call call server).2).1 = (get c k server).1 := by
  have hsame := call_apartFrom c call server
  exact get_congr hsame.stall (hsame.others _ fun heq => hk (c.keyText_inj.mp heq))

/-- Reading a record changes no value. -/
theorem entries_get (c : Client) (k : Key) (server : Server) :
    (get c k server).2.entries = server.entries := by
  unfold get whenAnswering Server.perform Server.change
  split
  · dsimp only
    cases Dictionary.find? (c.keyText k) server.entries with
    | none => rfl
    | some entry =>
      dsimp only [Option.map_some]
      cases number? entry.1 <;> rfl
  · rfl

/-- The server after it has been asked for a value. -/
def Server.asked (server : Server) (name : Text) : Server := (server.perform (.get name)).2

theorem Holds.asked (h : Holds c server k s) (name : Text) : Holds c (server.asked name) k s where
  working := ⟨h.working.answers, h.working.unscripted⟩
  keeps := by
    have hkeeps := h.keeps
    cases s with
    | none => exact hkeeps
    | some x => exact hkeeps

/-- The value under a name. -/
def Server.value? (server : Server) (name : Text) : Option Text :=
  (Dictionary.find? name server.entries).map Prod.fst

theorem Holds.value?_none (h : Holds c server k none) : server.value? (c.keyText k) = none :=
  congrArg (Option.map Prod.fst) h.keeps

theorem Holds.value?_some {x : Stamp} (h : Holds c server k (some x)) :
    ∃ t, server.value? (c.keyText k) = some t ∧ Spells t x := by
  obtain ⟨t, expiry, hfind, hspells⟩ := h.keeps
  exact ⟨t, congrArg (Option.map Prod.fst) hfind, hspells⟩

theorem whenAnswering_of_working {α : Type} (h : server.Working)
    (call : Except KeyValueFailure α × Server) : whenAnswering c server call = call :=
  if_pos h.answers

theorem get_of_holds (h : Holds c server k s) :
    (get c k server).1 = .ok (s.map fun x => ⟨x.time⟩) ∧ Holds c (get c k server).2 k s := by
  have hperform : server.perform (.get (c.keyText k)) =
      ((server.value? (c.keyText k) : Option Text), server.asked (c.keyText k)) := rfl
  unfold get
  rw [whenAnswering_of_working h.working]
  cases s with
  | none =>
    rw [h.value?_none] at hperform
    rw [hperform]
    exact ⟨rfl, h.asked _⟩
  | some x =>
    obtain ⟨t, hvalue, hspells⟩ := h.value?_some
    rw [hvalue] at hperform
    rw [hperform]
    dsimp only
    rw [hspells.number]
    refine ⟨?_, h.asked _⟩
    simp only [decode, x.ofSeconds?_second]
    rfl

/-- Every record that can be read is in a slot. -/
theorem exists_holds {r : Option Record} (h : server.Working) (hget : (get c k server).1 = .ok r) :
    ∃ s, Holds c server k s ∧ s.map (fun x => ⟨x.time⟩) = r := by
  unfold get at hget
  rw [whenAnswering_of_working h] at hget
  simp only [Server.perform, Server.change] at hget
  cases hfind : Dictionary.find? (c.keyText k) server.entries with
  | none =>
    rw [hfind] at hget
    cases hget
    exact ⟨none, ⟨h, hfind⟩, rfl⟩
  | some entry =>
    obtain ⟨t, expiry⟩ := entry
    rw [hfind] at hget
    dsimp only [Option.map_some] at hget
    cases hnumber : number? t with
    | none =>
      rw [hnumber] at hget
      cases hget
    | some n =>
      rw [hnumber] at hget
      simp only [decode] at hget
      cases htime : Instant.ofSeconds? n with
      | none =>
        rw [htime] at hget
        cases hget
      | some p =>
        rw [htime] at hget
        cases hget
        obtain ⟨x, rfl, hown, rfl⟩ := Stamp.exists_of_ofSeconds? htime (t = Text.ofInt n)
        refine ⟨some x, ⟨h, t, expiry, hfind, hnumber, ?_⟩, rfl⟩
        rw [hown, decide_eq_true_iff]

theorem check_of_holds (h : Holds c server k s) (now : Instant) (interval : Interval) :
    (checkCall c k now interval server).1 = .ok (s.suppresses now interval) ∧
      Holds c (checkCall c k now interval server).2 k s := by
  obtain ⟨hrecord, hholds⟩ := get_of_holds h
  refine ⟨?_, hholds⟩
  simp only [checkCall, hrecord]
  cases s with
  | none => rfl
  | some x => exact congrArg Except.ok (Record.suppresses_truncate x now interval)

theorem write_holds (h : server.Working) (c : Client) (k : Key) (p : Instant) (expiry : Nat) :
    Holds c (server.run (write (c.keyText k) (Text.ofInt p.seconds) expiry)).2 k
      (some (.ofInstant p)) := by
  unfold write
  split
  · exact ⟨⟨h.answers, h.unscripted⟩, _, _,
      (Dictionary.find?_put _ _ _ _).trans (if_pos rfl), spells_ofInstant p⟩
  · exact ⟨⟨h.answers, h.unscripted⟩, _, _,
      (Dictionary.find?_put _ _ _ _).trans (if_pos rfl), spells_ofInstant p⟩

/-- What a script of a claim does when it has been told the value. -/
theorem run_claim_eq (server : Server) (name : Text) (now interval : Int) (expiry : Nat) :
    server.run (claim name now interval expiry) =
      (server.asked name).run
        (match server.value? name with
          | none => (write name (Text.ofInt now) expiry).bind fun () => .done (some [1])
          | some t =>
            match Numeral.read? t with
            | none => .done none
            | some x =>
              if ((Binary64.ofInt now).sub x).lt (Binary64.ofInt interval) then .done (some [0])
              else (write name (Text.ofInt now) expiry).bind fun () =>
                .done (some [1, Numeral.toInteger x]) : Script (Option (List Int))) := rfl

section Script

variable {name t : Text} {x : Binary64} {seconds wholeSeconds : Int} {expiry : Nat}

theorem run_claim_of_none (hvalue : server.value? name = none) :
    server.run (claim name seconds wholeSeconds expiry) =
      (some [1], ((server.asked name).run (write name (Text.ofInt seconds) expiry)).2) := by
  rw [run_claim_eq, hvalue, Server.run, Dialogue.run_bind]
  rfl

/-- What is no number is left alone. -/
theorem run_claim_of_unreadable (hvalue : server.value? name = some t)
    (hread : Numeral.read? t = none) :
    server.run (claim name seconds wholeSeconds expiry) = (none, server.asked name) := by
  rw [run_claim_eq, hvalue]
  dsimp only
  rw [hread]
  rfl

theorem run_claim_of_recent (hvalue : server.value? name = some t)
    (hread : Numeral.read? t = some x)
    (hrecent : ((Binary64.ofInt seconds).sub x).lt (Binary64.ofInt wholeSeconds) = true) :
    server.run (claim name seconds wholeSeconds expiry) = (some [0], server.asked name) := by
  rw [run_claim_eq, hvalue]
  dsimp only
  rw [hread]
  dsimp only
  rw [hrecent, if_pos rfl]
  rfl

/-- A number that is not recent is replaced, and only then handed back. -/
theorem run_claim_of_old (hvalue : server.value? name = some t) (hread : Numeral.read? t = some x)
    (hold : ((Binary64.ofInt seconds).sub x).lt (Binary64.ofInt wholeSeconds) = false) :
    server.run (claim name seconds wholeSeconds expiry) =
      (some [1, Numeral.toInteger x],
        ((server.asked name).run (write name (Text.ofInt seconds) expiry)).2) := by
  rw [run_claim_eq, hvalue]
  dsimp only
  rw [hread]
  dsimp only
  rw [hold, if_neg Bool.false_ne_true, Server.run, Dialogue.run_bind]
  rfl

end Script

/-- What a script of a claim answers, and what it leaves behind. -/
theorem run_claim_of_holds (h : Holds c server k s) (now : Instant) (interval : Interval) :
    (server.run (claim (c.keyText k) now.seconds interval.wholeSeconds c.expiry)).1 =
        some (if s.blocks now interval then [0] else 1 :: (s.map Stamp.second).toList) ∧
      Holds c (server.run (claim (c.keyText k) now.seconds interval.wholeSeconds c.expiry)).2 k
        (if s.blocks now interval then s else some (.ofInstant now)) := by
  have hasked := h.asked (c.keyText k)
  cases s with
  | none =>
    rw [run_claim_of_none h.value?_none]
    exact ⟨rfl, write_holds hasked.working c k now c.expiry⟩
  | some x =>
    -- the script reads the spelling as the second itself, and compares without rounding
    obtain ⟨t, hvalue, hspells⟩ := h.value?_some
    obtain ⟨v, hread, hv⟩ := hspells.read?
    have hblocks := lt_of_isWhole hv now interval
    cases hrecent : Slot.blocks (some x) now interval with
    | true =>
      rw [run_claim_of_recent hvalue hread (hblocks.trans hrecent)]
      exact ⟨rfl, hasked⟩
    | false =>
      rw [run_claim_of_old hvalue hread (hblocks.trans hrecent),
        Numeral.toInteger_of_isWhole hv (holds_seconds x.time)]
      exact ⟨rfl, write_holds hasked.working c k now c.expiry⟩

/-- A server that works answers a claim with what the script answers. -/
theorem claimCall_of_run (h : server.Working) {now : Instant} {interval : Interval}
    {reply : Option (List Int)}
    (hrun : server.run (claim (c.keyText k) now.seconds interval.wholeSeconds c.expiry) =
      (reply, server')) :
    claimCall c k now interval server = (reply.elim (.error .server) (claimOf now), server') := by
  rw [claimCall, whenAnswering_of_working h, h.unscripted]
  dsimp only
  rw [hrun]
  cases reply <;> rfl

theorem claimOf_reply (s : Slot) (now : Instant) :
    claimOf now (1 :: (s.map Stamp.second).toList) =
      .ok (.acquired now.truncate (s.map Stamp.time)) := by
  cases s with
  | none => rfl
  | some x =>
    simp only [Option.map_some, Option.toList_some, claimOf, decode, x.ofSeconds?_second]
    rfl

theorem claim_of_holds (h : Holds c server k s) (now : Instant) (interval : Interval) :
    (claimCall c k now interval server).1 =
        .ok (if s.blocks now interval then .suppressed
          else .acquired now.truncate (s.map Stamp.time)) ∧
      Holds c (claimCall c k now interval server).2 k
        (if s.blocks now interval then s else some (.ofInstant now)) := by
  obtain ⟨hreply, hholds⟩ := run_claim_of_holds h now interval
  rw [claimCall_of_run h.working Prod.mk.eta.symm, hreply]
  refine ⟨?_, hholds⟩
  dsimp only [Option.elim]
  split
  · rfl
  · exact claimOf_reply s now

/-- What a script of a release does when it has been told the value. -/
theorem run_release_eq (server : Server) (name : Text) (claimedAt : Int) (previous : Option Int)
    (expiry : Nat) :
    server.run (release name claimedAt previous expiry) =
      (server.asked name).run
        (if server.value? name ≠ some (Text.ofInt claimedAt) then .done 0
        else
          match previous with
          | none => .ask (.delete name) fun () => .done 1
          | some p => (write name (Text.ofInt p) expiry).bind fun () => .done 1 : Script Int) := rfl

theorem run_release_of_holds (h : Holds c server k s) (claimedAt : Instant)
    (previous : Option Instant) :
    Holds c (server.run (release (c.keyText k) claimedAt.seconds (previous.map Instant.seconds)
      c.expiry)).2 k (if s = some (.ofInstant claimedAt) then previous.map .ofInstant else s) := by
  have hasked := h.asked (c.keyText k)
  have hvalue : server.value? (c.keyText k) = some (Text.ofInt claimedAt.seconds) ↔
      s = some (.ofInstant claimedAt) := by
    cases s with
    | none => simp [h.value?_none]
    | some x =>
      obtain ⟨t, hvalue, hspells⟩ := h.value?_some
      rw [hvalue, Option.some_inj, Option.some_inj]
      exact hspells.eq_ofInt_iff claimedAt
  rw [run_release_eq]
  by_cases hs : s = some (.ofInstant claimedAt)
  · rw [if_neg (not_not_intro (hvalue.mpr hs)), if_pos hs]
    cases previous with
    | none =>
      exact ⟨⟨hasked.working.answers, hasked.working.unscripted⟩,
        (Dictionary.find?_erase _ _ _).trans (if_pos rfl)⟩
    | some p =>
      simp only [Option.map_some, Server.run]
      rw [Dialogue.run_bind]
      exact write_holds hasked.working c k p c.expiry
  · rw [if_pos (mt hvalue.mp hs), if_neg hs]
    exact hasked

theorem release_of_holds (h : Holds c server k s) (claimedAt : Instant)
    (previous : Option Instant) :
    (releaseCall c k claimedAt previous server).1 = .ok () ∧
      Holds c (releaseCall c k claimedAt previous server).2 k
        (if s = some (.ofInstant claimedAt) then previous.map .ofInstant else s) := by
  unfold releaseCall
  rw [whenAnswering_of_working h.working, h.working.unscripted]
  exact ⟨rfl, run_release_of_holds h claimedAt previous⟩

theorem record_of_holds (h : Holds c server k s) (now : Instant) :
    (recordCall c k now server).1 = .ok () ∧
      Holds c (recordCall c k now server).2 k (some (.ofInstant now)) := by
  unfold recordCall
  rw [whenAnswering_of_working h.working]
  exact ⟨rfl, write_holds h.working c k now c.expiry⟩

/-- The server keeps to the slots. -/
theorem call_holds (call : StoreCall) (h : Holds c server call.key s) :
    ((store c).call call server).1 = .ok (Slot.answer call s) ∧
      Holds c ((store c).call call server).2 call.key (Slot.after call s) := by
  cases call with
  | check k now interval => exact check_of_holds h now interval
  | claim k now interval => exact claim_of_holds h now interval
  | release k claimedAt previous => exact release_of_holds h claimedAt previous
  | record k now => exact record_of_holds h now

end Autoresponder.KeyValue
