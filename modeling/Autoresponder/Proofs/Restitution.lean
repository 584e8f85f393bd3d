import Autoresponder.Proofs.Attempts
import Autoresponder.Proofs.Protocol
/-!
# Runs that send nothing

A run that does not end with a sent reply leaves every record as it was, also the records of other
software that cannot be read. It may have replaced one in between: a claim writes before it is known
whether the reply can be delivered. What makes this safe is the check before the claim. It fails for
exactly those records that a claim could not hand back.

1. A check is an answer from the record of its key (`Backend.check_eq`), and changes no record
   (`Backend.records_check`).
2. A claim of a record that can be read either changes no record (`Backend.records_claim`), or its
   release puts back what it has replaced (`Backend.records_release`).
3. A conversation `Restores` the records of a backend if they are the same in the end, unless it
   sends a reply or a release fails. Every run does (`Attempt.records_of_not_sent`).
4. A backend that works does not fail in a release, so a letter that is not delivered leaves such a
   backend as it was, with the rows of other software.
-/

namespace Autoresponder

open Responder (Question Conversation Event)

/-! ## 1. Checks -/

namespace Backend

variable {b : Backend} {k : Key}

theorem check_eq (b : Backend) (k : Key) (now : Instant) (interval : Interval) :
    (store.call (.check k now interval) b).1 =
      (b.records k).map fun r => r.any fun r => r.suppresses now.truncate interval := by
  cases b with
  | nowhere => rfl
  | table t =>
    show ((t.get k).map _).mapError _ = ((t.get k).mapError _).map _
    cases t.get k <;> rfl
  | keyValue client database server =>
    show ((KeyValue.get client k server).1.map _).mapError _ =
      ((KeyValue.get client k server).1.mapError _).map _
    cases (KeyValue.get client k server).1 <;> rfl

/-- A check that is answered has read the record of its key. -/
theorem exists_record_of_check {now : Instant} {interval : Interval} {answer : Bool}
    (h : (store.call (.check k now interval) b).1 = .ok answer) : ∃ r, b.records k = .ok r := by
  rw [check_eq] at h
  cases hread : b.records k with
  | ok r => exact ⟨r, rfl⟩
  | error e =>
    rw [hread] at h
    cases h

theorem records_check (b : Backend) (k : Key) (now : Instant) (interval : Interval) :
    (store.call (.check k now interval) b).2.records = b.records := by
  cases b with
  | nowhere => rfl
  | table t => rfl
  | keyValue client database server =>
    have hentries := KeyValue.entries_get client k server
    have hstall := (KeyValue.get_apartFrom client k server).stall
    funext k'
    exact congrArg (Except.mapError StoreFailure.keyValue)
      (KeyValue.get_congr hstall (congrArg (Dictionary.find? _) hentries))

/-! ## 2. Claims and releases -/

/-- A backend that works goes on working. -/
theorem working_call (h : b.Working) (c : StoreCall) : (store.call c b).2.Working := by
  cases b with
  | nowhere => exact h.elim
  | table t =>
    show (Table.store.call c t).2.locked = false
    rcases Table.call_cases c t with heq | ⟨n, heq⟩ | heq
    · rw [heq]
      exact h
    · rw [heq]
      exact h
    · rw [heq]
      exact h
  | keyValue client database server =>
    have hsame := KeyValue.call_apartFrom client c server
    exact ⟨hsame.stall.trans h.answers, hsame.scripted.trans h.unscripted⟩

theorem release_of_working (h : b.Working) (k : Key) (claimedAt : Instant)
    (previous : Option Instant) : (store.call (.release k claimedAt previous) b).1 = .ok () := by
  cases b with
  | nowhere => exact h.elim
  | table t =>
    have hunlocked : t.locked = false := h
    show (t.release k claimedAt previous).1.mapError StoreFailure.table = .ok ()
    unfold Table.release
    rw [hunlocked, if_neg Bool.false_ne_true]
    split
    · cases previous <;> rfl
    · rfl
  | keyValue client database server =>
    show (KeyValue.releaseCall client k claimedAt previous server).1.mapError
      StoreFailure.keyValue =
      .ok ()
    unfold KeyValue.releaseCall
    rw [KeyValue.whenAnswering_of_working h, h.unscripted]
    rfl

/-- A backend that does not answer every call does not write for a claim. -/
theorem claim_of_not_working (h : ¬b.Working) (k : Key) (now : Instant) (interval : Interval) :
    (store.call (.claim k now interval) b).2 = b := by
  cases b with
  | nowhere => rfl
  | table t =>
    have hlocked : t.locked = true := Bool.not_eq_false _ ▸ h
    show table (t.claim k now interval).2 = table t
    rw [Table.claim, if_pos hlocked]
  | keyValue client database server =>
    show keyValue client database (KeyValue.claimCall client k now interval server).2 = _
    unfold KeyValue.claimCall KeyValue.whenAnswering
    split
    · rename_i hanswers
      cases hscripted : server.scripted with
      | none => exact absurd ⟨hanswers, hscripted⟩ h
      | some reply => rfl
    · rfl

/-- Nor does it for a release. -/
theorem release_of_not_working (h : ¬b.Working) (k : Key) (claimedAt : Instant)
    (previous : Option Instant) : (store.call (.release k claimedAt previous) b).2 = b := by
  cases b with
  | nowhere => rfl
  | table t =>
    have hlocked : t.locked = true := Bool.not_eq_false _ ▸ h
    show table (t.release k claimedAt previous).2 = table t
    unfold Table.release
    rw [if_pos hlocked]
  | keyValue client database server =>
    show keyValue client database (KeyValue.releaseCall client k claimedAt previous server).2 = _
    unfold KeyValue.releaseCall KeyValue.whenAnswering
    split
    · rename_i hanswers
      cases hscripted : server.scripted with
      | none => exact absurd ⟨hanswers, hscripted⟩ h
      | some reply => rfl
    · rfl

/-- A call for a key leaves the records as they are if it leaves the record of this key. -/
theorem records_call (c : StoreCall) (h : (store.call c b).2.records c.key = b.records c.key) :
    (store.call c b).2.records = b.records := by
  funext k
  by_cases hk : c.key = k
  · subst hk
    exact h
  · exact records_call_of_ne c hk b

variable {now claimedAt : Instant} {interval : Interval} {previous : Option Instant}
  {r : Option Record}

/-- A claim that is not acquired changes no record, if its key can be read. -/
theorem records_claim (hread : b.records k = .ok r)
    (hanswer : ∀ claimedAt previous,
      (store.call (.claim k now interval) b).1 ≠ .ok (.acquired claimedAt previous)) :
    (store.call (.claim k now interval) b).2.records = b.records := by
  by_cases hworking : b.Working
  · obtain ⟨s, hholds, -⟩ := exists_holds hworking hread
    obtain ⟨hclaim, hafter⟩ := call_holds (.claim k now interval) hholds
    have hblocks : s.blocks now interval = true := by
      by_contra hblocks
      refine hanswer now.truncate (s.map Stamp.time) (hclaim.trans (congrArg Except.ok ?_))
      exact Slot.answer_claim_eq_acquired.mpr ⟨Bool.eq_false_of_not_eq_true hblocks, rfl, rfl⟩
    rw [Slot.after, if_pos hblocks] at hafter
    exact records_call (.claim k now interval)
      ((get_of_holds hafter).trans (get_of_holds hholds).symm)
  · rw [claim_of_not_working hworking]

/-- The release of an acquired claim puts back what the claim has replaced, if it could be read. -/
theorem records_release (hread : b.records k = .ok r)
    (hanswer : (store.call (.claim k now interval) b).1 = .ok (.acquired claimedAt previous)) :
    (store.call (.release k claimedAt previous)
      (store.call (.claim k now interval) b).2).2.records =
      b.records := by
  by_cases hworking : b.Working
  · obtain ⟨s, hholds, -⟩ := exists_holds hworking hread
    obtain ⟨hclaim, hafter⟩ := call_holds (.claim k now interval) hholds
    obtain ⟨hblocks, rfl, rfl⟩ :=
      Slot.answer_claim_eq_acquired.mp (Except.ok.inj (hclaim.symm.trans hanswer))
    rw [Slot.after, hblocks, if_neg Bool.false_ne_true] at hafter
    have hreleased := (call_holds (.release k now.truncate (s.map Stamp.time)) hafter).2
    rw [Slot.after, Stamp.ofInstant_truncate, if_pos rfl] at hreleased
    -- the second comes back in the responder's own spelling, which reads the same
    have hown : (store.call (.release k now.truncate (s.map Stamp.time))
        (store.call (.claim k now interval) b).2).2.records k = b.records k := by
      refine (get_of_holds hreleased).trans (Eq.trans ?_ (get_of_holds hholds).symm)
      cases s <;> rfl
    funext k'
    by_cases hk : k = k'
    · subst hk
      exact hown
    · rw [records_call_of_ne (.release k now.truncate (s.map Stamp.time)) hk,
        records_call_of_ne (.claim k now interval) hk]
  · rw [claim_of_not_working hworking, release_of_not_working hworking]

end Backend

/-! ## 3. Runs -/

/-- A release that fails. -/
def Responder.Event.IsFailedRelease : Event → Prop
  | .release _ _ _ (.error _) => True
  | _ => False

/-- Unless a conversation sends a reply or a release fails, it ends with the records of a
backend. -/
def Responder.Restores (serve : Server Question Question.Answer Backend) (start : Backend)
    (d : Conversation (Except Failure Outcome)) (b : Backend) : Prop :=
  (d.run serve b).1 ≠ .ok .sent →
    (∀ e ∈ (d.transcript serve b).map Event.ofExchange, ¬e.IsFailedRelease) →
    (d.run serve b).2.records = start.records

namespace Attempt

variable {a : Attempt} {failure? : StoreCall → Option StoreFailure} {start b : Backend}

open Responder (Restores)

theorem restores_done (result : Except Failure Outcome) (h : b.records = start.records) :
    Restores (a.components.intercepted failure?).serve start (.done result) b :=
  fun _ _ => h

theorem restores_ask {q : Question} {next : q.Answer → Conversation (Except Failure Outcome)}
    {answer : q.Answer} {b' : Backend}
    (hserve : (a.components.intercepted failure?).serve q b = (answer, b'))
    (h : Restores (a.components.intercepted failure?).serve start (next answer) b') :
    Restores (a.components.intercepted failure?).serve start (.ask q next) b := by
  unfold Restores
  rw [Dialogue.run_ask, Dialogue.transcript, hserve]
  intro hsent hrelease
  exact h hsent fun e he => hrelease e (List.mem_cons_of_mem _ he)

/-- The end of a run with an acquired claim. -/
theorem restores_deliver {k : Key} {now claimedAt : Instant} {previous : Option Instant}
    (h : (Backend.store.call (.release k claimedAt previous) b).2.records = start.records)
    (sender : Address) (reply : Text) :
    Restores (a.components.intercepted failure?).serve start
      (Responder.deliver k sender reply now claimedAt previous) b := by
  refine restores_ask (show _ = (a.delivery, b) from rfl) ?_
  cases a.delivery with
  | ok _ =>
    intro hsent
    exact absurd rfl hsent
  | error failure =>
    cases hcall : failure? (.release k claimedAt previous) with
    | some e =>
      intro _ hrelease
      refine absurd trivial (hrelease (.release k claimedAt previous (.error e)) ?_)
      rw [Dialogue.transcript, Components.serve_intercepted_of_some hcall]
      exact List.mem_cons_self
    | none => exact restores_ask (Components.serve_intercepted_of_none hcall b) (restores_done _ h)

variable {interval : Interval} {e : Errand}

/-- A run whose check has read the record of its key. -/
theorem restores_claiming [Charsets] {r : Option Record} (hread : b.records (a.key e) = .ok r)
    (h : b.records = start.records) :
    Restores (a.components.intercepted failure?).serve start
      (Phase.claiming.talk a interval e) b := by
  cases hcall : failure? (.claim (a.key e) a.now interval) with
  | some failure =>
    exact restores_ask (Components.serve_intercepted_of_some hcall b) (restores_done _ h)
  | none =>
    refine restores_ask (Components.serve_intercepted_of_none hcall b) ?_
    show Restores _ start
      (a.afterClaim e (Backend.store.call (.claim (a.key e) a.now interval) b).1)
      (Backend.store.call (.claim (a.key e) a.now interval) b).2
    match hanswer : (Backend.store.call (.claim (a.key e) a.now interval) b).1 with
    | .error failure =>
      have hclaim : (Backend.store.call (.claim (a.key e) a.now interval) b).2.records =
          b.records :=
        Backend.records_claim hread fun _ _ hne => nomatch hanswer.symm.trans hne
      exact restores_done _ (hclaim.trans h)
    | .ok .suppressed =>
      have hclaim : (Backend.store.call (.claim (a.key e) a.now interval) b).2.records =
          b.records :=
        Backend.records_claim hread fun _ _ hne => nomatch hanswer.symm.trans hne
      exact restores_done _ (hclaim.trans h)
    | .ok (.acquired claimedAt previous) =>
      exact restores_deliver ((Backend.records_release hread hanswer).trans h) e.sender (a.reply e)

/-- A run that has heard of the policy. -/
theorem restores_resolved [Charsets] (a : Attempt) (interval : Interval)
    (failure? : StoreCall → Option StoreFailure) (b : Backend) :
    Restores (a.components.intercepted failure?).serve b (a.resolved interval) b := by
  cases he : a.prospect with
  | ended result =>
    rw [resolved, he]
    exact restores_done _ rfl
  | errand e =>
    rw [resolved_of_errand he]
    cases hcall : failure? (.check (a.key e) a.now interval) with
    | some failure =>
      exact restores_ask (Components.serve_intercepted_of_some hcall b) (restores_done _ rfl)
    | none =>
      refine restores_ask (Components.serve_intercepted_of_none hcall b) ?_
      have hsame := Backend.records_check b (a.key e) a.now interval
      show Restores _ b
        (a.afterCheck interval e (Backend.store.call (.check (a.key e) a.now interval) b).1)
        (Backend.store.call (.check (a.key e) a.now interval) b).2
      rcases hanswer :
        (Backend.store.call (.check (a.key e) a.now interval) b).1 with failure | _ | _
      · exact restores_done _ hsame
      · obtain ⟨r, hread⟩ := Backend.exists_record_of_check hanswer
        exact restores_claiming ((congrFun hsame (a.key e)).trans hread) hsame
      · exact restores_done _ hsame

/-- A run that does not send a reply leaves every key with the record that it had, or without one,
or with one that cannot be read for the same reason, unless its release fails. On a key/value server
no value expires by itself during the run. -/
theorem records_of_not_sent [Charsets] (a : Attempt) (interval : Interval)
    (failure? : StoreCall → Option StoreFailure) (b : Backend)
    (hsent : Responder.result ⟨interval, a.domain⟩ a.incoming a.now
      (a.components.intercepted failure?).serve b ≠ .ok .sent)
    (hrelease : ∀ e ∈ Responder.events ⟨interval, a.domain⟩ a.incoming a.now
      (a.components.intercepted failure?).serve b, ¬e.IsFailedRelease) :
    ∀ k, (((a.talk interval).run (a.components.intercepted failure?).serve b).2.get k).1 =
      (b.get k).1 := by
  have hrestores : Restores (a.components.intercepted failure?).serve b (a.talk interval) b := by
    obtain ⟨next, htalk, hnext⟩ := a.exists_talk interval
    rw [htalk]
    refine restores_ask (show _ = (a.policy, b) from rfl) ?_
    rw [hnext]
    exact restores_resolved a interval failure? b
  exact congrFun (hrestores hsent hrelease)

/-! ## 4. A letter that is not delivered -/

/-- The answers to a run come from a backend that works, if it worked at the start. -/
theorem exists_working_of_mem_events [Charsets] (h : b.Working)
    {x : Exchange Question Question.Answer}
    (hx : x ∈ (a.talk interval).transcript (a.components.intercepted failure?).serve b) :
    ∃ b' : Backend,
      b'.Working ∧ x.answer = ((a.components.intercepted failure?).serve x.question b').1 := by
  refine Dialogue.exists_serve_of_mem_transcript (fun q b hworking => ?_) _ h hx
  cases q with
  | resolve recipient now => exact hworking
  | store c =>
    cases hcall : failure? c with
    | none =>
      rw [Components.serve_intercepted_of_none hcall]
      exact Backend.working_call hworking c
    | some failure =>
      rw [Components.serve_intercepted_of_some hcall]
      exact hworking
  | deliver recipient message => exact hworking

/-- A backend that works does not fail in a release. -/
theorem not_isFailedRelease [Charsets] (h : b.Working)
    (hcall : ∀ k claimedAt previous, failure? (.release k claimedAt previous) = none) :
    ∀ e ∈ Responder.events ⟨interval, a.domain⟩ a.incoming a.now
      (a.components.intercepted failure?).serve b, ¬e.IsFailedRelease := by
  intro e he
  obtain ⟨⟨q, answer⟩, hx, rfl⟩ := List.mem_map.mp he
  obtain ⟨b', hworking, hanswer⟩ := exists_working_of_mem_events h hx
  match q with
  | .store (.release k claimedAt previous) =>
    dsimp only at hanswer
    rw [Components.serve_intercepted_of_none (hcall k claimedAt previous)] at hanswer
    have hok : answer = .ok () :=
      hanswer.trans (Backend.release_of_working hworking k claimedAt previous)
    subst hok
    exact id
  | .store (.check _ _ _) => exact id
  | .store (.claim _ _ _) => exact id
  | .store (.record _ _) => exact id
  | .resolve _ _ => exact id
  | .deliver _ _ => exact id

/-- A run whose delivery fails sends nothing. -/
theorem result_ne_sent [Charsets] {failure : DeliveryFailure} (h : a.delivery = .error failure) :
    Responder.result ⟨interval, a.domain⟩ a.incoming a.now
      (a.components.intercepted failure?).serve b ≠ .ok .sent := by
  intro hsent
  have hcourse := Responder.process_course ⟨interval, a.domain⟩ a.incoming a.now
    (a.components.intercepted failure?).serve b
  obtain ⟨recipient, reply, hmem⟩ := hcourse.sent_iff.mp hsent
  obtain ⟨⟨q, answer⟩, hx, heq⟩ := List.mem_map.mp hmem
  obtain ⟨b', -, hanswer⟩ :=
    Dialogue.exists_serve_of_mem_transcript (I := fun _ => True) (fun _ _ _ => trivial) _ trivial hx
  match q with
  | .deliver recipient' reply' =>
    have hdelivery : answer = a.delivery := hanswer
    rw [h] at hdelivery
    subst hdelivery
    cases heq
  | .store (.release _ _ _) => cases heq
  | .store (.check _ _ _) => cases heq
  | .store (.claim _ _ _) => cases heq
  | .store (.record _ _) => cases heq
  | .resolve _ _ => cases heq

/-- A table in which other software has written a second that no time has, and a text. -/
def foreignTable : Table where
  rows := [(⟨"user:eve".toList⟩, .seconds Int64.maxValue),
    (⟨"user:eve:2".toList⟩, .other "never".toList), (Key.of ann bob, .seconds 0)]

/-- A letter that comes twenty seconds after the last reply and cannot be answered. -/
def undelivered : Attempt := letter 20 (.error (.killed "sendmail".toList))

theorem records_undelivered :
    let serve := (undelivered.components.intercepted fun _ => none).serve
    let b := Backend.table foreignTable
    Responder.result ⟨tenSeconds, undelivered.domain⟩ undelivered.incoming undelivered.now serve b ≠
        .ok .sent ∧
      (∀ e ∈ Responder.events ⟨tenSeconds, undelivered.domain⟩ undelivered.incoming undelivered.now
        serve b, ¬e.IsFailedRelease) ∧
      ∀ k, (((undelivered.talk tenSeconds).run serve b).2.get k).1 = (b.get k).1 :=
  have hunlocked : (Backend.table foreignTable).Working := rfl
  ⟨result_ne_sent rfl, not_isFailedRelease hunlocked fun _ _ _ => rfl,
    records_of_not_sent undelivered tenSeconds (fun _ => none) (.table foreignTable)
      (result_ne_sent rfl) (not_isFailedRelease hunlocked fun _ _ _ => rfl)⟩

end Attempt
end Autoresponder
