import Autoresponder.Proofs.Protocol
import Autoresponder.Proofs.Questions
import Autoresponder.Responder.World
/-!
# When a store is opened

A store that has to be connected may not be there, and connecting may make files. So it is left
until the responder wants to answer somebody, and it is not done twice.

1. A store that connects when it is called tries at every call until it has succeeded once. The
   later calls are those of a store that was connected from the start (`Store.ConnectsOnce`).
2. A `Site` is what a run works with: a lookup, a way to connect, a store, and a way of delivery, of
   any kind. `World.site` is the one of the program (`World.run_eq`).
3. A message is `Considered` if nothing stands against an answer before the store is asked. Exactly
   then a run tries to connect (`Site.opensLate`).
-/

namespace Autoresponder

variable {σ κ ε : Type}

/-! ## 1. Attempts to connect -/

namespace Store

/-- What comes of trying to connect. -/
structure Attempts (σ κ ε : Type) where
  failures : List ε
  connection : Option κ
  /-- What the attempts leave behind. -/
  base : σ

/-- Tries to connect until it succeeds, but not more often than a number of times. -/
def attempts (connect : σ → Except ε κ × σ) : Nat → σ → Attempts σ κ ε
  | 0, s => ⟨[], none, s⟩
  | n + 1, s =>
    match connect s with
    | (.ok k, s) => ⟨[], some k, s⟩
    | (.error e, s) =>
      { attempts connect n s with failures := e :: (attempts connect n s).failures }

/-- How the attempts have ended. -/
def Attempts.outcomes (x : Attempts σ κ ε) : List (Except ε Unit) :=
  x.failures.map .error ++ (x.connection.map fun _ => .ok ()).toList

/-- What comes of further calls, if there is a connection. -/
def Attempts.callAll (x : Attempts σ κ ε) (store : κ → Store σ ε) (calls : List StoreCall) :
    List (Exchange StoreCall fun c => Except ε c.Answer) × σ :=
  match x.connection with
  | none => ([], x.base)
  | some k => Server.askAll (store k).call calls x.base

/-- A way to connect that writes down how it ends. -/
def journaled (connect : σ → Except ε κ × σ) (x : σ × List (Except ε Unit)) :
    Except ε κ × σ × List (Except ε Unit) :=
  let (result, s) := connect x.1
  (result, s, x.2 ++ [result.map fun _ => ()])

/-- A store beside something else. -/
def beside {α : Type} (s : Store σ ε) : Store (σ × α) ε := s.within Prod.fst fun s x => (s, x.2)

/-- What a store that connects when it is called makes of calls. -/
structure ConnectsOnce (connect : σ → Except ε κ × σ) (store : κ → Store σ ε)
    (calls : List StoreCall) (s : σ) : Prop where
  /-- The first calls fail as the attempts to connect do. The later ones are those of a store that
  is connected. -/
  answers :
    let x := attempts connect calls.length s
    let later := x.callAll store (calls.drop x.failures.length)
    Server.askAll (deferred connect store).call calls ⟨s, none⟩ =
      (List.zipWith (fun c e => ⟨c, .error e⟩) calls x.failures ++ later.1, ⟨later.2, x.connection⟩)
  /-- As long as no attempt succeeds, there is one at each call. -/
  attempted : (attempts connect calls.length s).connection.isSome ∨
    (attempts connect calls.length s).failures.length = calls.length
  /-- There are no other attempts. -/
  journal : (Server.askAll (deferred (journaled connect) fun k => (store k).beside).call calls
    ⟨(s, []), none⟩).2.base.2 = (attempts connect calls.length s).outcomes

variable {connect : σ → Except ε κ × σ} {store : κ → Store σ ε}

theorem call_deferred_of_error {c : StoreCall} {s t : σ} {e : ε} (h : connect s = (.error e, t)) :
    (deferred connect store).call c ⟨s, none⟩ = (.error e, ⟨t, none⟩) := by
  simp only [deferred, h]

theorem call_deferred_of_ok {c : StoreCall} {s t : σ} {k : κ} (h : connect s = (.ok k, t)) :
    (deferred connect store).call c ⟨s, none⟩ =
      (((store k).call c t).1, ⟨((store k).call c t).2, some k⟩) := by
  simp only [deferred, h]

/-- A store that has been connected stays connected. -/
theorem askAll_deferred_connected (k : κ) (calls : List StoreCall) (s : σ) :
    Server.askAll (deferred connect store).call calls ⟨s, some k⟩ =
      ((Server.askAll (store k).call calls s).1,
        ⟨(Server.askAll (store k).call calls s).2, some k⟩) := by
  induction calls generalizing s with
  | nil => rfl
  | cons c calls ih =>
    have hcall : (deferred connect store).call c ⟨s, some k⟩ =
        (((store k).call c s).1, ⟨((store k).call c s).2, some k⟩) := rfl
    simp only [Server.askAll, hcall, ih]

theorem askAll_deferred (calls : List StoreCall) (s : σ) :
    let x := attempts connect calls.length s
    let later := x.callAll store (calls.drop x.failures.length)
    Server.askAll (deferred connect store).call calls ⟨s, none⟩ =
      (List.zipWith (fun c e => ⟨c, .error e⟩) calls x.failures ++ later.1,
        ⟨later.2, x.connection⟩) := by
  induction calls generalizing s with
  | nil => rfl
  | cons c calls ih =>
    rcases hconnect : connect s with ⟨result, s'⟩
    cases result with
    | error e =>
      simp only [Server.askAll, call_deferred_of_error hconnect, ih, List.length_cons, attempts,
        hconnect]
      rfl
    | ok k =>
      simp only [Server.askAll, call_deferred_of_ok hconnect, askAll_deferred_connected,
        List.length_cons, attempts, hconnect]
      rfl

theorem connected_or_length_failures (connect : σ → Except ε κ × σ) (n : Nat) (s : σ) :
    (attempts connect n s).connection.isSome ∨ (attempts connect n s).failures.length = n := by
  induction n generalizing s with
  | zero => exact .inr rfl
  | succ n ih =>
    rcases hconnect : connect s with ⟨result, s'⟩
    cases result with
    | error e =>
      simp only [attempts, hconnect, List.length_cons, Nat.add_right_cancel_iff]
      exact ih s'
    | ok k =>
      simp only [attempts, hconnect]
      exact .inl rfl

/-- The attempts with a journal are those without it. -/
theorem attempts_journaled (connect : σ → Except ε κ × σ) (n : Nat) (s : σ)
    (log : List (Except ε Unit)) :
    attempts (journaled connect) n (s, log) =
      ⟨(attempts connect n s).failures, (attempts connect n s).connection,
        ((attempts connect n s).base, log ++ (attempts connect n s).outcomes)⟩ := by
  induction n generalizing s log with
  | zero => simp [attempts, Attempts.outcomes]
  | succ n ih =>
    rcases hconnect : connect s with ⟨result, s'⟩
    cases result with
    | error e => simp [attempts, journaled, hconnect, ih, Attempts.outcomes, Except.map]
    | ok k => simp [attempts, journaled, hconnect, Attempts.outcomes, Except.map]

/-- A call without a connection writes down its attempt. -/
theorem journal_call (c : StoreCall) (s : σ) (log : List (Except ε Unit)) :
    ((deferred (journaled connect) fun k => (store k).beside).call c ⟨(s, log), none⟩).2.base.2 =
      log ++ [(connect s).1.map fun _ => ()] := by
  rcases hconnect : connect s with ⟨result, s'⟩
  cases result with
  | error e =>
    have hjournaled : journaled connect (s, log) = (.error e, s', log ++ [.error e]) := by
      rw [journaled, hconnect]
      rfl
    rw [call_deferred_of_error hjournaled]
    rfl
  | ok k =>
    have hjournaled : journaled connect (s, log) = (.ok k, s', log ++ [.ok ()]) := by
      rw [journaled, hconnect]
      rfl
    rw [call_deferred_of_ok hjournaled]
    rfl

/-- Calls of a store beside something else leave it alone. -/
theorem askAll_beside {α : Type} (store : Store σ ε) (calls : List StoreCall) (s : σ) (a : α) :
    (Server.askAll store.beside.call calls (s, a)).2.2 = a := by
  induction calls generalizing s with
  | nil => rfl
  | cons c calls ih => exact ih _

theorem connectsOnce (connect : σ → Except ε κ × σ) (store : κ → Store σ ε) (calls : List StoreCall)
    (s : σ) : ConnectsOnce connect store calls s where
  answers := askAll_deferred calls s
  attempted := connected_or_length_failures connect calls.length s
  journal := by
    -- once connected, the store calls leave the journal as it is
    rw [askAll_deferred, attempts_journaled]
    unfold Attempts.callAll
    dsimp only
    cases (attempts connect calls.length s).connection with
    | none => rfl
    | some k => exact askAll_beside _ _ _ _

end Store

/-! ## 2. Sites -/

/-- What a run is about. -/
structure Occasion where
  invocation : Invocation
  /-- The settings file, if there is one. -/
  content : Option Text
  environment : List (Text × Text)
  message : Bytes
  now : Instant

namespace Occasion

/-- What is found out without a connection. -/
def prepare (o : Occasion) : Except Failure Prepared := o.invocation.prepare o.content o.environment

/-- The message for a recipient. -/
def incoming (o : Occasion) (recipient : Address) : Incoming :=
  ⟨recipient, o.invocation.sender, o.message⟩

end Occasion

/-- What runs work with: who looks up policies, who connects and keeps records, and who delivers. -/
structure Site (σ κ : Type) where
  lookup : Settings.DirectoryChoice → Address → Instant → σ → Except LookupFailure Policy × σ
  connect : Interval → Settings.StoreChoice → σ → Except StoreFailure κ × σ
  store : κ → Store σ StoreFailure
  deliver : DeliveryCommand → Address → Text → σ → Except DeliveryFailure Unit × σ

namespace Site

/-- Who answers the responder of a prepared run. -/
def components (x : Site σ κ) (p : Prepared) : Components (Store.Deferred σ κ) where
  lookup recipient now d :=
    let (answer, base) := x.lookup p.directory recipient now d.base
    (answer, { d with base := base })
  store := Store.deferred (x.connect p.responder.interval p.store) x.store
  deliver recipient message d :=
    let (answer, base) := x.deliver p.command recipient message d.base
    (answer, { d with base := base })

/-- Runs the responder for one message. -/
def run [Charsets] (x : Site σ κ) (o : Occasion) (s : σ) : Except Failure Outcome × σ :=
  match o.prepare with
  | .error e => (.error e, s)
  | .ok p =>
    let (outcome, d) :=
      (p.responder.process (o.incoming p.recipient) o.now).run (x.components p).serve ⟨s, none⟩
    (outcome, d.base)

/-- How attempts to connect have ended. -/
abbrev Journal : Type := List (Except StoreFailure Unit)

/-- A site that writes down how its attempts to connect end. -/
def journaled (x : Site σ κ) : Site (σ × Journal) κ where
  lookup choice recipient now s :=
    let (answer, base) := x.lookup choice recipient now s.1
    (answer, base, s.2)
  connect interval choice := Store.journaled (x.connect interval choice)
  store k := (x.store k).beside
  deliver command recipient message s :=
    let (answer, base) := x.deliver command recipient message s.1
    (answer, base, s.2)

end Site

/-- A world as a site. -/
def World.site : Site World World.Connection where
  lookup choice recipient now w :=
    let (answer, directory) := (lookupOf choice).resolve recipient now w.directory
    (answer, { w with directory := directory })
  connect := connect
  store := Connection.store
  deliver command recipient message w :=
    let (answer, host) := command.deliver recipient (Utf8.encode message) w.host
    (answer, { w with host := host })

/-- What a run in a world is about. -/
def World.occasion (i : Invocation) (message : Bytes) (now : Instant) (w : World) : Occasion :=
  ⟨i, w.settingsFile? i, w.environment, message, now⟩

/-- The program is a run at its world. -/
theorem World.run_eq [Charsets] (i : Invocation) (message : Bytes) (now : Instant) (w : World) :
    w.run i message now = World.site.run (w.occasion i message now) w := by
  unfold World.run Site.run Occasion.prepare World.occasion
  dsimp only
  cases i.prepare (w.settingsFile? i) w.environment with
  | error e => rfl
  | ok p => rfl

/-! ## 3. Runs -/

/-- Nothing stands against an answer before the store is asked: the settings load, the recipient and
the delivery command can be read, the sections of the selected backends are there, and the policy
that is looked up leads to an answer. -/
structure Considered [Charsets] (o : Occasion)
    (lookup : Settings.DirectoryChoice → Address → Except LookupFailure Policy) where
  settings : Settings
  loaded : Settings.load? o.invocation.settingsPath o.content o.environment = some settings
  recipient : Address
  recipient_eq : Address.parse o.invocation.recipient = .ok recipient
  command : DeliveryCommand
  command_eq : DeliveryCommand.parse settings.core.sendmail = .ok command
  directory : Settings.DirectoryChoice
  directory_eq : settings.directory = .ok directory
  store : Settings.StoreChoice
  store_eq : settings.store = .ok store
  /-- The policy is active, the message parses, and it passes the screening. -/
  passing : Responder.Passing (o.incoming recipient) o.now
  resolved : lookup directory (recipient.qualify settings.core.domain) = .ok passing.policy

variable {i : Invocation} {content : Option Text} {environment : List (Text × Text)} {o : Occasion}
  {lookup : Settings.DirectoryChoice → Address → Except LookupFailure Policy}

theorem Invocation.prepare_eq {settings : Settings}
    (hload : Settings.load? i.settingsPath content environment = some settings)
    {recipient : Address} (hrecipient : Address.parse i.recipient = .ok recipient)
    {command : DeliveryCommand}
    (hcommand : DeliveryCommand.parse settings.core.sendmail = .ok command)
    {directory : Settings.DirectoryChoice} (hdirectory : settings.directory = .ok directory)
    {store : Settings.StoreChoice} (hstore : settings.store = .ok store) :
    i.prepare content environment =
      .ok ⟨⟨(i.interval.map Interval.ofSeconds).getD settings.interval, settings.core.domain⟩,
        recipient, command, directory, store⟩ := by
  unfold Invocation.prepare
  rw [hload]
  simp only [hrecipient, hcommand, hdirectory, hstore, Except.mapError]
  rfl

/-- A step of a preparation that succeeds. -/
theorem Invocation.exists_of_bind_eq_ok {ε ε' α β : Type} {x : Except ε α} {f : ε → ε'}
    {next : α → Except ε' β} {b : β} (h : (x.mapError f >>= next) = .ok b) :
    ∃ a, x = .ok a ∧ next a = .ok b := by
  cases x with
  | error e => cases h
  | ok a => exact ⟨a, rfl, h⟩

/-- What a run that is prepared has found out. -/
theorem Invocation.exists_of_prepare {p : Prepared} (h : i.prepare content environment = .ok p) :
    ∃ settings, Settings.load? i.settingsPath content environment = some settings ∧
      Address.parse i.recipient = .ok p.recipient ∧
      DeliveryCommand.parse settings.core.sendmail = .ok p.command ∧
      settings.directory = .ok p.directory ∧ settings.store = .ok p.store ∧
      p.responder.domain = settings.core.domain := by
  unfold Invocation.prepare at h
  cases hload : Settings.load? i.settingsPath content environment with
  | none =>
    rw [hload] at h
    cases h
  | some settings =>
    rw [hload] at h
    obtain ⟨recipient, hrecipient, h⟩ := exists_of_bind_eq_ok h
    obtain ⟨command, hcommand, h⟩ := exists_of_bind_eq_ok h
    obtain ⟨directory, hdirectory, h⟩ := exists_of_bind_eq_ok h
    obtain ⟨store, hstore, h⟩ := exists_of_bind_eq_ok h
    cases h
    exact ⟨settings, rfl, hrecipient, hcommand, hdirectory, hstore, rfl⟩

theorem Considered.prepare_eq [Charsets] (c : Considered o lookup) :
    o.prepare =
      .ok ⟨⟨(o.invocation.interval.map Interval.ofSeconds).getD c.settings.interval,
          c.settings.core.domain⟩,
        c.recipient, c.command, c.directory, c.store⟩ :=
  Invocation.prepare_eq c.loaded c.recipient_eq c.command_eq c.directory_eq c.store_eq

/-- What a prepared run has still to find out. -/
theorem Considered.nonempty_iff [Charsets] {p : Prepared} (h : o.prepare = .ok p) :
    Nonempty (Considered o lookup) ↔
      ∃ passing : Responder.Passing (o.incoming p.recipient) o.now,
        lookup p.directory (p.recipient.qualify p.responder.domain) = .ok passing.policy := by
  constructor
  · rintro ⟨c⟩
    obtain rfl := Except.ok.inj (h.symm.trans c.prepare_eq)
    exact ⟨c.passing, c.resolved⟩
  · rintro ⟨passing, hresolved⟩
    obtain ⟨settings, hload, hrecipient, hcommand, hdirectory, hstore, hdomain⟩ :=
      Invocation.exists_of_prepare h
    rw [hdomain] at hresolved
    exact ⟨⟨settings, hload, _, hrecipient, _, hcommand, _, hdirectory, _, hstore, passing,
      hresolved⟩⟩

namespace Site

/-- The policies that a site finds. -/
def policyOf (x : Site σ κ) (now : Instant) (s : σ) (choice : Settings.DirectoryChoice)
    (recipient : Address) :
    Except LookupFailure Policy :=
  (x.lookup choice recipient now s).1

/-- A run finds something against an answer, and then it has at most looked up a policy. Or it goes
on with an answer, and is not connected yet. -/
inductive Runs [Charsets] (x : Site σ κ) (o : Occasion) (s : σ) : Except Failure Outcome × σ → Prop
  | unprepared (h : ¬Nonempty (Considered o (x.policyOf o.now s)))
      (outcome : Except Failure Outcome) :
      Runs x o s (outcome, s)
  | unconsidered (h : ¬Nonempty (Considered o (x.policyOf o.now s)))
      (choice : Settings.DirectoryChoice) (recipient : Address)
      (outcome : Except Failure Outcome) :
      Runs x o s (outcome, (x.lookup choice recipient o.now s).2)
  | considered (h : Nonempty (Considered o (x.policyOf o.now s))) (p : Prepared) (policy : Policy)
      (recipient sender : Address) (cited : Citation) :
      Runs x o s
        (let (outcome, d) := (p.responder.answer policy recipient sender cited o.now).run
          (x.components p).serve ⟨(x.lookup p.directory recipient o.now s).2, none⟩
        (outcome, d.base))

theorem runs [Charsets] (x : Site σ κ) (o : Occasion) (s : σ) : x.Runs o s (x.run o s) := by
  unfold Site.run
  cases hprepare : o.prepare with
  | error e =>
    refine .unprepared (fun ⟨c⟩ => ?_) _
    rw [c.prepare_eq] at hprepare
    cases hprepare
  | ok p =>
    have hiff : Nonempty (Considered o (x.policyOf o.now s)) ↔ _ := Considered.nonempty_iff hprepare
    have hnone : (∀ passing : Responder.Passing (o.incoming p.recipient) o.now,
        x.policyOf o.now s p.directory (p.recipient.qualify p.responder.domain) ≠
          .ok passing.policy) →
          ¬Nonempty (Considered o (x.policyOf o.now s)) := by
      intro hne hconsidered
      obtain ⟨passing, hresolved⟩ := hiff.mp hconsidered
      exact hne passing hresolved
    have hresolve :
        (x.components p).serve (.resolve (p.recipient.qualify p.responder.domain) o.now) ⟨s, none⟩ =
        (x.policyOf o.now s p.directory (p.recipient.qualify p.responder.domain),
          ⟨(x.lookup p.directory (p.recipient.qualify p.responder.domain) o.now s).2, none⟩) := rfl
    dsimp only
    unfold Responder.process
    rw [Dialogue.run_ask, show (o.incoming p.recipient).recipient = p.recipient from rfl, hresolve]
    dsimp only
    cases hanswer : x.policyOf o.now s p.directory (p.recipient.qualify p.responder.domain) with
    | error e =>
      refine .unconsidered (hnone fun passing => ?_) _ _ _
      rw [hanswer]
      exact nofun
    | ok policy =>
      rw [hanswer] at hnone hiff
      dsimp only
      -- the policy and the message decide whether the store is asked at all
      have hjudged := Responder.judged policy (o.incoming p.recipient) o.now
      generalize hj : Responder.judge policy (o.incoming p.recipient) o.now = judgement at hjudged ⊢
      have hleave : (∀ sender cited, judgement ≠ .ok (.answer sender cited)) →
          ¬Nonempty (Considered o (x.policyOf o.now s)) :=
        fun hne => hnone fun passing heq =>
          Responder.Passing.policy_ne hj hne passing (Except.ok.inj heq).symm
      cases hjudged with
      | inactive h => exact .unconsidered (hleave nofun) _ _ _
      | malformed h e hparse => exact .unconsidered (hleave nofun) _ _ _
      | ignored h inbound hparse reason hscreen => exact .unconsidered (hleave nofun) _ _ _
      | answer h inbound hparse sender hscreen =>
        exact .considered (hiff.mpr ⟨⟨policy, sender, inbound, h, hparse, hscreen⟩, rfl⟩) _ _ _ _ _

/-- What a site has written down stays. -/
theorem journal_serve (x : Site σ κ) (p : Prepared) (q : Responder.Question)
    {d : Store.Deferred (σ × Journal) κ} (h : d.base.2 ≠ []) :
    ((x.journaled.components p).serve q d).2.base.2 ≠ [] := by
  cases q with
  | resolve recipient now => exact h
  | deliver recipient reply => exact h
  | store c =>
    obtain ⟨⟨s, log⟩, connection⟩ := d
    cases connection with
    | some k => exact h
    | none =>
      have hcall : ((x.journaled.components p).serve (.store c) ⟨(s, log), none⟩).2.base.2 = _ :=
        Store.journal_call c s log
      rw [hcall]
      exact List.append_ne_nil_of_left_ne_nil h _

/-- An answer begins with a call of the store. -/
theorem journal_answer (x : Site σ κ) (p : Prepared) (policy : Policy) (recipient sender : Address)
    (cited : Citation) (now : Instant) (s : σ) :
    ((p.responder.answer policy recipient sender cited now).run (x.journaled.components p).serve
      ⟨(s, []), none⟩).2.base.2 ≠ [] := by
  unfold Responder.answer
  rw [Dialogue.run_ask]
  refine Dialogue.AsksOnly.run_induction
    (I := fun d : Store.Deferred (σ × Journal) κ => d.base.2 ≠ [])
    (fun q d _ h => x.journal_serve p q h) (Dialogue.asksOnly_true _) ?_
  have hcall : ((x.journaled.components p).serve (.store (.check (Key.of sender recipient) now
      p.responder.interval)) ⟨(s, []), none⟩).2.base.2 = _ := Store.journal_call _ s []
  rw [hcall]
  exact List.cons_ne_nil _ _

/-- A run writes down an attempt to connect just if its message is considered. -/
theorem journal_ne_nil_iff [Charsets] (x : Site σ κ) (o : Occasion) (s : σ) :
    (x.journaled.run o (s, [])).2.2 ≠ [] ↔ Nonempty (Considered o (x.policyOf o.now s)) := by
  have hruns := x.journaled.runs o (s, [])
  generalize x.journaled.run o (s, []) = r at hruns ⊢
  cases hruns with
  | unprepared h outcome =>
    exact ⟨fun hne => absurd rfl hne, fun hconsidered => absurd hconsidered h⟩
  | unconsidered h choice recipient outcome =>
    exact ⟨fun hne => absurd rfl hne, fun hconsidered => absurd hconsidered h⟩
  | considered h p policy recipient sender cited =>
    exact ⟨fun _ => h, fun _ => x.journal_answer p policy recipient sender cited o.now _⟩

/-- A site and its journal are in step. -/
structure InStep (d : Store.Deferred (σ × Journal) κ) (d' : Store.Deferred σ κ) :
    Prop where
  base : d.base.1 = d'.base
  connection : d.connection = d'.connection

theorem InStep.call {connect : σ → Except StoreFailure κ × σ} {store : κ → Store σ StoreFailure}
    (c : StoreCall) {d : Store.Deferred (σ × Journal) κ} {d' : Store.Deferred σ κ}
    (h : InStep d d') :
    ((Store.deferred (Store.journaled connect) fun k => (store k).beside).call c d).1 =
        ((Store.deferred connect store).call c d').1 ∧
      InStep ((Store.deferred (Store.journaled connect) fun k => (store k).beside).call c d).2
        ((Store.deferred connect store).call c d').2 := by
  obtain ⟨⟨s, log⟩, connection⟩ := d
  obtain ⟨s', connection'⟩ := d'
  obtain rfl : s = s' := h.base
  obtain rfl : connection = connection' := h.connection
  cases connection with
  | some k => exact ⟨rfl, rfl, rfl⟩
  | none =>
    unfold Store.deferred Store.journaled
    dsimp only
    generalize connect s = r
    obtain ⟨result, s'⟩ := r
    cases result with
    | error e => exact ⟨rfl, rfl, rfl⟩
    | ok k => exact ⟨rfl, rfl, rfl⟩

theorem InStep.serve {x : Site σ κ} {p : Prepared} (q : Responder.Question)
    {d : Store.Deferred (σ × Journal) κ} {d' : Store.Deferred σ κ} (h : InStep d d') :
    ((x.journaled.components p).serve q d).1 = ((x.components p).serve q d').1 ∧
      InStep ((x.journaled.components p).serve q d).2 ((x.components p).serve q d').2 := by
  cases q with
  | store c => exact h.call c
  | resolve recipient now =>
    obtain ⟨⟨s, log⟩, connection⟩ := d
    obtain rfl : s = d'.base := h.base
    exact ⟨rfl, rfl, h.connection⟩
  | deliver recipient reply =>
    obtain ⟨⟨s, log⟩, connection⟩ := d
    obtain rfl : s = d'.base := h.base
    exact ⟨rfl, rfl, h.connection⟩

/-- The journal does not change what a run does. -/
theorem run_journaled [Charsets] (x : Site σ κ) (o : Occasion) (s : σ) (log : Journal) :
    (x.journaled.run o (s, log)).1 = (x.run o s).1 ∧
      (x.journaled.run o (s, log)).2.1 = (x.run o s).2 := by
  unfold Site.run
  cases o.prepare with
  | error e => exact ⟨rfl, rfl⟩
  | ok p =>
    have hstart : InStep (κ := κ) ⟨(s, log), none⟩ ⟨s, none⟩ := ⟨rfl, rfl⟩
    obtain ⟨houtcome, hend⟩ := Dialogue.AsksOnly.run_agree
      (fun q _ _ _ h => InStep.serve (x := x) (p := p) q h)
      (Dialogue.asksOnly_true (p.responder.process (o.incoming p.recipient) o.now)) hstart
    exact ⟨houtcome, hend.base⟩

end Site

/-- What a world keeps for its stores stays as it is, unless a message is considered. -/
theorem World.considered_or_unchanged [Charsets] (i : Invocation) (message : Bytes)
    (now : Instant) (w : World) :
    Nonempty (Considered (w.occasion i message now) (World.site.policyOf now w)) ∨
      (w.run i message now).2.host = w.host ∧ (w.run i message now).2.keyValue = w.keyValue := by
  rw [World.run_eq]
  have hruns := World.site.runs (w.occasion i message now) w
  generalize World.site.run (w.occasion i message now) w = r at hruns ⊢
  cases hruns with
  | unprepared h outcome => exact .inr ⟨rfl, rfl⟩
  | unconsidered h choice recipient outcome => exact .inr ⟨rfl, rfl⟩
  | considered h p policy recipient sender cited => exact .inl h

namespace Site

/-- When a site is connected, in a run from some state. -/
structure OpensLate [Charsets] (x : Site σ κ) (o : Occasion) (s : σ) : Prop where
  /-- There is an attempt to connect just if the message is considered. -/
  attempted : (x.journaled.run o (s, [])).2.2 ≠ [] ↔ Nonempty (Considered o (x.policyOf o.now s))
  /-- The journal of the attempts changes nothing else. -/
  outcome : (x.journaled.run o (s, [])).1 = (x.run o s).1
  base : (x.journaled.run o (s, [])).2.1 = (x.run o s).2

theorem opensLate [Charsets] (x : Site σ κ) (o : Occasion) (s : σ) : x.OpensLate o s where
  attempted := x.journal_ne_nil_iff o s
  outcome := (x.run_journaled o s []).1
  base := (x.run_journaled o s []).2

end Site

/-- A store is opened only for a message that is considered, whatever a run works with, and the
program is such a run. A store that connects when it is called connects once, and is then the store
that it has connected to. -/
theorem Store.opened_late [Charsets] :
    (∀ {σ κ : Type} (x : Site σ κ) (o : Occasion) (s : σ), x.OpensLate o s) ∧
    (∀ (i : Invocation) (message : Bytes) (now : Instant) (w : World),
      w.run i message now = World.site.run (w.occasion i message now) w ∧
      (Nonempty (Considered (w.occasion i message now) (World.site.policyOf now w)) ∨
        (w.run i message now).2.host = w.host ∧ (w.run i message now).2.keyValue = w.keyValue)) ∧
    ∀ {σ κ ε : Type} (connect : σ → Except ε κ × σ) (store : κ → Store σ ε)
      (calls : List StoreCall) (s : σ), Store.ConnectsOnce connect store calls s :=
  ⟨Site.opensLate,
    fun i message now w => ⟨w.run_eq i message now, w.considered_or_unchanged i message now⟩,
    Store.connectsOnce⟩

end Autoresponder
