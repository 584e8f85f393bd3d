import Autoresponder.Directory.Lookup
import Autoresponder.Directory.Scripted
import Autoresponder.Proofs.Questions
/-!
# What a directory leads to

A directory can fail in many ways, and none of them may look like a recipient who is not away. And
an entry may say much that has to fit together before a recipient is away.

1. The policy of an entry applies just if the entry says that the recipient is `Away`, provided that
   no two of its attributes have one name (`isActiveAt_policyOf_iff`).
2. A search has an answer unless it is broken off or ends with another code than that of success and
   that of a missing base: `Match.read` and its equations.
3. A lookup connects, binds if there is a name, searches users, and perhaps searches groups
   (`Course`).
4. So it fails just where one of the exchanges is `Broken`, and applies just where the last search
   has found one entry, which says that the recipient is away (`resolve_exact`).
-/

namespace Autoresponder.Directory

open Autoresponder (Text)

/-! ## 1. Entries -/

/-- The first value of an attribute. The case of its name does not matter. -/
def HasFirst (as : Attributes) (name v : Text) : Prop :=
  ∃ a ∈ as, Text.sameFolded a.1 name = true ∧ a.2.head? = some v

/-- No two attributes have names that differ at most in case. -/
def Distinct (as : Attributes) : Prop := as.Pairwise fun a b => Text.sameFolded a.1 b.1 = false

instance (as : Attributes) : Decidable (Distinct as) :=
  inferInstanceAs (Decidable (List.Pairwise _ as))

/-- The entry says that the recipient is away. -/
structure Away (s : LdapSettings) (now : Instant) (as : Attributes) : Prop where
  flagged : ∃ v, HasFirst as s.vacationAttr v ∧ Text.sameFolded (Text.trim v) "TRUE".toList = true
  /-- What is said about the start can be read, and is over. -/
  started : ∀ v, HasFirst as s.startAttr v →
    ∃ t, GeneralizedTime.parse? v = some t ∧ t.le now = true
  unfinished : ∀ v, HasFirst as s.endAttr v →
    ∃ t, GeneralizedTime.parse? v = some t ∧ now.le t = true

variable {s : LdapSettings} {as : Attributes} {name v localPart : Text} {now : Instant}
  {isGroup : Bool}

theorem sameFolded_of_name {a b : Text} (ha : Text.sameFolded a name = true)
    (hb : Text.sameFolded b name = true) : Text.sameFolded a b = true := by
  unfold Text.sameFolded at ha hb ⊢
  rw [beq_iff_eq] at ha hb ⊢
  exact ha.trans hb.symm

theorem values_cons (name : Text) (a : Text × List Text) (as : Attributes) :
    values name (a :: as) = if Text.sameFolded a.1 name = true then a.2 else values name as := by
  unfold values
  rw [List.find?_cons]
  cases Text.sameFolded a.1 name <;> rfl

theorem first?_eq_some_iff (h : Distinct as) : first? name as = some v ↔ HasFirst as name v := by
  unfold first? HasFirst
  induction as with
  | nil =>
    constructor
    · intro hfirst
      cases hfirst
    · rintro ⟨a, ha, -⟩
      cases ha
  | cons a as ih =>
    obtain ⟨hothers, hrest⟩ := List.pairwise_cons.mp h
    rw [values_cons]
    by_cases hname : Text.sameFolded a.1 name = true
    · rw [if_pos hname]
      constructor
      · intro hfirst
        exact ⟨a, List.mem_cons_self, hname, hfirst⟩
      · rintro ⟨b, hb, hbname, hfirst⟩
        rcases List.mem_cons.mp hb with rfl | hb
        · exact hfirst
        · -- a second attribute of the name would not be distinct from the first one
          have hsame := sameFolded_of_name hname hbname
          rw [hothers b hb] at hsame
          cases hsame
    · rw [if_neg hname, ih hrest]
      constructor
      · rintro ⟨b, hb, hfound⟩
        exact ⟨b, List.mem_cons_of_mem _ hb, hfound⟩
      · rintro ⟨b, hb, hbname, hfirst⟩
        rcases List.mem_cons.mp hb with rfl | hb
        · exact absurd hbname hname
        · exact ⟨b, hb, hbname, hfirst⟩

theorem isFlagged_iff (h : Distinct as) :
    isFlagged s as = true ↔
      ∃ v, HasFirst as s.vacationAttr v ∧ Text.sameFolded (Text.trim v) "TRUE".toList = true := by
  have hword : ∀ v : Text, Text.sameFolded v "true".toList = Text.sameFolded v "TRUE".toList :=
    fun _ => rfl
  unfold isFlagged
  rw [Option.any_eq_true]
  constructor
  · rintro ⟨v, hv, hflag⟩
    exact ⟨v, (first?_eq_some_iff h).mp hv, hflag⟩
  · rintro ⟨v, hv, hflag⟩
    exact ⟨v, (first?_eq_some_iff h).mpr hv, hflag⟩

/-- A bound that can be read, and that the time respects. -/
theorem exists_bound?_iff (h : Distinct as) {within : Instant → Bool} :
    (∃ bound, bound? name as = some bound ∧ bound.all within = true) ↔
      ∀ v, HasFirst as name v → ∃ t, GeneralizedTime.parse? v = some t ∧ within t = true := by
  unfold bound?
  cases hfirst : first? name as with
  | none =>
    refine ⟨fun _ v hv => ?_, fun _ => ⟨none, rfl, rfl⟩⟩
    rw [← first?_eq_some_iff h, hfirst] at hv
    cases hv
  | some v =>
    have hv := (first?_eq_some_iff h).mp hfirst
    constructor
    · rintro ⟨bound, hbound, hwithin⟩ v' hv'
      rw [← first?_eq_some_iff h, hfirst] at hv'
      cases hv'
      obtain ⟨t, ht, rfl⟩ := Option.map_eq_some_iff.mp hbound
      exact ⟨t, ht, hwithin⟩
    · intro hall
      obtain ⟨t, ht, hwithin⟩ := hall v hv
      exact ⟨some t, congrArg (Option.map some) ht, hwithin⟩

theorem window?_eq_some_iff {w : Window} :
    window? s as = some w ↔
      bound? s.startAttr as = some w.start ∧ bound? s.endAttr as = some w.finish := by
  unfold window?
  cases bound? s.startAttr as with
  | none => exact ⟨nofun, nofun⟩
  | some start =>
    cases bound? s.endAttr as with
    | none => exact ⟨nofun, nofun⟩
    | some finish =>
      obtain ⟨start', finish'⟩ := w
      simp

/-- A policy applies just if the flag is set and the window can be read and contains the time. -/
theorem isActiveAt_policyOf_eq :
    (policyOf s localPart isGroup now as).isActiveAt now = true ↔
      isFlagged s as = true ∧ ∃ w, window? s as = some w ∧ w.contains now = true := by
  unfold policyOf Policy.isActiveAt
  cases window? s as with
  | none => simp
  | some w => simp

theorem isActiveAt_policyOf_iff (h : Distinct as) :
    (policyOf s localPart isGroup now as).isActiveAt now = true ↔ Away s now as := by
  rw [isActiveAt_policyOf_eq, isFlagged_iff h]
  constructor
  · rintro ⟨hflag, w, hw, hcontains⟩
    obtain ⟨hstart, hfinish⟩ := window?_eq_some_iff.mp hw
    obtain ⟨hstarted, hunfinished⟩ := Bool.and_eq_true_iff.mp hcontains
    exact ⟨hflag, (exists_bound?_iff h).mp ⟨_, hstart, hstarted⟩,
      (exists_bound?_iff h).mp ⟨_, hfinish, hunfinished⟩⟩
  · rintro ⟨hflag, hstarted, hunfinished⟩
    obtain ⟨start, hstart, hafter⟩ := (exists_bound?_iff h).mpr hstarted
    obtain ⟨finish, hfinish, hbefore⟩ := (exists_bound?_iff h).mpr hunfinished
    exact ⟨hflag, ⟨start, finish⟩, window?_eq_some_iff.mpr ⟨hstart, hfinish⟩,
      Bool.and_eq_true_iff.mpr ⟨hafter, hbefore⟩⟩

/-! ## 2. Searches -/

/-- The base does not exist, or nothing is found below it. -/
def Found.Empty (f : Found) : Prop :=
  f.outcome.code = Outcome.noSuchObject ∨ f.outcome.code = Outcome.success ∧ f.entries = []

/-- The search has succeeded and found one entry. -/
def Found.Single (f : Found) (e : Entry) : Prop :=
  f.outcome.code = Outcome.success ∧ f.entries = [e]

/-- The directory has neither searched nor said that there is nothing to search. -/
def Found.Refused (f : Found) : Prop :=
  f.outcome.code ≠ Outcome.success ∧ f.outcome.code ≠ Outcome.noSuchObject

/-- What is made of the answer to a search. -/
def Match.read : Except Failure Found → Except Failure Match
  | .error e => .error e
  | .ok f => Match.of f

/-- The four ways to read what was found. -/
inductive Match.Reads (f : Found) : Except Failure Match → Prop
  | refused (h : f.Refused) : Reads f (.error (.refused f.outcome))
  | nobody (h : f.Empty) : Reads f (.ok .nobody)
  | one (e : Entry) (h : f.Single e) : Reads f (.ok (.one (attributes e)))
  | several (h : f.outcome.code = Outcome.success) (e e' : Entry) (es : List Entry)
      (hentries : f.entries = e :: e' :: es) : Reads f (.ok (.several f.entries.length))

theorem Match.reads (f : Found) : Match.Reads f (Match.of f) := by
  unfold Match.of
  split
  · rename_i hcode
    exact .nobody (.inl hcode)
  · rename_i hmissing
    split
    · rename_i hcode
      exact .refused ⟨hcode, hmissing⟩
    · rename_i hcode
      have hcode := Decidable.not_not.mp hcode
      split
      · rename_i hentries
        exact .nobody (.inr ⟨hcode, hentries⟩)
      · rename_i e hentries
        exact .one e ⟨hcode, hentries⟩
      · -- what is left are two entries or more
        rename_i es hnone hone
        match hentries : f.entries with
        | [] => exact absurd hentries hnone
        | [e] => exact absurd hentries (hone e)
        | e :: e' :: es =>
          rw [← hentries]
          exact .several hcode e e' es hentries

theorem Found.Refused.not_empty {f : Found} (h : f.Refused) : ¬f.Empty := by
  rintro (hmissing | ⟨hsuccess, -⟩)
  · exact h.2 hmissing
  · exact h.1 hsuccess

theorem Found.Single.not_empty {f : Found} {e : Entry} (h : f.Single e) : ¬f.Empty := by
  rintro (hmissing | ⟨-, hentries⟩)
  · rw [h.1] at hmissing
    cases hmissing
  · rw [h.2] at hentries
    cases hentries

theorem Match.of_eq_nobody_iff {f : Found} : Match.of f = .ok .nobody ↔ f.Empty := by
  have hreads := Match.reads f
  generalize Match.of f = r at hreads ⊢
  cases hreads with
  | refused h => exact ⟨nofun, fun hempty => absurd hempty h.not_empty⟩
  | nobody h => exact ⟨fun _ => h, fun _ => rfl⟩
  | one e h => exact ⟨nofun, fun hempty => absurd hempty h.not_empty⟩
  | several h e e' es hentries =>
    refine ⟨nofun, ?_⟩
    rintro (hmissing | ⟨-, hnone⟩)
    · rw [h] at hmissing
      cases hmissing
    · rw [hentries] at hnone
      cases hnone

theorem Match.of_eq_error_iff {f : Found} : (∃ e, Match.of f = .error e) ↔ f.Refused := by
  have hreads := Match.reads f
  generalize Match.of f = r at hreads ⊢
  cases hreads with
  | refused h => exact ⟨fun _ => h, fun _ => ⟨_, rfl⟩⟩
  | nobody h => exact ⟨nofun, fun hrefused => absurd h hrefused.not_empty⟩
  | one e h => exact ⟨nofun, fun hrefused => absurd h.1 hrefused.1⟩
  | several h => exact ⟨nofun, fun hrefused => absurd h hrefused.1⟩

/-- Only a single entry leads to a policy that may apply. -/
theorem Match.conclude_of (s : LdapSettings) (localPart : Text) (isGroup : Bool) (now : Instant)
    {f : Found} {m : Match} (hof : Match.of f = .ok m) :
    (∃ e, f.Single e ∧
      conclude s localPart isGroup now m = policyOf s localPart isGroup now (attributes e)) ∨
      (∀ e, ¬f.Single e) ∧ conclude s localPart isGroup now m = .inactive := by
  have hreads := Match.reads f
  rw [hof] at hreads
  cases hreads with
  | nobody h => exact .inr ⟨fun e hsingle => hsingle.not_empty h, rfl⟩
  | one e h => exact .inl ⟨e, h, rfl⟩
  | several h e e' es hentries =>
    refine .inr ⟨fun e hsingle => ?_, rfl⟩
    rw [hsingle.2] at hentries
    cases hentries

/-! ## 3. Lookups -/

/-- Something that is said between the responder and a directory. -/
abbrev Said : Type := Exchange Request Request.Answer

/-- The exchange is broken off, or the directory refuses it. -/
def Broken : Said → Prop
  | ⟨.connect _, answer⟩ => ∃ e, answer = Except.error e
  | ⟨.bind _ _, answer⟩ => ∀ o, answer = Except.ok o → o.code ≠ Outcome.success
  | ⟨.search _, answer⟩ => ∀ f, answer = Except.ok f → f.Refused

/-- A search with its answer. -/
abbrev Searched : Type := Search × Except Failure Found

def Searched.said (x : Searched) : Said := ⟨.search x.1, x.2⟩

/-- The searches among what is said. -/
def searched (es : List Said) : List Searched :=
  es.filterMap fun
    | ⟨.search q, answer⟩ => some (q, answer)
    | _ => none

theorem searched_said (xs : List Searched) : searched (xs.map Searched.said) = xs := by
  unfold searched
  rw [List.filterMap_map]
  exact List.filterMap_some

theorem Searched.broken_said_iff (x : Searched) :
    Broken x.said ↔ ∃ e, Match.read x.2 = .error e := by
  obtain ⟨q, answer⟩ := x
  cases answer with
  | error e => exact ⟨fun _ => ⟨e, rfl⟩, fun _ => nofun⟩
  | ok f =>
    show (∀ f', Except.ok f = Except.ok f' → f'.Refused) ↔ ∃ e, Match.of f = .error e
    rw [Match.of_eq_error_iff]
    refine ⟨fun h => h f rfl, ?_⟩
    rintro h f' ⟨⟩
    exact h

/-- Users are searched. If there are no such users, and there is a base for groups, groups are
searched too. The last search decides. -/
inductive Searches (s : LdapSettings) (localPart : Text) (now : Instant) :
    List Searched → Except Failure Policy → Prop
  | users (q : Search) (hq : q.base = s.searchBase) (answer : Except Failure Found)
      (h : Match.read answer = .ok .nobody → s.groupSearchBase = none) :
      Searches s localPart now [(q, answer)]
        ((Match.read answer).map (conclude s localPart false now))
  | groups (q q' : Search) (hq : q.base = s.searchBase) (hq' : s.groupSearchBase = some q'.base)
      (answer answer' : Except Failure Found) (h : Match.read answer = .ok .nobody) :
      Searches s localPart now [(q, answer), (q', answer')]
        ((Match.read answer').map (conclude s localPart true now))

/-- What there is to be said before the searches. -/
inductive Bound (s : LdapSettings) : List Said → Prop
  | anonymous (h : ∀ name, s.bindName = some name → name = []) : Bound s []
  | named (name : Text) (h : s.bindName = some name) (hname : name ≠ []) (o : Outcome)
      (ho : o.code = Outcome.success) : Bound s [⟨.bind name (s.bindPassword.getD []), .ok o⟩]

/-- All that may be said about a recipient, and what comes of it. -/
inductive Course (s : LdapSettings) (localPart : Text) (now : Instant) :
    List Said → Except Failure Policy → Prop
  | unreachable (e : Failure) : Course s localPart now [⟨.connect s.uri, .error e⟩] (.error e)
  | unbound (name : Text) (h : s.bindName = some name) (hname : name ≠ [])
      (answer : Except Failure Outcome)
      (hbroken : Broken ⟨.bind name (s.bindPassword.getD []), answer⟩) (e : Failure) :
      Course s localPart now
        [⟨.connect s.uri, .ok ()⟩, ⟨.bind name (s.bindPassword.getD []), answer⟩] (.error e)
  | searched (binds : List Said) (hbinds : Bound s binds) (xs : List Searched)
      (r : Except Failure Policy) (h : Searches s localPart now xs r) :
      Course s localPart now (⟨.connect s.uri, .ok ()⟩ :: (binds ++ xs.map Searched.said)) r

variable {σ : Type} {serve : Server Request Request.Answer σ}

/-- The text of a filter for an attribute can be read. -/
def Searchable (attr value : Text) : Prop := (Filter.parse? (Filter.equalityText attr value)).isSome

instance (attr value : Text) : Decidable (Searchable attr value) :=
  inferInstanceAs (Decidable (_ = true))

/-- A search asks one question and goes on with what it reads. -/
theorem follows_search {attr value : Text} (h : Searchable attr value) (base : Text) {α : Type}
    {next : Except Failure Match → Conversation α} {C : List Said → α → Prop}
    (hnext : ∀ (q : Search) (answer : Except Failure Found), q.base = base →
      (next (Match.read answer)).Follows serve fun es => C (⟨.search q, answer⟩ :: es)) :
    ((search s base attr value).bind next).Follows serve C := by
  obtain ⟨f, hf⟩ := Option.isSome_iff_exists.mp h
  unfold search
  rw [hf]
  refine Dialogue.Follows.of_ask fun (answer : Except Failure Found) => ?_
  have hfollows := hnext ⟨base, .tree, f, wanted s⟩ answer rfl
  cases answer with
  | error e => exact hfollows
  | ok found => exact hfollows

theorem follows_searchAll (husers : Searchable s.uidAttr localPart)
    (hgroups : s.groupSearchBase.isSome → Searchable s.groupAttr localPart) :
    (searchAll s localPart now).Follows serve fun es r =>
      ∃ xs, es = xs.map Searched.said ∧ Searches s localPart now xs r := by
  refine follows_search husers _ fun q answer hq => ?_
  have husersOnly : (Match.read answer = .ok .nobody → s.groupSearchBase = none) →
      ∃ xs, [⟨.search q, answer⟩] = xs.map Searched.said ∧
        Searches s localPart now xs ((Match.read answer).map (conclude s localPart false now)) :=
    fun h => ⟨[(q, answer)], rfl, .users q hq answer h⟩
  cases hread : Match.read answer with
  | error e =>
    rw [hread] at husersOnly
    exact Dialogue.Follows.of_done (husersOnly nofun)
  | ok m =>
    rw [hread] at husersOnly
    cases m with
    | one as => exact Dialogue.Follows.of_done (husersOnly nofun)
    | several count => exact Dialogue.Follows.of_done (husersOnly nofun)
    | nobody =>
      -- there are no such users, so the base for groups matters
      dsimp only
      cases hbase : s.groupSearchBase with
      | none => exact Dialogue.Follows.of_done (husersOnly fun _ => hbase)
      | some base =>
        have hsearchable := hgroups (by rw [hbase]; rfl)
        refine follows_search hsearchable base fun q' answer' hq' => ?_
        have hgroup : ∃ xs, [⟨.search q, answer⟩, ⟨.search q', answer'⟩] = xs.map Searched.said ∧
            Searches s localPart now xs
              ((Match.read answer').map (conclude s localPart true now)) :=
          ⟨[(q, answer), (q', answer')], rfl,
            .groups q q' hq (hbase.trans (congrArg some hq'.symm)) answer answer' hread⟩
        cases hread' : Match.read answer' with
        | error e =>
          rw [hread'] at hgroup
          exact Dialogue.Follows.of_done hgroup
        | ok m =>
          rw [hread'] at hgroup
          exact Dialogue.Follows.of_done hgroup

theorem follows_bindFirst :
    (bindFirst s).Follows serve fun es r =>
      (r = .ok () ∧ Bound s es) ∨
        ∃ e name answer, r = .error e ∧ s.bindName = some name ∧ name ≠ [] ∧
          es = [⟨.bind name (s.bindPassword.getD []), answer⟩] ∧
          Broken ⟨.bind name (s.bindPassword.getD []), answer⟩ := by
  unfold bindFirst
  cases hname : s.bindName with
  | none =>
    refine Dialogue.Follows.of_done (.inl ⟨rfl, .anonymous fun name h => ?_⟩)
    rw [hname] at h
    cases h
  | some name =>
    dsimp only
    split
    · rename_i hempty
      refine Dialogue.Follows.of_done (.inl ⟨rfl, .anonymous fun name' h => ?_⟩)
      rw [hname] at h
      cases h
      exact List.isEmpty_iff.mp hempty
    · rename_i hempty
      have hne : name ≠ [] := fun h => hempty (List.isEmpty_iff.mpr h)
      refine Dialogue.Follows.of_ask fun (answer : Except Failure Outcome) => ?_
      cases answer with
      | error e => exact Dialogue.Follows.of_done (.inr ⟨e, name, _, rfl, rfl, hne, rfl, nofun⟩)
      | ok o =>
        dsimp only
        split
        · rename_i hcode
          exact Dialogue.Follows.of_done (.inl ⟨rfl, .named name hname hne o hcode⟩)
        · rename_i hcode
          refine Dialogue.Follows.of_done (.inr ⟨_, name, _, rfl, rfl, hne, rfl, ?_⟩)
          rintro o' ⟨⟩
          exact hcode

theorem follows_resolve {recipient : Address} (husers : Searchable s.uidAttr recipient.localPart)
    (hgroups : s.groupSearchBase.isSome → Searchable s.groupAttr recipient.localPart) :
    (resolve s recipient now).Follows serve (Course s recipient.localPart now) := by
  refine Dialogue.Follows.of_ask fun (answer : Except Failure Unit) => ?_
  cases answer with
  | error e => exact Dialogue.Follows.of_done (.unreachable e)
  | ok _ =>
    refine Dialogue.Follows.bind follows_bindFirst ?_
    rintro es r (⟨rfl, hbound⟩ | ⟨e, name, answer, rfl, hname, hne, rfl, hbroken⟩)
    · refine (follows_searchAll husers hgroups).mono ?_
      rintro es' r ⟨xs, rfl, hsearches⟩
      exact .searched es hbound xs r hsearches
    · exact Dialogue.Follows.of_done (.unbound name hname hne answer hbroken e)

/-! ## 4. Failure and activity -/

namespace Searches

variable {xs : List Searched} {r : Except Failure Policy}

theorem exists_error_map_iff {α β ε : Type} {r : Except ε α} {f : α → β} :
    (∃ e, r.map f = .error e) ↔ ∃ e, r = .error e := by
  cases r with
  | error e => exact ⟨fun _ => ⟨e, rfl⟩, fun _ => ⟨e, rfl⟩⟩
  | ok a => exact ⟨nofun, nofun⟩

theorem fails_iff (h : Searches s localPart now xs r) :
    (∃ e, r = .error e) ↔ ∃ x ∈ xs.map Searched.said, Broken x := by
  cases h with
  | users q hq answer h =>
    rw [exists_error_map_iff, ← Searched.broken_said_iff (q, answer)]
    simp
  | groups q q' hq hq' answer answer' h =>
    -- a search that finds nobody has been answered
    have hfirst : ¬Broken (Searched.said (q, answer)) := by
      rw [Searched.broken_said_iff, h]
      exact nofun
    rw [exists_error_map_iff, ← Searched.broken_said_iff (q', answer')]
    simp [hfirst]

theorem ne_nil (h : Searches s localPart now xs r) : xs ≠ [] := by
  cases h with
  | users => exact List.cons_ne_nil _ _
  | groups => exact List.cons_ne_nil _ _

theorem bases (h : Searches s localPart now xs r) :
    xs.map (fun x => x.1.base) <+: s.searchBase :: s.groupSearchBase.toList := by
  cases h with
  | users q hq answer h => exact ⟨_, by rw [← hq]; rfl⟩
  | groups q q' hq hq' answer answer' h => exact ⟨[], by rw [← hq, hq']; rfl⟩

theorem read_eq_nobody_iff {answer : Except Failure Found} :
    Match.read answer = .ok .nobody ↔ ∃ found, answer = .ok found ∧ found.Empty := by
  cases answer with
  | error e => exact ⟨nofun, nofun⟩
  | ok f =>
    refine Match.of_eq_nobody_iff.trans ⟨fun h => ⟨f, rfl, h⟩, ?_⟩
    rintro ⟨f', ⟨⟩, h⟩
    exact h

theorem groups_iff (h : Searches s localPart now xs r) :
    xs.length = 2 ↔ s.groupSearchBase.isSome ∧
      ∃ q found, xs.head? = some (q, .ok found) ∧ found.Empty := by
  cases h with
  | users q hq answer h =>
    refine ⟨nofun, ?_⟩
    rintro ⟨hsome, q', found, ⟨⟩, hempty⟩
    rw [h (read_eq_nobody_iff.mpr ⟨found, rfl, hempty⟩)] at hsome
    cases hsome
  | groups q q' hq hq' answer answer' h =>
    obtain ⟨found, rfl, hempty⟩ := read_eq_nobody_iff.mp h
    exact ⟨fun _ => ⟨by rw [hq']; rfl, q, found, rfl, hempty⟩, fun _ => rfl⟩

/-- The last search decides. -/
theorem exists_last (h : Searches s localPart now xs r) :
    ∃ q answer isGroup, xs.getLast? = some (q, answer) ∧
      r = (Match.read answer).map (conclude s localPart isGroup now) := by
  cases h with
  | users q hq answer h => exact ⟨q, answer, false, rfl, rfl⟩
  | groups q q' hq hq' answer answer' h => exact ⟨q', answer', true, rfl, rfl⟩

/-- A policy is that of the single entry that the last search has found, or it does not apply. -/
theorem policy_cases {policy : Policy} (h : Searches s localPart now xs (.ok policy)) :
    (∃ q found e isGroup, xs.getLast? = some (q, .ok found) ∧ found.Single e ∧
        policy = policyOf s localPart isGroup now (attributes e)) ∨
      (∀ q found e, xs.getLast? = some (q, .ok found) → ¬found.Single e) ∧ policy = .inactive := by
  obtain ⟨q, answer, isGroup, hlast, hr⟩ := h.exists_last
  cases answer with
  | error e => cases hr
  | ok found =>
    cases hof : Match.of found with
    | error e =>
      rw [Match.read, hof] at hr
      cases hr
    | ok m =>
      rw [Match.read, hof] at hr
      obtain rfl : policy = conclude s localPart isGroup now m := Except.ok.inj hr
      rcases Match.conclude_of s localPart isGroup now hof with
        ⟨e, hsingle, heq⟩ | ⟨hnone, heq⟩
      · exact .inl ⟨q, found, e, isGroup, hlast, hsingle, heq⟩
      · refine .inr ⟨fun q' found' e hlast' => ?_, heq⟩
        rw [hlast] at hlast'
        cases hlast'
        exact hnone e

end Searches

/-- What is said about a recipient and what comes of it. -/
structure Exact (s : LdapSettings) (now : Instant) (es : List Said) (r : Except Failure Policy) :
    Prop where
  connects : es.head?.map Exchange.question = some (.connect s.uri)
  /-- A connection is bound just if there is a name to bind it with. -/
  binds : ∀ name password, (∃ answer, ⟨.bind name password, answer⟩ ∈ es) ↔
    ⟨.connect s.uri, Except.ok ()⟩ ∈ es ∧ s.bindName = some name ∧ name ≠ [] ∧
      password = s.bindPassword.getD []
  /-- A lookup fails just if one of the exchanges does. -/
  fails : (∃ e, r = .error e) ↔ ∃ x ∈ es, Broken x
  searches : searched es ≠ [] ∨ ∃ e, r = .error e
  bases : (searched es).map (fun x => x.1.base) <+: s.searchBase :: s.groupSearchBase.toList
  /-- Groups are searched just if they are configured and there are no such users. -/
  groups : (searched es).length = 2 ↔ s.groupSearchBase.isSome ∧
    ∃ q found, (searched es).head? = some (q, .ok found) ∧ found.Empty
  inactive : ∀ policy, r = .ok policy →
    (∀ q found e, (searched es).getLast? = some (q, .ok found) → ¬found.Single e) →
      policy = .inactive
  /-- The policy of a single entry applies just if the entry says so. -/
  active : ∀ policy q found e, r = .ok policy → (searched es).getLast? = some (q, .ok found) →
    found.Single e → (policy.isActiveAt now = true ↔ Away s now (attributes e))

variable {es : List Said} {r : Except Failure Policy}

theorem Bound.not_broken {binds : List Said} (h : Bound s binds) : ∀ x ∈ binds, ¬Broken x := by
  cases h with
  | anonymous h => exact nofun
  | named name h hname o ho =>
    intro x hx hbroken
    obtain rfl := List.mem_singleton.mp hx
    exact hbroken o rfl ho

theorem Bound.searched_append {binds : List Said} (h : Bound s binds) (xs : List Searched) :
    searched (⟨.connect s.uri, Except.ok ()⟩ :: (binds ++ xs.map Searched.said)) = xs := by
  cases h with
  | anonymous h => exact searched_said xs
  | named name h hname o ho => exact searched_said xs

theorem bind_not_mem_said {name password : Text} {answer : Except Failure Outcome}
    {xs : List Searched} :
    ¬(⟨.bind name password, answer⟩ : Said) ∈ xs.map Searched.said := by
  intro h
  obtain ⟨x, -, hx⟩ := List.mem_map.mp h
  cases hx

theorem Bound.mem_iff {binds : List Said} (h : Bound s binds) (name password : Text) :
    (∃ answer, (⟨.bind name password, answer⟩ : Said) ∈ binds) ↔
      s.bindName = some name ∧ name ≠ [] ∧ password = s.bindPassword.getD [] := by
  cases h with
  | anonymous h => exact ⟨nofun, fun ⟨hname, hne, _⟩ => absurd (h name hname) hne⟩
  | named name' h hname o ho =>
    constructor
    · rintro ⟨answer, hmem⟩
      cases List.mem_singleton.mp hmem
      exact ⟨h, hname, rfl⟩
    · rintro ⟨hname', -, rfl⟩
      rw [h] at hname'
      cases hname'
      exact ⟨_, List.mem_singleton.mpr rfl⟩

/-- What is said before a lookup fails without a search. -/
theorem Exact.of_unsearched (hsearched : searched es = []) (hbroken : ∃ x ∈ es, Broken x)
    (hconnects : es.head?.map Exchange.question = some (.connect s.uri))
    (hbinds : ∀ name password, (∃ answer, ⟨.bind name password, answer⟩ ∈ es) ↔
      ⟨.connect s.uri, Except.ok ()⟩ ∈ es ∧ s.bindName = some name ∧ name ≠ [] ∧
        password = s.bindPassword.getD []) (e : Failure) : Exact s now es (.error e) where
  connects := hconnects
  binds := hbinds
  fails := ⟨fun _ => hbroken, fun _ => ⟨e, rfl⟩⟩
  searches := .inr ⟨e, rfl⟩
  bases := by
    rw [hsearched]
    exact List.nil_prefix
  groups := by
    rw [hsearched]
    refine ⟨fun hlength => ?_, ?_⟩
    · cases hlength
    · rintro ⟨-, q, found, hhead, -⟩
      cases hhead
  inactive := by
    intro policy hr
    cases hr
  active := by
    intro policy q found e' hr
    cases hr

theorem Course.exact (h : Course s localPart now es r)
    (hnames : ∀ q found, ⟨.search q, Except.ok found⟩ ∈ es →
      ∀ e ∈ found.entries, Distinct (attributes e)) :
    Exact s now es r := by
  cases h with
  | unreachable e =>
    have hbroken : Broken ⟨.connect s.uri, .error e⟩ := ⟨e, rfl⟩
    refine .of_unsearched rfl ⟨_, List.mem_singleton.mpr rfl, hbroken⟩ rfl
      (fun name password => ?_) e
    constructor
    · rintro ⟨answer, hmem⟩
      cases List.mem_singleton.mp hmem
    · rintro ⟨hmem, -⟩
      cases List.mem_singleton.mp hmem
  | unbound name h hname answer hbroken e =>
    refine .of_unsearched rfl ⟨_, List.mem_cons_of_mem _ (List.mem_singleton.mpr rfl), hbroken⟩ rfl
      (fun name' password => ?_) e
    constructor
    · rintro ⟨answer', hmem⟩
      rcases List.mem_cons.mp hmem with hmem | hmem
      · cases hmem
      · cases List.mem_singleton.mp hmem
        exact ⟨List.mem_cons_self, h, hname, rfl⟩
    · rintro ⟨-, hname', -, rfl⟩
      rw [h] at hname'
      cases hname'
      exact ⟨answer, List.mem_cons_of_mem _ (List.mem_singleton.mpr rfl)⟩
  | searched binds hbinds xs r h =>
    have hsearched := hbinds.searched_append xs
    refine ⟨rfl, fun name password => ?_, ?_, ?_, ?_, ?_, fun policy hr hnone => ?_,
      fun policy q found e hr hlast hsingle => ?_⟩
    · constructor
      · rintro ⟨answer, hmem⟩
        rcases List.mem_cons.mp hmem with hmem | hmem
        · cases hmem
        · rcases List.mem_append.mp hmem with hmem | hmem
          · exact ⟨List.mem_cons_self, (hbinds.mem_iff name password).mp ⟨answer, hmem⟩⟩
          · exact absurd hmem bind_not_mem_said
      · rintro ⟨-, hname⟩
        obtain ⟨answer, hmem⟩ := (hbinds.mem_iff name password).mpr hname
        exact ⟨answer, List.mem_cons_of_mem _ (List.mem_append_left _ hmem)⟩
    · rw [h.fails_iff]
      constructor
      · rintro ⟨x, hx, hbroken⟩
        exact ⟨x, List.mem_cons_of_mem _ (List.mem_append_right _ hx), hbroken⟩
      · rintro ⟨x, hx, hbroken⟩
        rcases List.mem_cons.mp hx with rfl | hx
        · obtain ⟨e, he⟩ := hbroken
          cases he
        · rcases List.mem_append.mp hx with hx | hx
          · exact absurd hbroken (hbinds.not_broken x hx)
          · exact ⟨x, hx, hbroken⟩
    · rw [hsearched]
      exact .inl h.ne_nil
    · rw [hsearched]
      exact h.bases
    · rw [hsearched]
      exact h.groups_iff
    · subst hr
      rw [hsearched] at hnone
      rcases h.policy_cases with ⟨q, found, e, isGroup, hlast, hsingle, -⟩ | ⟨-, hpolicy⟩
      · exact absurd hsingle (hnone q found e hlast)
      · exact hpolicy
    · subst hr
      rw [hsearched] at hlast
      have hmem : (⟨.search q, Except.ok found⟩ : Said) ∈ xs.map Searched.said :=
        List.mem_map.mpr ⟨(q, .ok found), List.mem_of_getLast? hlast, rfl⟩
      -- the entry is one that the directory has sent, so its attributes are distinct
      have hdistinct : Distinct (attributes e) :=
        hnames q found (List.mem_cons_of_mem _ (List.mem_append_right _ hmem)) e
          (by rw [hsingle.2]; exact List.mem_singleton.mpr rfl)
      rcases h.policy_cases with ⟨q', found', e', isGroup, hlast', hsingle', rfl⟩ | ⟨hnone, -⟩
      · rw [hlast] at hlast'
        cases hlast'
        obtain rfl : e = e' := by
          have heq := hsingle.2.symm.trans hsingle'.2
          cases heq
          rfl
        exact isActiveAt_policyOf_iff hdistinct
      · exact absurd hsingle (hnone q found e hlast)

/-- A lookup fails just if it cannot connect, its name is refused, or a search is broken off or
refused. Otherwise the recipient is not away, unless the last search has found one entry, and then
just if the entry says so. -/
theorem resolve_exact (serve : Server Request Request.Answer σ) (state : σ) (s : LdapSettings)
    (recipient : Address) (now : Instant) (husers : Searchable s.uidAttr recipient.localPart)
    (hgroups : s.groupSearchBase.isSome → Searchable s.groupAttr recipient.localPart)
    (hnames : ∀ q found,
      ⟨.search q, Except.ok found⟩ ∈ (resolve s recipient now).transcript serve state →
        ∀ e ∈ found.entries, Distinct (attributes e)) :
    Exact s now ((resolve s recipient now).transcript serve state)
      ((resolve s recipient now).run serve state).1 :=
  (follows_resolve husers hgroups state).exact hnames

namespace Scripted

/-- All entries of a script have a property. -/
def Holds (P : Entry → Prop) (d : Scripted) : Prop :=
  ∀ reply ∈ d.replies, ∀ e ∈ reply.found.entries, P e

theorem serve_holds {P : Entry → Prop} (request : Request) {d : Scripted} (h : d.Holds P) :
    (Scripted.serve request d).2.Holds P := by
  cases request with
  | connect address => exact h
  | bind name password => exact h
  | search q =>
    unfold Scripted.serve
    dsimp only
    cases hreplies : d.replies with
    | nil => exact h
    | cons reply rest =>
      intro reply' hreply'
      exact h reply' (by rw [hreplies]; exact List.mem_cons_of_mem _ hreply')

theorem found_of_serve {P : Entry → Prop} {q : Search} {found : Found} {d : Scripted}
    (h : d.Holds P) (hfound : (Scripted.serve (.search q) d).1 = Except.ok found) :
    ∀ e ∈ found.entries, P e := by
  obtain ⟨service, bindOutcome, replies⟩ := d
  cases replies with
  | nil =>
    cases hfound
    exact nofun
  | cons reply rest =>
    have hanswer :
        (if reply.drops then .error .connection else .ok reply.found : Except Failure Found) =
          .ok found := hfound
    split at hanswer
    · cases hanswer
    · cases hanswer
      exact h reply List.mem_cons_self

/-- A scripted directory finds what stands in its script. -/
theorem found_of_mem_transcript {P : Entry → Prop} {α : Type} {d : Scripted} (h : d.Holds P)
    {c : Conversation α} {q : Search} {found : Found}
    (hmem : ⟨.search q, Except.ok found⟩ ∈ c.transcript Scripted.serve d) :
    ∀ e ∈ found.entries, P e := by
  obtain ⟨d', hd', hanswer⟩ :=
    Dialogue.exists_serve_of_mem_transcript (fun request _ hd => serve_holds request hd) c h hmem
  exact found_of_serve hd' hanswer.symm

end Scripted

/-- The settings for a directory with groups. -/
def groupSettings : LdapSettings where
  searchBase := "ou=people".toList
  groupSearchBase := some "ou=groups".toList
  bindName := some "cn=reader".toList

/-- A directory without the base for users. A group is away until noon. -/
def groupAway : Scripted where
  service := 389
  replies := [{ found := { outcome := { code := Outcome.noSuchObject } } },
    { found := { entries := [[("ONVACATION".toList, [Utf8.encode " true".toList]),
      ("vacationEnd".toList, [Utf8.encode "20240601120000Z".toList])]] } }]

def team : Address := ⟨"team".toList, some "example.com".toList⟩

theorem exact_groupAway :
    Searchable groupSettings.uidAttr team.localPart ∧
      Searchable groupSettings.groupAttr team.localPart ∧
      groupAway.Holds (fun e => Distinct (attributes e)) ∧
      ∀ now, Exact groupSettings now
        ((resolve groupSettings team now).transcript Scripted.serve groupAway)
        ((resolve groupSettings team now).run Scripted.serve groupAway).1 := by
  have husers : Searchable groupSettings.uidAttr team.localPart := by decide
  have hgroups : Searchable groupSettings.groupAttr team.localPart := by decide
  have hnames : groupAway.Holds (fun e => Distinct (attributes e)) := by
    unfold Scripted.Holds
    decide +kernel
  exact ⟨husers, hgroups, hnames, fun now =>
    resolve_exact Scripted.serve groupAway groupSettings team now husers (fun _ => hgroups)
      fun q found hmem => Scripted.found_of_mem_transcript hnames hmem⟩

end Autoresponder.Directory
