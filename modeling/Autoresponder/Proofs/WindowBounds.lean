import Autoresponder.Proofs.DirectorySearches
/-!
# Bounds of a window that cannot be read

A bound that cannot be read must not look like a missing one, which leaves the window open. What
travels as a bound may fail to be a time in two ways, and they are told apart before anybody looks
for a bound.

1. With one attribute for each name, the attributes of an entry are those whose values are all texts
   (`attributes_of_distinct`).
2. A malformed bound keeps the policy from applying if its values are texts
   (`not_away_of_malformedBound`). If they are not, the entry is read as if the bound were not there
   (`attributes_withoutMalformed`).
3. A lookup whose last search has found a single entry has the policy of that entry (`Decides`).
4. So its policy is disabled just if some malformed bound is text, or if the rest of the entry does
   not say that the recipient is away (`disabled_iff`, `not_forall_disabled`).
-/

namespace Autoresponder

/-! ## 1. Entries as they travel -/

namespace Dictionary

theorem put_of_forall_ne {κ α : Type} [DecidableEq κ] {k : κ} {d : Dictionary κ α}
    (h : ∀ x ∈ d, x.1 ≠ k) (a : α) : put k a d = d ++ [(k, a)] := by
  induction d with
  | nil => rfl
  | cons x d ih =>
    obtain ⟨hx, hd⟩ := List.forall_mem_cons.mp h
    rw [put, if_neg hx, ih hd]
    rfl

end Dictionary

/-- The policy applies neither by its flag nor at any time. -/
def Policy.Disabled (p : Policy) : Prop := p.active = false ∧ ∀ t, p.isActiveAt t = false

namespace Directory

open Autoresponder (Text)

/-- No two attributes have names that differ at most in case. -/
def Entry.Distinct (e : Entry) : Prop := e.Pairwise fun a b => Text.sameFolded a.1 b.1 = false

instance (e : Entry) : Decidable e.Distinct := inferInstanceAs (Decidable (List.Pairwise _ e))

/-- The attribute with its values as texts, if they are. -/
def asTexts? (a : Text × List Bytes) : Option (Text × List Text) :=
  (texts? a.2).map fun ts => (a.1, ts)

variable {e : Entry} {a : Text × List Bytes}

theorem ne_of_sameFolded_eq_false {a b : Text} (h : Text.sameFolded a b = false) : a ≠ b := by
  rintro rfl
  rw [Text.sameFolded, beq_self_eq_true] at h
  cases h

/-- The attributes with one more, if its values are texts. -/
def withAttribute (found : Attributes) (a : Text × List Bytes) : Attributes :=
  (texts? a.2).elim found fun ts => Dictionary.put a.1 ts found

theorem attributes_eq (e : Entry) : attributes e = e.foldl withAttribute [] := by
  refine List.foldl_ext _ _ _ fun found a _ => ?_
  rw [withAttribute]
  cases htexts : texts? a.2 <;> simp [htexts]

/-- No attribute takes the place of another one. -/
theorem attributes_of_distinct (h : e.Distinct) : attributes e = e.filterMap asTexts? := by
  rw [attributes_eq]
  suffices hfold : ∀ found : Attributes, (∀ x ∈ found, ∀ a ∈ e, x.1 ≠ a.1) →
      e.foldl withAttribute found = found ++ e.filterMap asTexts? from
    hfold [] nofun
  induction e with
  | nil =>
    intro found _
    exact (List.append_nil found).symm
  | cons a e ih =>
    intro found hfound
    obtain ⟨hothers, hrest⟩ := List.pairwise_cons.mp h
    have hlater : ∀ x ∈ found, ∀ b ∈ e, x.1 ≠ b.1 :=
      fun x hx b hb => hfound x hx b (List.mem_cons_of_mem a hb)
    rw [List.foldl_cons, List.filterMap_cons, asTexts?, withAttribute]
    cases htexts : texts? a.2 with
    | none => exact ih hrest found hlater
    | some ts =>
      have hnew : ∀ x ∈ found, x.1 ≠ a.1 := fun x hx => hfound x hx a List.mem_cons_self
      rw [Option.elim_some, Dictionary.put_of_forall_ne hnew, ih hrest]
      · simp
      · intro x hx b hb
        rcases List.mem_append.mp hx with hx | hx
        · exact hlater x hx b hb
        · rw [List.mem_singleton.mp hx]
          exact ne_of_sameFolded_eq_false (hothers b hb)

theorem distinct_attributes (h : e.Distinct) : Distinct (attributes e) := by
  rw [attributes_of_distinct h]
  refine List.Pairwise.filterMap asTexts? ?_ h
  intro a b hab x hx y hy
  obtain ⟨ts, -, rfl⟩ := Option.map_eq_some_iff.mp hx
  obtain ⟨ts', -, rfl⟩ := Option.map_eq_some_iff.mp hy
  exact hab

theorem isSome_texts?_iff {vs : List Bytes} :
    (texts? vs).isSome = true ↔ ∀ v ∈ vs, (Utf8.decode? v).isSome = true := by
  induction vs with
  | nil => exact ⟨fun _ => nofun, fun _ => rfl⟩
  | cons v vs ih =>
    rw [List.forall_mem_cons, ← ih, texts?]
    cases Utf8.decode? v <;> cases texts? vs <;> simp

theorem head?_of_texts? {vs : List Bytes} {ts : List Text} (h : texts? vs = some ts) :
    ts.head? = vs.head?.bind Utf8.decode? := by
  cases vs with
  | nil =>
    cases h
    rfl
  | cons v vs =>
    rw [texts?] at h
    split at h
    · next t ts' ht hts =>
      cases h
      exact ht.symm
    · cases h

/-! ## 2. Malformed bounds -/

/-- What travels as a bound is no text, or a text that is no time. -/
def IsMalformed (v : Bytes) : Prop := (Utf8.decode? v).bind GeneralizedTime.parse? = none

instance (v : Bytes) : Decidable (IsMalformed v) := inferInstanceAs (Decidable (_ = none))

/-- The attribute is a bound of the window, and its first value is malformed. -/
def MalformedBound (s : LdapSettings) (a : Text × List Bytes) : Prop :=
  (Text.sameFolded a.1 s.startAttr = true ∨ Text.sameFolded a.1 s.endAttr = true) ∧
    ∃ v ∈ a.2.head?, IsMalformed v

instance (s : LdapSettings) : DecidablePred (MalformedBound s) :=
  fun _ => inferInstanceAs (Decidable ((_ ∨ _) ∧ _))

/-- The entry without its malformed bounds. -/
def Entry.withoutMalformed (s : LdapSettings) (e : Entry) : Entry :=
  e.filter fun a => ¬MalformedBound s a

variable {s : LdapSettings} {now : Instant} {localPart : Text} {isGroup : Bool}

/-- All values of the attribute are texts. -/
def IsText (a : Text × List Bytes) : Prop := ∀ v ∈ a.2, (Utf8.decode? v).isSome = true

/-- A malformed bound that is text keeps the policy from applying. -/
theorem not_away_of_malformedBound (h : e.Distinct) (ha : a ∈ e) (hbound : MalformedBound s a)
    (htext : IsText a) : ¬Away s now (attributes e) := by
  obtain ⟨hname, v, hv, hmalformed⟩ := hbound
  obtain ⟨t, ht⟩ := Option.isSome_iff_exists.mp (htext v (List.mem_of_mem_head? hv))
  obtain ⟨ts, hts⟩ := Option.isSome_iff_exists.mp (isSome_texts?_iff.mpr htext)
  have hnoTime : GeneralizedTime.parse? t = none := by
    rw [IsMalformed, ht] at hmalformed
    exact hmalformed
  have hfirst : ∀ name, Text.sameFolded a.1 name = true → HasFirst (attributes e) name t := by
    intro name hsame
    refine ⟨(a.1, ts), ?_, hsame, ?_⟩
    · rw [attributes_of_distinct h]
      exact List.mem_filterMap.mpr ⟨a, ha, by rw [asTexts?, hts]; rfl⟩
    · rw [head?_of_texts? hts, hv]
      exact ht
  intro haway
  rcases hname with hstart | hend
  · obtain ⟨i, hi, -⟩ := haway.started t (hfirst _ hstart)
    rw [hnoTime] at hi
    cases hi
  · obtain ⟨i, hi, -⟩ := haway.unfinished t (hfirst _ hend)
    rw [hnoTime] at hi
    cases hi

/-- Malformed bounds that are not text are not seen. -/
theorem attributes_withoutMalformed (h : ∀ a ∈ e, MalformedBound s a → ¬IsText a) :
    attributes (e.withoutMalformed s) = attributes e := by
  rw [attributes_eq, attributes_eq, Entry.withoutMalformed, List.foldl_filter]
  refine List.foldl_ext _ _ _ fun found a ha => ?_
  split
  · rfl
  · next hbound =>
    have hmalformed : MalformedBound s a := by simpa using hbound
    have hnone : texts? a.2 = none := by
      rw [← Option.not_isSome_iff_eq_none, isSome_texts?_iff]
      exact h a ha hmalformed
    rw [withAttribute, hnone, Option.elim_none]

/-- The flag of a policy tells whether it applies right now. -/
theorem active_policyOf (as : Attributes) :
    (policyOf s localPart isGroup now as).active =
      (policyOf s localPart isGroup now as).isActiveAt now := by
  simp [Policy.isActiveAt, policyOf, Bool.and_assoc]

theorem disabled_policyOf_iff (as : Attributes) :
    (policyOf s localPart isGroup now as).Disabled ↔
      ¬(policyOf s localPart isGroup now as).isActiveAt now = true := by
  rw [← active_policyOf, Bool.not_eq_true]
  refine ⟨And.left, fun hactive => ⟨hactive, fun t => ?_⟩⟩
  rw [Policy.isActiveAt, hactive, Bool.false_and]

theorem away_iff_of_distinct (h : e.Distinct) :
    Away s now (attributes e) ↔
      (∀ a ∈ e, MalformedBound s a → ¬IsText a) ∧
        Away s now (attributes (e.withoutMalformed s)) := by
  constructor
  · intro haway
    have hunseen : ∀ a ∈ e, MalformedBound s a → ¬IsText a :=
      fun a ha hbound htext => not_away_of_malformedBound h ha hbound htext haway
    rw [attributes_withoutMalformed hunseen]
    exact ⟨hunseen, haway⟩
  · rintro ⟨hunseen, haway⟩
    rwa [attributes_withoutMalformed hunseen] at haway

/-! ## 3. Lookups -/

variable {recipient : Address} {σ : Type} {serve : Server Request Request.Answer σ}

theorem Match.of_single {f : Found} (h : f.Single e) : Match.of f = .ok (.one (attributes e)) := by
  have hreads := Match.reads f
  generalize Match.of f = r at hreads ⊢
  cases hreads with
  | refused hrefused => exact absurd h.1 hrefused.1
  | nobody hempty => exact absurd hempty h.not_empty
  | one e' hsingle =>
    have heq := hsingle.2.symm.trans h.2
    cases heq
    rfl
  | several hcode e' e'' es hentries =>
    rw [h.2] at hentries
    cases hentries

/-- If the last search has found a single entry, the policy is that of the entry. -/
def Decides (s : LdapSettings) (localPart : Text) (now : Instant) (es : List Said)
    (r : Except Failure Policy) : Prop :=
  ∀ q found e, (searched es).getLast? = some (q, .ok found) → found.Single e →
    ∃ isGroup, r = .ok (policyOf s localPart isGroup now (attributes e))

theorem decides_of_searched_eq_nil {es : List Said} (h : searched es = [])
    (r : Except Failure Policy) :
    Decides s localPart now es r := by
  intro q found e hlast
  rw [h] at hlast
  cases hlast

theorem getLast?_searched_concat (es : List Said) (q : Search) (answer : Except Failure Found) :
    (searched (es ++ [⟨.search q, answer⟩])).getLast? = some (q, answer) := by
  have hsearched : searched (es ++ [⟨.search q, answer⟩]) = searched es ++ [(q, answer)] :=
    searched_append es _
  rw [hsearched, List.getLast?_concat]

theorem decides_concat (es : List Said) (q : Search) (answer : Except Failure Found)
    (isGroup : Bool) :
    Decides s localPart now (es ++ [⟨.search q, answer⟩])
      ((Match.read answer).map (conclude s localPart isGroup now)) := by
  intro q' found e hlast hsingle
  rw [getLast?_searched_concat] at hlast
  cases hlast
  refine ⟨isGroup, ?_⟩
  rw [Match.read, Match.of_single hsingle]
  rfl

theorem decides_of_nobody {answer : Except Failure Found} (h : Match.read answer = .ok .nobody)
    (es : List Said) (q : Search) (r : Except Failure Policy) :
    Decides s localPart now (es ++ [⟨.search q, answer⟩]) r := by
  intro q' found e hlast hsingle
  rw [getLast?_searched_concat] at hlast
  cases hlast
  rw [Match.read, Match.of_single hsingle] at h
  cases h

/-- A search asks at most one question and goes on with what it reads. -/
theorem follows_search_of {α : Type} {base attr value : Text}
    {next : Except Failure Match → Conversation α} {C : List Said → α → Prop}
    (hrefused : (next (.error .filterSyntax)).Follows serve C)
    (hnext : ∀ (q : Search) (answer : Except Failure Found),
      (next (Match.read answer)).Follows serve fun es => C (⟨.search q, answer⟩ :: es)) :
    ((search s base attr value).bind next).Follows serve C := by
  by_cases h : Searchable attr value
  · exact follows_search h base fun q answer _ => hnext q answer
  · unfold search
    rw [Option.not_isSome_iff_eq_none.mp h]
    exact hrefused

theorem follows_decides {before : List Said} (hbefore : searched before = []) :
    (searchAll s localPart now).Follows serve fun es => Decides s localPart now (before ++ es) := by
  unfold searchAll
  refine follows_search_of (Dialogue.Follows.of_done ?_) fun q answer => ?_
  · exact decides_of_searched_eq_nil (by rw [List.append_nil, hbefore]) _
  · have husers : Decides s localPart now (before ++ [⟨.search q, answer⟩])
        ((Match.read answer).map (conclude s localPart false now)) :=
      decides_concat before q answer false
    cases hread : Match.read answer with
    | error e =>
      rw [hread] at husers
      exact Dialogue.Follows.of_done husers
    | ok m =>
      rw [hread] at husers
      cases m with
      | one as => exact Dialogue.Follows.of_done husers
      | several count => exact Dialogue.Follows.of_done husers
      | nobody =>
        dsimp only
        cases hbase : s.groupSearchBase with
        | none => exact Dialogue.Follows.of_done husers
        | some base =>
          refine follows_search_of (Dialogue.Follows.of_done (decides_of_nobody hread before q _))
            fun q' answer' => ?_
          have hgroups :
              Decides s localPart now (before ++ ([⟨.search q, answer⟩] ++ [⟨.search q', answer'⟩]))
                ((Match.read answer').map (conclude s localPart true now)) := by
            rw [← List.append_assoc]
            exact decides_concat _ q' answer' true
          cases hread' : Match.read answer' with
          | error e =>
            rw [hread'] at hgroups
            exact Dialogue.Follows.of_done hgroups
          | ok m =>
            rw [hread'] at hgroups
            exact Dialogue.Follows.of_done hgroups

/-- A lookup that finds a single entry has a policy. A malformed bound disables it if all values of
the bound are texts. If in every malformed bound some value is none, the entry is read as if it had
no such bound. -/
theorem disabled_iff (serve : Server Request Request.Answer σ) (state : σ) (s : LdapSettings)
    (recipient : Address) (now : Instant) {q : Search} {found : Found} {e : Entry}
    (hlast : (searched ((resolve s recipient now).transcript serve state)).getLast? =
      some (q, .ok found))
    (hsingle : found.Single e) (hnames : e.Distinct) :
    ∃ policy, ((resolve s recipient now).run serve state).1 = .ok policy ∧
      (policy.Disabled ↔
        (∃ a ∈ e, MalformedBound s a ∧ IsText a) ∨
          ¬Away s now (attributes (e.withoutMalformed s))) := by
  have hdecides : (resolve s recipient now).Follows serve (Decides s recipient.localPart now) :=
    follows_resolve_of (fun es e hnone _ => decides_of_searched_eq_nil hnone _) fun before =>
      follows_decides
  obtain ⟨isGroup, hpolicy⟩ := hdecides state q found e hlast hsingle
  refine ⟨_, hpolicy, ?_⟩
  rw [disabled_policyOf_iff, isActiveAt_policyOf_iff (distinct_attributes hnames),
    away_iff_of_distinct hnames, not_and_or]
  simp

/-- A directory of one entry. -/
def holding (e : Entry) : Scripted :=
  { service := 389, replies := [{ found := { entries := [e] } }] }

/-- Away until next week, as people write. -/
def nextWeek : Entry :=
  [("ONVACATION".toList, [Utf8.encode "TRUE".toList]),
    ("vacationend".toList, [Utf8.encode "next week".toList])]

theorem disabled_nextWeek :
    nextWeek.Distinct ∧ (∃ a ∈ nextWeek, MalformedBound groupSettings a ∧ IsText a) ∧
      ∀ now, ∃ policy,
        ((resolve groupSettings team now).run Scripted.serve (holding nextWeek)).1 = .ok policy ∧
        policy.Disabled := by
  have hnames : nextWeek.Distinct := by decide +kernel
  have hbound : ∃ a ∈ nextWeek, MalformedBound groupSettings a ∧ IsText a := by
    refine ⟨_, List.mem_cons_of_mem _ (List.mem_singleton.mpr rfl), ?_⟩
    unfold IsText
    decide +kernel
  refine ⟨hnames, hbound, fun now => ?_⟩
  have hlast :
      (searched ((resolve groupSettings team now).transcript Scripted.serve
        (holding nextWeek))).getLast? =
      some (searchFor groupSettings groupSettings.searchBase groupSettings.uidAttr team.localPart,
        .ok { entries := [nextWeek] }) := rfl
  obtain ⟨policy, hpolicy, hdisabled⟩ :=
    disabled_iff Scripted.serve (holding nextWeek) groupSettings team now hlast ⟨rfl, rfl⟩ hnames
  exact ⟨policy, hpolicy, hdisabled.mpr (.inl hbound)⟩

/-- An end that is no text. -/
def endless : Entry :=
  [("onVacation".toList, [Utf8.encode "TRUE".toList]), ("vacationEnd".toList, [[0xFF]])]

/-- An end that is no text looks like no end. -/
theorem not_forall_disabled :
    ¬∀ (d : Scripted) (s : LdapSettings) (recipient : Address) (now : Instant) (q : Search)
      (found : Found) (e : Entry) (policy : Policy),
      (searched ((resolve s recipient now).transcript Scripted.serve d)).getLast? =
        some (q, .ok found) →
      found.Single e → e.Distinct → (∃ a ∈ e, MalformedBound s a) →
      ((resolve s recipient now).run Scripted.serve d).1 = .ok policy → policy.Disabled := by
  intro h
  have hnames : endless.Distinct := by decide +kernel
  have hbound : ∃ a ∈ endless, MalformedBound groupSettings a :=
    ⟨_, List.mem_cons_of_mem _ (List.mem_singleton.mpr rfl), by decide +kernel⟩
  have hdisabled := h (holding endless) groupSettings team ⟨0, 0, by decide⟩
    (searchFor groupSettings groupSettings.searchBase groupSettings.uidAttr team.localPart)
    { entries := [endless] } endless
    (policyOf groupSettings team.localPart false ⟨0, 0, by decide⟩ (attributes endless))
    rfl ⟨rfl, rfl⟩ hnames hbound rfl
  exact absurd hdisabled.1 (by decide +kernel)

end Directory
end Autoresponder
