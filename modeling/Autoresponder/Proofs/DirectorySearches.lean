import Autoresponder.Proofs.DirectoryLookup
import Autoresponder.Proofs.Texts
/-!
# Searches that a recipient cannot alter

A search is written as a text with the recipient's name in it, and the text is read again before the
directory sees it. The name may hold any characters, also those that make a pattern, a test for
presence or a compound filter.

1. Reading takes back what escaping did to a value (`Filter.unescape?_escape`), and an escaped value
   has none of the characters that end a value or make a pattern of it
   (`Filter.eq_backslash_of_mem_escape`).
2. So the text of an equality is read as that equality, if its attribute has a name
   (`Filter.parse?_equalityText`).
3. What is to be shown of a lookup is shown for its searches, with anything said before them
   (`follows_resolve_of`).
4. The searches for a recipient are then determined by the settings and the local part
   (`searchesFor`), whatever the directory answers (`searched_prefix`).
-/

namespace Autoresponder

/-! ## 1. Values -/

namespace Filter

theorem isSpecial_cases {c : Char} (h : isSpecial c = true) :
    c = '\\' ∨ c = '*' ∨ c = '(' ∨ c = ')' ∨ c = '\x00' := by
  simpa [isSpecial, or_assoc] using h

/-- An escaped character is read as its bytes, whatever follows it. -/
theorem unescape?_escapeChar (c : Char) (s : Text) :
    unescape? (escapeChar c ++ s) = (unescape? s).map (Utf8.encodeChar c ++ ·) := by
  unfold escapeChar
  split
  · next hspecial =>
    rcases isSpecial_cases hspecial with rfl | rfl | rfl | rfl | rfl <;> rfl
  · next hplain =>
    have hc : c ≠ '\\' := by
      rintro rfl
      exact hplain rfl
    rw [List.singleton_append, unescape?, if_neg hplain]
    rintro a b rest hcons
    exact fun _ => hc hcons

/-- Reading takes back what escaping did. -/
theorem unescape?_escape (s : Text) : unescape? (escape s) = some (Utf8.encode s) := by
  induction s with
  | nil => rfl
  | cons c s ih =>
    have hcons : escape (c :: s) = escapeChar c ++ escape s := rfl
    rw [hcons, unescape?_escapeChar, ih]
    rfl

/-- Of the characters with a meaning an escaped value holds the backslash alone. -/
theorem eq_backslash_of_mem_escape {s : Text} {c : Char} (hc : c ∈ escape s)
    (h : isSpecial c = true) :
    c = '\\' := by
  obtain ⟨d, -, hcd⟩ := List.mem_flatMap.mp hc
  by_cases hspecial : isSpecial d = true
  · have hdigits : (escapeChar d).all (fun c => !isSpecial c || c == '\\') = true := by
      rcases isSpecial_cases hspecial with rfl | rfl | rfl | rfl | rfl <;> rfl
    have hcheck := List.all_eq_true.mp hdigits c hcd
    rw [h] at hcheck
    exact beq_iff_eq.mp hcheck
  · rw [escapeChar, if_neg hspecial, List.mem_singleton] at hcd
    exact absurd (hcd ▸ h) hspecial

theorem beq_eq_false_of_mem_escape {s : Text} {q c : Char} (hq : isSpecial q = true)
    (hne : q ≠ '\\') (hc : c ∈ escape s) : (c == q) = false := by
  rw [beq_eq_false_iff_ne]
  rintro rfl
  exact hne (eq_backslash_of_mem_escape hc hq)

/-! ## 2. Filters -/

variable {attr : Text}

/-- A name has no character that means something in a filter. -/
theorem isKeyChar_of_mem (h : isName attr = true) {c : Char} (hc : c ∈ attr) :
    isKeyChar c = true := by
  cases attr with
  | nil => cases hc
  | cons d s =>
    obtain ⟨hd, hs⟩ := Bool.and_eq_true_iff.mp h
    rcases List.mem_cons.mp hc with rfl | hc
    · simp [isKeyChar, Char.isAlphanum, hd]
    · exact List.all_eq_true.mp hs c hc

theorem beq_eq_false_of_mem_name {q : Char} (h : isName attr = true) (hq : isKeyChar q = false)
    {c : Char} (hc : c ∈ attr) : (c == q) = false := by
  rw [beq_eq_false_iff_ne]
  rintro rfl
  rw [isKeyChar_of_mem h hc] at hq
  cases hq

theorem isAttribute_of_isName (h : isName attr = true) : isAttribute attr = true := by
  have hparts : Text.splitOn (· == ';') attr = [attr] :=
    Text.splitOn_of_forall_not fun _ => beq_eq_false_of_mem_name h rfl
  rw [isAttribute, hparts]
  simp [h]

/-- A name does not end with the sign of another comparison, and an escaped value has no
asterisk. -/
theorem item?_name (h : isName attr = true) (value : Text) :
    item? attr (escape value) = some (.compare .equality attr (Utf8.encode value)) := by
  have hsign : ∀ q rest, isKeyChar q = false → attr.reverse ≠ q :: rest := by
    intro q rest hq hreverse
    have hmem : q ∈ attr := List.mem_reverse.mp (hreverse ▸ List.mem_cons_self)
    rw [isKeyChar_of_mem h hmem] at hq
    cases hq
  have hvalue : Text.splitOn (· == '*') (escape value) = [escape value] :=
    Text.splitOn_of_forall_not fun _ => beq_eq_false_of_mem_escape rfl (by decide)
  have hread : unescapeAll? [escape value] = some [Utf8.encode value] := by
    rw [unescapeAll?, unescape?_escape]
    rfl
  unfold item?
  split
  · next hreverse => exact absurd hreverse (hsign _ _ rfl)
  · next hreverse => exact absurd hreverse (hsign _ _ rfl)
  · next hreverse => exact absurd hreverse (hsign _ _ rfl)
  · next hreverse => exact absurd hreverse (hsign _ _ rfl)
  · rw [isAttribute_of_isName h, hvalue, hread]
    rfl

/-- What starts with no sign of a compound filter is read as a comparison. -/
theorem filter?_comparison {left right : Text} {f : Filter} (fuel : Nat)
    (hstart : ∀ c ∈ left.head?, c ≠ '&' ∧ c ≠ '|' ∧ c ≠ '!') (hne : left ≠ [])
    (hleft : ∀ c ∈ left, (c == '=') = false) (hright : ∀ c ∈ right, (c == ')') = false)
    (hitem : item? left right = some f) :
    filter? (fuel + 1) ('(' :: (left ++ '=' :: (right ++ [')']))) = some (f, []) := by
  obtain ⟨c, name, rfl⟩ := List.exists_cons_of_ne_nil hne
  obtain ⟨hall, hany, hnot⟩ := hstart c rfl
  have hupTo : Text.upTo (· == '=') (c :: name ++ '=' :: (right ++ [')'])) = c :: name :=
    Text.upTo_append hleft (by simp)
  have hupTo' : Text.upTo (· == ')') (right ++ [')']) = right := Text.upTo_append hright (by simp)
  have hdrop : (c :: name ++ '=' :: (right ++ [')'])).drop ((c :: name).length + 1) =
      right ++ [')'] := by
    simp
  rw [List.cons_append] at hupTo hdrop
  rw [List.cons_append, filter?]
  · rw [hupTo, hdrop, hupTo', List.drop_left, hitem]
    rfl
  · rintro rest heq
    exact hall (List.cons.inj heq).1
  · rintro rest heq
    exact hany (List.cons.inj heq).1
  · rintro rest heq
    exact hnot (List.cons.inj heq).1

/-- The text of an equality is read as that equality, whatever the value is. -/
theorem parse?_equalityText (h : isName attr = true) (value : Text) :
    parse? (equalityText attr value) = some (.compare .equality attr (Utf8.encode value)) := by
  have hne : attr ≠ [] := by
    rintro rfl
    cases h
  have hstart : ∀ c ∈ attr.head?, c ≠ '&' ∧ c ≠ '|' ∧ c ≠ '!' := by
    intro c hc
    have hkey := isKeyChar_of_mem h (List.mem_of_mem_head? hc)
    refine ⟨?_, ?_, ?_⟩ <;> rintro rfl <;> cases hkey
  have htext : equalityText attr value = '(' :: (attr ++ '=' :: (escape value ++ [')'])) := by
    simp [equalityText]
  obtain ⟨fuel, hfuel⟩ : ∃ fuel, 2 * (equalityText attr value).length = fuel + 1 :=
    ⟨_, (Nat.succ_pred (by simp [htext])).symm⟩
  rw [parse?, hfuel, htext,
    filter?_comparison fuel hstart hne (fun _ => beq_eq_false_of_mem_name h rfl)
    (fun _ => beq_eq_false_of_mem_escape rfl (by decide)) (item?_name h value)]

end Filter

/-! ## 3. Conversations -/

namespace Directory

open Autoresponder (Text)

variable {s : LdapSettings} {recipient : Address} {now : Instant} {σ : Type}
  {serve : Server Request Request.Answer σ}

theorem searched_append (es es' : List Said) : searched (es ++ es') = searched es ++ searched es' :=
  List.filterMap_append

theorem searched_append_of_nil {before : List Said} (h : searched before = []) (es : List Said) :
    searched (before ++ es) = searched es := by
  rw [searched_append, h, List.nil_append]

/-- What holds of a lookup holds where it fails without a search, and behind whatever is said before
the searches. -/
theorem follows_resolve_of {C : List Said → Except Failure Policy → Prop}
    (hfails : ∀ es e, searched es = [] → (∃ x ∈ es, Broken x) → C es (.error e))
    (hsearches : ∀ before, searched before = [] →
      (searchAll s recipient.localPart now).Follows serve fun es => C (before ++ es)) :
    (resolve s recipient now).Follows serve C := by
  unfold resolve
  refine Dialogue.Follows.of_ask fun (answer : Except Failure Unit) => ?_
  cases answer with
  | error e =>
    refine Dialogue.Follows.of_done (hfails _ e rfl ⟨_, List.mem_singleton.mpr rfl, ?_⟩)
    exact ⟨e, rfl⟩
  | ok _ =>
    refine follows_bindFirst.bind fun es r hbind => ?_
    rcases hbind with ⟨rfl, hbound⟩ | ⟨e, name, answer, rfl, -, -, rfl, hbroken⟩
    · refine hsearches (⟨.connect s.uri, Except.ok ()⟩ :: es) ?_
      cases hbound with
      | anonymous h => rfl
      | named name h hname o ho => rfl
    · refine Dialogue.Follows.of_done (hfails _ e rfl ⟨_, ?_, hbroken⟩)
      exact List.mem_cons_of_mem _ (List.mem_singleton.mpr rfl)

/-- The search for the entries below a base of which an attribute has a value. -/
def searchFor (s : LdapSettings) (base attr value : Text) : Search where
  base := base
  scope := .tree
  filter := .compare .equality attr (Utf8.encode value)
  attributes := wanted s

/-- The searches for a recipient: the one among the users, and the one among the groups if there is
a base for them. -/
def searchesFor (s : LdapSettings) (localPart : Text) : List Search :=
  searchFor s s.searchBase s.uidAttr localPart ::
    (s.groupSearchBase.map fun base => searchFor s base s.groupAttr localPart).toList

/-- With an attribute that has a name, a search asks for just what it is to find. -/
theorem search_eq {attr : Text} (h : Filter.isName attr = true) (base value : Text) :
    search s base attr value =
      .ask (.search (searchFor s base attr value)) fun answer => .done (Match.read answer) := by
  unfold search
  rw [Filter.parse?_equalityText h]
  refine congrArg (Dialogue.ask _) (funext fun answer => ?_)
  cases answer with
  | error e => rfl
  | ok found => rfl

/-- What is searched for depends on the settings and the local part alone. -/
theorem follows_searchesFor {localPart : Text} (husers : Filter.isName s.uidAttr = true)
    (hgroups : Filter.isName s.groupAttr = true) :
    (searchAll s localPart now).Follows serve fun es _ =>
      (searched es).map Prod.fst <+: searchesFor s localPart ∧ searched es ≠ [] := by
  unfold searchAll
  rw [search_eq husers]
  refine Dialogue.Follows.of_ask fun (answer : Except Failure Found) => ?_
  have husersOnly : ∀ r : Except Failure Policy, (Dialogue.done r).Follows serve fun es _ =>
      (searched (⟨.search (searchFor s s.searchBase s.uidAttr localPart), answer⟩ :: es)).map
        Prod.fst <+:
          searchesFor s localPart ∧
        searched (⟨.search (searchFor s s.searchBase s.uidAttr localPart), answer⟩ :: es) ≠ [] :=
    fun r => Dialogue.Follows.of_done ⟨⟨_, rfl⟩, List.cons_ne_nil _ _⟩
  rw [Dialogue.bind]
  cases Match.read answer with
  | error e => exact husersOnly _
  | ok m =>
    cases m with
    | one as => exact husersOnly _
    | several count => exact husersOnly _
    | nobody =>
      dsimp only
      cases hbase : s.groupSearchBase with
      | none => exact husersOnly _
      | some base =>
        dsimp only
        rw [search_eq hgroups]
        refine Dialogue.Follows.of_ask fun (answer' : Except Failure Found) => ?_
        have hboth :
            [searchFor s s.searchBase s.uidAttr localPart,
              searchFor s base s.groupAttr localPart] <+: searchesFor s localPart := by
          rw [searchesFor, hbase]
          exact List.prefix_refl _
        rw [Dialogue.bind]
        cases Match.read answer' with
        | error e => exact Dialogue.Follows.of_done ⟨hboth, List.cons_ne_nil _ _⟩
        | ok m => exact Dialogue.Follows.of_done ⟨hboth, List.cons_ne_nil _ _⟩

/-- Whatever characters a local part has, the directory sees equalities with it and no other
filter. -/
theorem searched_prefix (serve : Server Request Request.Answer σ) (state : σ) (s : LdapSettings)
    (recipient : Address) (now : Instant) (husers : Filter.isName s.uidAttr = true)
    (hgroups : Filter.isName s.groupAttr = true) :
    let es := (resolve s recipient now).transcript serve state
    (searched es).map Prod.fst <+: searchesFor s recipient.localPart ∧
      (searched es = [] → ∃ x ∈ es, Broken x) := by
  have hfollows : (resolve s recipient now).Follows serve fun es _ =>
      (searched es).map Prod.fst <+: searchesFor s recipient.localPart ∧
        (searched es = [] → ∃ x ∈ es, Broken x) := by
    refine follows_resolve_of ?_ ?_
    · intro es e hnone hbroken
      rw [hnone]
      exact ⟨List.nil_prefix, fun _ => hbroken⟩
    · intro before hbefore
      refine (follows_searchesFor husers hgroups).mono fun es r h => ?_
      rw [searched_append_of_nil hbefore]
      exact ⟨h.1, fun hnone => absurd hnone h.2⟩
  exact hfollows state

/-- A name that would match every user if it were not escaped. -/
def wildcard : Address := ⟨"*)(|(mail=*\\2a\u00e9".toList, some "example.com".toList⟩

theorem searched_wildcard :
    Address.parse " <*)(|(Mail=*\\2A\u00e9@Example.com>".toList = .ok wildcard ∧
      Filter.isName groupSettings.uidAttr = true ∧ Filter.isName groupSettings.groupAttr = true ∧
      ∀ now, let es := (resolve groupSettings wildcard now).transcript Scripted.serve groupAway
        (searched es).map Prod.fst <+: searchesFor groupSettings wildcard.localPart ∧
          (searched es = [] → ∃ x ∈ es, Broken x) := by
  have husers : Filter.isName groupSettings.uidAttr = true := by decide
  have hgroups : Filter.isName groupSettings.groupAttr = true := by decide
  exact ⟨by decide, husers, hgroups, fun now =>
    searched_prefix Scripted.serve groupAway groupSettings wildcard now husers hgroups⟩

end Directory
end Autoresponder
