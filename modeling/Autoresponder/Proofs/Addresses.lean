import Autoresponder.Address
import Autoresponder.Proofs.Texts
import Mathlib.Tactic.SplitIfs
/-!
# Facts about addresses

1. Folding letter case makes no character that an address may not contain.
2. An address is written as the text that it was read from, without what stood around it and in
   small letters (`Address.text_of_parse`). So an address that was read is `Normal`: whatever the
   text was, it has no blank, no control character and no capital in it.
3. A local part and a domain with an `@` between them are read as they stand. They make an address
   unless the domain ends with a further `@` (`Address.parse_joined`).
-/

namespace Autoresponder

/-! ## 1. Characters -/

theorem isForbidden_of_small {c : Char} (h : 'a' ≤ c ∧ c ≤ 'z') :
    Address.isForbidden c = false := by
  have hascii : c.toNat < 0x80 := Nat.lt_of_le_of_lt h.2 (by decide)
  exact Text.forall_ascii (P := fun c => 'a' ≤ c ∧ c ≤ 'z' → Address.isForbidden c = false)
    (by decide) hascii h

theorem isBlank_of_not_isForbidden {c : Char} (h : Address.isForbidden c = false) :
    Text.isBlank c = false :=
  (Bool.or_eq_false_iff.mp h).1

theorem isControl_of_not_isForbidden {c : Char} (h : Address.isForbidden c = false) :
    Text.isControl c = false :=
  (Bool.or_eq_false_iff.mp h).2

namespace Address

theorem foldCase_allowed {s : Text} (h : ∀ c ∈ s, isForbidden c = false) :
    ∀ c ∈ Text.foldCase s, isForbidden c = false := by
  intro c hc
  obtain hs | hsmall := Text.mem_foldCase hc
  · exact h c hs
  · exact isForbidden_of_small hsmall

theorem foldCase_ne_nil {s : Text} (h : s ≠ []) : Text.foldCase s ≠ [] := by
  rwa [Text.foldCase, Ne, List.map_eq_nil_iff]

/-! ## 2. Addresses that were read -/

variable {a : Address} {input : Text}

theorem localPart_subset_text (a : Address) : a.localPart ⊆ a.text := by
  unfold text
  split
  · exact List.subset_append_left _ _
  · exact List.Subset.refl _

theorem domain_subset_text {d : Text} (h : a.domain = some d) : d ⊆ a.text := by
  rw [text, h]
  exact List.subset_append_of_subset_right _ (List.subset_cons_self _ _)

theorem allowed_of_parse (h : parse input = .ok a) : ∀ c ∈ bare input, isForbidden c = false := by
  simp only [parse] at h
  split_ifs at h with _ hforbidden
  simpa only [List.any_eq_true, not_exists, not_and, Bool.not_eq_true] using hforbidden

theorem localPart_ne_nil_of_parse (h : parse input = .ok a) : a.localPart ≠ [] := by
  simp only [parse] at h
  split_ifs at h with hempty hforbidden
  split at h
  · split_ifs at h with hparts
    cases h
    rw [Bool.or_eq_true, not_or] at hparts
    exact foldCase_ne_nil fun hnil => hparts.1 (List.isEmpty_iff.mpr hnil)
  · cases h
    exact foldCase_ne_nil fun hnil => hempty (List.isEmpty_iff.mpr hnil)

theorem text_of_parse (h : parse input = .ok a) : a.text = Text.foldCase (bare input) := by
  simp only [parse] at h
  split_ifs at h
  split at h
  · next localPart at_ domain hbreak =>
    have hat : at_ = '@' := beq_iff_eq.mp (Text.breakLast?_eq_some hbreak).1
    split_ifs at h
    cases h
    rw [Text.eq_append_of_breakLast? hbreak, hat]
    simp [text, Text.foldCase]
  · cases h
    rfl

/-- What every address has that was read. -/
structure Normal (a : Address) : Prop where
  localPart_ne_nil : a.localPart ≠ []
  allowed : ∀ c ∈ a.text, isForbidden c = false
  small : ∀ c ∈ a.text, c.isUpper = false

theorem normal_of_parse (h : parse input = .ok a) : a.Normal where
  localPart_ne_nil := localPart_ne_nil_of_parse h
  allowed := by
    rw [text_of_parse h]
    exact foldCase_allowed (allowed_of_parse h)
  small := by
    intro c hc
    rw [text_of_parse h] at hc
    exact Text.isUpper_of_mem_foldCase hc

theorem text_ne_nil (h : a.localPart ≠ []) : a.text ≠ [] := by
  obtain ⟨c, rest, hcons⟩ := List.exists_cons_of_ne_nil h
  exact List.ne_nil_of_mem (a.localPart_subset_text (hcons ▸ List.mem_cons_self))

theorem head?_text (h : a.localPart ≠ []) : a.text.head? = a.localPart.head? := by
  unfold text
  split
  · exact List.head?_append_of_ne_nil _ h
  · rfl

/-! ## 3. Texts that are read as they stand -/

theorem unbracket_eq_self {s : Text} (h : s.head? ≠ some '<') : unbracket s = s := by
  unfold unbracket
  cases s with
  | nil => rfl
  | cons c s =>
    have hc : Text.dropPrefix? ['<'] (c :: s) = none := by
      rw [Text.dropPrefix?, if_neg]
      rintro heq
      exact h (by rw [List.head?_cons, ← beq_iff_eq.mp heq])
    rw [hc]

theorem unbracket_bracketed (s : Text) : unbracket ('<' :: (s ++ ['>'])) = s := by
  have hstart : Text.dropPrefix? ['<'] ('<' :: (s ++ ['>'])) = some (s ++ ['>']) :=
    Text.dropPrefix?_append ['<'] _
  rw [unbracket, hstart]
  dsimp only
  rw [Text.dropSuffix?_append]
  rfl

theorem bare_eq_self {s : Text} (hallowed : ∀ c ∈ s, isForbidden c = false)
    (hstart : s.head? ≠ some '<') :
    bare s = s := by
  have htrim : Text.trim s = s :=
    Text.trim_of_forall_not_isBlank fun c hc => isBlank_of_not_isForbidden (hallowed c hc)
  rw [bare, htrim, unbracket_eq_self hstart, htrim]

/-- The text is an address, unless its domain ends with an `@` and leaves nothing behind the last
one. -/
theorem parse_joined {localPart domain : Text} (hlocal : localPart ≠ []) (hdomain : domain ≠ [])
    (hallowed : ∀ c ∈ localPart ++ '@' :: domain, isForbidden c = false)
    (hstart : localPart.head? ≠ some '<') :
    (¬['@'] <:+ domain ∧ ∃ a, parse (localPart ++ '@' :: domain) = .ok a) ∨
      ['@'] <:+ domain ∧
        parse (localPart ++ '@' :: domain) = .error (.invalid (localPart ++ '@' :: domain)) := by
  have hbare : bare (localPart ++ '@' :: domain) = localPart ++ '@' :: domain :=
    bare_eq_self hallowed (by rwa [List.head?_append_of_ne_nil _ hlocal])
  have hempty : (localPart ++ '@' :: domain).isEmpty = false := by simp
  have hany : (localPart ++ '@' :: domain).any isForbidden = false :=
    List.any_eq_false.mpr fun c hc =>
    Bool.eq_false_iff.mp (hallowed c hc)
  unfold parse
  rw [hbare]
  dsimp only
  rw [hempty, if_neg Bool.false_ne_true, hany, if_neg Bool.false_ne_true]
  cases hbreak : Text.breakLast? (· == '@') domain with
  | none =>
    have hnone := Text.breakLast?_eq_none_iff.mp hbreak
    rw [Text.breakLast?_append rfl hnone]
    left
    exact ⟨fun hopen => absurd (hnone '@' (hopen.subset List.mem_cons_self)) (by decide),
      by simp [hlocal, hdomain]⟩
  | some found =>
    -- the last `@` stands in the domain
    obtain ⟨before, at_, after⟩ := found
    obtain ⟨hat, hafter⟩ := Text.breakLast?_eq_some hbreak
    obtain rfl : at_ = '@' := beq_iff_eq.mp hat
    have hsplit : domain = before ++ '@' :: after := Text.eq_append_of_breakLast? hbreak
    have hlast :=
      Text.breakLast?_append (p := (· == '@')) (c := '@') rfl hafter (localPart ++ '@' :: before)
    rw [List.append_assoc, List.cons_append, ← hsplit] at hlast
    rw [hlast]
    cases after with
    | nil =>
      right
      exact ⟨⟨before, hsplit.symm⟩, by simp⟩
    | cons c after =>
      left
      refine ⟨fun hopen => ?_, by simp⟩
      have hend : c :: after <:+ domain := ⟨before ++ ['@'], by simp [hsplit]⟩
      have hclosed : ['@'] <:+ c :: after :=
        List.suffix_of_suffix_length_le hopen hend (Nat.succ_le_succ (Nat.zero_le _))
      exact absurd (hafter '@' (hclosed.subset List.mem_cons_self)) (by decide)

end Address
end Autoresponder
