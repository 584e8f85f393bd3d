import Autoresponder.Text
import Mathlib.Data.List.DropRight
/-!
# Facts about text

What the operations on text say about the characters of their results:

1. `trim` keeps characters of the text, starts with none that is blank, leaves nothing exactly of a
   blank text, leaves a text as it is that has no blank at its ends, and does not see the blanks
   that are put around a text;
2. a text occurs in another one only if all its characters do, and every text occurs in itself; a
   text is split at the first occurrence of another one, or at the last character of a class, into
   the parts that it was put together from;
3. an occurrence is replaced where it starts, and what stands in front of the first one stays;
4. folding letter case makes nothing but small letters, so that a text is compared with a keyword in
   small letters by folding the text alone;
5. the parts of a text have no separator in them, a separator ends one, and texts that are put
   together with something between them have their own characters and those.
-/

namespace Autoresponder.Text

/-! ## 1. Trimming -/

theorem subset_of_trim (s : Text) : trim s ⊆ s := by
  have hend : trim s <+: trimStart s := List.rdropWhile_prefix isBlank (trimStart s)
  exact List.Subset.trans hend.subset (List.dropWhile_subset isBlank)

theorem head_trimStart {s rest : Text} {c : Char} (h : trimStart s = c :: rest) :
    isBlank c = false := by
  induction s with
  | nil => cases h
  | cons d s ih =>
    rw [trimStart, List.dropWhile_cons] at h
    split at h
    · exact ih h
    · next hd =>
      cases h
      exact Bool.eq_false_iff.2 hd

theorem head_trim {s rest : Text} {c : Char} (h : trim s = c :: rest) : isBlank c = false := by
  obtain ⟨tail, htail⟩ : c :: rest <+: trimStart s :=
    h ▸ List.rdropWhile_prefix isBlank (trimStart s)
  exact head_trimStart htail.symm

/-- A text that neither starts nor ends with a blank is its own trimming. -/
theorem trim_eq_self {s : Text} (hhead : ∀ c ∈ s.head?, isBlank c = false)
    (hlast : ∀ c ∈ s.getLast?, isBlank c = false) : trim s = s := by
  have hstart : trimStart s = s := by
    cases s with
    | nil => rfl
    | cons c s => exact List.dropWhile_cons_of_neg (Bool.eq_false_iff.mp (hhead c rfl))
  rw [trim, hstart]
  refine List.rdropWhile_eq_self_iff.mpr fun hne => ?_
  rw [hlast _ (List.getLast?_eq_some_getLast hne)]
  exact Bool.false_ne_true

theorem trim_of_forall_not_isBlank {s : Text} (h : ∀ c ∈ s, isBlank c = false) : trim s = s :=
  trim_eq_self (fun c hc => h c (List.mem_of_mem_head? hc)) fun c hc =>
    h c (List.mem_of_mem_getLast? hc)

theorem trim_eq_nil_iff {s : Text} : trim s = [] ↔ ∀ c ∈ s, isBlank c = true := by
  have hend : trim s = [] ↔ ∀ c ∈ trimStart s, isBlank c = true := List.rdropWhile_eq_nil_iff
  rw [hend]
  constructor
  · intro h
    cases hstart : trimStart s with
    | nil => exact List.dropWhile_eq_nil_iff.1 hstart
    | cons c rest =>
      have hblank := h c (by simp [hstart])
      rw [head_trimStart hstart] at hblank
      cases hblank
  · intro h c hc
    exact h c (List.dropWhile_subset isBlank hc)

/-- Blanks around a text do not matter. -/
theorem trim_append {before after : Text} (hbefore : ∀ c ∈ before, isBlank c = true)
    (hafter : ∀ c ∈ after, isBlank c = true) (s : Text) : trim (before ++ s ++ after) = trim s := by
  have hend : ∀ t : Text, trimEnd (t ++ after) = trimEnd t := by
    intro t
    rw [trimEnd, trimEnd, dropEndWhile, List.reverse_append,
      List.dropWhile_append_of_pos fun c hc => hafter c (List.mem_reverse.1 hc), ← dropEndWhile]
  rw [trim, trimStart, List.append_assoc, List.dropWhile_append_of_pos hbefore,
    List.dropWhile_append, trim, trimStart]
  split
  · next hempty =>
    rw [List.dropWhile_eq_nil_iff.2 hafter, List.isEmpty_iff.1 hempty]
  · rw [hend]

/-! ## 2. Occurrences -/

theorem eq_append_of_dropPrefix? {α : Type} [BEq α] [LawfulBEq α] {pre s rest : List α}
    (h : dropPrefix? pre s = some rest) : s = pre ++ rest := by
  fun_induction dropPrefix? pre s with
  | case1 s =>
    cases h
    rfl
  | case2 => cases h
  | case3 p ps c cs heq ih =>
    rw [ih h, beq_iff_eq.1 heq]
    rfl
  | case4 => cases h

theorem dropPrefix?_append {α : Type} [BEq α] [LawfulBEq α] (pre s : List α) :
    dropPrefix? pre (pre ++ s) = some s := by
  induction pre with
  | nil => rfl
  | cons c pre ih => simp [dropPrefix?, ih]

theorem dropPrefix?_self {α : Type} [BEq α] [LawfulBEq α] (s : List α) :
    dropPrefix? s s = some [] := by
  simpa using dropPrefix?_append s []

theorem dropSuffix?_append {α : Type} [BEq α] [LawfulBEq α] (s post : List α) :
    dropSuffix? post (s ++ post) = some s := by
  rw [dropSuffix?, List.reverse_append, dropPrefix?_append, Option.map_some, List.reverse_reverse]

theorem eq_append_of_dropSuffix? {α : Type} [BEq α] [LawfulBEq α] {post s rest : List α}
    (h : dropSuffix? post s = some rest) : s = rest ++ post := by
  obtain ⟨front, hfront, rfl⟩ := Option.map_eq_some_iff.1 h
  have hreverse := congrArg List.reverse (eq_append_of_dropPrefix? hfront)
  rwa [List.reverse_reverse, List.reverse_append, List.reverse_reverse] at hreverse

theorem dropSuffix?_singleton_eq_none_iff {c : Char} {s : Text} :
    dropSuffix? [c] s = none ↔ s.getLast? ≠ some c := by
  constructor
  · intro h hlast
    obtain ⟨front, rfl⟩ := List.getLast?_eq_some_iff.1 hlast
    rw [dropSuffix?_append] at h
    cases h
  · intro h
    by_contra hsome
    obtain ⟨front, hfront⟩ := Option.ne_none_iff_exists'.1 hsome
    rw [eq_append_of_dropSuffix? hfront, List.getLast?_concat] at h
    exact h rfl

theorem startsWith_iff {pre s : Text} : startsWith pre s = true ↔ pre <+: s := by
  constructor
  · intro h
    obtain ⟨rest, hrest⟩ := Option.isSome_iff_exists.1 h
    exact ⟨rest, (eq_append_of_dropPrefix? hrest).symm⟩
  · rintro ⟨rest, rfl⟩
    rw [startsWith, dropPrefix?_append]
    rfl

theorem endsWith_iff {post s : Text} : endsWith post s = true ↔ post <:+ s := by
  rw [← List.reverse_prefix, ← startsWith_iff, endsWith, dropSuffix?, Option.isSome_map, startsWith]

theorem eq_append_of_breakOn? {pat s before after : Text}
    (h : breakOn? pat s = some (before, after)) :
    s = before ++ pat ++ after := by
  fun_induction breakOn? pat s generalizing before after with
  | case1 hempty =>
    cases h
    simp_all
  | case2 => cases h
  | case3 c cs rest hrest =>
    cases h
    exact eq_append_of_dropPrefix? hrest
  | case4 c cs _ ih =>
    obtain ⟨⟨before', after'⟩, hbreak, heq⟩ := Option.map_eq_some_iff.1 h
    cases heq
    rw [ih hbreak]
    rfl

/-- The first occurrence is right here. -/
theorem breakOn?_append_self (pat s : Text) : breakOn? pat (pat ++ s) = some ([], s) := by
  cases h : pat ++ s with
  | nil =>
    obtain ⟨rfl, rfl⟩ := List.append_eq_nil_iff.1 h
    rfl
  | cons c cs =>
    rw [breakOn?, ← h, dropPrefix?_append]

/-- The first occurrence is not right here. -/
theorem breakOn?_cons {pat : Text} {c : Char} {s : Text} (h : dropPrefix? pat (c :: s) = none) :
    breakOn? pat (c :: s) = (breakOn? pat s).map fun (before, after) => (c :: before, after) := by
  rw [breakOn?, h]

/-- Nor is it where its first character does not stand. -/
theorem breakOn?_append {q : Char} {pat before : Text} (h : q ∉ before) (s : Text) :
    breakOn? (q :: pat) (before ++ s) =
      (breakOn? (q :: pat) s).map fun (skipped, after) => (before ++ skipped, after) := by
  induction before with
  | nil => simp
  | cons c before ih =>
    rw [List.mem_cons, not_or] at h
    have hc : dropPrefix? (q :: pat) (c :: (before ++ s)) = none := by
      rw [dropPrefix?, if_neg (by simpa using h.1)]
    rw [List.cons_append, breakOn?_cons hc, ih h.2, Option.map_map]
    rfl

/-- The parts around the first of some characters. -/
theorem breakOn?_singleton {q : Char} {before : Text} (h : q ∉ before) (after : Text) :
    breakOn? [q] (before ++ q :: after) = some (before, after) := by
  have hhere : breakOn? [q] (q :: after) = some ([], after) := breakOn?_append_self [q] after
  simp [breakOn?_append h, hhere]

theorem subset_of_occursIn {pat s : Text} (h : occursIn pat s = true) : pat ⊆ s := by
  obtain ⟨⟨before, after⟩, hbreak⟩ := Option.isSome_iff_exists.1 h
  intro c hc
  rw [eq_append_of_breakOn? hbreak]
  simp [hc]

theorem occursIn_self (s : Text) : occursIn s s = true := by
  cases s with
  | nil => rfl
  | cons c s => simp [occursIn, breakOn?, dropPrefix?_self]

theorem eq_append_of_breakLast? {p : Char → Bool} {s before after : Text} {c : Char}
    (h : breakLast? p s = some (before, c, after)) : s = before ++ c :: after := by
  induction s generalizing before with
  | nil => cases h
  | cons d s ih =>
    rw [breakLast?] at h
    split at h
    · next before' last after' hbreak =>
      cases h
      rw [ih hbreak]
      rfl
    · split at h
      · cases h
        rfl
      · cases h

theorem breakLast?_eq_none_iff {p : Char → Bool} {s : Text} :
    breakLast? p s = none ↔ ∀ c ∈ s, p c = false := by
  induction s with
  | nil => simp [breakLast?]
  | cons c s ih =>
    rw [List.forall_mem_cons, breakLast?]
    cases hrest : breakLast? p s with
    | some found =>
      rw [hrest] at ih
      simp [← ih]
    | none =>
      rw [hrest] at ih
      simp [← ih]

/-- The parts around the last character of a class. -/
theorem breakLast?_append {p : Char → Bool} {c : Char} {after : Text} (hc : p c = true)
    (hafter : ∀ d ∈ after, p d = false) (before : Text) :
    breakLast? p (before ++ c :: after) = some (before, c, after) := by
  induction before with
  | nil => rw [List.nil_append, breakLast?, breakLast?_eq_none_iff.2 hafter, if_pos hc]
  | cons d before ih => rw [List.cons_append, breakLast?, ih]

theorem breakLast?_eq_some {p : Char → Bool} {s before after : Text} {c : Char}
    (h : breakLast? p s = some (before, c, after)) : p c = true ∧ ∀ d ∈ after, p d = false := by
  induction s generalizing before with
  | nil => cases h
  | cons d s ih =>
    rw [breakLast?] at h
    split at h
    · next before' last after' hbreak =>
      cases h
      exact ih hbreak
    · next hnone =>
      split at h
      · next hd =>
        cases h
        exact ⟨hd, breakLast?_eq_none_iff.1 hnone⟩
      · cases h

theorem upTo_append {p : Char → Bool} {s rest : Text} (hs : ∀ c ∈ s, p c = false)
    (hrest : ∀ c ∈ rest.head?, p c = true) : upTo p (s ++ rest) = s := by
  have hnil : rest.takeWhile (fun c => !p c) = [] := by
    cases rest with
    | nil => rfl
    | cons c rest => exact List.takeWhile_cons_of_neg (by simp [hrest c rfl])
  rw [upTo, List.takeWhile_append_of_pos (by simpa using hs), hnil, List.append_nil]

theorem exists_append_of_upTo (p : Char → Bool) (s : Text) :
    ∃ rest, s = upTo p s ++ rest ∧ ∀ c ∈ rest.head?, p c = true := by
  refine ⟨s.dropWhile fun c => !p c, List.takeWhile_append_dropWhile.symm, ?_⟩
  intro c hc
  have hhead := List.head?_dropWhile_not (fun c => !p c) s
  rw [hc] at hhead
  simpa using hhead

/-! ## 3. Replacing -/

theorem replaceFrom_skip (pat new passed s : Text) :
    replaceFrom pat new passed.length (passed ++ s) = replace pat new s := by
  induction passed with
  | nil => rfl
  | cons c passed ih => exact ih

/-- An occurrence right here is replaced. -/
theorem replace_append_self {pat : Text} (h : pat ≠ []) (new s : Text) :
    replace pat new (pat ++ s) = new ++ replace pat new s := by
  obtain ⟨c, pat, rfl⟩ := List.exists_cons_of_ne_nil h
  have hhere : startsWith (c :: pat) (c :: (pat ++ s)) = true := startsWith_iff.2 ⟨s, rfl⟩
  rw [replace, List.cons_append, replaceFrom, if_pos hhere, List.length_cons, Nat.add_sub_cancel,
    replaceFrom_skip]

/-- Where no occurrence starts, the character stays. -/
theorem replace_cons {pat : Text} {c : Char} {s : Text} (h : ¬pat <+: c :: s) (new : Text) :
    replace pat new (c :: s) = c :: replace pat new s := by
  rw [replace, replaceFrom, if_neg (mt startsWith_iff.1 h)]
  rfl

theorem replace_singleton (q r : Char) (s : Text) :
    replace [q] [r] s = s.map fun c => if c == q then r else c := by
  induction s with
  | nil => rfl
  | cons c s ih =>
    by_cases hc : c = q
    · subst hc
      have hhere : replace [c] [r] (c :: s) = [r] ++ replace [c] [r] s :=
        replace_append_self (List.cons_ne_nil _ _) [r] s
      rw [hhere, ih]
      simp
    · have hnot : ¬[q] <+: c :: s := by
        rw [List.cons_prefix_cons, not_and]
        exact fun heq => absurd heq.symm hc
      rw [replace_cons hnot, ih]
      simp [hc]

/-! ## 4. Letter case -/

/-- What holds of every character of ASCII is checked for one after the other. -/
theorem forall_ascii {P : Char → Prop} (h : ∀ n < 0x80, P (Char.ofNat n)) {c : Char}
    (hc : c.toNat < 0x80) :
    P c := by
  have hp := h c.toNat hc
  rwa [Char.ofNat_toNat] at hp

theorem toLower_of_not_ascii {c : Char} (h : ¬c.toNat < 0x80) : c.toLower = c :=
  dif_neg fun hupper => h (Nat.lt_of_le_of_lt hupper.2 (by decide))

theorem toLower_cases (c : Char) : c.toLower = c ∨ ('a' ≤ c.toLower ∧ c.toLower ≤ 'z') := by
  by_cases hc : c.toNat < 0x80
  · exact forall_ascii (P := fun c => c.toLower = c ∨ ('a' ≤ c.toLower ∧ c.toLower ≤ 'z'))
      (by decide) hc
  · exact .inl (toLower_of_not_ascii hc)

/-- Folding makes small letters, and leaves what it does not make. -/
theorem mem_foldCase {s : Text} {c : Char} (h : c ∈ foldCase s) : c ∈ s ∨ ('a' ≤ c ∧ c ≤ 'z') := by
  obtain ⟨d, hd, rfl⟩ := List.mem_map.mp h
  obtain heq | hsmall := toLower_cases d
  · exact .inl (heq.symm ▸ hd)
  · exact .inr hsmall

theorem isUpper_of_mem_foldCase {s : Text} {c : Char} (h : c ∈ foldCase s) : c.isUpper = false := by
  obtain ⟨d, -, rfl⟩ := List.mem_map.mp h
  by_cases hd : d.toNat < 0x80
  · exact forall_ascii (P := fun d => d.toLower.isUpper = false) (by decide) hd
  · rw [toLower_of_not_ascii hd]
    exact decide_eq_false fun hupper => hd (Nat.lt_of_le_of_lt hupper.2 (by decide))

theorem sameFolded_iff_of_small {s small : Text} (h : foldCase small = small) :
    sameFolded s small = true ↔ foldCase s = small := by
  rw [sameFolded, h, beq_iff_eq]

/-! ## 5. Parts -/

theorem splitOn_ne_nil (p : Char → Bool) (s : Text) : splitOn p s ≠ [] := by
  cases s with
  | nil => exact List.cons_ne_nil _ _
  | cons c s =>
    rw [splitOn]
    split
    · exact List.cons_ne_nil _ _
    · split <;> exact List.cons_ne_nil _ _

theorem splitOn_cons_of_pos {p : Char → Bool} {c : Char} (h : p c = true) (s : Text) :
    splitOn p (c :: s) = [] :: splitOn p s := by
  rw [splitOn, if_pos h]

theorem splitOn_cons_of_neg {p : Char → Bool} {c : Char} (h : p c = false) (s : Text) :
    splitOn p (c :: s) = (splitOn p s).modifyHead (c :: ·) := by
  rw [splitOn, h, if_neg Bool.false_ne_true]
  split
  · next hnil => exact absurd hnil (splitOn_ne_nil p s)
  · next part parts hcons =>
    rw [hcons]
    rfl

/-- Where no separator is, there is one part. -/
theorem splitOn_of_forall_not {p : Char → Bool} {s : Text} (h : ∀ c ∈ s, p c = false) :
    splitOn p s = [s] := by
  induction s with
  | nil => rfl
  | cons c s ih =>
    obtain ⟨hc, hs⟩ := List.forall_mem_cons.mp h
    rw [splitOn_cons_of_neg hc, ih hs]
    rfl

/-- The parts in front of a separator, and those behind it. -/
theorem splitOn_append_cons {p : Char → Bool} {c : Char} (h : p c = true) (s t : Text) :
    splitOn p (s ++ c :: t) = splitOn p s ++ splitOn p t := by
  induction s with
  | nil => exact splitOn_cons_of_pos h t
  | cons d s ih =>
    rw [List.cons_append]
    cases hd : p d with
    | true =>
      rw [splitOn_cons_of_pos hd, splitOn_cons_of_pos hd, ih]
      rfl
    | false =>
      obtain ⟨part, parts, hparts⟩ := List.exists_cons_of_ne_nil (splitOn_ne_nil p s)
      rw [splitOn_cons_of_neg hd, splitOn_cons_of_neg hd, ih, hparts]
      rfl

theorem of_mem_splitOn {p : Char → Bool} {s part : Text} (h : part ∈ splitOn p s) :
    ∀ c ∈ part, c ∈ s ∧ p c = false := by
  induction s generalizing part with
  | nil =>
    rw [List.mem_singleton.mp h]
    exact nofun
  | cons d s ih =>
    have hlater : ∀ {part}, part ∈ splitOn p s → ∀ c ∈ part, c ∈ d :: s ∧ p c = false := by
      intro part hpart c hc
      obtain ⟨hs, hp⟩ := ih hpart c hc
      exact ⟨List.mem_cons_of_mem d hs, hp⟩
    cases hd : p d with
    | true =>
      rw [splitOn_cons_of_pos hd] at h
      rcases List.mem_cons.mp h with rfl | h
      · exact nofun
      · exact hlater h
    | false =>
      obtain ⟨first, rest, hparts⟩ := List.exists_cons_of_ne_nil (splitOn_ne_nil p s)
      rw [hparts] at hlater
      rw [splitOn_cons_of_neg hd, hparts] at h
      rcases List.mem_cons.mp h with rfl | h
      · intro c hc
        rcases List.mem_cons.mp hc with rfl | hc
        · exact ⟨List.mem_cons_self, hd⟩
        · exact hlater List.mem_cons_self c hc
      · exact hlater (List.mem_cons_of_mem _ h)

theorem map_joinWith (f : Char → Char) (sep : Text) (parts : List Text) :
    (joinWith sep parts).map f = joinWith (sep.map f) (parts.map (List.map f)) := by
  fun_induction joinWith sep parts with
  | case1 => rfl
  | case2 => rfl
  | case3 s rest hrest ih =>
    obtain ⟨t, rest, rfl⟩ := List.exists_cons_of_ne_nil hrest
    rw [List.map_append, List.map_append, ih]
    rfl

theorem mem_joinWith_iff {sep : Text} {c : Char} (h : c ∉ sep) (parts : List Text) :
    c ∈ joinWith sep parts ↔ ∃ part ∈ parts, c ∈ part := by
  fun_induction joinWith sep parts with
  | case1 => simp
  | case2 => simp
  | case3 s rest _ ih => simp [ih, h]

end Autoresponder.Text
