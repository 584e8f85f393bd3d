import Autoresponder.Directory.Entry
import Autoresponder.Proofs.LineBreaks
/-!
# Lines of a message in a directory

A message has several values, and each of them has lines. The values are put together with line
feeds, every `$` becomes a line feed, and only then the breaks are unified: a carriage return that
stood alone until then, before a `$` or at the end of a value, is now one break with the line feed
behind it. An empty line is lost there.

1. `messageLines` are the lines as they are written, with the end of a value and every `$` a break
   of its own.
2. They are the lines of one pass over the values with `$` between them, and the message has those
   of two passes (`messageLines_eq`, `body?_eq`).
3. The passes differ just if a carriage return stands before a `$` (`Passes.eq_iff`).
4. So that is when the message has other lines than were written (`bodyLines_iff`,
   `not_forall_bodyLines`).
-/

namespace Autoresponder.Directory

open Autoresponder (Text)
open Text

/-! ## 1. Lines as they are written -/

/-- What ends a line in a value beside the breaks of all texts. -/
def isSeparator (c : Char) : Bool := c == '$'

/-- The lines of a message, if nothing in it is lost. -/
def messageLines (values : List Text) : List Text :=
  dropEmptyEnd (values.flatMap (pieces isSeparator))

/-! ## 2. One pass and two -/

def inOnePass (s : Text) : Text := unifyBreaks isSeparator s

/-- Every `$` becomes a line feed before the breaks are unified. -/
def inTwoPasses (s : Text) : Text := normalizeBreaks (replace ['$'] ['\n'] s)

/-- The values with a `$` between each two neighbours. -/
def joined (values : List Text) : Text := joinWith ['$'] values

theorem inOnePass_append_cons (s t : Text) :
    inOnePass (s ++ '$' :: t) = inOnePass s ++ '\n' :: inOnePass t :=
  unifyBreaks_append_cons rfl (by decide) (by decide) s t

theorem splitOn_inOnePass_joined {values : List Text} (h : values ≠ []) :
    splitOn (· == '\n') (inOnePass (joined values)) = values.flatMap (pieces isSeparator) := by
  unfold joined
  fun_induction joinWith ['$'] values with
  | case1 => exact absurd rfl h
  | case2 v => simp [inOnePass, splitOn_unifyBreaks]
  | case3 v vs hvs ih =>
    rw [List.append_assoc, List.singleton_append, inOnePass_append_cons, splitOn_append_cons rfl,
      ih hvs, List.flatMap_cons, inOnePass, splitOn_unifyBreaks]

theorem messageLines_eq {values : List Text} (h : values ≠ []) :
    messageLines values = lines (inOnePass (joined values)) := by
  have hreturn : '\r' ∉ inOnePass (joined values) := return_notMem_unifyBreaks isSeparator _
  rw [lines_of_notMem hreturn, splitOn_inOnePass_joined h, messageLines]

theorem inTwoPasses_eq (s : Text) :
    inTwoPasses s =
      unifyBreaks (fun _ => false) (s.map fun c => if isSeparator c then '\n' else c) := by
  rw [inTwoPasses, normalizeBreaks_eq, replace_singleton]
  rfl

/-- What the values are put together with becomes a line feed in any case. -/
theorem inTwoPasses_joined (values : List Text) :
    normalizeBreaks (replace ['$'] ['\n'] (joinWith ['\n'] values)) =
      inTwoPasses (joined values) := by
  rw [inTwoPasses, joined, replace_singleton, replace_singleton, map_joinWith, map_joinWith]
  rfl

theorem mem_inTwoPasses_iff {c : Char} (h : isBlank c = false) (s : Text) :
    c ∈ inTwoPasses s ↔ c ∈ s ∧ c ≠ '$' := by
  have hreturn : c ≠ '\r' := by
    rintro rfl
    cases h
  have hfeed : c ≠ '\n' := by
    rintro rfl
    cases h
  rw [inTwoPasses_eq, mem_unifyBreaks_iff hreturn hfeed rfl, List.mem_map]
  constructor
  · rintro ⟨d, hd, heq⟩
    split at heq
    · exact absurd heq.symm hfeed
    · next hplain =>
      subst heq
      exact ⟨hd, by simpa [isSeparator] using hplain⟩
  · rintro ⟨hc, hdollar⟩
    exact ⟨c, hc, by simp [isSeparator, hdollar]⟩

/-- Something in the values is neither blank nor a `$`. -/
def Written (values : List Text) : Prop := ∃ v ∈ values, ∃ c ∈ v, isBlank c = false ∧ c ≠ '$'

instance : DecidablePred Written := fun values =>
  have : DecidablePred fun v : Text => ∃ c ∈ v, isBlank c = false ∧ c ≠ '$' :=
    fun v => List.decidableBEx _ v
  List.decidableBEx _ values

theorem Written.ne_nil {values : List Text} (h : Written values) : values ≠ [] := by
  obtain ⟨v, hv, -⟩ := h
  exact List.ne_nil_of_mem hv

theorem trim_inTwoPasses_eq_nil_iff (values : List Text) :
    trim (inTwoPasses (joined values)) = [] ↔ ¬Written values := by
  rw [trim_eq_nil_iff, Written]
  constructor
  · rintro h ⟨v, hv, c, hc, hblank, hdollar⟩
    have hmem : c ∈ joined values :=
      (mem_joinWith_iff (by simpa using hdollar) values).mpr ⟨v, hv, hc⟩
    rw [h c ((mem_inTwoPasses_iff hblank _).mpr ⟨hmem, hdollar⟩)] at hblank
    cases hblank
  · intro h c hc
    by_contra hblank
    rw [Bool.not_eq_true] at hblank
    obtain ⟨hmem, hdollar⟩ := (mem_inTwoPasses_iff hblank _).mp hc
    obtain ⟨v, hv, hcv⟩ := (mem_joinWith_iff (by simpa using hdollar) values).mp hmem
    exact h ⟨v, hv, c, hcv, hblank, hdollar⟩

/-- There is a message just if something is written in it. -/
theorem body?_eq (values : List Text) :
    body? values = if Written values then some (inTwoPasses (joined values)) else none := by
  rw [body?, inTwoPasses_joined]
  by_cases h : Written values
  · have hshown : trim (inTwoPasses (joined values)) ≠ [] :=
      fun hnil => (trim_inTwoPasses_eq_nil_iff values).mp hnil h
    simp [h, h.ne_nil, hshown]
  · simp [h, (trim_inTwoPasses_eq_nil_iff values).mpr h]

/-! ## 3. Where the passes differ -/

/-- A line feed for a carriage return and for what separates. -/
def unified (c : Char) : Char := if c == '\r' || isSeparator c then '\n' else c

/-- What follows a carriage return does not go on with its break, in one pass or in two. -/
def EndsBreak (c : Char) (rest : Text) : Prop :=
  c = '\r' → rest.head? ≠ some '\n' ∧ rest.head? ≠ some '$'

/-- How the passes over a text compare, in two and in one. A carriage return before a `$` is a break
of its own in one pass, and a part of the break behind it in two. -/
inductive Passes : Text → Text → Text → Prop
  | nil : Passes [] [] []
  | both {s two one : Text} (h : Passes s two one) :
      Passes ('\r' :: '\n' :: s) ('\n' :: two) ('\n' :: one)
  | merged {s two one : Text} (h : Passes ('$' :: s) two one) :
      Passes ('\r' :: '$' :: s) two ('\n' :: one)
  | single {c : Char} {s two one : Text} (hc : EndsBreak c s) (h : Passes s two one) :
      Passes (c :: s) (unified c :: two) (unified c :: one)

theorem inTwoPasses_cons {c : Char} {s : Text} (h : EndsBreak c s) :
    inTwoPasses (c :: s) = unified c :: inTwoPasses s := by
  rw [inTwoPasses_eq, inTwoPasses_eq, List.map_cons, unifyBreaks, unified]
  · by_cases hc : isSeparator c = true
    · simp [hc]
    · simp [hc]
  · intro rest hreturn hfeed
    have hc : c = '\r' := by
      split at hreturn
      · cases hreturn
      · exact hreturn
    cases s with
    | nil => cases hfeed
    | cons d s =>
      obtain ⟨hnotFeed, hnotDollar⟩ := h hc
      have hd : (if isSeparator d then '\n' else d) = '\n' := (List.cons.inj hfeed).1
      split at hd
      · next hdollar => exact hnotDollar (congrArg some (beq_iff_eq.mp hdollar))
      · exact hnotFeed (congrArg some hd)

theorem passes (s : Text) : Passes s (inTwoPasses s) (inOnePass s) := by
  unfold inOnePass
  fun_induction unifyBreaks isSeparator s with
  | case1 => exact .nil
  | case2 s ih =>
    have htwo : inTwoPasses ('\r' :: '\n' :: s) = '\n' :: inTwoPasses s := by
      rw [inTwoPasses_eq, inTwoPasses_eq]
      rfl
    rw [htwo]
    exact .both ih
  | case3 c s hfeed ih =>
    by_cases hmerged : c = '\r' ∧ s.head? = some '$'
    · obtain ⟨rfl, hhead⟩ := hmerged
      obtain ⟨t, rfl⟩ := List.head?_eq_some_iff.mp hhead
      have htwo : inTwoPasses ('\r' :: '$' :: t) = inTwoPasses ('$' :: t) := by
        rw [inTwoPasses_eq, inTwoPasses_eq]
        rfl
      rw [htwo]
      exact .merged ih
    · have hc : EndsBreak c s := by
        intro hreturn
        refine ⟨fun hhead => ?_, fun hhead => hmerged ⟨hreturn, hhead⟩⟩
        obtain ⟨t, rfl⟩ := List.head?_eq_some_iff.mp hhead
        exact hfeed t hreturn rfl
      rw [inTwoPasses_cons hc]
      exact .single hc ih

/-- A carriage return stands right before a `$`. -/
def Merges (s : Text) : Prop := ['\r', '$'] <:+: s

instance (s : Text) : Decidable (Merges s) := inferInstanceAs (Decidable (_ <:+: s))

theorem merges_cons_iff {c : Char} {s : Text} :
    Merges (c :: s) ↔ (c = '\r' ∧ s.head? = some '$') ∨ Merges s := by
  have hhere : ['\r', '$'] <+: c :: s ↔ c = '\r' ∧ s.head? = some '$' := by
    cases s <;> simp [List.cons_prefix_cons, eq_comm]
  rw [Merges, List.infix_cons_iff, hhere]
  rfl

namespace Passes

variable {s two one : Text}

theorem length_le (h : Passes s two one) : two.length ≤ one.length := by
  induction h with
  | nil => exact Nat.le_refl _
  | both _ ih => exact Nat.succ_le_succ ih
  | merged _ ih => exact Nat.le_succ_of_le ih
  | single _ _ ih => exact Nat.succ_le_succ ih

theorem eq_iff (h : Passes s two one) : two = one ↔ ¬Merges s := by
  induction h with
  | nil => exact iff_of_true rfl (by decide)
  | both _ ih => simp [merges_cons_iff, ih]
  | merged h _ =>
    refine iff_of_false ?_ (not_not_intro (merges_cons_iff.mpr (.inl ⟨rfl, rfl⟩)))
    rintro rfl
    exact Nat.not_succ_le_self _ h.length_le
  | single hc _ ih =>
    have hnotHere : ¬(_ = '\r' ∧ _ = some '$') := fun hhere => (hc hhere.1).2 hhere.2
    rw [List.cons_inj_right, ih, merges_cons_iff, or_iff_right hnotHere]

end Passes

theorem lines_inTwoPasses_iff (s : Text) :
    lines (inTwoPasses s) = lines (inOnePass s) ↔ ¬Merges s := by
  rw [← (passes s).eq_iff]
  refine ⟨fun hlines => ?_, congrArg lines⟩
  have htwo : '\r' ∉ inTwoPasses s := by
    rw [inTwoPasses, normalizeBreaks_eq]
    exact return_notMem_unifyBreaks _ _
  refine eq_of_lines_eq htwo (return_notMem_unifyBreaks isSeparator s) ?_ hlines
  rw [inTwoPasses_eq, inOnePass, getLast?_unifyBreaks, getLast?_unifyBreaks, List.getLast?_map,
    Option.map_map]
  refine congrArg (s.getLast?.map ·) (funext fun c => ?_)
  by_cases hc : isSeparator c = true
  · simp [hc]
  · simp [hc]

/-! ## 4. Lines of a policy -/

/-- A message in which something is written has its lines unless a carriage return stands before a
`$`, or at the end of a value with another one behind it. -/
theorem bodyLines_iff (s : LdapSettings) (localPart : Text) (isGroup : Bool) (now : Instant)
    {as : Attributes} (h : Written (values s.messageAttr as)) :
    let policy := policyOf s localPart isGroup now as
    policy.body.isSome ∧
      (policy.bodyLines = messageLines (values s.messageAttr as) ↔
        ¬Merges (joined (values s.messageAttr as))) := by
  intro policy
  have hbody : policy.body = some (inTwoPasses (joined (values s.messageAttr as))) := by
    exact (body?_eq _).trans (if_pos h)
  refine ⟨by rw [hbody]; rfl, ?_⟩
  rw [Policy.bodyLines, hbody, Option.getD_some, messageLines_eq h.ne_nil, lines_inTwoPasses_iff]

/-- Breaks of every kind next to each other, and a carriage return behind a `$`. -/
def threeValues : Attributes :=
  [("vacationmessage".toList, ["One.\r\n".toList, "Two.$$".toList, "\rThree.\n".toList])]

theorem bodyLines_threeValues :
    (Written (values "vacationMessage".toList threeValues) ∧
        ¬Merges (joined (values "vacationMessage".toList threeValues))) ∧
      ∀ localPart isGroup now, (policyOf {} localPart isGroup now threeValues).bodyLines =
        ["One.".toList, [], "Two.".toList, [], [], [], "Three.".toList] := by
  have hwritten : Written (values "vacationMessage".toList threeValues) := by decide +kernel
  have hmerges : ¬Merges (joined (values "vacationMessage".toList threeValues)) := by decide +kernel
  refine ⟨⟨hwritten, hmerges⟩, fun localPart isGroup now => ?_⟩
  have hlines : messageLines (values "vacationMessage".toList threeValues) =
      ["One.".toList, [], "Two.".toList, [], [], [], "Three.".toList] := by decide +kernel
  exact ((bodyLines_iff {} localPart isGroup now hwritten).2.mpr hmerges).trans hlines

/-- A carriage return and a `$` are two breaks, with an empty line between them. -/
def returnBeforeDollar : Attributes := [("vacationMessage".toList, ["a\r$b".toList])]

/-- The empty line is lost. -/
theorem not_forall_bodyLines :
    ¬∀ (s : LdapSettings) (localPart : Text) (isGroup : Bool) (now : Instant) (as : Attributes),
      Written (values s.messageAttr as) →
      (policyOf s localPart isGroup now as).bodyLines = messageLines (values s.messageAttr as) := by
  intro h
  have hwritten : Written (values "vacationMessage".toList returnBeforeDollar) := by decide +kernel
  have hlines : (policyOf {} [] false ⟨0, 0, by decide⟩ returnBeforeDollar).bodyLines =
      ["a".toList, "b".toList] := by decide +kernel
  have hwanted : messageLines (values "vacationMessage".toList returnBeforeDollar) =
      ["a".toList, [], "b".toList] := by decide +kernel
  have heq := h {} [] false ⟨0, 0, by decide⟩ returnBeforeDollar hwritten
  rw [hlines] at heq
  exact absurd (heq.trans hwanted) (by decide)

end Autoresponder.Directory
