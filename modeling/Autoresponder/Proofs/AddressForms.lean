import Autoresponder.Proofs.Addresses
import Autoresponder.Proofs.Pairs
/-!
# Forms of one address

1. Letter case is seen by no step of reading an address (`Address.bare_foldCase`).
2. What reads as an address is exactly its text, in any case and with what may stand around it:
   `Address.Readable` says which addresses there are, and `Address.parse_eq_ok_iff` which texts read
   as one of them.
3. So a text in any other case reads as the same address. The text of the address itself does too,
   unless it stands in angle brackets (`Address.parse_text_iff`). Reading takes off one pair of
   brackets only, so a text in two pairs gives an address in one, which is taken off when that
   address is read (`Address.not_forall_parse_text`).
-/

namespace Autoresponder

open Address (isForbidden)

/-! ## 1. Letter case -/

namespace Text

theorem isBlank_toLower (c : Char) : isBlank c.toLower = isBlank c := by
  by_cases hc : c.toNat < 0x80
  · exact forall_ascii (P := fun c => isBlank c.toLower = isBlank c) (by decide) hc
  · rw [toLower_of_not_ascii hc]

theorem toLower_toLower (c : Char) : c.toLower.toLower = c.toLower := by
  by_cases hc : c.toNat < 0x80
  · exact forall_ascii (P := fun c => c.toLower.toLower = c.toLower) (by decide) hc
  · rw [toLower_of_not_ascii hc, toLower_of_not_ascii hc]

theorem foldCase_foldCase (s : Text) : foldCase (foldCase s) = foldCase s := by
  rw [foldCase, foldCase, List.map_map]
  exact List.map_congr_left fun c _ => toLower_toLower c

/-- A character that is no letter of ASCII. -/
def IsCaseless (q : Char) : Prop := q.toLower = q ∧ ¬('a' ≤ q ∧ q ≤ 'z')

instance (q : Char) : Decidable (IsCaseless q) := inferInstanceAs (Decidable (_ ∧ _))

theorem IsCaseless.toLower_eq_iff {q : Char} (hq : IsCaseless q) {c : Char} :
    c.toLower = q ↔ c = q := by
  constructor
  · intro h
    obtain heq | hsmall := toLower_cases c
    · exact heq.symm.trans h
    · exact absurd (h ▸ hsmall) hq.2
  · rintro rfl
    exact hq.1

theorem IsCaseless.mem_foldCase_iff {q : Char} (hq : IsCaseless q) {s : Text} :
    q ∈ foldCase s ↔ q ∈ s := by
  rw [foldCase, List.mem_map]
  constructor
  · rintro ⟨c, hc, hlower⟩
    rwa [← hq.toLower_eq_iff.mp hlower]
  · intro hs
    exact ⟨q, hs, hq.1⟩

theorem reverse_foldCase (s : Text) : (foldCase s).reverse = foldCase s.reverse :=
  List.map_reverse.symm

theorem dropWhile_foldCase (s : Text) :
    (foldCase s).dropWhile isBlank = foldCase (s.dropWhile isBlank) := by
  have hclass : isBlank ∘ Char.toLower = isBlank := funext isBlank_toLower
  rw [foldCase, List.dropWhile_map, hclass]
  rfl

theorem trim_foldCase (s : Text) : trim (foldCase s) = foldCase (trim s) := by
  rw [trim, trimStart, dropWhile_foldCase, trimEnd, dropEndWhile, reverse_foldCase,
    dropWhile_foldCase, reverse_foldCase]
  rfl

theorem IsCaseless.dropPrefix?_foldCase {q : Char} (hq : IsCaseless q) (s : Text) :
    dropPrefix? [q] (foldCase s) = (dropPrefix? [q] s).map foldCase := by
  cases s with
  | nil => rfl
  | cons c s =>
    have hc : (q == c.toLower) = (q == c) := by
      rw [Bool.eq_iff_iff, beq_iff_eq, beq_iff_eq, eq_comm, hq.toLower_eq_iff, eq_comm]
    simp only [foldCase, List.map_cons, dropPrefix?, hc]
    split <;> rfl

theorem IsCaseless.dropSuffix?_foldCase {q : Char} (hq : IsCaseless q) (s : Text) :
    dropSuffix? [q] (foldCase s) = (dropSuffix? [q] s).map foldCase := by
  have hreverse : List.reverse ∘ foldCase = foldCase ∘ List.reverse := funext reverse_foldCase
  rw [dropSuffix?, List.reverse_singleton, reverse_foldCase, hq.dropPrefix?_foldCase,
    Option.map_map, hreverse, dropSuffix?, List.reverse_singleton, Option.map_map]

theorem IsCaseless.breakLast?_foldCase {q : Char} (hq : IsCaseless q) (s : Text) :
    breakLast? (· == q) (foldCase s) =
      (breakLast? (· == q) s).map fun (before, c, after) =>
        (foldCase before, c, foldCase after) := by
  induction s with
  | nil => rfl
  | cons d s ih =>
    have hrest : breakLast? (· == q) (s.map Char.toLower) = breakLast? (· == q) (foldCase s) := rfl
    rw [foldCase, List.map_cons, breakLast?, breakLast?, hrest, ih]
    cases breakLast? (· == q) s with
    | some found => rfl
    | none =>
      by_cases hd : d = q
      · subst hd
        simp [hq.1, foldCase]
      · have hlower : d.toLower ≠ q := mt hq.toLower_eq_iff.mp hd
        simp [hd, hlower]

end Text

namespace Address

theorem isForbidden_toLower (c : Char) : isForbidden c.toLower = isForbidden c := by
  by_cases hc : c.toNat < 0x80
  · exact Text.forall_ascii (P := fun c => isForbidden c.toLower = isForbidden c) (by decide) hc
  · rw [Text.toLower_of_not_ascii hc]

theorem forall_allowed_foldCase_iff {s : Text} :
    (∀ c ∈ Text.foldCase s, isForbidden c = false) ↔ ∀ c ∈ s, isForbidden c = false := by
  simp only [Text.foldCase, List.forall_mem_map, isForbidden_toLower]

theorem unbracket_foldCase (s : Text) :
    unbracket (Text.foldCase s) = Text.foldCase (unbracket s) := by
  have hopen : Text.IsCaseless '<' := by decide
  have hclose : Text.IsCaseless '>' := by decide
  rw [unbracket, hopen.dropPrefix?_foldCase, unbracket]
  cases Text.dropPrefix? ['<'] s with
  | none => rfl
  | some inner =>
    rw [Option.map_some]
    dsimp only
    rw [hclose.dropSuffix?_foldCase, Option.getD_map]

theorem bare_foldCase (s : Text) : bare (Text.foldCase s) = Text.foldCase (bare s) := by
  rw [bare, Text.trim_foldCase, unbracket_foldCase, Text.trim_foldCase, bare]

/-! ## 2. Addresses and their texts -/

/-- The address can be told from its text: the text has no character that is not allowed, and its
last `@` is the one in front of the domain. -/
structure Readable (a : Address) : Prop where
  localPart_ne_nil : a.localPart ≠ []
  allowed : ∀ c ∈ a.text, isForbidden c = false
  noAt_of_bare : a.domain = none → '@' ∉ a.localPart
  domain_ne_nil : ∀ d ∈ a.domain, d ≠ []
  noAt_domain : ∀ d ∈ a.domain, '@' ∉ d

variable {a b : Address} {input : Text}

/-- The parts of an address are the parts of its text. -/
theorem Readable.breakLast?_text (h : a.Readable) :
    Text.breakLast? (· == '@') a.text = a.domain.map fun d => (a.localPart, '@', d) := by
  unfold text
  cases hdomain : a.domain with
  | none =>
    refine Text.breakLast?_eq_none_iff.mpr fun c hc => beq_eq_false_iff_ne.mpr ?_
    rintro rfl
    exact h.noAt_of_bare hdomain hc
  | some d =>
    refine Text.breakLast?_append rfl (fun c hc => beq_eq_false_iff_ne.mpr ?_) a.localPart
    rintro rfl
    exact h.noAt_domain d hdomain hc

theorem readable_of_parse (h : parse input = .ok a) : a.Readable := by
  have hnormal := normal_of_parse h
  have hat : Text.IsCaseless '@' := by decide
  simp only [parse] at h
  split_ifs at h
  split at h
  · next localPart at_ domain hbreak =>
    split_ifs at h with hparts
    cases h
    rw [Bool.or_eq_true, not_or] at hparts
    have hdomain := (Text.breakLast?_eq_some hbreak).2
    refine ⟨hnormal.localPart_ne_nil, hnormal.allowed, ?_, ?_, ?_⟩
    · rintro ⟨⟩
    · rintro _ ⟨⟩
      exact foldCase_ne_nil fun hnil => hparts.2 (List.isEmpty_iff.mpr hnil)
    · rintro _ ⟨⟩
      rw [hat.mem_foldCase_iff]
      intro hmem
      simpa using hdomain '@' hmem
  · next hbreak =>
    cases h
    refine ⟨hnormal.localPart_ne_nil, hnormal.allowed, fun _ => ?_, ?_, ?_⟩
    · rw [hat.mem_foldCase_iff]
      intro hmem
      simpa using Text.breakLast?_eq_none_iff.mp hbreak '@' hmem
    · rintro _ ⟨⟩
    · rintro _ ⟨⟩

/-- The texts that read as an address: what remains of them is the text of the address, in whatever
case. -/
theorem parse_eq_ok_iff :
    parse input = .ok a ↔ a.Readable ∧ Text.foldCase (bare input) = a.text := by
  constructor
  · intro h
    exact ⟨readable_of_parse h, (text_of_parse h).symm⟩
  · rintro ⟨hreadable, htext⟩
    have hat : Text.IsCaseless '@' := by decide
    have hempty : ¬(bare input).isEmpty = true := by
      rw [List.isEmpty_iff]
      intro hnil
      rw [hnil] at htext
      exact text_ne_nil hreadable.localPart_ne_nil htext.symm
    have hforbidden : ¬(bare input).any isForbidden = true := by
      have hallowed := hreadable.allowed
      rw [← htext, forall_allowed_foldCase_iff] at hallowed
      simpa using hallowed
    unfold parse
    dsimp only
    rw [if_neg hempty, if_neg hforbidden]
    have hparts := hreadable.breakLast?_text
    rw [← htext, hat.breakLast?_foldCase] at hparts
    obtain ⟨aLocal, aDomain⟩ := a
    cases hbreak : Text.breakLast? (· == '@') (bare input) with
    | none =>
      rw [hbreak, Option.map_none, eq_comm, Option.map_eq_none_iff] at hparts
      cases hparts
      exact congrArg (fun t : Text => (Except.ok ⟨t, none⟩ : Except AddressError Address)) htext
    | some found =>
      obtain ⟨localPart, at_, domain⟩ := found
      rw [hbreak, Option.map_some, eq_comm, Option.map_eq_some_iff] at hparts
      obtain ⟨d, hd, heq⟩ := hparts
      cases hd
      cases heq
      have hlocal : localPart ≠ [] := by
        rintro rfl
        exact hreadable.localPart_ne_nil rfl
      have hdomain : domain ≠ [] := by
        rintro rfl
        exact hreadable.domain_ne_nil _ rfl rfl
      dsimp only
      rw [if_neg (by simp [hlocal, hdomain])]
      rfl

/-! ## 3. Reading an address again -/

/-- The text stands between a `<` and a `>`. -/
def Bracketed (s : Text) : Prop := ∃ inner, s = '<' :: (inner ++ ['>'])

theorem unbracket_of_not_bracketed {s : Text} (h : ¬Bracketed s) : unbracket s = s := by
  unfold unbracket
  cases hopen : Text.dropPrefix? ['<'] s with
  | none => rfl
  | some rest =>
    dsimp only
    cases hclose : Text.dropSuffix? ['>'] rest with
    | none => rfl
    | some inner =>
      obtain rfl := Text.eq_append_of_dropPrefix? hopen
      obtain rfl := Text.eq_append_of_dropSuffix? hclose
      exact absurd ⟨inner, rfl⟩ h

theorem bracketed_foldCase_iff {s : Text} : Bracketed (Text.foldCase s) ↔ Bracketed s := by
  have hopen : Text.IsCaseless '<' := by decide
  have hclose : Text.IsCaseless '>' := by decide
  constructor
  · rintro ⟨inner, hinner⟩
    obtain ⟨c, rest, rfl, hc, hrest⟩ := List.map_eq_cons_iff.mp hinner
    obtain ⟨inner, last, rfl, -, hlast⟩ := List.map_eq_append_iff.mp hrest
    obtain ⟨d, hd, hlower⟩ := List.map_eq_singleton_iff.mp hlast
    rw [hd, hopen.toLower_eq_iff.mp hc, hclose.toLower_eq_iff.mp hlower]
    exact ⟨inner, rfl⟩
  · rintro ⟨inner, rfl⟩
    exact ⟨Text.foldCase inner, by simp [Text.foldCase, hopen.1, hclose.1]⟩

theorem bare_of_not_bracketed {s : Text} (hallowed : ∀ c ∈ s, isForbidden c = false)
    (h : ¬Bracketed s) :
    bare s = s := by
  have htrim : Text.trim s = s :=
    Text.trim_of_forall_not_isBlank fun c hc => isBlank_of_not_isForbidden (hallowed c hc)
  rw [bare, htrim, unbracket_of_not_bracketed h, htrim]

/-- Where the address stands in brackets, it loses them and names another mailbox, or none. -/
theorem text_ne_of_bracketed (ha : Bracketed a.text)
    (hallowed : ∀ c ∈ a.text, isForbidden c = false) (hb : parse a.text = .ok b) :
    b.text ≠ a.text := by
  have htrim : Text.trim a.text = a.text :=
    Text.trim_of_forall_not_isBlank fun c hc => isBlank_of_not_isForbidden (hallowed c hc)
  obtain ⟨inner, hinner⟩ := ha
  rw [hinner] at hallowed
  have hinnerAllowed : ∀ c ∈ inner, Text.isBlank c = false := fun c hc =>
    isBlank_of_not_isForbidden (hallowed c (by simp [hc]))
  have hbare : bare a.text = inner := by
    rw [bare, htrim, hinner, unbracket_bracketed, Text.trim_of_forall_not_isBlank hinnerAllowed]
  intro heq
  have hlength := congrArg List.length (text_of_parse hb)
  rw [heq, hbare, hinner, Text.foldCase, List.length_map, List.length_cons,
    List.length_append] at hlength
  omega

/-- Two addresses have the same records, and replies to them go to the same place. -/
structure Interchangeable (a b : Address) : Prop where
  text : b.text = a.text
  key_sender : ∀ recipient, Key.of b recipient = Key.of a recipient
  key_recipient : ∀ sender, Key.of sender b = Key.of sender a

/-- Keys are made from the text of an address, and not from its parts. -/
theorem interchangeable_iff : a.Interchangeable b ↔ b.text = a.text := by
  constructor
  · exact Interchangeable.text
  · intro htext
    have hfingerprint : Key.fingerprint b = Key.fingerprint a := by
      rw [Key.fingerprint, Key.fingerprint, htext]
    exact ⟨htext, fun _ => Key.of_eq_iff.mpr ⟨rfl, hfingerprint⟩,
      fun _ => Key.of_eq_iff.mpr ⟨htext, rfl⟩⟩

/-- A text in another case reads as the same address. The address itself, as it is written, reads as
itself or as one that may take its place exactly if what was read had no further brackets around
it. -/
theorem parse_text_iff {s : Text} (h : parse s = .ok a) :
    (∀ t, Text.foldCase t = Text.foldCase s → parse t = .ok a) ∧
      (parse a.text = .ok a ↔ ¬Bracketed (bare s)) ∧
        ∀ b, parse a.text = .ok b → (a.Interchangeable b ↔ ¬Bracketed (bare s)) := by
  obtain ⟨hreadable, htext⟩ := parse_eq_ok_iff.mp h
  have hbracketed : Bracketed a.text ↔ Bracketed (bare s) := by rw [← htext, bracketed_foldCase_iff]
  have hself : ¬Bracketed (bare s) → parse a.text = .ok a := by
    intro hbare
    refine parse_eq_ok_iff.mpr ⟨hreadable, ?_⟩
    rw [bare_of_not_bracketed hreadable.allowed (mt hbracketed.mp hbare), ← htext,
      Text.foldCase_foldCase]
  have hother : ∀ b, parse a.text = .ok b → b.text = a.text → ¬Bracketed (bare s) :=
    fun b hb heq hbare =>
    text_ne_of_bracketed (hbracketed.mpr hbare) hreadable.allowed hb heq
  refine ⟨?_, ⟨fun hparse => hother a hparse rfl, hself⟩, ?_⟩
  · intro t ht
    refine parse_eq_ok_iff.mpr ⟨hreadable, ?_⟩
    rw [← bare_foldCase, ht, bare_foldCase, htext]
  · intro b hb
    rw [interchangeable_iff]
    refine ⟨hother b hb, fun hbare => ?_⟩
    cases (hself hbare).symm.trans hb
    rfl

/-- A bracket that is not closed, blanks within the outer ones, and two `@`. -/
theorem parse_text_openBracket :
    parse "< <A@B@c.D >".toList = .ok ⟨"<a@b".toList, some "c.d".toList⟩ ∧
      parse "<a@b@c.d".toList = .ok ⟨"<a@b".toList, some "c.d".toList⟩ := by
  have hparse : parse "< <A@B@c.D >".toList = .ok ⟨"<a@b".toList, some "c.d".toList⟩ := by decide
  refine ⟨hparse, (parse_text_iff hparse).2.1.mpr ?_⟩
  rintro ⟨inner, hinner⟩
  have hbare : bare "< <A@B@c.D >".toList = "<A@B@c.D".toList := by decide
  have hlast := congrArg List.getLast? (hbare.symm.trans hinner)
  rw [← List.cons_append, List.getLast?_concat] at hlast
  exact absurd hlast (by decide)

theorem not_forall_parse_text :
    ¬∀ (s : Text) (a : Address), parse s = .ok a →
      parse a.text = .ok a ∧ ∀ t, Text.foldCase t = Text.foldCase s → parse t = .ok a := by
  intro h
  have hparse : parse "<<a@b.c>>".toList = .ok ⟨"<a".toList, some "b.c>".toList⟩ := by decide
  have hagain : parse "<a@b.c>".toList = .ok ⟨"a".toList, some "b.c".toList⟩ := by decide
  have hsame : parse "<a@b.c>".toList = .ok ⟨"<a".toList, some "b.c>".toList⟩ := (h _ _ hparse).1
  cases hagain.symm.trans hsame

end Address
end Autoresponder
