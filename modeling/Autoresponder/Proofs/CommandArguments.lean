import Autoresponder.Delivery
import Autoresponder.Proofs.Addresses
import Autoresponder.Proofs.AutomaticMail
import Mathlib.Data.List.Forall2
import Mathlib.Data.List.Infix
/-!
# Arguments of the delivery command

The sender of a message chooses a part of the command that delivers the answer. That this is only
ever the part that the command line sets aside for it rests on two things.

1. Screening answers to none but `Harmless` addresses: they are no option, they have no blank, and
   they do not belong to a program (`Inbound.harmless_of_screen`).
2. The command line is cut into words before the address is put in, so there is one argument for
   each word. Filling in looks at a word twice: `$S` is looked for when the address stands in the
   word already. What it finds there cannot be a part of the address, since `S` is a capital, and
   addresses have none. So both placeholders are filled in as if at once
   (`Text.replace_placeholders`), unless `$RS` stands in the word, where a `$` at the end of an
   address would come before an `S`.

Both together say what a sender can do to the command (`DeliveryCommand.commandFor_filledIn`).
-/

namespace Autoresponder

open Screening

/-! ## 1. Addresses that get an answer -/

/-- Nothing that a mail program does special things with. -/
structure Address.Harmless (a : Address) : Prop where
  ne_nil : a.text ≠ []
  noOption : a.text.head? ≠ some '-'
  plain : ∀ c ∈ a.text, Text.isBlank c = false ∧ Text.isControl c = false ∧ c.isUpper = false
  noProgram : a.localPart ∉
    ["postmaster".toList, "uucp".toList, "mailer".toList, "mailer-daemon".toList]
  noService : ¬"-request".toList <:+ a.localPart ∧ ¬"-relay".toList <:+ a.localPart

namespace Screening

theorem isRestricted_eq_false_iff {localPart : Text} :
    isRestricted localPart = false ↔
      localPart.head? ≠ some '-' ∧
        localPart ∉ ["postmaster".toList, "uucp".toList, "mailer".toList, "mailer-daemon".toList] ∧
        ¬"-request".toList <:+ localPart ∧ ¬"-relay".toList <:+ localPart := by
  have hoption : Text.startsWith ['-'] localPart = false ↔ localPart.head? ≠ some '-' := by
    rw [← Bool.not_eq_true, Text.startsWith_iff, List.singleton_prefix_iff_head?_eq_some]
  have hending (post : Text) : Text.endsWith post localPart = false ↔ ¬post <:+ localPart := by
    rw [← Bool.not_eq_true, Text.endsWith_iff]
  simp only [isRestricted, List.any_cons, List.any_nil, Bool.or_false, Bool.or_eq_false_iff,
    hoption, hending, beq_eq_false_iff_ne, List.mem_cons, List.not_mem_nil, or_false, not_or,
    and_assoc, ne_comm (a := localPart)]

theorem exists_parse_of_resolveSender {raw : Text} {s : Address}
    (h : resolveSender raw = .reply s) :
    (∃ input, Address.parse input = .ok s) ∧ isRestricted s.localPart = false := by
  unfold resolveSender at h
  dsimp only at h
  split_ifs at h
  split at h
  · cases h
  · next sender hparse =>
    split_ifs at h with hrestricted
    cases h
    exact ⟨⟨_, hparse⟩, Bool.eq_false_iff.mpr hrestricted⟩

end Screening

theorem Inbound.exists_resolveSender_of_screen {m : Inbound} {envelope : Option Text}
    {aliases : List Text} {s : Address} (h : m.screen envelope aliases = .reply s) :
    ∃ raw, resolveSender raw = .reply s := by
  unfold screen at h
  split at h
  · cases h
  · split at h
    · cases h
    · split_ifs at h
      exact ⟨_, h⟩

theorem Inbound.harmless_of_screen {m : Inbound} {envelope : Option Text} {aliases : List Text}
    {s : Address} (h : m.screen envelope aliases = .reply s) : s.Harmless := by
  obtain ⟨raw, hraw⟩ := exists_resolveSender_of_screen h
  obtain ⟨⟨input, hparse⟩, hrestricted⟩ := exists_parse_of_resolveSender hraw
  have hnormal := Address.normal_of_parse hparse
  obtain ⟨hoption, hprogram, hservice⟩ := isRestricted_eq_false_iff.mp hrestricted
  exact {
    ne_nil := Address.text_ne_nil hnormal.localPart_ne_nil
    noOption := by rwa [Address.head?_text hnormal.localPart_ne_nil]
    plain := fun c hc => ⟨isBlank_of_not_isForbidden (hnormal.allowed c hc),
      isControl_of_not_isForbidden (hnormal.allowed c hc), hnormal.small c hc⟩
    noProgram := hprogram
    noService := hservice }

/-! ## 2. Placeholders -/

namespace Text

/-- The text with the recipient for each `$R` and nothing for each `$S`, in one pass. -/
def substitute (recipient : Text) : Text → Text
  | [] => []
  | '$' :: 'R' :: s => recipient ++ substitute recipient s
  | '$' :: 'S' :: s => substitute recipient s
  | c :: s => c :: substitute recipient s

variable {recipient : Text}

/-- Filling in an address puts no capital where there was none. -/
theorem head?_replace_ne (hne : recipient ≠ []) (hcapital : 'S' ∉ recipient) {s : Text}
    (h : s.head? ≠ some 'S') :
    (replace ['$', 'R'] recipient s).head? ≠ some 'S' := by
  cases s with
  | nil => exact nofun
  | cons c s =>
    by_cases hhere : ['$', 'R'] <+: c :: s
    · obtain ⟨rest, hrest⟩ := hhere
      rw [← hrest, replace_append_self (by decide), List.head?_append_of_ne_nil _ hne]
      exact fun hhead => hcapital (List.mem_of_mem_head? hhead)
    · rwa [replace_cons hhere]

/-- A text without the second character of the pattern stays, unless the pattern reaches over its
end. -/
theorem replace_append_of_not_mem (hcapital : 'S' ∉ recipient) {s : Text} (h : s.head? ≠ some 'S')
    (new : Text) :
    replace ['$', 'S'] new (recipient ++ s) = recipient ++ replace ['$', 'S'] new s := by
  induction recipient with
  | nil => rfl
  | cons c recipient ih =>
    rw [List.mem_cons, not_or] at hcapital
    have hnext : (recipient ++ s).head? ≠ some 'S' := by
      cases recipient with
      | nil => exact h
      | cons d recipient => exact fun hd => hcapital.2 (List.mem_of_mem_head? hd)
    have hhere : ¬['$', 'S'] <+: c :: (recipient ++ s) := by
      rintro ⟨rest, hrest⟩
      exact hnext (by rw [← (List.cons.inj hrest).2]; rfl)
    rw [List.cons_append, replace_cons hhere, ih hcapital.2]
    rfl

/-- Filling in one placeholder after the other is filling in both at once. -/
theorem replace_placeholders (hne : recipient ≠ []) (hcapital : 'S' ∉ recipient) {word : Text}
    (h : ¬['$', 'R', 'S'] <:+: word) :
    replace ['$', 'S'] [] (replace ['$', 'R'] recipient word) = substitute recipient word := by
  fun_induction substitute recipient word with
  | case1 => rfl
  | case2 s ih =>
    have hnext : s.head? ≠ some 'S' := by
      intro hs
      obtain ⟨s, rfl⟩ := List.head?_eq_some_iff.mp hs
      exact h ⟨[], s, rfl⟩
    have hrest : ¬['$', 'R', 'S'] <:+: s :=
      fun hs => h (hs.trans (List.suffix_append ['$', 'R'] s).isInfix)
    have hfilled : replace ['$', 'R'] recipient ('$' :: 'R' :: s) =
        recipient ++ replace ['$', 'R'] recipient s :=
      replace_append_self (by decide) recipient s
    rw [hfilled, replace_append_of_not_mem hcapital (head?_replace_ne hne hcapital hnext), ih hrest]
  | case3 s ih =>
    have hrest : ¬['$', 'R', 'S'] <:+: s :=
      fun hs => h (hs.trans (List.suffix_append ['$', 'S'] s).isInfix)
    have hnoR : ¬['$', 'R'] <+: '$' :: 'S' :: s ∧ ¬['$', 'R'] <+: 'S' :: s := by
      simp [List.cons_prefix_cons]
    have hemptied (s : Text) : replace ['$', 'S'] [] ('$' :: 'S' :: s) = replace ['$', 'S'] [] s :=
      replace_append_self (by decide) [] s
    rw [replace_cons hnoR.1, replace_cons hnoR.2, hemptied, ih hrest]
  | case4 c s hR hS ih =>
    have hrest : ¬['$', 'R', 'S'] <:+: s := fun hs => h (hs.trans (List.suffix_cons c s).isInfix)
    have hnoR : ¬['$', 'R'] <+: c :: s := by
      rintro ⟨rest, heq⟩
      cases heq
      exact hR rest rfl rfl
    have hnoS : ¬['$', 'S'] <+: c :: replace ['$', 'R'] recipient s := by
      rintro ⟨rest, heq⟩
      obtain ⟨rfl, hfilled⟩ := List.cons.inj heq
      have hnext : s.head? ≠ some 'S' := by
        intro hs
        obtain ⟨s, rfl⟩ := List.head?_eq_some_iff.mp hs
        exact hS s rfl rfl
      refine head?_replace_ne hne hcapital hnext ?_
      rw [← hfilled]
      rfl
    rw [replace_cons hnoR, replace_cons hnoS, ih hrest]

/-- With `$RS`, an `S` of the word can meet a `$` of the address. -/
example : replace ['$', 'S'] [] (replace ['$', 'R'] "a$".toList "$RS".toList) = "a".toList ∧
    substitute "a$".toList "$RS".toList = "a$S".toList := by
  decide

theorem substitute_of_not_infix {word : Text} (hR : ¬['$', 'R'] <:+: word)
    (hS : ¬['$', 'S'] <:+: word) :
    substitute recipient word = word := by
  fun_induction substitute recipient word with
  | case1 => rfl
  | case2 s ih => exact absurd (List.prefix_append ['$', 'R'] s).isInfix hR
  | case3 s ih => exact absurd (List.prefix_append ['$', 'S'] s).isInfix hS
  | case4 c s _ _ ih =>
    have hs : s <:+: c :: s := (List.suffix_cons c s).isInfix
    rw [ih (mt (·.trans hs) hR) (mt (·.trans hs) hS)]

end Text

/-! ## 3. Arguments -/

/-- What a word of the command line becomes. -/
structure FilledIn (recipient word argument : Text) : Prop where
  /-- The word for the recipient is the recipient and nothing else. -/
  alone : word = ['$', 'R'] → argument = recipient
  unchanged : ¬['$', 'R'] <:+: word → ¬['$', 'S'] <:+: word → argument = word
  atOnce : ¬['$', 'R', 'S'] <:+: word → argument = Text.substitute recipient word

namespace DeliveryCommand

theorem filledIn {s : Address} (h : s.Harmless) (word : Text) :
    FilledIn s.text word (fillIn s word) := by
  have hcapital : 'S' ∉ s.text := fun hS => Bool.noConfusion (h.plain 'S' hS).2.2
  have hboth {word : Text} (hRS : ¬['$', 'R', 'S'] <:+: word) :
      fillIn s word = Text.substitute s.text word :=
    Text.replace_placeholders h.ne_nil hcapital hRS
  refine ⟨?_, fun hR hS => ?_, hboth⟩
  · rintro rfl
    rw [hboth (by decide)]
    exact List.append_nil _
  · have hRS : ¬['$', 'R', 'S'] <:+: word :=
      mt (List.prefix_append ['$', 'R'] ['S']).isInfix.trans hR
    rw [hboth hRS, Text.substitute_of_not_infix hR hS]

theorem parse_eq_ok_iff {line : Text} {c : DeliveryCommand} :
    parse line = .ok c ↔ Words.split? line = some c.words := by
  obtain ⟨program, arguments⟩ := c
  unfold parse
  cases Words.split? line with
  | none => simp
  | some ws => cases ws <;> simp [words]

theorem words_commandFor (c : DeliveryCommand) (recipient : Address) :
    (c.commandFor recipient).words = c.words.map (fillIn recipient) := rfl

/-- Whoever sends whatever message: the address that is answered is harmless, and it stands in the
arguments where the command line has a place for it, and nowhere else. -/
theorem commandFor_filledIn {m : Inbound} {envelope : Option Text} {aliases : List Text}
    {s : Address} (hreply : m.screen envelope aliases = .reply s) {line : Text}
    {c : DeliveryCommand} (hparse : parse line = .ok c) :
    s.Harmless ∧ ∃ ws, Words.split? line = some ws ∧ (c.commandFor s).words.length = ws.length ∧
      List.Forall₂ (FilledIn s.text) ws (c.commandFor s).words := by
  have hharmless := Inbound.harmless_of_screen hreply
  refine ⟨hharmless, c.words, parse_eq_ok_iff.mp hparse, ?_, ?_⟩
  · rw [words_commandFor, List.length_map]
  · rw [words_commandFor, List.forall₂_map_right_iff, List.forall₂_same]
    exact fun word _ => filledIn hharmless word

/-- An address that is called after the placeholders. -/
def dollarSender : Address := ⟨"x$s.$r".toList, some "example.com$".toList⟩

def quotedCommand : DeliveryCommand :=
  ⟨"/opt/mail er".toList, ["-f$S".toList, "$R".toList, "to=$R,$$R;$S".toList]⟩

theorem commandFor_dollarSender :
    ({ recipients := ["b@example.com".toList] } : Inbound).screen
        (some " <X$S.$R@Example.com$>\t".toList) ["b".toList] = .reply dollarSender ∧
      parse "'/opt/mail er' -f\"$S\" $R to=$R,\\$$R';'$S # $R".toList = .ok quotedCommand ∧
      dollarSender.Harmless ∧
      (quotedCommand.commandFor dollarSender).words =
        ["/opt/mail er".toList, "-f".toList, "x$s.$r@example.com$".toList,
          "to=x$s.$r@example.com$,$x$s.$r@example.com$;".toList] := by
  have hreply : ({ recipients := ["b@example.com".toList] } : Inbound).screen
      (some " <X$S.$R@Example.com$>\t".toList) ["b".toList] = .reply dollarSender := by
    decide +kernel
  have hparse : parse "'/opt/mail er' -f\"$S\" $R to=$R,\\$$R';'$S # $R".toList =
      .ok quotedCommand := by
    decide +kernel
  obtain ⟨hharmless, -⟩ := commandFor_filledIn hreply hparse
  exact ⟨hreply, hparse, hharmless, by decide +kernel⟩

end DeliveryCommand
end Autoresponder
