import Autoresponder.Proofs.Addresses
import Autoresponder.Proofs.AutomaticMail
import Autoresponder.Proofs.HeaderLines
import Autoresponder.Suppression.Key
import Mathlib.Data.List.Infix
/-!
# Messages that were forwarded

A forwarder writes the sender of a message into a sender of its own. Whoever wrote the message is
the one to answer, not the forwarder, and a reply to the same author is the same reply whichever way
the message came.

1. A `Forwarding` is what a forwarder knows: the author, in two parts, and parts of its own.
   `Forwarding.Writes` says how it puts them down, and what a second forwarder makes of it.
2. Nothing of what a forwarder adds can hide the author: `undo?` gives back the author of everything
   that was written so (`undo?_of_writes`), also if the local part of the author looks like parts of
   the form.
3. So a message is screened as if its author had sent it (`Inbound.screen_forwarded`). The verdicts
   differ just where the author is no address and the sender is what decides: a sender that cannot
   be read is reported as the mail system named it (`not_forall_screen_forwarded`).
-/

namespace Autoresponder

namespace ForwardedSender

/-! ## 1. What forwarders write -/

/-- A part of a sender, without blanks, control characters and brackets. -/
structure IsPart (s : Text) : Prop where
  ne_nil : s ≠ []
  plain : ∀ c ∈ s, Address.isForbidden c = false ∧ c ≠ '<' ∧ c ≠ '>'

theorem isPart_iff {s : Text} :
    IsPart s ↔
      (!s.isEmpty && s.all fun c => !Address.isForbidden c && c != '<' && c != '>') = true := by
  simp only [Bool.and_eq_true, Bool.not_eq_true', List.isEmpty_eq_false_iff, List.all_eq_true,
    bne_iff_ne, and_assoc]
  exact ⟨fun h => ⟨h.ne_nil, h.plain⟩, fun h => ⟨h.1, h.2⟩⟩

instance (s : Text) : Decidable (IsPart s) := decidable_of_iff' _ isPart_iff

/-- A message of `localPart@domain` on its way through a forwarder. Hash, stamp and domain end with
an `=`, so they have none inside; a local part may have anything in it. -/
structure Forwarding where
  hash : Text
  stamp : Text
  domain : Text
  localPart : Text
  forwarder : Text
  isPart : ∀ s ∈ [hash, stamp, domain, localPart, forwarder], IsPart s
  noEquals : ∀ s ∈ [hash, stamp, domain], '=' ∉ s
  noAt : '@' ∉ forwarder

namespace Forwarding

/-- Who wrote the message. -/
def author (f : Forwarding) : Text := f.localPart ++ '@' :: f.domain

/-- What the forwarder writes behind the tag. -/
def chain (f : Forwarding) : Text :=
  f.hash ++ '=' :: (f.stamp ++ '=' :: (f.domain ++ '=' :: (f.localPart ++ '@' :: f.forwarder)))

/-- The senders that name the author of a forwarded message. The tag may be written in any case. -/
inductive Writes (f : Forwarding) : Text → Prop where
  | once {tag : Text} {separator : Char} (htag : Text.foldCase tag = "srs".toList)
      (hseparator : isSeparator separator = true) :
      Writes f (tag ++ '0' :: separator :: f.chain)
  /-- A second forwarder puts its own hash and the host of the first in front of what that one
  wrote. -/
  | twice {tag : Text} {separator : Char} {hash host : Text}
      (htag : Text.foldCase tag = "srs".toList)
      (hseparator : isSeparator separator = true) (hash_ne : hash ≠ []) (hash_noEquals : '=' ∉ hash)
      (host_ne : host ≠ []) (host_noEquals : '=' ∉ host) :
      Writes f (tag ++ '1' :: separator :: (hash ++ '=' :: (host ++ '=' :: '=' :: f.chain)))

variable (f : Forwarding)

theorem localPart_isPart : IsPart f.localPart := f.isPart _ (by simp)

theorem domain_isPart : IsPart f.domain := f.isPart _ (by simp)

theorem forwarder_isPart : IsPart f.forwarder := f.isPart _ (by simp)

theorem nine_le_length_chain : 9 ≤ f.chain.length := by
  have hlength : ∀ s ∈ [f.hash, f.stamp, f.domain, f.localPart, f.forwarder], 0 < s.length :=
    fun s hs => List.length_pos_iff.mpr (f.isPart s hs).ne_nil
  simp only [List.forall_mem_cons, List.not_mem_nil, false_implies, implies_true,
    and_true] at hlength
  simp only [chain, List.length_append, List.length_cons]
  omega

theorem domainAndTail?_chain :
    domainAndTail? f.chain = some (f.domain, f.localPart ++ '@' :: f.forwarder) := by
  have hno := f.noEquals
  simp only [List.forall_mem_cons, List.not_mem_nil, false_implies, implies_true, and_true] at hno
  obtain ⟨hhash, hstamp, hdomain⟩ := hno
  rw [chain, domainAndTail?, Text.breakOn?_singleton hhash]
  dsimp only
  rw [Text.breakOn?_singleton hstamp]
  dsimp only
  rw [Text.breakOn?_singleton hdomain]

end Forwarding

/-! ## 2. Who wrote the message -/

theorem exists_letters_of_tag {tag : Text} (h : Text.foldCase tag = "srs".toList) :
    ∃ a b c, tag = [a, b, c] := by
  refine List.length_eq_three.mp ?_
  rw [← List.length_map (f := Char.toLower), ← Text.foldCase, h]
  rfl

theorem noEquals_tag {tag : Text} (h : Text.foldCase tag = "srs".toList) : '=' ∉ tag := by
  intro hmem
  have hfolded : '='.toLower ∈ Text.foldCase tag := List.mem_map_of_mem hmem
  rw [h] at hfolded
  exact absurd hfolded (by decide)

/-- A tag, a level and a separator at the start are recognised if enough follows. -/
theorem hashed?_tagged {tag : Text} (htag : Text.foldCase tag = "srs".toList) {separator : Char}
    (hseparator : isSeparator separator = true) {rest : Text} (hrest : 9 ≤ rest.length)
    (level : Char) :
    hashed? (tag ++ level :: separator :: rest) =
      if level == '0' then some rest
      else if level == '1' then
        (Text.breakOn? ['=', '='] (tag ++ level :: separator :: rest)).map Prod.snd
      else none := by
  obtain ⟨a, b, c, rfl⟩ := exists_letters_of_tag htag
  have hwide : ¬Utf8.width (a :: b :: c :: level :: separator :: rest) ≤ 13 := by
    have hwidth := Utf8.length_le_width (a :: b :: c :: level :: separator :: rest)
    simp only [List.length_cons] at hwidth
    omega
  have hsame : Text.sameFolded [a, b, c] ['s', 'r', 's'] = true :=
    (Text.sameFolded_iff_of_small (by decide)).mpr htag
  simp only [hashed?, List.cons_append, List.nil_append]
  rw [if_neg]
  simp [hwide, hsame, hseparator]

/-- What stands behind the first `==`. -/
theorem breakOn?_doubled_append {before : Text} (h : '=' ∉ before) (s : Text) :
    (Text.breakOn? ['=', '='] (before ++ s)).map Prod.snd =
      (Text.breakOn? ['=', '='] s).map Prod.snd := by
  rw [Text.breakOn?_append h, Option.map_map]
  rfl

/-- A part behind a separator keeps an `=` there from being the first of two. -/
theorem breakOn?_doubled_cons {part : Text} (hne : part ≠ []) (h : '=' ∉ part) (separator : Char)
    (s : Text) :
    (Text.breakOn? ['=', '='] (separator :: (part ++ s))).map Prod.snd =
      (Text.breakOn? ['=', '='] s).map Prod.snd := by
  obtain ⟨c, part, rfl⟩ := List.exists_cons_of_ne_nil hne
  have hc : '=' ≠ c := (List.ne_and_not_mem_of_not_mem_cons h).1
  have hhere : Text.dropPrefix? ['=', '='] (separator :: (c :: part ++ s)) = none := by
    simp [Text.dropPrefix?, hc]
  rw [Text.breakOn?_cons hhere, Option.map_map, ← breakOn?_doubled_append h s]
  rfl

theorem hashed?_of_writes {f : Forwarding} {sender : Text} (h : f.Writes sender) :
    hashed? sender = some f.chain := by
  have hchain := f.nine_le_length_chain
  cases h with
  | once htag hseparator =>
    rw [hashed?_tagged htag hseparator hchain]
    rfl
  | @twice tag separator hash host htag hseparator hash_ne hash_noEquals host_ne host_noEquals =>
    have hlevel : '=' ∉ tag ++ ['1'] := by simpa using noEquals_tag htag
    have hlength : 9 ≤ (hash ++ '=' :: (host ++ '=' :: '=' :: f.chain)).length := by
      simp only [List.length_append, List.length_cons]
      omega
    rw [hashed?_tagged htag hseparator hlength, if_neg (by decide), if_pos (by decide),
      List.append_cons, breakOn?_doubled_append hlevel, breakOn?_doubled_cons hash_ne hash_noEquals,
      breakOn?_doubled_cons host_ne host_noEquals]
    have hdoubled : Text.breakOn? ['=', '='] ('=' :: '=' :: f.chain) = some ([], f.chain) :=
      Text.breakOn?_append_self ['=', '='] f.chain
    rw [hdoubled, Option.map_some]

/-- The author is found again, whatever the forwarders added. -/
theorem undo?_of_writes {f : Forwarding} {sender : Text} (h : f.Writes sender) :
    undo? sender = some f.author := by
  have hlast : Text.breakLast? (· == '@') (f.localPart ++ '@' :: f.forwarder) =
      some (f.localPart, '@', f.forwarder) :=
    Text.breakLast?_append rfl (fun c hc => beq_false_of_ne (ne_of_mem_of_not_mem hc f.noAt)) _
  rw [undo?, hashed?_of_writes h, Option.bind_some, f.domainAndTail?_chain]
  simp [hlast, f.localPart_isPart.ne_nil, f.domain_isPart.ne_nil, Forwarding.author]

/-! ## 3. Screening -/

theorem eq_of_toLower {c : Char} (h : c.toLower = 's') : c = 's' ∨ c = 'S' := by
  by_cases hc : c.toNat < 0x80
  · exact Text.forall_ascii (P := fun c => c.toLower = 's' → c = 's' ∨ c = 'S') (by decide) hc h
  · exact .inl (Text.toLower_of_not_ascii hc ▸ h)

namespace Forwarding

variable {f : Forwarding} {sender : Text}

theorem Writes.head? (h : f.Writes sender) : ∀ c ∈ sender.head?, c = 's' ∨ c = 'S' := by
  have hstart : ∃ tag rest, sender = tag ++ rest ∧ Text.foldCase tag = "srs".toList := by
    cases h with
    | once htag => exact ⟨_, _, rfl, htag⟩
    | twice htag => exact ⟨_, _, rfl, htag⟩
  obtain ⟨tag, rest, rfl, htag⟩ := hstart
  obtain ⟨a, b, c, rfl⟩ := exists_letters_of_tag htag
  intro d hd
  cases hd
  exact eq_of_toLower (List.cons.inj htag).1

theorem Writes.forwarder_suffix (h : f.Writes sender) : f.forwarder <:+ sender := by
  have hchain : f.forwarder <:+ f.chain :=
    ⟨f.hash ++ '=' :: (f.stamp ++ '=' :: (f.domain ++ '=' :: (f.localPart ++ ['@']))), by
      simp [chain]⟩
  have hsender : f.chain <:+ sender := by
    cases h with
    | @once tag separator => exact ⟨tag ++ ['0', separator], by simp⟩
    | @twice tag separator hash host =>
      exact ⟨tag ++ '1' :: separator :: (hash ++ '=' :: (host ++ ['=', '='])), by simp⟩
  exact hchain.trans hsender

theorem Writes.ne_nil (h : f.Writes sender) : sender ≠ [] := by
  rintro rfl
  exact f.forwarder_isPart.ne_nil (List.suffix_nil.mp h.forwarder_suffix)

/-- A sender that a forwarder writes has no blank at its ends. -/
theorem Writes.trim_eq (h : f.Writes sender) : Text.trim sender = sender := by
  refine Text.trim_eq_self (fun c hc => ?_) fun c hc => ?_
  · obtain rfl | rfl := h.head? c hc <;> decide
  · obtain ⟨before, rfl⟩ := h.forwarder_suffix
    rw [List.getLast?_append_of_ne_nil _ f.forwarder_isPart.ne_nil] at hc
    exact isBlank_of_not_isForbidden (f.forwarder_isPart.plain c (List.mem_of_mem_getLast? hc)).1

theorem Writes.unbracket_eq (h : f.Writes sender) : Address.unbracket sender = sender := by
  refine Address.unbracket_eq_self fun hopen => ?_
  obtain hs | hs := h.head? '<' hopen <;> exact absurd hs (by decide)

/-- With or without brackets, it is the same sender. -/
theorem Writes.bare_eq (h : f.Writes sender) {written : Text}
    (hwritten : written = sender ∨ written = '<' :: (sender ++ ['>'])) :
    Text.trim written = written ∧ Text.trim (Address.unbracket written) = sender := by
  obtain rfl | rfl := hwritten
  · exact ⟨h.trim_eq, by rw [h.unbracket_eq, h.trim_eq]⟩
  · have hlast : ('<' :: sender ++ ['>']).getLast? = some '>' := List.getLast?_concat
    refine ⟨Text.trim_eq_self ?_ ?_, ?_⟩
    · intro c hc
      cases hc
      decide
    · intro c hc
      cases hlast.symm.trans hc
      decide
    · rw [Address.unbracket_bracketed, h.trim_eq]

theorem author_ne_nil (f : Forwarding) : f.author ≠ [] :=
  List.append_ne_nil_of_right_ne_nil _ (List.cons_ne_nil _ _)

theorem author_allowed (f : Forwarding) : ∀ c ∈ f.author, Address.isForbidden c = false := by
  intro c hc
  rw [author, List.mem_append, List.mem_cons] at hc
  obtain hlocal | rfl | hdomain := hc
  · exact (f.localPart_isPart.plain c hlocal).1
  · decide
  · exact (f.domain_isPart.plain c hdomain).1

theorem localPart_start (f : Forwarding) : f.localPart.head? ≠ some '<' := fun h =>
  (f.localPart_isPart.plain '<' (List.mem_of_mem_head? h)).2.1 rfl

theorem bare_author (f : Forwarding) :
    Text.trim f.author = f.author ∧ Text.trim (Address.unbracket f.author) = f.author := by
  have htrim : Text.trim f.author = f.author := Text.trim_of_forall_not_isBlank fun c hc =>
    isBlank_of_not_isForbidden (f.author_allowed c hc)
  refine ⟨htrim, ?_⟩
  rw [Address.unbracket_eq_self, htrim]
  rw [author, List.head?_append_of_ne_nil _ f.localPart_isPart.ne_nil]
  exact f.localPart_start

theorem parse_author (f : Forwarding) :
    (¬['@'] <:+ f.domain ∧ ∃ a, Address.parse f.author = .ok a) ∨
      ['@'] <:+ f.domain ∧ Address.parse f.author = .error (.invalid f.author) :=
  Address.parse_joined f.localPart_isPart.ne_nil f.domain_isPart.ne_nil
    f.author_allowed f.localPart_start

end Forwarding
end ForwardedSender

open Screening ForwardedSender

namespace Screening

variable {raw bare : Text} (hbare : Text.trim (Address.unbracket raw) = bare) (hne : bare ≠ [])
include hbare hne

theorem resolveSender_of_parse_eq_ok {a : Address}
    (h : Address.parse ((undo? bare).getD bare) = .ok a) :
    resolveSender raw =
      if isRestricted a.localPart then .skip (.restrictedSender a.text) else .reply a := by
  rw [resolveSender, hbare, if_neg (by simpa using hne), h]

theorem resolveSender_of_parse_eq_error {e : AddressError}
    (h : Address.parse ((undo? bare).getD bare) = .error e) :
    resolveSender raw = .skip (.invalidSender raw) := by
  rw [resolveSender, hbare, if_neg (by simpa using hne), h]

end Screening

namespace Inbound

/-- Only its sender can keep a message from an answer. -/
def ReadsSender (m : Inbound) (aliases : List Text) : Prop :=
  automaticReason? m = none ∧ isAddressedTo m aliases = true

/-- A message with a sender is skipped for a reason that has nothing to do with the sender, or it is
the sender that decides. -/
theorem screen_some (m : Inbound) (aliases : List Text) :
    (¬m.ReadsSender aliases ∧ ∃ reason, ∀ raw, m.screen (some raw) aliases = .skip reason) ∨
      m.ReadsSender aliases ∧
        ∀ raw, m.screen (some raw) aliases = resolveSender (Text.trim raw) := by
  cases hreason : automaticReason? m with
  | some reason =>
    left
    refine ⟨fun hreads => ?_, reason, fun raw => screen_of_automaticReason? hreason _ _⟩
    exact Option.some_ne_none _ (hreason.symm.trans hreads.1)
  | none =>
    cases haddressed : isAddressedTo m aliases with
    | true =>
      exact .inr ⟨⟨hreason, haddressed⟩, fun raw => screen_of_isAddressedTo hreason haddressed raw⟩
    | false =>
      left
      refine ⟨fun hreads => ?_, .notAddressed,
        fun raw => screen_of_not_isAddressedTo hreason haddressed raw⟩
      exact Bool.false_ne_true (haddressed.symm.trans hreads.2)

variable {f : Forwarding} {sender written : Text}

/-- What a forwarder writes is not what the author writes, if that is nothing a forwarder writes. -/
theorem written_ne_author (hsender : f.Writes sender)
    (hwritten : written = sender ∨ written = '<' :: (sender ++ ['>']))
    (hauthor : undo? f.author = none) :
    written ≠ f.author := by
  rintro rfl
  have hsame : sender = f.author := (hsender.bare_eq hwritten).2.symm.trans f.bare_author.2
  rw [← hsame, undo?_of_writes hsender] at hauthor
  cases hauthor

/-- The sender that a forwarder writes and the author are read as the same address. -/
theorem screen_of_writes (hsender : f.Writes sender)
    (hwritten : written = sender ∨ written = '<' :: (sender ++ ['>']))
    (hauthor : undo? f.author = none) (m : Inbound) (aliases : List Text) :
    ¬(['@'] <:+ f.domain ∧ m.ReadsSender aliases) ∧
        m.screen (some written) aliases = m.screen (some f.author) aliases ∨
      (['@'] <:+ f.domain ∧ m.ReadsSender aliases) ∧
        m.screen (some f.author) aliases = .skip (.invalidSender f.author) ∧
        m.screen (some written) aliases = .skip (.invalidSender written) := by
  obtain ⟨hreads, reason, hskip⟩ | ⟨hreads, hresolve⟩ := m.screen_some aliases
  · exact .inl ⟨fun h => hreads h.2, (hskip written).trans (hskip f.author).symm⟩
  rw [hresolve, hresolve]
  obtain ⟨hwritten_trim, hbare⟩ := hsender.bare_eq hwritten
  obtain ⟨hauthor_trim, hauthor_bare⟩ := f.bare_author
  rw [hwritten_trim, hauthor_trim]
  have hread : (undo? sender).getD sender = f.author := by
    rw [undo?_of_writes hsender, Option.getD_some]
  have hauthor_read : (undo? f.author).getD f.author = f.author := by
    rw [hauthor, Option.getD_none]
  obtain ⟨hclosed, a, hparse⟩ | ⟨hopen, hparse⟩ := f.parse_author
  · left
    refine ⟨fun h => hclosed h.1, ?_⟩
    rw [resolveSender_of_parse_eq_ok hbare hsender.ne_nil (hread.symm ▸ hparse),
      resolveSender_of_parse_eq_ok hauthor_bare f.author_ne_nil (hauthor_read.symm ▸ hparse)]
  · right
    exact ⟨⟨hopen, hreads⟩,
      resolveSender_of_parse_eq_error hauthor_bare f.author_ne_nil (hauthor_read.symm ▸ hparse),
      resolveSender_of_parse_eq_error hbare hsender.ne_nil (hread.symm ▸ hparse)⟩

end Inbound

/-- The key under which an answer is recorded. -/
def Verdict.key? (v : Verdict) (recipient : Address) : Option Key :=
  match v with
  | .reply sender => some (Key.of sender recipient)
  | .skip _ => none

/-- A forwarded message gets the verdict that its author would have got, unless the author is no
address, because the domain ends with an `@`, and the sender is what decides. Then both are skipped,
and the report names the sender that the mail system named. -/
theorem Inbound.screen_forwarded (f : Forwarding) {sender written : Text}
    (hsender : f.Writes sender) (hwritten : written = sender ∨ written = '<' :: (sender ++ ['>']))
    (hauthor : undo? f.author = none) (m : Inbound) (aliases : List Text) :
    (m.screen (some written) aliases = m.screen (some f.author) aliases ↔
      ¬(['@'] <:+ f.domain ∧ m.ReadsSender aliases)) ∧
    (['@'] <:+ f.domain ∧ m.ReadsSender aliases →
      m.screen (some f.author) aliases = .skip (.invalidSender f.author) ∧
        m.screen (some written) aliases = .skip (.invalidSender written)) ∧
    (∀ s, m.screen (some written) aliases = .reply s ↔
      m.screen (some f.author) aliases = .reply s) ∧
    ∀ recipient, (m.screen (some written) aliases).key? recipient =
      (m.screen (some f.author) aliases).key? recipient := by
  obtain ⟨hclosed, heq⟩ | ⟨hopen, hinvalid, hwritten_invalid⟩ :=
    screen_of_writes hsender hwritten hauthor m aliases
  · refine ⟨iff_of_true heq hclosed, fun hopen => absurd hopen hclosed, ?_⟩
    rw [heq]
    exact ⟨fun s => Iff.rfl, fun recipient => rfl⟩
  · rw [hinvalid, hwritten_invalid]
    refine ⟨iff_of_false (fun hsame => ?_) (fun hclosed => hclosed hopen), fun _ => ⟨rfl, rfl⟩,
      fun s => iff_of_false nofun nofun, fun recipient => rfl⟩
    injection hsame with hreason
    injection hreason with hsame
    exact written_ne_author hsender hwritten hauthor hsame

/-- A message to `b@example.com` that says nothing about itself. -/
def plainMessage : Inbound := { recipients := ["b@example.com".toList] }

/-- An author whose local part looks like more parts of the form. -/
def lookalike : Forwarding where
  hash := "HHH+".toList
  stamp := "T-T".toList
  domain := "Example.ORG".toList
  localPart := "ü=B@c".toList
  forwarder := "second.example".toList
  isPart := by decide +kernel
  noEquals := by decide
  noAt := by decide

/-- What the second of two forwarders writes for the author. -/
def lookalikeSender : Text :=
  "SrS1+hash=first.example==HHH+=T-T=Example.ORG=ü=B@c@second.example".toList

theorem writes_lookalikeSender : lookalike.Writes lookalikeSender := by
  have hsender : lookalikeSender =
      "SrS".toList ++
        '1' :: '+' :: ("hash".toList ++ '=' :: ("first.example".toList ++ '=' :: '=' ::
        lookalike.chain)) := by decide +kernel
  rw [hsender]
  exact .twice (by decide) (by decide) (by decide) (by decide) (by decide) (by decide)

theorem screen_lookalike :
    lookalike.Writes lookalikeSender ∧ undo? lookalike.author = none ∧
      plainMessage.screen (some ('<' :: (lookalikeSender ++ ['>']))) ["b".toList] =
        .reply ⟨"ü=b@c".toList, some "example.org".toList⟩ := by
  have hauthor : undo? lookalike.author = none := by decide +kernel
  have hreply : plainMessage.screen (some lookalike.author) ["b".toList] =
      .reply ⟨"ü=b@c".toList, some "example.org".toList⟩ := by decide +kernel
  have hforwarded := Inbound.screen_forwarded lookalike writes_lookalikeSender (.inr rfl) hauthor
    plainMessage ["b".toList]
  exact ⟨writes_lookalikeSender, hauthor, (hforwarded.2.2.1 _).mpr hreply⟩

/-- A domain that ends with an `@` leaves nothing behind the last one. -/
def openDomain : Forwarding where
  hash := "HHH".toList
  stamp := "TT".toList
  domain := "x@".toList
  localPart := "a".toList
  forwarder := "forwarder.org".toList
  isPart := by decide +kernel
  noEquals := by decide
  noAt := by decide

theorem not_forall_screen_forwarded :
    ¬∀ (f : Forwarding) (sender : Text), f.Writes sender → undo? f.author = none →
      ∀ (m : Inbound) (aliases : List Text),
        m.screen (some sender) aliases = m.screen (some f.author) aliases := by
  intro h
  have heq := h openDomain ("SRS".toList ++ '0' :: '=' :: openDomain.chain)
    (.once (by decide) (by decide)) (by decide +kernel) plainMessage ["b".toList]
  have hforwarded :
      plainMessage.screen (some ("SRS".toList ++ '0' :: '=' :: openDomain.chain)) ["b".toList] =
      .skip (.invalidSender "SRS0=HHH=TT=x@=a@forwarder.org".toList) := by decide +kernel
  have hauthor : plainMessage.screen (some openDomain.author) ["b".toList] =
      .skip (.invalidSender "a@x@".toList) := by decide +kernel
  rw [hforwarded, hauthor] at heq
  exact absurd heq (by decide)

end Autoresponder
