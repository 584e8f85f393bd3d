import Autoresponder.Proofs.Addresses
import Autoresponder.Proofs.AutomaticMail
import Autoresponder.Proofs.HeaderLines
import Autoresponder.Reply.Compose
/-!
# What a reply reads like

A reply repeats text that a stranger chose: the subject and the identifiers of the message it
answers. Whatever that text is, the reply has the fields that `Reply.compose` lists and no others,
and whoever reads it can tell that a program sent it. So two responders never answer each other.

1. A value `Fits` on a line if it has no control character and does not start with a space.
   Sanitizing makes such a value of any text, and encoding and quoting keep it one.
2. An address that was read has no blank or control character, so its text fits.
3. A reply whose fields are all `Writable` is read back from its text (`Reply.parse_render`).
4. The fields of `Reply.compose` are (`Reply.writable_compose`). The thread needs care: a value that
   starts with an empty text would start with a space.
5. No field in front of it is named `Auto-Submitted`, so screening finds the one that `compose` has
   put there and turns the reply down (`Reply.compose_readBack`).
-/

namespace Autoresponder

/-! ## 1. Values on one line -/

namespace HeaderText

/-- No control characters. -/
def Plain (s : Text) : Prop := ∀ c ∈ s, Text.isControl c = false

instance : DecidablePred Plain := fun s => List.decidableBAll _ s

/-- A header value that stands on one line, behind one space. -/
structure Fits (value : Text) : Prop where
  plain : Plain value
  start : value.head? ≠ some ' '

variable {s t : Text}

theorem plain_nil : Plain [] := fun _ hc => nomatch hc

theorem plain_append : Plain (s ++ t) ↔ Plain s ∧ Plain t := List.forall_mem_append

theorem plain_cons {c : Char} : Plain (c :: s) ↔ Text.isControl c = false ∧ Plain s :=
  List.forall_mem_cons

theorem Fits.append (h : Fits s) (hne : s ≠ []) (ht : Plain t) : Fits (s ++ t) where
  plain := plain_append.mpr ⟨h.plain, ht⟩
  start := by
    rw [List.head?_append_of_ne_nil s hne]
    exact h.start

theorem plain_closeGaps (inGap : Bool) (s : Text) : Plain (closeGaps inGap s) := by
  fun_induction closeGaps inGap s with
  | case1 => exact plain_nil
  | case2 c cs _ ih => exact ih
  | case3 gap c cs _ _ ih => exact plain_cons.mpr ⟨rfl, ih⟩
  | case4 gap c cs hc ih => exact plain_cons.mpr ⟨Bool.eq_false_iff.mpr hc, ih⟩

theorem fits_sanitize (s : Text) : Fits (sanitize s) where
  plain := fun c hc => plain_closeGaps false s c (Text.subset_of_trim _ hc)
  start := by
    intro hstart
    obtain ⟨rest, hrest⟩ := List.head?_eq_some_iff.mp hstart
    exact absurd (Text.head_trim hrest) (by decide)

/-- What is left of an optional text that is sanitized and then tested. -/
theorem fits_of_filter_sanitize {raw : Option Text} {p : Text → Bool} {value : Text}
    (h : (raw.map sanitize).filter p = some value) : Fits value ∧ p value = true := by
  obtain ⟨hmap, hp⟩ := Option.filter_eq_some_iff.mp h
  obtain ⟨s, -, rfl⟩ := Option.map_eq_some_iff.mp hmap
  exact ⟨fits_sanitize s, hp⟩

theorem isControl_digit (n : Nat) : Text.isControl (Base64.digit n) = false := by
  have hfirst : ∀ n < 62, Text.isControl (Base64.digit n) = false := by decide
  by_cases hn : n < 62
  · exact hfirst n hn
  · rw [Base64.digit, if_neg (by omega), if_neg (by omega), if_neg hn]
    split <;> rfl

theorem plain_base64 (bytes : Bytes) : Plain (Base64.encode bytes) := by
  have hpad : Text.isControl '=' = false := rfl
  fun_induction Base64.encode bytes with
  | case1 => exact plain_nil
  | case2 a n => simp only [plain_cons, isControl_digit, hpad, plain_nil, and_self]
  | case3 a b n => simp only [plain_cons, isControl_digit, hpad, plain_nil, and_self]
  | case4 a b c rest n ih => simp only [plain_cons, isControl_digit, ih, and_self]

theorem plain_word (piece : Text) : Plain (word piece) := by
  have hstart : Plain "=?UTF-8?B?".toList := by decide
  have hend : Plain "?=".toList := by decide
  unfold word
  exact plain_append.mpr ⟨plain_append.mpr ⟨hstart, plain_base64 _⟩, hend⟩

theorem pieces_ne_nil (used : Nat) (s : Text) : pieces used s ≠ [] := by
  have honFirst : ∀ (c : Char) (ps : List Text), onFirst c ps ≠ [] := by
    intro c ps
    cases ps <;> exact List.cons_ne_nil _ _
  cases s with
  | nil => exact List.cons_ne_nil _ _
  | cons c s =>
    simp only [pieces]
    split
    · exact List.cons_ne_nil _ _
    · exact honFirst _ _

theorem plain_joinWith {sep : Text} (hsep : Plain sep) {parts : List Text}
    (h : ∀ p ∈ parts, Plain p) :
    Plain (Text.joinWith sep parts) := by
  fun_induction Text.joinWith sep parts with
  | case1 => exact plain_nil
  | case2 p => exact h p List.mem_cons_self
  | case3 p parts _ ih =>
    rw [plain_append, plain_append]
    exact ⟨⟨h p List.mem_cons_self, hsep⟩, ih fun q hq => h q (List.mem_cons_of_mem p hq)⟩

/-- Encoded words start with their mark. -/
theorem head?_joinWith_word (sep : Text) {ps : List Text} (h : ps ≠ []) :
    (Text.joinWith sep (ps.map word)).head? = some '=' := by
  obtain ⟨p, ps, rfl⟩ := List.exists_cons_of_ne_nil h
  cases ps <;> rfl

theorem fits_encode (h : Fits s) : Fits (encode s) := by
  unfold encode
  split
  · exact h
  · refine ⟨plain_joinWith (by decide) fun p hp => ?_, ?_⟩
    · obtain ⟨piece, -, rfl⟩ := List.mem_map.mp hp
      exact plain_word piece
    · rw [head?_joinWith_word _ (pieces_ne_nil 0 s)]
      decide

theorem plain_escape (h : Plain s) : Plain (s.flatMap escape) := by
  intro c hc
  obtain ⟨d, hd, hcd⟩ := List.mem_flatMap.mp hc
  unfold escape at hcd
  split at hcd
  · simp only [List.mem_cons, List.not_mem_nil, or_false] at hcd
    rcases hcd with rfl | rfl
    · rfl
    · exact h c hd
  · rw [List.mem_singleton.mp hcd]
    exact h d hd

theorem fits_displayName (h : Fits s) : Fits (displayName s) := by
  unfold displayName
  split
  · refine ⟨?_, ?_⟩
    · rw [List.cons_append, plain_cons, plain_append]
      exact ⟨rfl, plain_escape h.plain, by decide⟩
    · rw [List.cons_append, List.head?_cons]
      decide
  · exact fits_encode h

theorem displayName_ne_nil (s : Text) : displayName s ≠ [] := by
  unfold displayName
  split
  · exact List.cons_ne_nil _ _
  · next hascii =>
    intro hnil
    rw [encode, if_neg hascii] at hnil
    have hmark := head?_joinWith_word [' '] (pieces_ne_nil 0 s)
    rw [hnil] at hmark
    cases hmark

end HeaderText

/-! ## 2. Addresses -/

open HeaderText

theorem HeaderText.Plain.foldCase {s : Text} (h : Plain s) : Plain (Text.foldCase s) := by
  intro c hc
  obtain hs | hsmall := Text.mem_foldCase hc
  · exact h c hs
  · exact isControl_of_not_isForbidden (isForbidden_of_small hsmall)

namespace Address

/-- No blank and no control character, as in every address that was read. -/
structure Clean (a : Address) : Prop where
  localPart_ne_nil : a.localPart ≠ []
  localPart : ∀ c ∈ a.localPart, isForbidden c = false
  domain : ∀ d, a.domain = some d → Plain d

variable {a : Address}

theorem clean_of_parse {input : Text} (h : parse input = .ok a) : a.Clean where
  localPart_ne_nil := (normal_of_parse h).localPart_ne_nil
  localPart := fun c hc => (normal_of_parse h).allowed c (a.localPart_subset_text hc)
  domain := fun _ hd c hc =>
    isControl_of_not_isForbidden ((normal_of_parse h).allowed c (domain_subset_text hd hc))

theorem Clean.qualify (h : a.Clean) {domain : Text} (hdomain : Plain domain) :
    (a.qualify domain).Clean := by
  unfold Address.qualify
  split
  · exact h
  · refine ⟨h.localPart_ne_nil, h.localPart, fun d hd => ?_⟩
    cases hd
    exact hdomain.foldCase

theorem Clean.fits_text (h : a.Clean) : Fits a.text := by
  have hlocal : Fits a.localPart := by
    refine ⟨fun c hc => isControl_of_not_isForbidden (h.localPart c hc), fun hstart => ?_⟩
    have hspace := h.localPart ' ' (List.mem_of_head? hstart)
    exact absurd hspace (by decide)
  unfold text
  split
  · next domain hdomain =>
    exact hlocal.append h.localPart_ne_nil (plain_cons.mpr ⟨rfl, h.domain domain hdomain⟩)
  · exact hlocal

end Address

/-! ## 3. Replies -/

/-- A field of a reply as it travels. -/
def Field.written (field : Text × Text) : Field := ⟨Utf8.encode field.1, Utf8.encode field.2⟩

theorem HeaderText.Plain.isBreak {s : Text} (h : Plain s) :
    ∀ b ∈ Utf8.encode s, Field.isBreak b = false := by
  have hnot : ∀ c, Text.isControl c = true → c ∉ s := by
    intro c hc hmem
    rw [h c hmem] at hc
    cases hc
  intro b hb
  have hfeed : b ≠ Field.lineFeed :=
    Utf8.ne_of_mem_encode (c := '\n') (by decide) (hnot '\n' rfl) hb
  have hreturn : b ≠ Field.carriageReturn :=
    Utf8.ne_of_mem_encode (c := '\r') (by decide) (hnot '\r' rfl) hb
  simp [Field.isBreak, hfeed, hreturn]

namespace Reply

/-- Nothing in the name ends it, ends the line, or continues the line before. -/
def IsName (name : Text) : Prop := ∀ c ∈ name, c ≠ ':' ∧ Address.isForbidden c = false

instance : DecidablePred IsName := fun name => List.decidableBAll _ name

/-- The field can be read back from its line. -/
structure Writable (field : Text × Text) : Prop where
  name : IsName field.1
  value : Fits field.2

theorem Writable.oneLine {field : Text × Text} (h : Writable field) :
    (Field.written field).OneLine where
  name := by
    have hplain : Plain field.1 := fun c hc => isControl_of_not_isForbidden (h.name c hc).2
    have hnot : ∀ c, Address.isForbidden c = true → c ∉ field.1 := by
      intro c hc hmem
      rw [(h.name c hmem).2] at hc
      cases hc
    intro b hb
    have hcolon : b ≠ Field.colon :=
      Utf8.ne_of_mem_encode (c := ':') (by decide) (fun hmem => (h.name ':' hmem).1 rfl) hb
    have hspace : b ≠ Field.space := Utf8.ne_of_mem_encode (c := ' ') (by decide) (hnot ' ' rfl) hb
    have htab : b ≠ Field.tab := Utf8.ne_of_mem_encode (c := '\t') (by decide) (hnot '\t' rfl) hb
    exact ⟨hcolon, hplain.isBreak b hb, by simp [Field.continues, hspace, htab]⟩
  value := h.value.plain.isBreak
  start := Utf8.head?_encode_ne (c := ' ') (by decide) h.value.start

theorem encode_fieldLine (field : Text × Text) :
    Utf8.encode (fieldLine field) = (Field.written field).line := by
  have hseparator : Utf8.encode ": ".toList = [Field.colon, Field.space] := rfl
  have hend : Utf8.encode ['\n'] = [Field.lineFeed] := rfl
  rw [fieldLine, Utf8.encode_append, Utf8.encode_append, Utf8.encode_append, hseparator, hend]
  simp [Field.line, Field.written]

theorem encode_render (r : Reply) :
    Utf8.encode r.render =
      (r.headers.map Field.written).flatMap Field.line ++
        Field.lineFeed :: Utf8.encode (Text.unlines r.body) := by
  have hlines : Utf8.encode (r.headers.flatMap fieldLine) =
      (r.headers.map Field.written).flatMap Field.line := by
    rw [Utf8.encode, List.flatMap_assoc, List.flatMap_map]
    exact congrArg (List.flatMap · r.headers) (funext encode_fieldLine)
  rw [render, Utf8.encode_append, hlines]
  rfl

/-- A reply whose fields are writable is read back. -/
theorem parse_render {r : Reply} (h : ∀ field ∈ r.headers, Writable field) :
    HeaderBlock.parse (Utf8.encode r.render) =
      .ok ⟨r.headers.map Field.written, Utf8.encode (Text.unlines r.body)⟩ := by
  rw [encode_render]
  refine HeaderBlock.parse_lines (fun f hf => ?_) _
  obtain ⟨field, hfield, rfl⟩ := List.mem_map.mp hf
  exact (h field hfield).oneLine

/-! ## 4. The fields of a reply -/

theorem fits_subject (isGroup : Bool) (cited : Text) : Fits (subject isGroup cited) := by
  have hgroup : Fits groupSubject := ⟨by decide, by decide⟩
  have hpersonal : Fits personalSubject := ⟨by decide, by decide⟩
  have habout : Plain (" (Re: ".toList ++ (HeaderText.sanitize cited ++ [')'])) :=
    plain_append.mpr ⟨by decide, plain_append.mpr ⟨(fits_sanitize cited).plain, by decide⟩⟩
  simp only [subject]
  split
  · cases isGroup
    · exact hpersonal
    · exact hgroup
  · rw [List.append_assoc, List.append_assoc]
    cases isGroup
    · exact hpersonal.append (by decide) habout
    · exact hgroup.append (by decide) habout

theorem fits_thread {cited : Citation} {parents : Text} (h : thread? cited = some parents) :
    Fits parents ∧ parents ≠ [] := by
  unfold thread? at h
  split at h
  · next references hreferences =>
    cases h
    obtain ⟨hfits, hne⟩ := fits_of_filter_sanitize hreferences
    exact ⟨hfits, by simpa using hne⟩
  · -- a text with one opening bracket is not empty
    obtain ⟨hfits, hone⟩ := fits_of_filter_sanitize h
    refine ⟨hfits, ?_⟩
    rintro rfl
    cases hone

theorem fits_references (cited : Citation) {messageId : Text} (h : Fits messageId) :
    Fits (references cited messageId) := by
  unfold references
  split
  · next parents hparents =>
    obtain ⟨hfits, hne⟩ := fits_thread hparents
    exact hfits.append hne (plain_cons.mpr ⟨rfl, h.plain⟩)
  · exact h

theorem writable_threadFields (cited : Citation) :
    ∀ field ∈ threadFields cited, Writable field := by
  intro field hfield
  unfold threadFields at hfield
  split at hfield
  · next messageId hid =>
    have hfits := (fits_of_filter_sanitize hid).1
    simp only [List.mem_cons, List.not_mem_nil, or_false] at hfield
    rcases hfield with rfl | rfl
    · have hname : IsName "In-Reply-To".toList := by decide
      exact ⟨hname, hfits⟩
    · have hname : IsName "References".toList := by decide
      exact ⟨hname, fits_references cited hfits⟩
  · cases hfield

theorem writable_fixedFields : ∀ field ∈ fixedFields, Writable field := by
  intro field hfield
  simp only [fixedFields, List.mem_cons, List.not_mem_nil, or_false] at hfield
  rcases hfield with rfl | rfl | rfl | rfl <;> exact ⟨by decide, by decide, by decide⟩

theorem fits_fromValue {recipient : Address} {domain : Text} (policy : Policy) (h : recipient.Clean)
    (hdomain : Plain domain) : Fits (fromValue policy recipient domain) := by
  have haddress := (h.qualify hdomain).fits_text
  simp only [fromValue]
  split
  · next name hname =>
    have hfits := fits_displayName (fits_of_filter_sanitize hname).1
    rw [List.append_assoc, List.append_assoc]
    refine hfits.append (displayName_ne_nil name) ?_
    exact plain_append.mpr ⟨by decide, plain_append.mpr ⟨haddress.plain, by decide⟩⟩
  · exact haddress

variable {sender recipient : Address} {domain : Text}

theorem writable_compose (policy : Policy) (cited : Citation) (hsender : sender.Clean)
    (hrecipient : recipient.Clean) (hdomain : Plain domain) :
    ∀ field ∈ (compose policy sender recipient cited domain).headers, Writable field := by
  intro field hfield
  simp only [compose, List.mem_append, List.mem_cons, List.not_mem_nil, or_false] at hfield
  rcases hfield with ((rfl | rfl | rfl) | hthread) | hfixed
  · have hname : IsName "From".toList := by decide
    exact ⟨hname, fits_fromValue policy hrecipient hdomain⟩
  · have hname : IsName "To".toList := by decide
    exact ⟨hname, hsender.fits_text⟩
  · have hname : IsName "Subject".toList := by decide
    exact ⟨hname, fits_encode (fits_subject policy.isGroup cited.subject)⟩
  · exact writable_threadFields cited field hthread
  · exact writable_fixedFields field hfixed

/-! ## 5. Replies to replies -/

/-- A reply does not look like a file of messages, which starts with `From` and a space. -/
theorem splitEnvelopeLine_compose (policy : Policy) (sender recipient : Address) (cited : Citation)
    (domain : Text) :
    Inbound.splitEnvelopeLine (Utf8.encode (compose policy sender recipient cited domain).render) =
      (none, Utf8.encode (compose policy sender recipient cited domain).render) := by
  obtain ⟨rest, hstart⟩ : ∃ rest,
      Utf8.encode (compose policy sender recipient cited domain).render =
        Utf8.encode "From:".toList ++ rest := ⟨_, rfl⟩
  rw [hstart]
  rfl

/-- The keyword is plain text, which is read as it stands whatever character sets the reader
knows. -/
theorem valueText_autoReplied [Charsets] :
    (Field.written ("Auto-Submitted".toList, "auto-replied".toList)).valueText =
      "auto-replied".toList := by
  have hlines : Text.lines (Value.characters (Utf8.encode "auto-replied".toList)) =
      ["auto-replied".toList] := by
    decide +kernel
  have hstart : Text.trimStart "auto-replied".toList = "auto-replied".toList := by decide
  show Value.join .nothing (Value.tokens (Value.characters (Utf8.encode "auto-replied".toList))) = _
  rw [Value.tokens, hlines, List.map_singleton, hstart, Value.tokensOfLine_of_noStart (by decide)]
  rfl

/-- The fields in front have other names, so the first `Auto-Submitted` is the reply's own. -/
theorem first?_autoSubmitted_compose [Charsets] (policy : Policy) (sender recipient : Address)
    (cited : Citation) (domain : Text) :
    Inbound.first? ((compose policy sender recipient cited domain).headers.map Field.written)
      "Auto-Submitted" = some "auto-replied".toList := by
  have hvalue :
      Text.trim (Field.written ("Auto-Submitted".toList, "auto-replied".toList)).valueText =
        "auto-replied".toList := by
    rw [valueText_autoReplied]
    decide
  have hthread : ((threadFields cited).map Field.written).find?
      (·.isNamed "Auto-Submitted".toList) = none := by
    unfold threadFields
    split <;> rfl
  have hfixed : (fixedFields.map Field.written).find? (·.isNamed "Auto-Submitted".toList) =
      some (Field.written ("Auto-Submitted".toList, "auto-replied".toList)) := rfl
  unfold Inbound.first? compose
  rw [List.map_append, List.map_append, List.find?_append, List.find?_append, hthread, hfixed]
  exact congrArg some hvalue

theorem compose_readBack [Charsets] {senderText recipientText : Text} (policy : Policy)
    (cited : Citation) (hsender : Address.parse senderText = .ok sender)
    (hrecipient : Address.parse recipientText = .ok recipient) (hdomain : Plain domain) :
    let reply := compose policy sender recipient cited domain
    HeaderBlock.parse (Utf8.encode reply.render) =
        .ok ⟨reply.headers.map Field.written, Utf8.encode (Text.unlines reply.body)⟩ ∧
      ∃ m, Inbound.parse (Utf8.encode reply.render) = .ok m ∧
        ∀ envelope aliases,
          m.screen envelope aliases = .skip (.autoSubmitted "auto-replied".toList) := by
  intro reply
  have hparse : HeaderBlock.parse (Utf8.encode reply.render) =
      .ok ⟨reply.headers.map Field.written, Utf8.encode (Text.unlines reply.body)⟩ :=
    parse_render (writable_compose policy cited (Address.clean_of_parse hsender)
      (Address.clean_of_parse hrecipient) hdomain)
  have hfields : headerFields (Utf8.encode reply.render) =
      .ok (reply.headers.map Field.written) := by
    rw [headerFields, splitEnvelopeLine_compose, hparse]
    rfl
  refine ⟨hparse, _, Inbound.parse_eq_ok_iff.mpr ⟨_, hfields, rfl⟩, fun envelope aliases => ?_⟩
  refine Inbound.screen_of_automaticReason? ?_ envelope aliases
  exact Screening.automaticReason?_of_autoSubmitted
    (first?_autoSubmitted_compose policy sender recipient cited domain) (by decide)

/-- A message that tries to add fields to its answer, and to end the block before
`Auto-Submitted`. -/
def hostileCitation : Citation where
  subject := "Hi\r\nBcc: everyone@example.com\n\nBuy".toList
  messageId := some "\r\n<1@example.org>\nAuto-Submitted: no".toList
  inReplyTo := some "\n <0@example.org>\r\n\r\n".toList

/-- A policy with a display name of two lines, and a body that looks like a header block. -/
def twoLinePolicy : Policy where
  displayName := some "\"Zo\u00EB\"\r\nX-Loop: no".toList
  body := some "Auto-Submitted: no\n\nAway.".toList

theorem compose_hostile_readBack :
    let sender : Address := ⟨"eve".toList, some "example.org".toList⟩
    let recipient : Address := ⟨"zoe".toList, none⟩
    let reply := compose twoLinePolicy sender recipient hostileCitation "Example.com".toList
    (Address.parse " <Eve@EXAMPLE.org>".toList = .ok sender ∧
      Address.parse "Zoe".toList = .ok recipient ∧
        Plain "Example.com".toList) ∧
      HeaderBlock.parse (Utf8.encode reply.render) =
          .ok ⟨reply.headers.map Field.written, Utf8.encode (Text.unlines reply.body)⟩ ∧
        ∃ m, Inbound.parse (Utf8.encode reply.render) = .ok m ∧
          ∀ envelope aliases,
            m.screen envelope aliases = .skip (.autoSubmitted "auto-replied".toList) := by
  have hsender : Address.parse " <Eve@EXAMPLE.org>".toList =
      .ok ⟨"eve".toList, some "example.org".toList⟩ := by decide
  have hrecipient : Address.parse "Zoe".toList = .ok ⟨"zoe".toList, none⟩ := by decide
  have hdomain : Plain "Example.com".toList := by decide
  exact ⟨⟨hsender, hrecipient, hdomain⟩,
    compose_readBack twoLinePolicy hostileCitation hsender hrecipient hdomain⟩

end Reply
end Autoresponder
