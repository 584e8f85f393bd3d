import Autoresponder.Proofs.RenderedReply
import Autoresponder.Proofs.WordReading
/-!
# The subject of a reply

A reply says what it answers: its subject repeats that of the message, which may have come in
encoded words, and with control characters in them.

1. What the correspondent should see is `announced`. It stands on one line, without blanks around it
   (`trim_announced`).
2. A reply can be read (`headerFields_compose`), and its subject is the value of its third field.
3. The correspondent sees what is announced, unless that is ASCII and shows an encoded word:
   `HeaderText.encode` leaves ASCII alone, and so the reader decodes what was meant literally
   (`subject_readBack_iff`).
-/

namespace Autoresponder.Reply

open Text HeaderText

/-! ## 1. What is announced -/

/-- Who answers, and what the answer is about, if that is known. -/
def announced (isGroup : Bool) (about : Text) : Text :=
  (if isGroup then "Automated Reply".toList else "Out of email contact".toList) ++
    if about = [] then [] else " (Re: ".toList ++ about ++ ")".toList

theorem subject_eq_announced (isGroup : Bool) (cited : Text) :
    subject isGroup cited = announced isGroup (sanitize cited) := by
  simp only [subject, announced, List.isEmpty_iff]
  split
  · rw [List.append_nil]
    rfl
  · simp only [List.append_assoc]
    rfl

theorem announced_ne_nil (isGroup : Bool) (about : Text) : announced isGroup about ≠ [] := by
  cases isGroup <;> exact List.cons_ne_nil _ _

theorem trim_announced (isGroup : Bool) (about : Text) :
    trim (announced isGroup about) = announced isGroup about := by
  have hstart : ∀ c ∈ (announced isGroup about).head?, isBlank c = false := by
    cases isGroup <;> exact fun c hc => Option.some.inj hc ▸ rfl
  refine trim_eq_self hstart ?_
  by_cases h : about = []
  · rw [announced, if_pos h, List.append_nil]
    cases isGroup <;> exact fun c hc => Option.some.inj hc ▸ rfl
  · have hbracket : ")".toList = [')'] := rfl
    rw [announced, if_neg h, hbracket, ← List.append_assoc, List.getLast?_concat]
    exact fun c hc => Option.some.inj hc ▸ rfl

/-! ## 2. The fields of a reply -/

variable {sender recipient : Address} {domain : Text}

/-- Whoever receives a reply finds the fields that `compose` has put there. -/
theorem headerFields_compose (policy : Policy) (cited : Citation) (hsender : sender.Clean)
    (hrecipient : recipient.Clean) (hdomain : Plain domain) :
    headerFields (Utf8.encode (compose policy sender recipient cited domain).render) =
      .ok ((compose policy sender recipient cited domain).headers.map Field.written) := by
  rw [headerFields, splitEnvelopeLine_compose,
    parse_render (writable_compose policy cited hsender hrecipient hdomain)]
  rfl

/-- The subject stands behind two fields with other names. -/
theorem first?_subject_compose [Charsets] (policy : Policy) (sender recipient : Address)
    (cited : Citation) (domain : Text) :
    Inbound.first? ((compose policy sender recipient cited domain).headers.map Field.written)
        "Subject" =
      some (trim (Value.text (Utf8.encode (encode (subject policy.isGroup cited.subject))))) := rfl

/-! ## 3. Subjects read back -/

/-- The correspondent reads what is announced, except where the announcement itself shows an encoded
word and travels as it is. -/
theorem subject_readBack_iff [charsets : Charsets] (hlawful : charsets.Lawful)
    {senderText recipientText : Text} (policy : Policy) (cited : Citation)
    (hsender : Address.parse senderText = .ok sender)
    (hrecipient : Address.parse recipientText = .ok recipient) (hdomain : Plain domain) :
    let shown := announced policy.isGroup (sanitize cited.subject)
    ∃ answer,
      Inbound.parse (Utf8.encode (compose policy sender recipient cited domain).render) =
        .ok answer ∧
      (answer.citation.subject = shown ↔ ¬(isAscii shown = true ∧ Value.ShowsWord shown)) := by
  intro shown
  have hfields := headerFields_compose policy cited (Address.clean_of_parse hsender)
    (Address.clean_of_parse hrecipient) hdomain
  refine ⟨_, Inbound.parse_eq_ok_iff.mpr ⟨_, hfields, rfl⟩, ?_⟩
  have hsubject : subject policy.isGroup cited.subject = shown := subject_eq_announced _ _
  have hplain : Plain shown := hsubject ▸ (fits_subject _ _).plain
  have hread := first?_subject_compose policy sender recipient cited domain
  rw [hsubject] at hread
  have hseen : (Inbound.ofFields ((compose policy sender recipient cited domain).headers.map
      Field.written)).citation.subject = trim (Value.text (Utf8.encode (encode shown))) :=
    congrArg (Option.getD · []) hread
  show (Inbound.ofFields _).citation.subject = shown ↔ _
  rw [hseen]
  exact Value.trim_text_encode_iff hlawful (announced_ne_nil _ _) hplain (trim_announced _ _)

/-- A subject of two lines, the second of which looks like an encoded word. -/
def twoLineCitation : Citation where
  subject := "Caf\u00E9\r\n=?utf-8?q?a?=".toList

/-- The policy of a group. -/
def groupPolicy : Policy := { Policy.inactive with isGroup := true }

theorem subject_readBack_twoLine :
    let sender : Address := ⟨"ann".toList, some "example.org".toList⟩
    let recipient : Address := ⟨"staff".toList, none⟩
    let shown := "Automated Reply (Re: Caf\u00E9 =?utf-8?q?a?=)".toList
    (Address.parse "Ann@example.org".toList = .ok sender ∧
        Address.parse "staff".toList = .ok recipient ∧ Plain "example.com".toList) ∧
      ∃ answer, Inbound.parse (Utf8.encode (compose groupPolicy sender recipient twoLineCitation
          "example.com".toList).render) = .ok answer ∧
        answer.citation.subject = shown := by
  intro sender recipient shown
  have hsender : Address.parse "Ann@example.org".toList = .ok sender := by decide
  have hrecipient : Address.parse "staff".toList = .ok recipient := by decide
  have hdomain : Plain "example.com".toList := by decide
  have hshown : announced groupPolicy.isGroup (sanitize twoLineCitation.subject) = shown := by
    decide
  have hascii : isAscii shown = false := by decide
  obtain ⟨answer, hanswer, hiff⟩ := subject_readBack_iff Charsets.lawful_common groupPolicy
    twoLineCitation hsender hrecipient hdomain
  rw [hshown, hascii] at hiff
  exact ⟨⟨hsender, hrecipient, hdomain⟩, answer, hanswer, hiff.mpr fun h => Bool.false_ne_true h.1⟩

/-- The subject of this message is the text of an encoded word, itself written in an encoded
word. -/
def literalWordMessage : Bytes :=
  Utf8.encode "Subject: =?utf-8?q?=3D=3Futf-8=3Fq=3Fa=3F=3D?=\n\n".toList

/-- The reader of the reply sees another subject than the one that was answered. -/
theorem not_forall_subject_announced :
    ¬∀ (raw : Bytes) (inbound : Inbound) (policy : Policy) (senderText recipientText : Text)
        (sender recipient : Address) (domain : Text),
      Inbound.parse raw = .ok inbound → Address.parse senderText = .ok sender →
      Address.parse recipientText = .ok recipient → Plain domain →
      ∃ answer,
        Inbound.parse
            (Utf8.encode (compose policy sender recipient inbound.citation domain).render) =
          .ok answer ∧
        answer.citation.subject =
          announced policy.isGroup (sanitize inbound.citation.subject) := by
  intro h
  let sender : Address := ⟨"a".toList, some "example.com".toList⟩
  let recipient : Address := ⟨"b".toList, some "example.com".toList⟩
  let inbound : Inbound := { citation := { subject := "=?utf-8?q?a?=".toList } }
  have hraw : Inbound.parse literalWordMessage = .ok inbound := by decide +kernel
  have hsender : Address.parse "a@example.com".toList = .ok sender := by decide
  have hrecipient : Address.parse "b@example.com".toList = .ok recipient := by decide
  have hdomain : Plain "example.com".toList := by decide
  obtain ⟨answer, hanswer, hsubject⟩ := h literalWordMessage inbound Policy.inactive _ _ sender
    recipient _ hraw hsender hrecipient hdomain
  have hread :
      (Inbound.parse (Utf8.encode (compose Policy.inactive sender recipient inbound.citation
        "example.com".toList).render)).toOption.map (·.citation.subject) =
        some "Out of email contact (Re: a)".toList := by
    decide +kernel
  rw [hanswer] at hread
  have hother : announced false (sanitize inbound.citation.subject) ≠
      "Out of email contact (Re: a)".toList := by
    decide
  exact hother (hsubject.symm.trans (Option.some.inj hread))

end Autoresponder.Reply
