import Autoresponder.Message.Screening
import Autoresponder.Proofs.Texts
/-!
# Mail that is never answered

RFC 3834 says by which fields a responder can tell that a program sent a message. Screening knows
all of them, but does not look for all of them everywhere: where a field is repeated under one name
it reads the first, except that it sees every field of a mailing list.

1. A field is `Automatic` if it says that a program sent the message. It is `HeededIn` a message if
   it belongs to a mailing list or is the first of its name.
2. A message gets an answer, for some sender and some names of the recipient, exactly if it heeds no
   automatic field and its recipients are named (`Inbound.exists_reply_iff`).
3. All other messages are `NeverAnswered` (`neverAnswered_iff`). A message with an automatic field
   need not be one of them: the field may stand behind another one of its name
   (`not_forall_automatic_neverAnswered`).
-/

namespace Autoresponder

open Screening

/-! ## 1. Automatic fields -/

namespace Field

/-- The value without the blanks around it. -/
def bareText [Charsets] (f : Field) : Text := Text.trim f.valueText

/-- The field says that a program sent the message. -/
inductive Automatic [Charsets] (f : Field) : Prop where
  /-- `Auto-Submitted`, and the keyword is not `no`. -/
  | submitted (hname : f.isNamed "Auto-Submitted".toList = true)
      (hvalue : Text.foldCase (keyword f.bareText) ≠ "no".toList)
  /-- Any field of a mailing list. -/
  | list (hname : "list-".toList <+: Text.foldCase f.nameText)
  /-- `Precedence`, and the keyword is one of bulk mailers. -/
  | bulk (hname : f.isNamed "Precedence".toList = true)
      (hvalue : Text.foldCase (keyword f.bareText) ∈ ["junk".toList, "bulk".toList, "list".toList])
  /-- `X-Auto-Response-Suppress`, and one part asks for no answer. -/
  | silent (hname : f.isNamed "X-Auto-Response-Suppress".toList = true) {part : Text}
      (hpart : part ∈ Text.splitOn (· == ',') f.bareText)
      (hvalue : Text.foldCase (Text.trim part) ∈ ["oof".toList, "all".toList])

/-- Screening looks at the field: it belongs to a mailing list, or is the first of its name. -/
def HeededIn (fields : List Field) (f : Field) : Prop :=
  f ∈ fields ∧ (Inbound.isListField f = true ∨ fields.find? (·.isNamed f.nameText) = some f)

theorem isListField_iff (f : Field) :
    Inbound.isListField f = true ↔ "list-".toList <+: Text.foldCase f.nameText := by
  have hstart : Text.foldCase Inbound.listStart = "list-".toList := by decide
  rw [Inbound.isListField, Text.sameFolded, hstart, beq_iff_eq, List.prefix_iff_eq_take,
    Text.foldCase, List.map_take]
  exact eq_comm

theorem isNamed_congr {f : Field} {name : Text} (h : f.isNamed name = true) (g : Field) :
    g.isNamed f.nameText = g.isNamed name := by
  rw [isNamed, Text.sameFolded, beq_iff_eq] at h
  rw [isNamed, isNamed, Text.sameFolded, Text.sameFolded, h]

variable {fields : List Field} {f : Field} {name : Text}

/-- Whether a field belongs to a mailing list can be seen from its name. -/
theorem isListField_of_isNamed (h : f.isNamed name = true) :
    Inbound.isListField f =
      Text.sameFolded (name.take Inbound.listStart.length) Inbound.listStart := by
  rw [isNamed, Text.sameFolded, beq_iff_eq] at h
  simp only [Inbound.isListField, Text.sameFolded, Text.foldCase, List.map_take] at h ⊢
  rw [h]

theorem heededIn_of_isListField (hmem : f ∈ fields) (h : Inbound.isListField f = true) :
    f.HeededIn fields :=
  ⟨hmem, .inl h⟩

theorem heededIn_of_find? (h : fields.find? (·.isNamed name) = some f) : f.HeededIn fields := by
  refine ⟨List.mem_of_find?_eq_some h, .inr ?_⟩
  rwa [funext (isNamed_congr (List.find?_some h))]

theorem HeededIn.find?_eq (h : f.HeededIn fields) (hname : f.isNamed name = true)
    (hlist : Inbound.isListField f = false) : fields.find? (·.isNamed name) = some f := by
  obtain ⟨-, hl | hfirst⟩ := h
  · rw [hlist] at hl
    cases hl
  · rwa [funext (isNamed_congr hname)] at hfirst

end Field

/-! ## 2. Answers -/

namespace Screening

theorem isAutomatic_iff (value : Text) :
    isAutomatic value = true ↔ Text.foldCase (keyword value) ≠ "no".toList := by
  rw [isAutomatic, Bool.not_eq_true', ← Bool.not_eq_true,
    Text.sameFolded_iff_of_small (by decide)]

theorem isBulk_iff (value : Text) :
    isBulk value = true ↔
      Text.foldCase (keyword value) ∈ ["junk".toList, "bulk".toList, "list".toList] := by
  simp only [isBulk, List.any_cons, List.any_nil, Bool.or_false, Bool.or_eq_true, List.mem_cons,
    List.not_mem_nil, or_false]
  rw [Text.sameFolded_iff_of_small (by decide), Text.sameFolded_iff_of_small (by decide),
    Text.sameFolded_iff_of_small (by decide)]

theorem asksForSilence_iff (value : Text) :
    asksForSilence value = true ↔
      ∃ part ∈ Text.splitOn (· == ',') value,
        Text.foldCase (Text.trim part) ∈ ["oof".toList, "all".toList] := by
  simp only [asksForSilence, List.any_eq_true, Bool.or_eq_true, List.mem_cons, List.not_mem_nil,
    or_false]
  refine exists_congr fun part => and_congr_right fun _ => ?_
  rw [Text.sameFolded_iff_of_small (by decide), Text.sameFolded_iff_of_small (by decide)]

theorem automaticReason?_eq_none_iff (m : Inbound) :
    automaticReason? m = none ↔
      m.autoSubmitted.filter isAutomatic = none ∧ m.listField = none ∧
        m.precedence.filter isBulk = none ∧ m.responseSuppress.filter asksForSilence = none := by
  unfold automaticReason?
  cases m.autoSubmitted.filter isAutomatic with
  | some _ => simp
  | none =>
    cases m.listField with
    | some _ => simp
    | none => cases m.precedence.filter isBulk <;> simp

theorem automaticReason?_of_autoSubmitted {m : Inbound} {value : Text}
    (h : m.autoSubmitted = some value) (hvalue : isAutomatic value = true) :
    automaticReason? m = some (.autoSubmitted value) := by
  rw [automaticReason?, h, Option.filter_some_pos hvalue]

theorem not_isAddressedTo {m : Inbound} (h : ∀ r ∈ m.recipients, Text.trim (foldName r) = [])
    (aliases : List Text) : isAddressedTo m aliases = false := by
  rw [Bool.eq_false_iff]
  intro haddressed
  obtain ⟨a, ha, hoccurs⟩ := List.any_eq_true.mp haddressed
  obtain ⟨r, hr, hin⟩ := List.any_eq_true.mp hoccurs
  obtain ⟨recipient, hrecipient, rfl⟩ := List.mem_map.mp hr
  have hblank : Text.trim a = [] := Text.trim_eq_nil_iff.mpr fun c hc =>
    Text.trim_eq_nil_iff.mp (h recipient hrecipient) c (Text.subset_of_occursIn hin hc)
  simp [hblank] at ha

/-- A recipient who goes by the whole value of `To` is addressed by it. -/
theorem isAddressedTo_self {m : Inbound} {r : Text} (hr : r ∈ m.recipients)
    (h : Text.trim (foldName r) ≠ []) : isAddressedTo m [r] = true := by
  refine List.any_eq_true.mpr ⟨foldName r, by simp [h], ?_⟩
  exact List.any_eq_true.mpr ⟨foldName r, List.mem_map_of_mem hr, Text.occursIn_self _⟩

end Screening

namespace Inbound

variable {fields : List Field}

/-- The value that screening reads under a name that belongs to no list is the one of the heeded
field. -/
theorem filter_first?_eq_none_iff [Charsets] {name : String}
    (hname : Text.sameFolded (name.toList.take listStart.length) listStart = false)
    (fields : List Field) (p : Text → Bool) :
    (first? fields name).filter p = none ↔
      ∀ f : Field, f.HeededIn fields → f.isNamed name.toList = true → ¬p f.bareText = true := by
  have hfirst : (first? fields name).filter p = none ↔
      ∀ f, fields.find? (·.isNamed name.toList) = some f → ¬p f.bareText = true := by
    unfold first?
    cases fields.find? (·.isNamed name.toList) with
    | none => simp
    | some f => simp [Option.filter_some, Field.bareText]
  rw [hfirst]
  constructor
  · intro h f hheeded hf
    exact h f (hheeded.find?_eq hf ((Field.isListField_of_isNamed hf).trans hname))
  · intro h f hf
    exact h f (Field.heededIn_of_find? hf) (List.find?_some hf)

/-- Screening takes a message for automatic exactly if it heeds an automatic field. -/
theorem automaticReason?_ofFields [Charsets] (fields : List Field) :
    automaticReason? (ofFields fields) = none ↔ ∀ f : Field, f.HeededIn fields → ¬f.Automatic := by
  rw [automaticReason?_eq_none_iff]
  show (first? fields "Auto-Submitted").filter isAutomatic = none ∧
    (fields.find? isListField).map Field.nameText = none ∧
    (first? fields "Precedence").filter isBulk = none ∧
    (first? fields "X-Auto-Response-Suppress").filter asksForSilence = none ↔ _
  rw [filter_first?_eq_none_iff (by decide), filter_first?_eq_none_iff (by decide),
    filter_first?_eq_none_iff (by decide), Option.map_eq_none_iff, List.find?_eq_none]
  constructor
  · rintro ⟨hsubmitted, hlist, hbulk, hsilent⟩ f hheeded hautomatic
    cases hautomatic with
    | submitted hname hvalue => exact hsubmitted f hheeded hname ((isAutomatic_iff _).mpr hvalue)
    | list hname => exact hlist f hheeded.1 ((Field.isListField_iff f).mpr hname)
    | bulk hname hvalue => exact hbulk f hheeded hname ((isBulk_iff _).mpr hvalue)
    | silent hname hpart hvalue =>
      exact hsilent f hheeded hname ((asksForSilence_iff _).mpr ⟨_, hpart, hvalue⟩)
  · intro h
    refine ⟨fun f hheeded hname hvalue => h f hheeded ?_, fun f hmem hlist => ?_,
      fun f hheeded hname hvalue => h f hheeded ?_, fun f hheeded hname hvalue => h f hheeded ?_⟩
    · exact .submitted hname ((isAutomatic_iff _).mp hvalue)
    · exact h f (Field.heededIn_of_isListField hmem hlist)
        (.list ((Field.isListField_iff f).mp hlist))
    · exact .bulk hname ((isBulk_iff _).mp hvalue)
    · obtain ⟨part, hpart, hsilent⟩ := (asksForSilence_iff _).mp hvalue
      exact .silent hname hpart hsilent

theorem mem_recipients_iff [Charsets] {r : Text} :
    r ∈ (ofFields fields).recipients ↔
      ∃ f ∈ fields, (f.isNamed "To".toList = true ∨ f.isNamed "Cc".toList = true) ∧
        f.valueText = r := by
  show r ∈ all fields "To" ++ all fields "Cc" ↔ _
  simp only [all, List.mem_append, List.mem_map, List.mem_filter]
  constructor
  · rintro (⟨f, ⟨hmem, hname⟩, rfl⟩ | ⟨f, ⟨hmem, hname⟩, rfl⟩)
    · exact ⟨f, hmem, .inl hname, rfl⟩
    · exact ⟨f, hmem, .inr hname, rfl⟩
  · rintro ⟨f, hmem, hname | hname, rfl⟩
    · exact .inl ⟨f, ⟨hmem, hname⟩, rfl⟩
    · exact .inr ⟨f, ⟨hmem, hname⟩, rfl⟩

theorem screen_of_automaticReason? {m : Inbound} {reason : SkipReason}
    (h : automaticReason? m = some reason) (envelope : Option Text) (aliases : List Text) :
    m.screen envelope aliases = .skip reason := by
  rw [screen, h]

/-- A message that gives no reason to stay silent gets an answer if its sender does. -/
theorem screen_of_isAddressedTo {m : Inbound} {aliases : List Text}
    (hreason : automaticReason? m = none) (haddressed : isAddressedTo m aliases = true)
    (raw : Text) :
    m.screen (some raw) aliases = resolveSender (Text.trim raw) := by
  unfold screen
  rw [hreason]
  show (if isAddressedTo m aliases then resolveSender (Text.trim raw) else .skip .notAddressed) = _
  rw [haddressed, if_pos rfl]

theorem screen_of_not_isAddressedTo {m : Inbound} {aliases : List Text}
    (hreason : automaticReason? m = none) (haddressed : isAddressedTo m aliases = false)
    (raw : Text) :
    m.screen (some raw) aliases = .skip .notAddressed := by
  unfold screen
  rw [hreason]
  show (if isAddressedTo m aliases then resolveSender (Text.trim raw) else .skip .notAddressed) = _
  rw [haddressed, if_neg Bool.false_ne_true]

theorem exists_reply_iff (m : Inbound) :
    (∃ envelope aliases sender, m.screen envelope aliases = .reply sender) ↔
      automaticReason? m = none ∧ ∃ r ∈ m.recipients, Text.trim (foldName r) ≠ [] := by
  constructor
  · rintro ⟨envelope, aliases, sender, hreply⟩
    unfold screen at hreply
    split at hreply
    · cases hreply
    · next hreason =>
      refine ⟨hreason, ?_⟩
      by_contra! hblank
      rw [not_isAddressedTo hblank aliases] at hreply
      split at hreply <;> cases hreply
  · rintro ⟨hreason, r, hr, hnamed⟩
    have hsender : resolveSender (Text.trim "a".toList) = .reply ⟨"a".toList, none⟩ := by decide
    exact ⟨some "a".toList, [r], ⟨"a".toList, none⟩,
      (screen_of_isAddressedTo hreason (isAddressedTo_self hr hnamed) _).trans hsender⟩

end Inbound

/-! ## 3. Messages without an answer -/

/-- No answer goes out for the message, whoever is named as its sender and whatever names the
recipient goes by. -/
def NeverAnswered [Charsets] (message : Bytes) : Prop :=
  ∀ m, Inbound.parse message = .ok m →
    ∀ envelope aliases sender, m.screen envelope aliases ≠ .reply sender

/-- The fields of a message, without a line in front that mailbox files add. -/
def headerFields (message : Bytes) : Except HeaderError (List Field) :=
  (HeaderBlock.parse (Inbound.splitEnvelopeLine message).2).map HeaderBlock.fields

theorem Inbound.parse_eq_ok_iff [Charsets] {message : Bytes} {m : Inbound} :
    Inbound.parse message = .ok m ↔
      ∃ fields, headerFields message = .ok fields ∧
        m = { ofFields fields with envelopeLine := (splitEnvelopeLine message).1 } := by
  cases hparse : HeaderBlock.parse (splitEnvelopeLine message).2 with
  | ok block => simp [Inbound.parse, headerFields, hparse, Except.map, eq_comm]
  | error e => simp [Inbound.parse, headerFields, hparse, Except.map]

theorem neverAnswered_iff [Charsets] (message : Bytes) :
    NeverAnswered message ↔
      ∀ fields, headerFields message = .ok fields →
        (∃ f : Field, f.HeededIn fields ∧ f.Automatic) ∨
          ∀ f ∈ fields, f.isNamed "To".toList = true ∨ f.isNamed "Cc".toList = true →
            Text.trim (foldName f.valueText) = [] := by
  constructor
  · intro hnever fields hfields
    by_contra! hanswered
    obtain ⟨hnone, f, hmem, hname, hnamed⟩ := hanswered
    obtain ⟨envelope, aliases, sender, hreply⟩ :=
      (Inbound.exists_reply_iff
        { Inbound.ofFields fields with envelopeLine := (Inbound.splitEnvelopeLine message).1 }).mpr
        ⟨(Inbound.automaticReason?_ofFields fields).mpr hnone, f.valueText,
          Inbound.mem_recipients_iff.mpr ⟨f, hmem, hname, rfl⟩, hnamed⟩
    exact hnever _ (Inbound.parse_eq_ok_iff.mpr ⟨fields, hfields, rfl⟩) envelope aliases sender
      hreply
  · intro h m hm envelope aliases sender hreply
    obtain ⟨fields, hfields, rfl⟩ := Inbound.parse_eq_ok_iff.mp hm
    obtain ⟨hnone, r, hr, hnamed⟩ :=
      (Inbound.exists_reply_iff _).mp ⟨envelope, aliases, sender, hreply⟩
    obtain ⟨f, hheeded, hautomatic⟩ | hblank := h fields hfields
    · exact (Inbound.automaticReason?_ofFields fields).mp hnone f hheeded hautomatic
    · obtain ⟨f, hmem, hname, rfl⟩ := Inbound.mem_recipients_iff.mp hr
      exact hnamed (hblank f hmem hname)

/-- A program has sent this message, and says so in the second of two fields of one name. -/
def twiceSubmitted : Bytes :=
  Utf8.encode "Auto-Submitted: no\nAuto-Submitted: auto-replied\nTo: b@example.com\n\n".toList

def twiceSubmittedFields : List Field :=
  [⟨Utf8.encode "Auto-Submitted".toList, Utf8.encode "no".toList⟩,
    ⟨Utf8.encode "Auto-Submitted".toList, Utf8.encode "auto-replied".toList⟩,
    ⟨Utf8.encode "To".toList, Utf8.encode "b@example.com".toList⟩]

theorem headerFields_twiceSubmitted : headerFields twiceSubmitted = .ok twiceSubmittedFields := by
  decide +kernel

theorem automaticReason?_twiceSubmitted :
    automaticReason? (Inbound.ofFields twiceSubmittedFields) = none := by
  decide +kernel

theorem recipients_twiceSubmitted :
    (Inbound.ofFields twiceSubmittedFields).recipients = ["b@example.com".toList] := by
  decide +kernel

theorem not_forall_automatic_neverAnswered :
    ¬∀ message fields, headerFields message = .ok fields → (∃ f ∈ fields, f.Automatic) →
      NeverAnswered message := by
  intro h
  have hautomatic : ∃ f ∈ twiceSubmittedFields, f.Automatic := by
    have hkeyword : Text.foldCase (keyword (Field.bareText
        ⟨Utf8.encode "Auto-Submitted".toList, Utf8.encode "auto-replied".toList⟩)) =
      "auto-replied".toList := by decide +kernel
    refine ⟨_, List.mem_cons_of_mem _ List.mem_cons_self, .submitted (by decide) ?_⟩
    rw [hkeyword]
    decide
  have hnever := h twiceSubmitted twiceSubmittedFields headerFields_twiceSubmitted hautomatic
  have haddressed : isAddressedTo (Inbound.ofFields twiceSubmittedFields) ["b".toList] = true := by
    unfold isAddressedTo
    rw [recipients_twiceSubmitted]
    decide
  have hsender : resolveSender (Text.trim "a@example.com".toList) =
      .reply ⟨"a".toList, some "example.com".toList⟩ := by decide
  refine hnever _ (Inbound.parse_eq_ok_iff.mpr ⟨_, headerFields_twiceSubmitted, rfl⟩)
    (some "a@example.com".toList) ["b".toList] ⟨"a".toList, some "example.com".toList⟩ ?_
  exact (Inbound.screen_of_isAddressedTo automaticReason?_twiceSubmitted haddressed _).trans hsender

end Autoresponder
