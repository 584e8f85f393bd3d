import Autoresponder.Proofs.RenderedReply
/-!
# The thread of a reply

A mail reader sorts a reply by two fields, `In-Reply-To` and `References`. Both are lists of
identifiers, and the message that is answered may have them folded, tabbed or broken in any way.

1. The identifiers of a value are its `tokens`: what stands between blanks and control characters.
   Neither trimming nor closing gaps changes them (`tokens_sanitize`), and nothing is left of a
   value exactly if it has none (`sanitize_eq_nil_iff`).
2. The `earlier` messages of a thread are those that the answered message refers to, or the one that
   it answers.
3. A reply to a message with an identifier has both fields once, with the identifiers of the whole
   thread in their order. A reply to a message without one has neither (`Reply.compose_threaded`).
-/

namespace Autoresponder

open Text

/-! ## 1. Identifiers -/

/-- What trimming takes away are blanks. -/
theorem Text.exists_append_trim_append (s : Text) :
    ∃ before after, s = before ++ trim s ++ after ∧ (∀ c ∈ before, isBlank c = true) ∧
      ∀ c ∈ after, isBlank c = true := by
  refine ⟨s.takeWhile isBlank, (trimStart s).rtakeWhile isBlank, ?_,
    fun c hc => List.mem_takeWhile_imp hc,
    fun c hc => List.mem_rtakeWhile_imp hc⟩
  have hend : trim s ++ (trimStart s).rtakeWhile isBlank = trimStart s :=
    List.rdropWhile_append_rtakeWhile
  rw [List.append_assoc, hend]
  exact List.takeWhile_append_dropWhile.symm

namespace HeaderText

variable {s t : Text} {c : Char}

/-- The identifiers in a value: the parts between blanks and control characters. -/
def tokens (s : Text) : List Text :=
  (splitOn Address.isForbidden s).filter fun part => !part.isEmpty

theorem tokens_append_cons (h : Address.isForbidden c = true) (s t : Text) :
    tokens (s ++ c :: t) = tokens s ++ tokens t := by
  rw [tokens, splitOn_append_cons h, List.filter_append]
  rfl

theorem tokens_append_of_forbidden_left (h : ∀ c ∈ s, Address.isForbidden c = true) (t : Text) :
    tokens (s ++ t) = tokens t := by
  induction s with
  | nil => rfl
  | cons c s ih =>
    obtain ⟨hc, hs⟩ := List.forall_mem_cons.mp h
    exact (tokens_append_cons hc [] (s ++ t)).trans (ih hs)

theorem tokens_append_of_forbidden_right (h : ∀ c ∈ t, Address.isForbidden c = true) (s : Text) :
    tokens (s ++ t) = tokens s := by
  cases t with
  | nil => rw [List.append_nil]
  | cons c t =>
    obtain ⟨hc, ht⟩ := List.forall_mem_cons.mp h
    have hnone : tokens t = [] := by
      rw [← List.append_nil t, tokens_append_of_forbidden_left ht]
      rfl
    rw [tokens_append_cons hc, hnone, List.append_nil]

theorem isForbidden_of_isBlank (h : isBlank c = true) : Address.isForbidden c = true := by
  rw [Address.isForbidden, h, Bool.true_or]

theorem isForbidden_of_isControl (h : isControl c = true) : Address.isForbidden c = true := by
  rw [Address.isForbidden, h, Bool.or_true]

theorem tokens_trim (s : Text) : tokens (trim s) = tokens s := by
  obtain ⟨before, after, hs, hbefore, hafter⟩ := exists_append_trim_append s
  conv_rhs => rw [hs]
  rw [tokens_append_of_forbidden_right fun c hc => isForbidden_of_isBlank (hafter c hc),
    tokens_append_of_forbidden_left fun c hc => isForbidden_of_isBlank (hbefore c hc)]

/-- A gap that is closed still parts what stands around it. The text `front` is what has been read
since the last one, so there is none inside a gap. -/
theorem tokens_closeGaps (inGap : Bool) (s : Text) {front : Text} (h : inGap = true → front = []) :
    tokens (front ++ closeGaps inGap s) = tokens (front ++ s) := by
  fun_induction closeGaps inGap s generalizing front with
  | case1 => rfl
  | case2 c cs hc ih =>
    rw [h rfl]
    exact (ih fun _ => rfl).trans (tokens_append_cons (isForbidden_of_isControl hc) [] cs).symm
  | case3 inGap c cs hc _ ih =>
    rw [tokens_append_cons rfl, tokens_append_cons (isForbidden_of_isControl hc)]
    exact congrArg (tokens front ++ ·) (ih fun _ => rfl)
  | case4 inGap c cs hc ih =>
    rw [List.append_cons, List.append_cons front c cs]
    exact ih fun hgap => absurd hgap Bool.false_ne_true

theorem tokens_sanitize (s : Text) : tokens (sanitize s) = tokens s := by
  have hstart : false = true → ([] : Text) = [] := fun _ => rfl
  rw [sanitize, tokens_trim]
  exact tokens_closeGaps false s hstart

theorem tokens_ne_nil (h : Address.isForbidden c = false) (s : Text) : tokens (c :: s) ≠ [] := by
  obtain ⟨part, parts, hparts⟩ := List.exists_cons_of_ne_nil (splitOn_ne_nil Address.isForbidden s)
  rw [tokens, splitOn_cons_of_neg h, hparts, List.modifyHead_cons, List.filter_cons_of_pos rfl]
  exact List.cons_ne_nil _ _

/-- A sanitized text that is not empty starts with a character of an identifier. -/
theorem sanitize_eq_nil_iff (s : Text) : sanitize s = [] ↔ tokens s = [] := by
  constructor
  · intro h
    rw [← tokens_sanitize, h]
    rfl
  · intro h
    by_contra hne
    obtain ⟨c, rest, hcons⟩ := List.exists_cons_of_ne_nil hne
    have hblank : isBlank c = false := head_trim hcons
    have hcontrol : isControl c = false := (fits_sanitize s).plain c (hcons ▸ List.mem_cons_self)
    have hallowed : Address.isForbidden c = false := Bool.or_eq_false_iff.mpr ⟨hblank, hcontrol⟩
    rw [← tokens_sanitize, hcons] at h
    exact tokens_ne_nil hallowed rest h

theorem countP_closeGaps {p : Char → Bool} (hspace : p ' ' = false)
    (h : ∀ c, isControl c = true → p c = false) (inGap : Bool) (s : Text) :
    (closeGaps inGap s).countP p = s.countP p := by
  fun_induction closeGaps inGap s with
  | case1 => rfl
  | case2 c cs hc ih => rw [ih, List.countP_cons_of_neg (by simp [h c hc])]
  | case3 inGap c cs hc _ ih =>
    rw [List.countP_cons_of_neg (by simp [hspace]), ih, List.countP_cons_of_neg (by simp [h c hc])]
  | case4 inGap c cs hc ih => rw [List.countP_cons, ih, List.countP_cons]

/-- Sanitizing neither adds nor removes a character that is no blank and no control character. -/
theorem count_sanitize (h : Address.isForbidden c = false) (s : Text) :
    (sanitize s).count c = s.count c := by
  have hother : ∀ d, Address.isForbidden d = true → (d == c) = false := by
    intro d hd
    rw [beq_eq_false_iff_ne]
    rintro rfl
    rw [h] at hd
    cases hd
  have hblanks : ∀ l : Text, (∀ d ∈ l, isBlank d = true) → l.count c = 0 := fun l hl =>
    List.countP_eq_zero.mpr fun d hd =>
      Bool.eq_false_iff.mp (hother d (isForbidden_of_isBlank (hl d hd)))
  have hgaps : (closeGaps false s).count c = s.count c :=
    countP_closeGaps (hother ' ' rfl) (fun d hd => hother d (isForbidden_of_isControl hd)) false s
  obtain ⟨before, after, hsplit, hbefore, hafter⟩ := exists_append_trim_append (closeGaps false s)
  rw [← hgaps, hsplit, List.count_append, List.count_append, hblanks before hbefore,
    hblanks after hafter, Nat.zero_add, Nat.add_zero]
  rfl

end HeaderText

/-! ## 2. Threads -/

open HeaderText

/-- The identifiers of an optional value. -/
def optionalTokens (value : Option Text) : List Text := value.elim [] tokens

/-- The earlier messages of the thread: those that the message refers to, or else the message that
it answers, if it names only one. -/
def Citation.earlier (cited : Citation) : List Text :=
  if optionalTokens cited.references = [] then
    optionalTokens (cited.inReplyTo.filter fun parent => parent.count '<' == 1)
  else optionalTokens cited.references

namespace Reply

/-- A value without an identifier counts as none. -/
theorem filter_sanitize (value : Option Text) :
    (value.map sanitize).filter (!·.isEmpty) =
      if optionalTokens value = [] then none else value.map sanitize := by
  cases value with
  | none => rfl
  | some s =>
    have hempty : (sanitize s).isEmpty = true ↔ tokens s = [] :=
      List.isEmpty_iff.trans (sanitize_eq_nil_iff s)
    show (if !(sanitize s).isEmpty then some (sanitize s) else none) =
      if tokens s = [] then none else some (sanitize s)
    by_cases hs : tokens s = []
    · rw [hempty.mpr hs, if_pos hs]
      rfl
    · rw [Bool.eq_false_iff.mpr (mt hempty.mp hs), if_neg hs]
      rfl

theorem optionalTokens_sanitize (value : Option Text) :
    optionalTokens (value.map sanitize) = optionalTokens value := by
  cases value with
  | none => rfl
  | some s => exact tokens_sanitize s

theorem optionalTokens_thread? (cited : Citation) :
    optionalTokens (thread? cited) = cited.earlier := by
  have hone : (cited.inReplyTo.map sanitize).filter (fun s => s.countP (· == '<') == 1) =
      (cited.inReplyTo.filter fun parent => parent.count '<' == 1).map sanitize := by
    cases cited.inReplyTo with
    | none => rfl
    | some parent =>
      have hcount : (sanitize parent).countP (· == '<') = parent.count '<' :=
        count_sanitize rfl parent
      rw [Option.map_some, Option.filter_some, Option.filter_some, hcount]
      split <;> rfl
  rw [thread?, filter_sanitize, Citation.earlier]
  by_cases hnone : optionalTokens cited.references = []
  · rw [if_pos hnone, if_pos hnone]
    dsimp only
    rw [hone, optionalTokens_sanitize]
  · obtain ⟨s, hs⟩ :=
      Option.ne_none_iff_exists'.mp fun h : cited.references = none => hnone (by rw [h]; rfl)
    rw [if_neg hnone, if_neg hnone, hs]
    exact tokens_sanitize s

theorem tokens_references (cited : Citation) (messageId : Text) :
    tokens (references cited messageId) = cited.earlier ++ tokens messageId := by
  rw [references, ← optionalTokens_thread?]
  split
  · next parents hparents =>
    rw [hparents]
    exact tokens_append_cons rfl parents messageId
  · next hnone =>
    rw [hnone]
    rfl

/-- The values of all fields of a name. -/
def values (r : Reply) (name : Text) : List Text :=
  (r.headers.filter fun field => sameFolded field.1 name).map Prod.snd

/-- The other fields of a reply are not part of the thread. -/
theorem values_compose {name : Text} (hname : name ∈ ["In-Reply-To".toList, "References".toList])
    (policy : Policy) (sender recipient : Address) (cited : Citation) (domain : Text) :
    (compose policy sender recipient cited domain).values name =
      ((threadFields cited).filter fun field => sameFolded field.1 name).map Prod.snd := by
  have hfront : ([("From".toList, fromValue policy recipient domain), ("To".toList, sender.text),
      ("Subject".toList, encode (subject policy.isGroup cited.subject))].filter
        fun field => sameFolded field.1 name) = [] := by
    rcases List.mem_pair.mp hname with rfl | rfl <;> rfl
  have hfixed : fixedFields.filter (fun field => sameFolded field.1 name) = [] := by
    rcases List.mem_pair.mp hname with rfl | rfl <;> rfl
  rw [values, compose, List.filter_append, List.filter_append, hfront, hfixed, List.nil_append,
    List.append_nil]

/-- The fields of a thread, by the identifiers of the message that is answered. -/
theorem threadFields_cases (cited : Citation) :
    (optionalTokens cited.messageId = [] ∧ threadFields cited = []) ∨
      ∃ messageId, Fits messageId ∧ optionalTokens cited.messageId = tokens messageId ∧
        tokens messageId ≠ [] ∧
        threadFields cited =
          [("In-Reply-To".toList, messageId),
            ("References".toList, references cited messageId)] := by
  rw [threadFields, filter_sanitize]
  by_cases hnone : optionalTokens cited.messageId = []
  · rw [if_pos hnone]
    exact .inl ⟨hnone, rfl⟩
  · obtain ⟨raw, hraw⟩ :=
      Option.ne_none_iff_exists'.mp fun h : cited.messageId = none => hnone (by rw [h]; rfl)
    have hids : tokens (sanitize raw) = optionalTokens cited.messageId := by
      rw [hraw]
      exact tokens_sanitize raw
    refine .inr ⟨sanitize raw, fits_sanitize raw, hids.symm, hids ▸ hnone, ?_⟩
    rw [if_neg hnone, hraw]
    rfl

/-- A reply has the fields of a thread exactly if the message has an identifier, and then it has all
identifiers of the thread. -/
theorem compose_threaded (policy : Policy) (sender recipient : Address) (cited : Citation)
    (domain : Text) :
    let reply := compose policy sender recipient cited domain
    let ids := optionalTokens cited.messageId
    (ids = [] → reply.values "In-Reply-To".toList = [] ∧ reply.values "References".toList = []) ∧
      (ids ≠ [] → ∃ answered thread, reply.values "In-Reply-To".toList = [answered] ∧
        reply.values "References".toList = [thread] ∧ tokens answered = ids ∧
        tokens thread = cited.earlier ++ ids ∧ Plain answered ∧ Plain thread) := by
  intro reply ids
  have hanswered : reply.values "In-Reply-To".toList = _ :=
    values_compose (by simp) policy sender recipient cited domain
  have hthread : reply.values "References".toList = _ :=
    values_compose (by simp) policy sender recipient cited domain
  rw [hanswered, hthread]
  obtain ⟨hnone, hfields⟩ | ⟨messageId, hfits, hids, hne, hfields⟩ := threadFields_cases cited
  · rw [hfields]
    exact ⟨fun _ => ⟨rfl, rfl⟩, fun hsome => absurd hnone hsome⟩
  · rw [hfields]
    refine ⟨fun hnone => absurd (hids.symm.trans hnone) hne, fun _ => ?_⟩
    refine ⟨messageId, references cited messageId, rfl, rfl, hids.symm, ?_, hfits.plain,
      (fits_references cited hfits).plain⟩
    rw [tokens_references, ← hids]

/-- A message that is far down a thread, with folded and tabbed fields and a stray control
character. -/
def foldedCitation : Citation where
  messageId := some "\t<3@example.org>\r\n".toList
  inReplyTo := some "<2@example.org>".toList
  references := some "<1@example.org>\r\n\t<2@example.org>\x00 <2b@example.org>".toList

theorem compose_threaded_folded :
    let reply := compose Policy.inactive ⟨"a".toList, none⟩ ⟨"b".toList, none⟩ foldedCitation
      "example.com".toList
    let ids := ["<3@example.org>".toList]
    let unnamed :=
      compose Policy.inactive ⟨"a".toList, none⟩ ⟨"b".toList, none⟩ {} "example.com".toList
    (optionalTokens foldedCitation.messageId = ids ∧ ids ≠ [] ∧ optionalTokens none = []) ∧
      (∃ answered thread, reply.values "In-Reply-To".toList = [answered] ∧
        reply.values "References".toList = [thread] ∧ tokens answered = ids ∧
        tokens thread =
          ["<1@example.org>".toList, "<2@example.org>".toList, "<2b@example.org>".toList] ++ ids ∧
        Plain answered ∧ Plain thread) ∧
      unnamed.values "In-Reply-To".toList = [] ∧ unnamed.values "References".toList = [] := by
  intro reply ids unnamed
  have hids : optionalTokens foldedCitation.messageId = ids := by decide
  have hearlier : foldedCitation.earlier =
      ["<1@example.org>".toList, "<2@example.org>".toList, "<2b@example.org>".toList] := by decide
  have hne : ids ≠ [] := List.cons_ne_nil _ _
  have hthreaded := (compose_threaded Policy.inactive ⟨"a".toList, none⟩ ⟨"b".toList, none⟩
    foldedCitation "example.com".toList).2
  rw [hids, hearlier] at hthreaded
  exact ⟨⟨hids, hne, rfl⟩, hthreaded hne,
    (compose_threaded Policy.inactive _ _ {} "example.com".toList).1 rfl⟩

end Reply
end Autoresponder
