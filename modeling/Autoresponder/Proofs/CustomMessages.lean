import Autoresponder.Proofs.LineBreaks
import Autoresponder.Proofs.RenderedReply
/-!
# Messages of the recipient's own

People type their messages on systems that write breaks in different ways, and one message may have
breaks of all kinds. A reply has the lines that were typed, each with a line feed behind it.

1. A text is `Typed` with some lines if they stand in it one after the other, with a break of any
   kind behind each and perhaps none behind the last. A break that is a carriage return has no line
   feed right behind it, which would be read as the end of the same break.
2. These lines are the pieces of the text (`Typed.dropEmptyEnd_pieces`).
3. The body of a reply is what stands behind its first empty line (`Reply.behindEmptyLine?_render`).
4. So the lines of the reply are the ones that were typed (`Typed.survives`).
-/

namespace Autoresponder

open Text

/-! ## 1. Typed texts -/

/-- How a line may end. -/
inductive Break where
  | feed
  | returnFeed
  | loneReturn
  deriving DecidableEq, Repr

def Break.text : Break → Text
  | .feed => ['\n']
  | .returnFeed => ['\r', '\n']
  | .loneReturn => ['\r']

/-- No break is in the line. -/
structure OneLine (l : Text) : Prop where
  noReturn : '\r' ∉ l
  noFeed : '\n' ∉ l

/-- The texts with these lines. -/
inductive Typed : List Text → Text → Prop
  | last {l : Text} (hl : OneLine l) (hne : l ≠ []) (final : Option Break) :
      Typed [l] (l ++ final.elim [] Break.text)
  | line {l : Text} {ls : List Text} {s : Text} (hl : OneLine l) (b : Break)
      (hb : b = .loneReturn → s.head? ≠ some '\n') (h : Typed ls s) :
        Typed (l :: ls) (l ++ b.text ++ s)

/-! ## 2. Their pieces -/

theorem pieces_break {b : Break} {s : Text} (h : b = .loneReturn → s.head? ≠ some '\n') :
    pieces (fun _ => false) (b.text ++ s) = [] :: pieces (fun _ => false) s := by
  cases b with
  | feed => rfl
  | returnFeed => rfl
  | loneReturn =>
    rw [Break.text, List.singleton_append, pieces]
    · rfl
    · rintro rest - rfl
      exact h rfl rfl

theorem OneLine.pieces_append {l : Text} (h : OneLine l) (s : Text) :
    pieces (fun _ => false) (l ++ s) = (pieces (fun _ => false) s).modifyHead (l ++ ·) := by
  obtain ⟨hreturn, hfeed⟩ := h
  induction l with
  | nil => exact (congrFun List.modifyHead_id _).symm
  | cons c l ih =>
    rw [List.mem_cons, not_or] at hreturn hfeed
    rw [List.cons_append, pieces, ih hreturn.2 hfeed.2, List.modifyHead_modifyHead]
    · simp [Ne.symm hreturn.1, Ne.symm hfeed.1]
      rfl
    · exact fun _ heq _ => hreturn.1 heq.symm

theorem dropEmptyEnd_cons {parts : List Text} (h : parts ≠ []) (l : Text) :
    dropEmptyEnd (l :: parts) = l :: dropEmptyEnd parts := by
  obtain ⟨init, last, rfl⟩ := (List.eq_nil_or_concat parts).resolve_left h
  rw [List.concat_eq_append, ← List.cons_append, dropEmptyEnd_concat, dropEmptyEnd_concat]
  rfl

theorem Typed.dropEmptyEnd_pieces {ls : List Text} {s : Text} (h : Typed ls s) :
    dropEmptyEnd (pieces (fun _ => false) s) = ls := by
  induction h with
  | @last l hl hne final =>
    have hlast : l.isEmpty = false := by simpa using hne
    rw [hl.pieces_append]
    cases final with
    | none => simp [pieces, dropEmptyEnd, hne]
    | some b =>
      have hend := pieces_break (b := b) (s := []) fun _ => (Option.some_ne_none '\n').symm
      rw [List.append_nil] at hend
      simp [hend, pieces, dropEmptyEnd]
  | @line l ls s hl b hb _ ih =>
    have hne : pieces (fun _ => false) s ≠ [] :=
      splitOn_unifyBreaks (p := fun _ => false) s ▸ splitOn_ne_nil _ _
    rw [List.append_assoc, hl.pieces_append, pieces_break hb, List.modifyHead_cons, List.append_nil,
      dropEmptyEnd_cons hne, ih]

/-! ## 3. Behind the first empty line -/

namespace Reply

/-- What stands behind the first empty line. The first argument tells whether a line starts here. -/
def behindEmptyLine? : Bool → Text → Option Text
  | _, [] => none
  | starts, c :: s =>
    if c == '\n' then if starts then some s else behindEmptyLine? true s
    else behindEmptyLine? false s

theorem behindEmptyLine?_rest {l : Text} (h : '\n' ∉ l) (s : Text) :
    behindEmptyLine? false (l ++ '\n' :: s) = behindEmptyLine? true s := by
  induction l with
  | nil => rfl
  | cons c l ih =>
    rw [List.mem_cons, not_or] at h
    have hc : ¬(c == '\n') = true := by simpa using Ne.symm h.1
    rw [List.cons_append, behindEmptyLine?, if_neg hc, ih h.2]

/-- A line that is not empty is passed over. -/
theorem behindEmptyLine?_line {l : Text} (h : '\n' ∉ l) (hne : l ≠ []) (s : Text) :
    behindEmptyLine? true (l ++ '\n' :: s) = behindEmptyLine? true s := by
  obtain ⟨c, l, rfl⟩ := List.exists_cons_of_ne_nil hne
  rw [List.mem_cons, not_or] at h
  have hc : ¬(c == '\n') = true := by simpa using Ne.symm h.1
  rw [List.cons_append, behindEmptyLine?, if_neg hc, behindEmptyLine?_rest h.2]

theorem behindEmptyLine?_fieldLine {field : Text × Text} (h : Writable field) (s : Text) :
    behindEmptyLine? true (fieldLine field ++ s) = behindEmptyLine? true s := by
  have hname : '\n' ∉ field.1 := by
    intro hfeed
    have hallowed := (h.name '\n' hfeed).2
    exact absurd hallowed (by decide)
  have hvalue : '\n' ∉ field.2 := by
    intro hfeed
    have hplain := h.value.plain '\n' hfeed
    exact absurd hplain (by decide)
  have hfeed : '\n' ∉ field.1 ++ ": ".toList ++ field.2 := by simp [hname, hvalue]
  rw [fieldLine, List.append_assoc, List.singleton_append]
  exact behindEmptyLine?_line hfeed (by simp) s

theorem behindEmptyLine?_render {r : Reply} (h : ∀ field ∈ r.headers, Writable field) :
    behindEmptyLine? true r.render = some (unlines r.body) := by
  obtain ⟨headers, body⟩ := r
  unfold render
  induction headers with
  | nil => rfl
  | cons field headers ih =>
    obtain ⟨hfield, hheaders⟩ := List.forall_mem_cons.mp h
    rw [List.flatMap_cons, List.append_assoc, behindEmptyLine?_fieldLine hfield]
    exact ih hheaders

end Reply

/-! ## 4. Replies with typed messages -/

variable {ls : List Text} {s : Text} {policy : Policy} {senderText recipientText domain : Text}
variable {sender recipient : Address}

theorem Typed.bodyLines (h : Typed ls s) (hbody : policy.body = some (normalizeBreaks s)) :
    policy.bodyLines = ls := by
  rw [Policy.bodyLines, hbody, Option.getD_some, normalizeBreaks_eq, lines_unifyBreaks,
    h.dropEmptyEnd_pieces]

/-- Whoever asks, and whatever they wrote, gets the lines that were typed. -/
theorem Typed.survives (h : Typed ls s) (hbody : policy.body = some (normalizeBreaks s))
    (cited : Citation) (hsender : Address.parse senderText = .ok sender)
    (hrecipient : Address.parse recipientText = .ok recipient) (hdomain : HeaderText.Plain domain) :
    ('\r' ∉ normalizeBreaks s ∧ normalizeBreaks s = unifyBreaks (fun _ => false) s) ∧
      policy.bodyLines = ls ∧
      Reply.behindEmptyLine? true (Reply.compose policy sender recipient cited domain).render =
        some (unlines ls) := by
  have hlines := h.bodyLines hbody
  have hwritable := Reply.writable_compose policy cited (Address.clean_of_parse hsender)
    (Address.clean_of_parse hrecipient) hdomain
  refine ⟨⟨?_, normalizeBreaks_eq s⟩, hlines, ?_⟩
  · rw [normalizeBreaks_eq]
    exact return_notMem_unifyBreaks _ s
  · rw [Reply.behindEmptyLine?_render hwritable, Reply.compose, hlines]

/-- A policy whose message was typed with breaks of every kind, two carriage returns in a row among
them. -/
def mixedPolicy : Policy where
  active := true
  displayName := some "Zo\u00EB".toList
  body := some (normalizeBreaks "\nGone.\r\r\n\rBack.\r".toList)

theorem Typed.survives_mixed :
    let typed := ["".toList, "Gone.".toList, "".toList, "".toList, "Back.".toList]
    let sender : Address := ⟨"eve".toList, some "example.org".toList⟩
    let recipient : Address := ⟨"zoe".toList, none⟩
    let reply :=
      Reply.compose mixedPolicy sender recipient Reply.hostileCitation "example.com".toList
    (Typed typed "\nGone.\r\r\n\rBack.\r".toList ∧
      Address.parse "eve@example.org".toList = .ok sender ∧
        Address.parse "Zoe".toList = .ok recipient ∧ HeaderText.Plain "example.com".toList) ∧
      mixedPolicy.bodyLines = typed ∧
        Reply.behindEmptyLine? true reply.render = some "\nGone.\n\n\nBack.\n".toList := by
  intro typed sender recipient reply
  have hempty : OneLine [] := ⟨List.not_mem_nil, List.not_mem_nil⟩
  have htyped : Typed typed "\nGone.\r\r\n\rBack.\r".toList :=
    .line hempty .feed nofun (.line ⟨by decide, by decide⟩ .loneReturn (fun _ => by decide)
      (.line hempty .returnFeed nofun (.line hempty .loneReturn (fun _ => by decide)
        (.last ⟨by decide, by decide⟩ (by decide) (some .loneReturn)))))
  have hsender : Address.parse "eve@example.org".toList = .ok sender := by decide
  have hrecipient : Address.parse "Zoe".toList = .ok recipient := by decide
  have hdomain : HeaderText.Plain "example.com".toList := by decide
  have hbody : mixedPolicy.body = some (normalizeBreaks "\nGone.\r\r\n\rBack.\r".toList) := rfl
  obtain ⟨-, hlines, hrender⟩ :=
    Typed.survives htyped hbody Reply.hostileCitation hsender hrecipient hdomain
  exact ⟨⟨htyped, hsender, hrecipient, hdomain⟩, hlines, hrender⟩

end Autoresponder
