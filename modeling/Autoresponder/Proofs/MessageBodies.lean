import Autoresponder.Proofs.HeaderLines
import Autoresponder.Responder
/-!
# The body of a message

A responder decides on a message by its header block. Whoever writes the body cannot change the
decision, not even with text that looks like a header: nothing behind the empty line is looked at.

1. Bytes that end with a line feed, or are none at all, leave off where a line starts (`EndsLine`).
   What is read up to such a place is the same whatever follows, as long as it does not continue a
   value (`StartsLine`).
2. So a field is read off the head alone (`Field.exists_read`), then the block with all its fields
   or the reason why it cannot be read (`HeaderBlock.exists_parse`), and the envelope line in front
   (`Inbound.exists_splitEnvelopeLine`).
3. Two messages that differ behind the empty line are read alike, and the responder does the same
   for both (`decided_by_head`).
-/

namespace Autoresponder

open Autoresponder.Field

/-! ## 1. Ends of lines -/

/-- The next byte starts a line. -/
def EndsLine (bytes : Bytes) : Prop := ∀ b ∈ bytes.getLast?, b = lineFeed

/-- How a line can be empty. -/
inductive EmptyLine : Bytes → Prop
  | feed : EmptyLine [lineFeed]
  | returnFeed : EmptyLine [carriageReturn, lineFeed]

variable {head empty : Bytes}

theorem endsLine_nil : EndsLine [] := nofun

theorem EndsLine.of_suffix {bytes rest : Bytes} (h : EndsLine bytes) (hrest : rest <:+ bytes) :
    EndsLine rest := by
  obtain ⟨front, rfl⟩ := hrest
  cases rest with
  | nil => exact endsLine_nil
  | cons b rest =>
    rwa [EndsLine, List.getLast?_append_of_ne_nil front (List.cons_ne_nil b rest)] at h

theorem EndsLine.getLast? (h : EndsLine head) (hne : head ≠ []) :
    head.getLast? = some lineFeed := by
  obtain ⟨b, hb⟩ := Option.isSome_iff_exists.mp (List.getLast?_isSome.mpr hne)
  rw [hb, h b hb]

theorem EndsLine.lineFeed_mem (h : EndsLine head) (hne : head ≠ []) : lineFeed ∈ head :=
  List.mem_of_getLast? (h.getLast? hne)

/-- A run of bytes that a line feed does not belong to ends inside the line. -/
theorem EndsLine.exists_run (h : EndsLine head) (hne : head ≠ []) {p : UInt8 → Bool}
    (hp : p lineFeed = false) :
    ∃ run b rest, head = run ++ b :: rest ∧ (∀ c ∈ run, p c = true) ∧ p b = false ∧
      EndsLine rest := by
  have hstop : head.dropWhile p ≠ [] := by
    intro hall
    rw [List.dropWhile_eq_nil_iff.mp hall lineFeed (h.lineFeed_mem hne)] at hp
    cases hp
  obtain ⟨b, rest, hrest⟩ := List.exists_cons_of_ne_nil hstop
  refine ⟨head.takeWhile p, b, rest, ?_, fun c hc => List.mem_takeWhile_imp hc, ?_, h.of_suffix ?_⟩
  · rw [← hrest, List.takeWhile_append_dropWhile]
  · have hb := List.head?_dropWhile_not p head
    rw [hrest] at hb
    simpa using hb
  · exact (List.suffix_cons b rest).trans (hrest ▸ List.dropWhile_suffix p)

theorem EmptyLine.exists_cons (h : EmptyLine empty) :
    ∃ b rest, empty = b :: rest ∧ isBreak b = true := by
  cases h with
  | feed => exact ⟨_, _, rfl, rfl⟩
  | returnFeed => exact ⟨_, _, rfl, rfl⟩

theorem EmptyLine.startsLine (h : EmptyLine empty) (body : Bytes) : StartsLine (empty ++ body) := by
  intro b hb
  cases h with
  | feed =>
    cases hb
    rfl
  | returnFeed =>
    cases hb
    rfl

/-! ## 2. What the head settles -/

namespace Field

theorem EndsLine.exists_splitValue (h : EndsLine head) (hne : head ≠ []) :
    ∃ value rest, EndsLine rest ∧ ∀ tail, StartsLine tail →
      splitValue (head ++ tail) = (value, rest ++ tail) := by
  induction head with
  | nil => exact absurd rfl hne
  | cons b head ih =>
    by_cases hend : head = []
    · -- the last line feed ends the value, since the next line does not continue it
      subst hend
      obtain rfl : b = lineFeed := h b rfl
      refine ⟨[], [], endsLine_nil, fun tail htail => ?_⟩
      show splitValue ([] ++ lineFeed :: tail) = ([], tail)
      exact splitValue_append (List.forall_mem_nil _) htail
    · have hhead : EndsLine head := h.of_suffix (List.suffix_cons b head)
      have hnext : ∀ tail, (head ++ tail).head?.any continues = head.head?.any continues :=
        fun tail => by rw [List.head?_append_of_ne_nil head hend]
      by_cases hstop : (b == lineFeed && !head.head?.any continues) = true
      · refine ⟨[], head, hhead, fun tail _ => ?_⟩
        rw [List.cons_append, splitValue, hnext, if_pos hstop]
      · obtain ⟨value, rest, hrest, hsplit⟩ := ih hhead hend
        refine ⟨b :: value, rest, hrest, fun tail htail => ?_⟩
        rw [List.cons_append, splitValue, hnext, if_neg hstop, hsplit tail htail]

theorem exists_read (h : EndsLine head) (hne : head ≠ []) :
    ∃ f rest, EndsLine rest ∧ ∀ tail, StartsLine tail →
      read (head ++ tail) = (f, rest ++ tail) := by
  obtain ⟨name, b, after, rfl, hname, hb, hafter⟩ := h.exists_run hne (p := inName) rfl
  have htake : ∀ tail, (name ++ b :: after ++ tail).takeWhile inName = name := by
    intro tail
    rw [List.append_assoc, List.cons_append, List.takeWhile_append_of_pos hname,
      List.takeWhile_cons_of_neg (by simp [hb]), List.append_nil]
  have hdrop : ∀ tail, (name ++ b :: after ++ tail).dropWhile inName = b :: (after ++ tail) := by
    intro tail
    rw [List.append_assoc, List.cons_append, List.dropWhile_append_of_pos hname,
      List.dropWhile_cons_of_neg (by simp [hb])]
  by_cases hcolon : b = colon
  · subst hcolon
    have hvalue : after ≠ [] := by
      rintro rfl
      have hlast : colon = lineFeed := h colon List.getLast?_concat
      cases hlast
    obtain ⟨spaces, c, value, rfl, hspaces, hc, -⟩ :=
      hafter.exists_run hvalue (p := (· == space)) rfl
    have hstart : EndsLine (c :: value) := hafter.of_suffix (List.suffix_append spaces _)
    obtain ⟨v, rest, hrest, hsplit⟩ := EndsLine.exists_splitValue hstart (List.cons_ne_nil c value)
    refine ⟨⟨name, Text.dropEndWhile isBreak v⟩, rest, hrest, fun tail htail => ?_⟩
    have hskip : (spaces ++ c :: value ++ tail).dropWhile (· == space) = c :: value ++ tail := by
      rw [List.append_assoc, List.dropWhile_append_of_pos hspaces]
      exact List.dropWhile_cons_of_neg (by simp [hc])
    rw [read, htake, hdrop]
    simp only [beq_self_eq_true, if_true, hskip, hsplit tail htail]
  · refine ⟨⟨name, []⟩, after, hafter, fun tail _ => ?_⟩
    rw [read, htake, hdrop]
    simp only [beq_eq_false_iff_ne.mpr hcolon, Bool.false_eq_true, if_false]

end Field

namespace HeaderBlock

/-- The body gets longer, and nothing else happens. -/
def extend (body : Bytes) (block : HeaderBlock) : HeaderBlock := ⟨block.fields, block.body ++ body⟩

theorem parse_lineFeed (rest : Bytes) : parse (lineFeed :: rest) = .ok ⟨[], rest⟩ := by
  rw [parse.eq_def]
  rfl

theorem parse_returnFeed (rest : Bytes) :
    parse (carriageReturn :: lineFeed :: rest) = .ok ⟨[], rest⟩ := by
  rw [parse.eq_def]
  rfl

theorem parse_strayReturn {c : UInt8} (h : c ≠ lineFeed) (rest : Bytes) :
    parse (carriageReturn :: c :: rest) = .error .strayReturn := by
  rw [parse.eq_def]
  exact if_neg (mt beq_iff_eq.mp h)

theorem parse_space (rest : Bytes) : parse (space :: rest) = .error .leadingSpace := by
  rw [parse.eq_def]
  rfl

theorem parse_field {b : UInt8} (hbreak : isBreak b = false) (hspace : b ≠ space) (rest : Bytes) :
    parse (b :: rest) =
      (parse (read (b :: rest)).2).map fun block =>
        ⟨(read (b :: rest)).1 :: block.fields, block.body⟩ := by
  rw [isBreak, Bool.or_eq_false_iff] at hbreak
  rw [parse.eq_def]
  simp only [hbreak.1, hbreak.2, beq_eq_false_iff_ne.mpr hspace, Bool.false_eq_true, if_false]
  cases parse (read (b :: rest)).2 <;> rfl

/-- The head settles what a block is read as, up to what the body goes on with. -/
theorem exists_parse (hhead : EndsLine head) (hempty : EmptyLine empty) :
    ∃ result : Except HeaderError HeaderBlock,
      ∀ body, parse (head ++ (empty ++ body)) = result.map (extend body) := by
  induction hlength : head.length using Nat.strong_induction_on generalizing head with
  | _ n ih =>
    cases head with
    | nil =>
      cases hempty with
      | feed => exact ⟨.ok ⟨[], []⟩, parse_lineFeed⟩
      | returnFeed => exact ⟨.ok ⟨[], []⟩, parse_returnFeed⟩
    | cons b head =>
      by_cases hfeed : b = lineFeed
      · subst hfeed
        refine ⟨.ok ⟨[], head ++ empty⟩, fun body => ?_⟩
        rw [List.cons_append, parse_lineFeed, ← List.append_assoc]
        rfl
      by_cases hreturn : b = carriageReturn
      · subst hreturn
        cases head with
        | nil => exact absurd (hhead carriageReturn rfl) (by decide)
        | cons c head =>
          by_cases hc : c = lineFeed
          · subst hc
            refine ⟨.ok ⟨[], head ++ empty⟩, fun body => ?_⟩
            rw [List.cons_append, List.cons_append, parse_returnFeed, ← List.append_assoc]
            rfl
          · exact ⟨.error .strayReturn, fun body => parse_strayReturn hc _⟩
      by_cases hspace : b = space
      · subst hspace
        exact ⟨.error .leadingSpace, fun body => parse_space _⟩
      have hbreak : isBreak b = false := by simp [isBreak, hfeed, hreturn]
      obtain ⟨f, rest, hrest, hread⟩ := exists_read hhead (List.cons_ne_nil b head)
      have hshorter : rest.length < n := by
        have hlt := read_length_lt b head
        have hall := hread [] fun b hb => absurd hb.symm (Option.some_ne_none b)
        rw [List.append_nil, List.append_nil] at hall
        rwa [hall, hlength] at hlt
      obtain ⟨result, hresult⟩ := ih rest.length hshorter hrest rfl
      refine ⟨result.map fun block => ⟨f :: block.fields, block.body⟩, fun body => ?_⟩
      have hbody := hread (empty ++ body) (hempty.startsLine body)
      rw [List.cons_append] at hbody ⊢
      rw [parse_field hbreak hspace, hbody, hresult body]
      cases result <;> rfl

end HeaderBlock

namespace Inbound

/-- An envelope line has no break among its first bytes. -/
theorem not_startsEnvelope {message : Bytes} {b : UInt8} (hb : isBreak b = true)
    (hmem : b ∈ message.take envelopeStart.length) :
    ((message.take envelopeStart.length).map foldByte == envelopeStart.map foldByte) = false := by
  rw [beq_eq_false_iff_ne]
  intro heq
  have hfold : foldByte b = b := by
    rw [isBreak, Bool.or_eq_true, beq_iff_eq, beq_iff_eq] at hb
    rcases hb with rfl | rfl <;> rfl
  have hstart : b ∈ envelopeStart.map foldByte := heq ▸ hfold ▸ List.mem_map_of_mem hmem
  have hnone : (envelopeStart.map foldByte).all (fun c => !isBreak c) = true := rfl
  have hnot := List.all_eq_true.mp hnone b hstart
  rw [hb] at hnot
  cases hnot

theorem exists_splitEnvelopeLine (hhead : EndsLine head) (hempty : EmptyLine empty) :
    ∃ line rest, EndsLine rest ∧
      ∀ body, splitEnvelopeLine (head ++ (empty ++ body)) = (line, rest ++ (empty ++ body)) := by
  by_cases hshort : head.length ≤ envelopeStart.length
  · -- a break comes too early
    refine ⟨none, head, hhead, fun body => ?_⟩
    obtain ⟨b, hb, hmem⟩ :
        ∃ b, isBreak b = true ∧ b ∈ (head ++ (empty ++ body)).take envelopeStart.length := by
      by_cases hnil : head = []
      · obtain ⟨b, rest, rfl, hb⟩ := hempty.exists_cons
        subst hnil
        exact ⟨b, hb, List.mem_cons_self⟩
      · rw [List.take_append, List.take_of_length_le hshort]
        exact ⟨lineFeed, rfl, List.mem_append_left _ (hhead.lineFeed_mem hnil)⟩
    rw [splitEnvelopeLine, not_startsEnvelope hb hmem, if_neg Bool.false_ne_true]
  · have hlong : envelopeStart.length ≤ head.length := Nat.le_of_not_le hshort
    by_cases hstart :
        ((head.take envelopeStart.length).map foldByte == envelopeStart.map foldByte) = true
    · have hne : head.drop envelopeStart.length ≠ [] := by
        rw [Ne, List.drop_eq_nil_iff]
        exact hshort
      have hdrop : EndsLine (head.drop envelopeStart.length) :=
        hhead.of_suffix (List.drop_suffix _ _)
      obtain ⟨line, b, rest, hrest, hline, hb, hend⟩ :=
        hdrop.exists_run hne (p := (· != lineFeed)) rfl
      obtain rfl : b = lineFeed := by simpa using hb
      refine ⟨(Text.words (Utf8.decodeLossy line)).head?, rest, hend, fun body => ?_⟩
      rw [splitEnvelopeLine, List.take_append_of_le_length hlong, if_pos hstart,
        List.drop_append_of_le_length hlong, hrest, List.append_assoc, List.cons_append]
      dsimp only
      rw [List.takeWhile_append_of_pos hline, List.dropWhile_append_of_pos hline]
      show ((Text.words (Utf8.decodeLossy (line ++ []))).head?, rest ++ (empty ++ body)) = _
      rw [List.append_nil]
    · refine ⟨none, head, hhead, fun body => ?_⟩
      rw [splitEnvelopeLine, List.take_append_of_le_length hlong, if_neg hstart]

/-- Messages with one head are read alike. -/
theorem parse_body [Charsets] (hhead : EndsLine head) (hempty : EmptyLine empty)
    (body₁ body₂ : Bytes) :
    parse (head ++ empty ++ body₁) = parse (head ++ empty ++ body₂) := by
  obtain ⟨line, rest, hrest, hsplit⟩ := exists_splitEnvelopeLine hhead hempty
  obtain ⟨result, hresult⟩ := HeaderBlock.exists_parse hrest hempty
  rw [List.append_assoc, List.append_assoc, parse, parse, hsplit, hsplit]
  dsimp only
  rw [hresult, hresult]
  cases result <;> rfl

end Inbound

/-! ## 3. Decisions -/

/-- The responder looks at a message only through what is read from it. -/
theorem Responder.process_congr [Charsets] {message₁ message₂ : Bytes}
    (h : Inbound.parse message₁ = Inbound.parse message₂) (r : Responder) (recipient : Address)
    (envelope : Option Text) (now : Instant) :
    r.process ⟨recipient, envelope, message₁⟩ now =
      r.process ⟨recipient, envelope, message₂⟩ now := by
  have hjudge : ∀ policy, judge policy ⟨recipient, envelope, message₁⟩ now =
      judge policy ⟨recipient, envelope, message₂⟩ now := by
    intro policy
    simp only [judge, h]
  simp only [process, hjudge]

/-- Nothing behind the empty line matters: the message is read alike, with or without success, and
the responder asks and answers alike, down to the reply that it delivers. -/
theorem decided_by_head [Charsets] (hhead : EndsLine head) (hempty : EmptyLine empty)
    (body₁ body₂ : Bytes) :
    Inbound.parse (head ++ empty ++ body₁) = Inbound.parse (head ++ empty ++ body₂) ∧
      ∀ (r : Responder) (recipient : Address) (envelope : Option Text) (now : Instant),
        r.process ⟨recipient, envelope, head ++ empty ++ body₁⟩ now =
          r.process ⟨recipient, envelope, head ++ empty ++ body₂⟩ now := by
  have hparse := Inbound.parse_body hhead hempty body₁ body₂
  exact ⟨hparse, Responder.process_congr hparse⟩

/-- A message out of a file of messages, with a folded value and a line that is no field. -/
def filedHead : Bytes :=
  Utf8.encode
    "From ann@example.org Mon\nSubject: Hi\n there\r\nno field\nTo: b@example.com\r\n".toList

/-- A body that is not UTF-8 and goes on like a header block. -/
def headerLikeBody : Bytes :=
  [255, 254, lineFeed] ++ Utf8.encode "Auto-Submitted: auto-replied\n\n".toList

theorem decided_by_head_filed :
    (EndsLine filedHead ∧ EmptyLine [carriageReturn, lineFeed]) ∧
      Inbound.parse (filedHead ++ [carriageReturn, lineFeed] ++ headerLikeBody) =
          Inbound.parse (filedHead ++ [carriageReturn, lineFeed] ++ []) ∧
        ∀ (r : Responder) (recipient : Address) (envelope : Option Text) (now : Instant),
          r.process
              ⟨recipient, envelope, filedHead ++ [carriageReturn, lineFeed] ++ headerLikeBody⟩ now =
            r.process ⟨recipient, envelope, filedHead ++ [carriageReturn, lineFeed] ++ []⟩ now := by
  have hlast : filedHead.getLast? = some lineFeed := by decide
  have hhead : EndsLine filedHead := by
    rw [EndsLine, hlast]
    exact fun b hb => (Option.mem_some.mp hb).symm
  exact ⟨⟨hhead, .returnFeed⟩, decided_by_head hhead .returnFeed headerLikeBody []⟩

end Autoresponder
