import Autoresponder.Dialogue
/-!
# What a dialogue may ask

1. A property that all questions of a dialogue have, whatever they are answered, bounds what the
   dialogue can do to the state of its server (`Dialogue.AsksOnly.run_induction`).
2. An answer in a transcript is one that the server gives in some state that the dialogue can have
   led to (`Dialogue.exists_serve_of_mem_transcript`). What holds of the transcript and the result
   from every state is shown along the dialogue (`Dialogue.Follows`).
3. Questions may also come from outside, one after the other (`Server.askAll`). Those of them that
   change nothing which an observer sees can be left out: `Server.askAll_filter`.
-/

namespace Autoresponder.Dialogue

/-! ## 1. Questions -/

variable {Question : Type} {Answer : Question → Type} {α β σ τ : Type} {P : Question → Prop}

/-- All questions that a dialogue may ask have a property. -/
inductive AsksOnly (P : Question → Prop) : Dialogue Question Answer α → Prop
  | done (a : α) : AsksOnly P (.done a)
  | ask {q : Question} {next : Answer q → Dialogue Question Answer α} (hq : P q)
      (hnext : ∀ answer, AsksOnly P (next answer)) : AsksOnly P (.ask q next)

/-- Every dialogue asks questions. -/
theorem asksOnly_true (d : Dialogue Question Answer α) : d.AsksOnly fun _ => True := by
  induction d with
  | done a => exact .done a
  | ask q next ih => exact .ask trivial ih

theorem AsksOnly.bind {d : Dialogue Question Answer α} {f : α → Dialogue Question Answer β}
    (h : d.AsksOnly P) (hf : ∀ a, (f a).AsksOnly P) : (d.bind f).AsksOnly P := by
  induction h with
  | done a => exact hf a
  | ask hq _ ih => exact .ask hq ih

/-- What every permitted question preserves, the dialogue preserves. -/
theorem AsksOnly.run_induction {serve : Server Question Answer σ} {I : σ → Prop}
    (hserve : ∀ q s, P q → I s → I (serve q s).2) {d : Dialogue Question Answer α}
    (h : d.AsksOnly P) {s : σ} (hs : I s) : I (run serve d s).2 := by
  induction h generalizing s with
  | done a => exact hs
  | ask hq _ ih => exact ih _ (hserve _ _ hq hs)

/-- If two servers give the same answers to every permitted question and their states stay related,
the dialogue has the same result with both of them. -/
theorem AsksOnly.run_agree {serve : Server Question Answer σ} {serve' : Server Question Answer τ}
    {R : σ → τ → Prop}
    (hserve : ∀ q s s', P q → R s s' →
      (serve q s).1 = (serve' q s').1 ∧ R (serve q s).2 (serve' q s').2)
    {d : Dialogue Question Answer α} (h : d.AsksOnly P) {s : σ} {s' : τ} (hs : R s s') :
    (run serve d s).1 = (run serve' d s').1 ∧ R (run serve d s).2 (run serve' d s').2 := by
  induction h generalizing s s' with
  | done a => exact ⟨rfl, hs⟩
  | ask hq _ ih =>
    obtain ⟨hanswer, hafter⟩ := hserve _ s s' hq hs
    rw [run_ask, run_ask, ← hanswer]
    exact ih _ hafter

/-! ## 2. Answers -/

theorem exists_serve_of_mem_transcript {serve : Server Question Answer σ} {I : σ → Prop}
    (hserve : ∀ q s, I s → I (serve q s).2) (d : Dialogue Question Answer α) {s : σ} (hs : I s)
    {x : Exchange Question Answer} (h : x ∈ d.transcript serve s) :
    ∃ s', I s' ∧ x.answer = (serve x.question s').1 := by
  induction d generalizing s with
  | done a => cases h
  | ask q next ih =>
    rcases List.mem_cons.mp h with rfl | hlater
    · exact ⟨s, hs, rfl⟩
    · exact ih _ (hserve q s hs) hlater

/-- What is said and what comes of it are as they should be, from every state. -/
def Follows (serve : Server Question Answer σ) (d : Dialogue Question Answer α)
    (C : List (Exchange Question Answer) → α → Prop) : Prop :=
  ∀ s, C (d.transcript serve s) (d.run serve s).1

section Follows

variable {serve : Server Question Answer σ} {C : List (Exchange Question Answer) → α → Prop}

theorem Follows.mono {d : Dialogue Question Answer α}
    {C' : List (Exchange Question Answer) → α → Prop} (h : Follows serve d C)
    (himp : ∀ es a, C es a → C' es a) : Follows serve d C' := fun s => himp _ _ (h s)

theorem Follows.of_done {a : α} (h : C [] a) : Follows serve (.done a) C := fun _ => h

theorem Follows.of_ask {q : Question} {next : Answer q → Dialogue Question Answer α}
    (h : ∀ answer, Follows serve (next answer) fun es => C (⟨q, answer⟩ :: es)) :
    Follows serve (.ask q next) C := fun _ => h _ _

theorem Follows.bind {d : Dialogue Question Answer α} {f : α → Dialogue Question Answer β}
    {C' : List (Exchange Question Answer) → β → Prop} (h : Follows serve d C)
    (hf : ∀ es a, C es a → Follows serve (f a) fun es' => C' (es ++ es')) :
    Follows serve (d.bind f) C' := by
  intro s
  rw [transcript_bind, run_bind]
  exact hf _ _ (h s) _

end Follows

end Autoresponder.Dialogue

/-! ## 3. Questions one after the other -/

namespace Autoresponder.Server

variable {Question : Type} {Answer : Question → Type} {σ : Type}

/-- What is said if questions are asked one after the other, and the state that they leave
behind. -/
def askAll (serve : Server Question Answer σ) :
    List Question → σ → List (Exchange Question Answer) × σ
  | [], s => ([], s)
  | q :: qs, s =>
    let (answer, s) := serve q s
    let (later, s) := askAll serve qs s
    (⟨q, answer⟩ :: later, s)

/-- An observer sees some of the questions and their answers, and of the states no more than a
relation tells. If the other questions do not change what it sees, it sees the same where they are
not asked at all. -/
theorem askAll_filter (serve : Server Question Answer σ) (seen : Question → Bool) {R : σ → σ → Prop}
    (hseen : ∀ q s s', seen q = true → R s s' →
      (serve q s).1 = (serve q s').1 ∧ R (serve q s).2 (serve q s').2)
    (hunseen : ∀ q s s', seen q = false → R s s' → R (serve q s).2 s') (qs : List Question)
    {s s' : σ} (h : R s s') :
    (askAll serve qs s).1.filter (fun x => seen x.question) = (askAll serve (qs.filter seen) s').1 ∧
      R (askAll serve qs s).2 (askAll serve (qs.filter seen) s').2 := by
  induction qs generalizing s s' with
  | nil => exact ⟨rfl, h⟩
  | cons q qs ih =>
    cases hq : seen q with
    | true =>
      obtain ⟨hanswer, hafter⟩ := hseen q s s' hq h
      obtain ⟨hlater, hend⟩ := ih hafter
      rw [List.filter_cons_of_pos hq]
      refine ⟨?_, hend⟩
      simp only [askAll]
      rw [List.filter_cons_of_pos (by exact hq), hlater, hanswer]
    | false =>
      have hnot : ¬seen q = true := Bool.eq_false_iff.mp hq
      obtain ⟨hlater, hend⟩ := ih (hunseen q s s' hq h)
      rw [List.filter_cons_of_neg hnot]
      refine ⟨?_, hend⟩
      simp only [askAll]
      rw [List.filter_cons_of_neg (by exact hnot), hlater]

end Autoresponder.Server
