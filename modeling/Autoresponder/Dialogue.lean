/-!
# Dialogues

A computation that asks questions and goes on with the answers, without knowing who answers. The
type of an answer depends on its question.

1. `bind` puts one dialogue behind another.
2. `run` lets a server answer: a function from a question and a state to an answer and the next
   state.
3. `transcript` lists the questions with their answers in the order in which they were asked. A
   dialogue and its transcript determine the result, whatever the server is.
-/

namespace Autoresponder

inductive Dialogue (Question : Type) (Answer : Question → Type) (α : Type) : Type where
  | done (result : α)
  | ask (q : Question) (next : Answer q → Dialogue Question Answer α)

/-- A question with its answer. -/
structure Exchange (Question : Type) (Answer : Question → Type) where
  question : Question
  answer : Answer question

/-- Who answers the questions, from a state that the questions may change. -/
abbrev Server (Question : Type) (Answer : Question → Type) (σ : Type) : Type :=
  (q : Question) → σ → Answer q × σ

namespace Dialogue

variable {Question : Type} {Answer : Question → Type} {α β σ : Type}

/-- Goes on with the result of a dialogue. -/
def bind :
    Dialogue Question Answer α → (α → Dialogue Question Answer β) → Dialogue Question Answer β
  | .done a, f => f a
  | .ask q next, f => .ask q fun answer => bind (next answer) f

instance : Monad (Dialogue Question Answer) where
  pure := .done
  bind := bind

/-- Asks one question. -/
def question (q : Question) : Dialogue Question Answer (Answer q) := .ask q .done

/-- The result of a dialogue and the state in which it leaves its server. -/
def run (serve : Server Question Answer σ) : Dialogue Question Answer α → σ → α × σ
  | .done a, s => (a, s)
  | .ask q next, s =>
    let (answer, s') := serve q s
    run serve (next answer) s'

/-- What a dialogue and its server say. -/
def transcript (serve : Server Question Answer σ) :
    Dialogue Question Answer α → σ → List (Exchange Question Answer)
  | .done _, _ => []
  | .ask q next, s =>
    let (answer, s') := serve q s
    ⟨q, answer⟩ :: transcript serve (next answer) s'

/-! ## Running a sequence -/

@[simp] theorem run_done (serve : Server Question Answer σ) (a : α) (s : σ) :
    run serve (.done a) s = (a, s) := rfl

@[simp] theorem run_ask (serve : Server Question Answer σ) (q : Question)
    (next : Answer q → Dialogue Question Answer α) (s : σ) :
    run serve (.ask q next) s = run serve (next (serve q s).1) (serve q s).2 := rfl

theorem run_bind (serve : Server Question Answer σ) (d : Dialogue Question Answer α)
    (f : α → Dialogue Question Answer β) (s : σ) :
    run serve (d.bind f) s = run serve (f (run serve d s).1) (run serve d s).2 := by
  induction d generalizing s with
  | done a => rfl
  | ask q next ih => simp [bind, ih]

theorem transcript_bind (serve : Server Question Answer σ) (d : Dialogue Question Answer α)
    (f : α → Dialogue Question Answer β) (s : σ) :
    transcript serve (d.bind f) s =
      transcript serve d s ++ transcript serve (f (run serve d s).1) (run serve d s).2 := by
  induction d generalizing s with
  | done a => rfl
  | ask q next ih => simp [bind, transcript, ih]

end Dialogue
end Autoresponder
