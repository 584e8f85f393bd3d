import Autoresponder.Proofs.Questions
import Mathlib.Logic.Function.Basic
/-!
# Dialogues side by side

Several dialogues that share the state of their servers. Each of them asks one question at a time,
and between two of its questions any of the others may ask any number of theirs.

1. `Dialogue.advance` is one question with its answer.
2. An `Interleaving` is what the dialogues have still to say, what they have heard, and the state. A
   schedule names who is next (`Interleaving.run`).
-/

namespace Autoresponder

/-! ## 1. One question -/

namespace Dialogue

variable {Question : Type} {Answer : Question → Type} {α σ : Type}

/-- A dialogue behind its next question, what it has heard, and the state. A dialogue that is over
stays as it is. -/
def advance (serve : Server Question Answer σ) :
    Dialogue Question Answer α → σ →
      Dialogue Question Answer α × List (Exchange Question Answer) × σ
  | .done a, s => (.done a, [], s)
  | .ask q next, s =>
    let (answer, s') := serve q s
    (next answer, [⟨q, answer⟩], s')

/-- The result of a dialogue that is over. -/
def result? : Dialogue Question Answer α → Option α
  | .done a => some a
  | .ask _ _ => none

variable {P : Question → Prop} {serve : Server Question Answer σ} {d : Dialogue Question Answer α}

theorem AsksOnly.advance (h : d.AsksOnly P) (s : σ) : (d.advance serve s).1.AsksOnly P := by
  cases h with
  | done a => exact .done a
  | ask _ hnext => exact hnext _

theorem AsksOnly.advance_state {I : σ → Prop} (hserve : ∀ q s, P q → I s → I (serve q s).2)
    (h : d.AsksOnly P) {s : σ} (hs : I s) : I (d.advance serve s).2.2 := by
  cases h with
  | done a => exact hs
  | ask hq _ => exact hserve _ _ hq hs

end Dialogue

/-! ## 2. Schedules -/

/-- Dialogues in progress, and the state that they share. -/
structure Interleaving (ι Question : Type) (Answer : Question → Type) (α σ : Type) where
  talk : ι → Dialogue Question Answer α
  /-- What has been said so far. -/
  heard : ι → List (Exchange Question Answer)
  state : σ

namespace Interleaving

variable {ι Question : Type} {Answer : Question → Type} {α σ : Type}

/-- Nobody has asked anything yet. -/
def start (talk : ι → Dialogue Question Answer α) (s : σ) : Interleaving ι Question Answer α σ :=
  ⟨talk, fun _ => [], s⟩

/-- The result of one of the dialogues, if it is over. -/
def result? (x : Interleaving ι Question Answer α σ) (i : ι) : Option α := (x.talk i).result?

variable [DecidableEq ι]

/-- One of the dialogues asks its next question. -/
def step (serve : ι → Server Question Answer σ) (i : ι) (x : Interleaving ι Question Answer α σ) :
    Interleaving ι Question Answer α σ :=
  let (talk, news, s) := (x.talk i).advance (serve i) x.state
  ⟨Function.update x.talk i talk, Function.update x.heard i (x.heard i ++ news), s⟩

/-- The dialogues ask in the order of a schedule. -/
def run (serve : ι → Server Question Answer σ) (schedule : List ι)
    (x : Interleaving ι Question Answer α σ) : Interleaving ι Question Answer α σ :=
  schedule.foldl (fun x i => x.step serve i) x

end Interleaving
end Autoresponder
