/-
A worker pool neither loses nor duplicates messages.

What a pool owes its callers is said in five parts, each of them for every moment of every run: `AtMostOnce`,
`NothingLost`, `Answered`, in `Answers`, `InOrder` (with a single worker) and `TurnsAway` (once the pool is closed or
cancelled). `Complete`, in `Drain`, is what it owes them when a shutdown has returned.

- `run_account`: every run keeps to all of it, and in a fair history every shutdown returns.
- `cancelled_while_draining`: a cancellation that comes in between loses what is queued.

Premises: none on workers, queue, engine and messages; for `Complete`, that nobody cancels the pool before a shutdown has
returned. The channel between callers and workers is a queue of its capacity, first in first out, which tells a worker
that nothing more can come when it is empty and nobody has a sender. Counters do not wrap.
-/
import EventBroker.Proofs.Ingest.Answers
import EventBroker.Proofs.Ingest.Liveness

namespace EventBroker

open Ingest

namespace Ingest.History

/-- the engine sees messages in the order in which they were queued; a message that was accepted before the submission
of another had begun, at the moment `s₀`, comes before it -/
def InOrder (s₀ s : History) : Prop :=
  s.passed <+: s.queued ∧
  ∀ q ∈ s₀.pool.accepted, ∀ q' ∈ s.passed, s₀.pool.calls.length ≤ q'.number → [q, q'].Sublist s.passed

theorem Kept.inOrder {s : History} (h : s.Kept) {acts : List Act}
    (horder : (s.run acts).passed <+: (s.run acts).queued) : InOrder s (s.run acts) := by
  refine ⟨horder, fun q hq q' hq' hlate => ?_⟩
  have hq : q ∈ s.queued := h.accepted.mem_iff.2 hq
  have hnew : q' ∉ s.queued := fun hmem => by
    have := h.number_lt hmem
    omega
  -- both are beginnings of one list, and only the passed messages go as far as `q'`
  rcases List.prefix_or_prefix_of_prefix (s.queued_run acts) horder with hshort | hlong
  · obtain ⟨rest, hrest⟩ := hshort
    rw [← hrest, List.mem_append] at hq'
    rw [← hrest]
    exact (List.singleton_sublist.2 hq).append (List.singleton_sublist.2 (hq'.resolve_left hnew))
  · exact absurd (hlong.subset hq') hnew

end Ingest.History

end EventBroker
