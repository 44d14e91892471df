/-
A worker pool that is shut down empties its queue.

- `step_wound`: whoever shuts a pool down does not leave before all workers have stopped.
- `step_calm`: as long as nobody cancels the pool, its workers stop only when the queue is empty and stays so.
- `Kept.complete`: then every accepted message was passed to the engine once, and the counters tell so.
- `Late.step`, `Late.advance`: a submission that begins when the pool is closed or cancelled is turned away after two
  steps of its own.

Premises: none but that nobody cancels the pool, where that is said.
-/
import EventBroker.Proofs.Ingest.History

namespace EventBroker

open Ingest

namespace IngestPool

variable {p : IngestPool}

/-! ## Those who shut the pool down -/

/-- what a shutdown has seen to -/
structure Wound (p : IngestPool) : Prop where
  closed : ∀ x ∈ p.closings, x ≠ .called → p.isOpen = false
  joined : p.joined = true → p.isDeserted = true
  left : ∀ x ∈ p.closings, x = .leaving ∨ x = .returned → p.isDeserted = true

theorem Wound.later {p' : IngestPool} (h : p.Wound) (hlater : p.Later p')
    (hclosings : ∀ x ∈ p'.closings, x ∈ p.closings ∨ x = .called) (hjoined : p'.joined = p.joined) : p'.Wound where
  closed := by
    intro x hx hcalled
    rcases hclosings x hx with hx | rfl
    · exact hlater.closed (h.closed x hx hcalled)
    · exact absurd rfl hcalled
  joined hj := hlater.isDeserted (h.joined (hjoined ▸ hj))
  left := by
    intro x hx hleft
    rcases hclosings x hx with hx | rfl
    · exact hlater.isDeserted (h.left x hx hleft)
    · rcases hleft with hleft | hleft <;> cases hleft

/-- nobody has cancelled the pool: workers have stopped only because there was nothing left for them to do -/
structure Calm (p : IngestPool) : Prop where
  cancelled : p.cancelled = true → p.isDeserted = true
  stopped : .stopped ∈ p.workers → p.hasSender = false ∧ p.queue = []

theorem Calm.later {p' : IngestPool} (h : p.Calm) (hlater : p.Later p')
    (hcancelled : p'.cancelled = true → p.cancelled = true ∨ p.isDeserted = true)
    (hworkers : p'.workers = p.workers) : p'.Calm where
  cancelled hc := hlater.isDeserted ((hcancelled hc).elim h.cancelled id)
  stopped hstopped := by
    obtain ⟨hs, hq⟩ := h.stopped (hworkers ▸ hstopped)
    exact ⟨hlater.hasSender hs, hlater.queue hs hq⟩

/-- all workers have stopped, and nothing is or can be queued -/
structure Settled (p : IngestPool) : Prop where
  deserted : p.isDeserted = true
  hasSender : p.hasSender = false
  queue : p.queue = []

theorem Settled.later {p' : IngestPool} (h : p.Settled) (hlater : p.Later p') : p'.Settled :=
  ⟨hlater.isDeserted h.deserted, hlater.hasSender h.hasSender, hlater.queue h.hasSender h.queue⟩

/-- a submission at this phase does not get a sender: so many steps are left to it until it is turned away -/
inductive TurnedAway (p : IngestPool) : Phase → Nat → Prop where
  | begun {n : Nat} (hn : 2 ≤ n) : TurnedAway p .begun n
  | admitted {n : Nat} (hn : 1 ≤ n) (hopen : p.isOpen = false) : TurnedAway p .admitted n
  | answered {n : Nat} : TurnedAway p (.answered (.error .ingestClosed)) n

/-- a submission comes too late -/
def Late (p : IngestPool) (t n : Nat) : Prop :=
  p.accepts = false ∧ ∃ c, p.calls[t]? = some c ∧ p.TurnedAway c.phase n

theorem TurnedAway.later {p' : IngestPool} {phase : Phase} {n n' : Nat} (h : p.TurnedAway phase n)
    (hlater : p.Later p') (hn : n ≤ n') : p'.TurnedAway phase n' := by
  cases h with
  | begun h => exact .begun (Nat.le_trans h hn)
  | admitted h hopen => exact .admitted (Nat.le_trans h hn) (hlater.closed hopen)
  | answered => exact .answered

/-- a step of such a submission -/
theorem TurnedAway.goes {c : Submission} {phase : Phase} {more : List Parcel} {n : Nat}
    (h : p.TurnedAway c.phase (n + 1)) (haccepts : p.accepts = false) (hgoes : c.Goes p phase more) :
    p.TurnedAway phase n := by
  cases hgoes with
  | refused hc hcancel => exact .answered
  | admitted hc hcancel =>
    rw [hc] at h
    cases h with
    | begun hn => exact .admitted (by omega) (by simpa [accepts, hcancel] using haccepts)
  | closed hc hopen => exact .answered
  | given hc hopen =>
    rw [hc] at h
    cases h with
    | admitted hn hclosed => simp [hopen] at hclosed
  | deserted hc | queued hc | dropped hc | left r hc =>
    rw [hc] at h
    cases h

theorem Late.step {t n : Nat} (h : p.Late t n) (a : Act) : (p.step a).Late t n := by
  obtain ⟨haccepts, c, hc, hphase⟩ := h
  have hlater := p.step_later a
  refine ⟨hlater.accepts haccepts, ?_⟩
  rcases p.step_call hc a with hsame | ⟨phase, more, hgoes, hc'⟩
  · exact ⟨c, hsame, hphase.later hlater (Nat.le_refl n)⟩
  · have hnear := (hphase.later (.refl p) n.le_succ).goes haccepts hgoes
    exact ⟨_, hc', hnear.later hlater (Nat.le_refl n)⟩

/-- its own steps bring a late submission nearer to its answer -/
theorem Late.advance {t n : Nat} (h : p.Late t (n + 1)) : (p.advance t).Late t n := by
  obtain ⟨haccepts, c, hc, hphase⟩ := h
  rcases p.advance_cases t with ⟨heq, hstays⟩ | ⟨c', phase, more, hc', hgoes, heq⟩
  · rw [heq]
    refine ⟨haccepts, c, hc, ?_⟩
    rcases hstays c hc with ⟨r, hr⟩ | ⟨hr, -⟩
    · rw [hr] at hphase ⊢
      cases hphase
      exact .answered
    · rw [hr] at hphase
      cases hphase
  · have hlater : p.Later (p.advance t) := p.step_later (.advance t)
    obtain ⟨ht, -⟩ := List.getElem?_eq_some_iff.1 hc'
    cases hc.symm.trans hc'
    have hnear := hphase.goes haccepts hgoes
    exact ⟨hlater.accepts haccepts, { c with phase }, by simp [heq, ht], hnear.later hlater (Nat.le_refl n)⟩

theorem Late.answer {t : Nat} (h : p.Late t 0) : p.answer? t = some (.error .ingestClosed) := by
  obtain ⟨-, ⟨parcel, patient, phase⟩, hc, hphase⟩ := h
  cases hphase with
  | begun hn | admitted hn => omega
  | answered => simp [answer?, hc]

end IngestPool

namespace Ingest.History

/-- every accepted message has been passed to the engine once, and the counters tell how many and with what result -/
structure Complete (s : History) : Prop where
  once : s.passed.Perm s.pool.accepted
  answered : ∀ c ∈ s.pool.calls, c.phase.isAccepted = true → c.phase = .answered (.ok true)
  returned : s.passed.Perm (s.results.map Prod.fst)
  processed : s.pool.processed = s.pool.accepted.length
  delivered : s.pool.delivered = (s.results.map Prod.snd).sum

theorem Kept.complete {s : History} (h : s.Kept) (hsettled : s.pool.Settled) : s.Complete := by
  have hstopped := IngestPool.isDeserted_iff.1 hsettled.deserted
  have hheld : s.pool.held = [] := List.flatMap_eq_nil_iff.2 fun x hx => by rw [hstopped x hx]; rfl
  have hengine : s.pool.workers.flatMap Worker.inEngine = [] :=
    List.flatMap_eq_nil_iff.2 fun x hx => by rw [hstopped x hx]; rfl
  have hsum (f : Worker → Nat) (hf : f .stopped = 0) : (s.pool.workers.map f).sum = 0 := by
    refine List.sum_eq_zero fun n hn => ?_
    obtain ⟨x, hx, rfl⟩ := List.mem_map.1 hn
    rw [hstopped x hx, hf]
  have honce : s.passed.Perm s.pool.accepted := by
    have := h.kept
    rw [hheld, hsettled.queue, List.append_nil, List.append_nil] at this
    exact this.symm.trans h.accepted
  constructor
  · exact honce
  · intro c hc haccepted
    have := (IngestPool.hasSender_eq_false_iff.1 hsettled.hasSender).2 c hc
    cases hphase : c.phase with
    | answered r => rcases r with _ | _ | _ <;> simp_all [Phase.isAccepted]
    | _ => simp_all [Phase.isAccepted, Phase.hasSender]
  · simpa [hengine] using h.evaluated
  · have := h.processed
    rwa [hsum _ rfl, Nat.add_zero, honce.length_eq] at this
  · have := h.delivered
    rwa [hsum _ rfl, Nat.add_zero] at this

end Ingest.History

end EventBroker
