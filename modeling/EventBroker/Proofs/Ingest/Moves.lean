/-
The steps of a worker pool, one by one.

An act is one step of one of those who use the pool. `Worker.Goes`, `Submission.Goes` and `Closing.Goes` have a
constructor for each thing that a step of a worker, a submission or a shutdown can be, with what it needs and what it
changes.

- `step_does`: an act does nothing, or one of those who use the pool goes one way.
- `step_later`: what no step undoes. A closed pool stays closed and a cancelled pool cancelled; once nobody can queue
  messages nobody ever can, and then an empty queue stays empty; workers that have all stopped stay as they are.

Premises: none. An act of somebody who is not there does nothing.
-/
import EventBroker.Ingest
import Mathlib.Data.List.Basic

namespace EventBroker

open Ingest

/-- something that happens to a pool -/
inductive Ingest.Act where
  | submit (m : Message) (patient : Bool)
  | advance (t : Nat)
  | work (w : Nat) (e : Engine) (now : Timestamp) (h : Hub)
  | timeOut (w : Nat)
  | cancel
  | shutDown
  | windUp (k : Nat)

namespace IngestPool

def step (p : IngestPool) : Act → IngestPool
  | .submit m patient => p.submit m patient
  | .advance t => p.advance t
  | .work w e now h => (p.work w e now h).1
  | .timeOut w => p.timeOut w
  | .cancel => p.cancel
  | .shutDown => p.shutDown
  | .windUp k => p.windUp k

end IngestPool

/-! ## What a worker has at hand -/

/-- the message of a worker that has not yet passed it to the engine -/
def Ingest.Worker.held : Worker → List Parcel
  | holding q => [q]
  | _ => []

/-- the message of a worker that waits for the engine -/
def Ingest.Worker.inEngine : Worker → List Parcel
  | evaluating q _ _ => [q]
  | _ => []

/-- what the engine returns to a worker with its next step -/
def Ingest.Worker.result : Worker → List (Parcel × Nat)
  | evaluating q [] n => [(q, n)]
  | _ => []

/-- messages that a worker has passed on and not counted -/
def Ingest.Worker.uncounted : Worker → Nat
  | evaluating .. | evaluated _ => 1
  | _ => 0

/-- deliveries that a worker has been told of and not counted -/
def Ingest.Worker.undelivered : Worker → Nat
  | evaluated n | counted n => n
  | _ => 0

/-- the message of a submission, if it was queued -/
def Ingest.Submission.accepted (c : Submission) : List Parcel := if c.phase.isAccepted then [c.parcel] else []

/-! ## What a step can be -/

/-- a step takes a worker from one place to another; it leaves this queue and these counts

`lookedUp` is what happens when a worker has waited long enough, the others are what it does. -/
inductive Ingest.Worker.Goes (p : IngestPool) : Worker → Worker → List Parcel → Nat → Nat → Prop where
  | cancelled (h : p.cancelled = true) : Goes p .checking .stopped p.queue p.processed p.delivered
  | checked (h : p.cancelled = false) : Goes p .checking .waiting p.queue p.processed p.delivered
  | took {q : Parcel} {qs : List Parcel} (h : p.queue = q :: qs) :
    Goes p .waiting (.holding q) qs p.processed p.delivered
  | ended (h : p.queue = []) (hs : p.hasSender = false) : Goes p .waiting .stopped p.queue p.processed p.delivered
  | passed (q : Parcel) (left : List (Rule × Event)) :
    Goes p (.holding q) (.evaluating q left 0) p.queue p.processed p.delivered
  | applied (q : Parcel) (r : Rule × Event) (left : List (Rule × Event)) (n n' : Nat) :
    Goes p (.evaluating q (r :: left) n) (.evaluating q left n') p.queue p.processed p.delivered
  | returned (q : Parcel) (n : Nat) : Goes p (.evaluating q [] n) (.evaluated n) p.queue p.processed p.delivered
  | counted (n : Nat) : Goes p (.evaluated n) (.counted n) p.queue (p.processed + 1) p.delivered
  | told (n : Nat) : Goes p (.counted n) .checking p.queue p.processed (p.delivered + n)
  | lookedUp (h : p.isBusy .waiting = false) : Goes p .waiting .checking p.queue p.processed p.delivered

/-- a step takes a submission to another phase, and adds this to the queue -/
inductive Ingest.Submission.Goes (p : IngestPool) (c : Submission) : Phase → List Parcel → Prop where
  | refused (hc : c.phase = .begun) (h : p.cancelled = true) : Goes p c (.answered (.error .ingestClosed)) []
  | admitted (hc : c.phase = .begun) (h : p.cancelled = false) : Goes p c .admitted []
  | closed (hc : c.phase = .admitted) (h : p.isOpen = false) : Goes p c (.answered (.error .ingestClosed)) []
  | given (hc : c.phase = .admitted) (h : p.isOpen = true) : Goes p c .sending []
  | deserted (hc : c.phase = .sending) (hd : p.isDeserted = true) : Goes p c (.leaving (.error .ingestClosed)) []
  | queued (hc : c.phase = .sending) (hd : p.isDeserted = false) (hf : p.isFull = false) :
    Goes p c (.leaving (.ok true)) [c.parcel]
  | dropped (hc : c.phase = .sending) (hd : p.isDeserted = false) (hf : p.isFull = true) (hp : c.patient = false) :
    Goes p c (.leaving (.ok false)) []
  | left (r : Except BrokerError Bool) (hc : c.phase = .leaving r) : Goes p c (.answered r) []

/-- a step takes a shutdown from one place to another; the pool is then open, cancelled and joined as told -/
inductive Ingest.Closing.Goes (p : IngestPool) : Closing → Closing → Bool → Bool → Bool → Prop where
  | closed (h : p.isOpen = true) : Goes p .called .joining false p.cancelled p.joined
  | second (h : p.isOpen = false) : Goes p .called .looking false p.cancelled p.joined
  | nobody (h : p.joined = true) : Goes p .looking .returned p.isOpen p.cancelled p.joined
  | workers (h : p.joined = false) : Goes p .looking .joining p.isOpen p.cancelled p.joined
  | joined (h : p.isDeserted = true) : Goes p .joining .leaving p.isOpen p.cancelled true
  | left : Goes p .leaving .returned p.isOpen true p.joined

/-- what an act makes of a pool -/
inductive Ingest.Act.Does (p : IngestPool) : Act → IngestPool → Prop where
  | nothing (a : Act) : Does p a p
  | proceed {a : Act} {t : Nat} {c : Submission} {phase : Phase} {more : List Parcel} (hc : p.calls[t]? = some c)
    (hgoes : c.Goes p phase more) :
    Does p a { p with calls := p.calls.set t { c with phase }, queue := p.queue ++ more }
  | move {a : Act} {w : Nat} {x y : Worker} {queue : List Parcel} {processed delivered : Nat}
    (hx : p.workers[w]? = some x) (hgoes : x.Goes p y queue processed delivered) :
    Does p a { p with workers := p.workers.set w y, queue, processed, delivered }
  | wind {a : Act} {k : Nat} {x y : Closing} {isOpen cancelled joined : Bool} (hx : p.closings[k]? = some x)
    (hgoes : x.Goes p y isOpen cancelled joined) :
    Does p a { p with closings := p.closings.set k y, isOpen, cancelled, joined }
  | submit (m : Message) (patient : Bool) : Does p (.submit m patient) (p.submit m patient)
  | cancel : Does p .cancel p.cancel
  | shutDown : Does p .shutDown p.shutDown

namespace IngestPool

variable {p : IngestPool}

/-- a step of a worker does nothing if there is nothing for it to do, and otherwise goes one way -/
theorem work_cases (p : IngestPool) (w : Nat) (e : Engine) (now : Timestamp) (h : Hub) :
    ((p.work w e now h).1 = p ∧ ∀ x, p.workers[w]? = some x → p.isBusy x = false) ∨
    ∃ x y queue processed delivered, p.workers[w]? = some x ∧ x.Goes p y queue processed delivered ∧
      (p.work w e now h).1 = { p with workers := p.workers.set w y, queue, processed, delivered } := by
  fun_cases work p w e now h
  case case1 hx => exact .inl ⟨rfl, by simp [hx]⟩
  case case2 hx =>
    refine .inr ⟨_, if p.cancelled then .stopped else .waiting, _, _, _, hx, ?_, rfl⟩
    cases h : p.cancelled
    · exact .checked h
    · exact .cancelled h
  case case3 hx =>
    fun_cases take p w
    case case1 q qs hq => exact .inr ⟨_, _, _, _, _, hx, .took hq, rfl⟩
    case case2 hq hs => exact .inl ⟨rfl, by simp [hx, isBusy, hq, hs]⟩
    case case3 hq hs => exact .inr ⟨_, _, _, _, _, hx, .ended hq (by simpa using hs), rfl⟩
  case case4 q hx => exact .inr ⟨_, _, _, _, _, hx, .passed q _, rfl⟩
  case case5 q r event left n hx done h' happly =>
    exact .inr ⟨_, _, _, _, _, hx, .applied q (r, event) left n _, rfl⟩
  case case6 q n hx => exact .inr ⟨_, _, _, _, _, hx, .returned q n, rfl⟩
  case case7 n hx => exact .inr ⟨_, _, _, _, _, hx, .counted n, rfl⟩
  case case8 n hx => exact .inr ⟨_, _, _, _, _, hx, .told n, rfl⟩
  case case9 hx => exact .inl ⟨rfl, by simp [hx, isBusy]⟩

/-- a step of a submission does nothing if the submission has its answer or waits for room, and otherwise goes one
way -/
theorem advance_cases (p : IngestPool) (t : Nat) :
    (p.advance t = p ∧ ∀ c, p.calls[t]? = some c →
      (∃ r, c.phase = .answered r) ∨ c.phase = .sending ∧ p.isDeserted = false ∧ p.isFull = true) ∨
    ∃ c phase more, p.calls[t]? = some c ∧ c.Goes p phase more ∧
      p.advance t = { p with calls := p.calls.set t { c with phase }, queue := p.queue ++ more } := by
  have hproceed (c : Submission) (phase : Phase) :
      p.proceed t c phase = { p with calls := p.calls.set t { c with phase }, queue := p.queue ++ [] } := by
    simp [proceed]
  fun_cases advance p t
  case case1 hc => exact .inl ⟨rfl, by simp [hc]⟩
  case case2 c hc hphase =>
    rw [hproceed]
    cases h : p.cancelled
    · exact .inr ⟨c, _, _, hc, .admitted hphase h, rfl⟩
    · exact .inr ⟨c, _, _, hc, .refused hphase h, rfl⟩
  case case3 c hc hphase =>
    rw [hproceed]
    cases h : p.isOpen
    · exact .inr ⟨c, _, _, hc, .closed hphase h, rfl⟩
    · exact .inr ⟨c, _, _, hc, .given hphase h, rfl⟩
  case case4 c hc hphase =>
    fun_cases send p t c
    case case1 hd => exact .inr ⟨c, _, _, hc, .deserted hphase hd, hproceed ..⟩
    case case2 hd hf => exact .inr ⟨c, _, _, hc, .queued hphase (by simpa using hd) (by simpa using hf), rfl⟩
    case case3 hd hf hp =>
      refine .inl ⟨rfl, fun c' hc' => .inr ?_⟩
      cases hc.symm.trans hc'
      exact ⟨hphase, by simpa using hd, by simpa using hf⟩
    case case4 hd hf hp =>
      exact .inr ⟨c, _, _, hc, .dropped hphase (by simpa using hd) (by simpa using hf) (by simpa using hp),
        hproceed ..⟩
  case case5 c hc r hphase => exact .inr ⟨c, _, _, hc, .left r hphase, hproceed ..⟩
  case case6 c hc r hphase =>
    refine .inl ⟨rfl, fun c' hc' => .inl ⟨r, ?_⟩⟩
    cases hc.symm.trans hc'
    exact hphase

theorem timeOut_cases (p : IngestPool) (w : Nat) :
    p.timeOut w = p ∨
    ∃ x y queue processed delivered, p.workers[w]? = some x ∧ x.Goes p y queue processed delivered ∧
      x.held = [] ∧ x.result = [] ∧
      p.timeOut w = { p with workers := p.workers.set w y, queue, processed, delivered } := by
  fun_cases timeOut p w
  case case1 => exact .inl rfl
  case case2 hx hbusy => exact .inr ⟨_, _, _, _, _, hx, .lookedUp (by simpa using hbusy), rfl, rfl, rfl⟩
  case case3 => exact .inl rfl

/-- a step of a shutdown does nothing if it waits for workers or is over, and otherwise goes one way -/
theorem windUp_cases (p : IngestPool) (k : Nat) :
    (p.windUp k = p ∧ ∀ x, p.closings[k]? = some x → x = .returned ∨ x = .joining ∧ p.isDeserted = false) ∨
    ∃ x y isOpen cancelled joined, p.closings[k]? = some x ∧ x.Goes p y isOpen cancelled joined ∧
      p.windUp k = { p with closings := p.closings.set k y, isOpen, cancelled, joined } := by
  fun_cases windUp p k
  case case1 hx => exact .inl ⟨rfl, by simp [hx]⟩
  case case2 hx =>
    refine .inr ⟨_, if p.isOpen then .joining else .looking, _, _, _, hx, ?_, rfl⟩
    cases h : p.isOpen
    · exact .second h
    · exact .closed h
  case case3 hx =>
    refine .inr ⟨_, if p.joined then .returned else .joining, _, _, _, hx, ?_, rfl⟩
    by_cases h : p.joined = true
    · rw [if_pos h]
      exact .nobody h
    · rw [if_neg h]
      exact .workers (by simpa using h)
  case case4 hx hd => exact .inr ⟨_, _, _, _, _, hx, .joined hd, rfl⟩
  case case5 hx hd => exact .inl ⟨rfl, by simp [hx, hd]⟩
  case case6 hx => exact .inr ⟨_, _, _, _, _, hx, .left, rfl⟩
  case case7 hx => exact .inl ⟨rfl, by simp [hx]⟩

theorem step_does (p : IngestPool) (a : Act) : a.Does p (p.step a) := by
  cases a with
  | submit m patient => exact .submit m patient
  | advance t =>
    rcases p.advance_cases t with ⟨h, -⟩ | ⟨c, phase, more, hc, hgoes, h⟩ <;> rw [step, h]
    · exact .nothing _
    · exact .proceed hc hgoes
  | work w e now hub =>
    rcases p.work_cases w e now hub with ⟨h, -⟩ | ⟨x, y, queue, m, n, hx, hgoes, h⟩ <;> rw [step, h]
    · exact .nothing _
    · exact .move hx hgoes
  | timeOut w =>
    rcases p.timeOut_cases w with h | ⟨x, y, queue, m, n, hx, hgoes, -, -, h⟩ <;> rw [step, h]
    · exact .nothing _
    · exact .move hx hgoes
  | windUp k =>
    rcases p.windUp_cases k with ⟨h, -⟩ | ⟨x, y, isOpen, cancelled, joined, hx, hgoes, h⟩ <;> rw [step, h]
    · exact .nothing _
    · exact .wind hx hgoes
  | cancel => exact .cancel
  | shutDown => exact .shutDown

/-! ## What no step undoes -/

theorem isDeserted_iff : p.isDeserted = true ↔ ∀ x ∈ p.workers, x = .stopped := by
  have h (x : Worker) : x.isStopped = true ↔ x = .stopped := by cases x <;> simp [Worker.isStopped]
  simp [isDeserted, h]

theorem hasSender_eq_false_iff :
    p.hasSender = false ↔ p.isOpen = false ∧ ∀ c ∈ p.calls, c.phase.hasSender = false := by
  simp [hasSender]

/-- what is settled about `p` is settled about `p'` -/
structure Later (p p' : IngestPool) : Prop where
  capacity : p'.capacity = p.capacity
  crew : p'.workers.length = p.workers.length
  closed : p.isOpen = false → p'.isOpen = false
  cancelled : p.cancelled = true → p'.cancelled = true
  hasSender : p.hasSender = false → p'.hasSender = false
  queue : p.hasSender = false → p.queue = [] → p'.queue = []
  deserted : p.isDeserted = true → p'.workers = p.workers

theorem Later.refl (p : IngestPool) : Later p p :=
  ⟨rfl, rfl, id, id, id, fun _ => id, fun _ => rfl⟩

theorem Later.isDeserted {p' : IngestPool} (h : Later p p') (hd : p.isDeserted = true) : p'.isDeserted = true := by
  rw [IngestPool.isDeserted, h.deserted hd]
  exact hd

theorem Later.trans {p' p'' : IngestPool} (h : Later p p') (h' : Later p' p'') : Later p p'' where
  capacity := h'.capacity.trans h.capacity
  crew := h'.crew.trans h.crew
  closed := h'.closed ∘ h.closed
  cancelled := h'.cancelled ∘ h.cancelled
  hasSender := h'.hasSender ∘ h.hasSender
  queue hs hq := h'.queue (h.hasSender hs) (h.queue hs hq)
  deserted hd := (h'.deserted (h.isDeserted hd)).trans (h.deserted hd)

theorem proceed_later {t : Nat} {c : Submission} {phase : Phase} {more : List Parcel} (hc : p.calls[t]? = some c)
    (hgoes : c.Goes p phase more) :
    Later p { p with calls := p.calls.set t { c with phase }, queue := p.queue ++ more } where
  capacity := rfl
  crew := rfl
  closed := id
  cancelled := id
  hasSender := by
    simp only [hasSender_eq_false_iff]
    rintro ⟨hopen, hcalls⟩
    refine ⟨hopen, fun c' hc' => ?_⟩
    rcases List.mem_or_eq_of_mem_set hc' with hc' | rfl
    · exact hcalls c' hc'
    · have := hcalls c (List.mem_of_getElem? hc)
      cases hgoes <;> simp_all [Phase.hasSender]
  queue := by
    intro hs hq
    have := (hasSender_eq_false_iff.1 hs).2 c (List.mem_of_getElem? hc)
    cases hgoes <;> simp_all [Phase.hasSender]
  deserted _ := rfl

theorem move_later {w : Nat} {x y : Worker} {queue : List Parcel} {m n : Nat} (hx : p.workers[w]? = some x)
    (hgoes : x.Goes p y queue m n) :
    Later p { p with workers := p.workers.set w y, queue, processed := m, delivered := n } where
  capacity := rfl
  crew := by simp
  closed := id
  cancelled := id
  hasSender := id
  queue := by
    intro _ hq
    cases hgoes <;> simp_all
  deserted := by
    intro hd
    cases isDeserted_iff.1 hd x (List.mem_of_getElem? hx)
    cases hgoes

theorem wind_later {k : Nat} {x y : Closing} {isOpen cancelled joined : Bool}
    (hgoes : x.Goes p y isOpen cancelled joined) :
    Later p { p with closings := p.closings.set k y, isOpen, cancelled, joined } := by
  have hclosed : p.isOpen = false → isOpen = false := by cases hgoes <;> simp
  refine ⟨rfl, rfl, hclosed, ?_, ?_, fun _ => id, fun _ => rfl⟩
  · intro hcancel
    cases hgoes <;> simp [hcancel]
  · simp only [hasSender_eq_false_iff]
    exact fun hs => ⟨hclosed hs.1, hs.2⟩

theorem submit_later (p : IngestPool) (m : Message) (patient : Bool) : Later p (p.submit m patient) := by
  refine ⟨rfl, rfl, id, id, ?_, fun _ => id, fun _ => rfl⟩
  simp only [hasSender_eq_false_iff]
  rintro ⟨hopen, hcalls⟩
  exact ⟨hopen, by simpa [submit, or_imp, forall_and, Phase.hasSender] using hcalls⟩

theorem step_later (p : IngestPool) (a : Act) : Later p (p.step a) := by
  have h := p.step_does a
  generalize p.step a = p' at h
  cases h with
  | nothing => exact .refl p
  | proceed hc hgoes => exact proceed_later hc hgoes
  | move hx hgoes => exact move_later hx hgoes
  | wind hx hgoes => exact wind_later hgoes
  | submit m patient => exact p.submit_later m patient
  | cancel => exact ⟨rfl, rfl, id, fun _ => rfl, id, fun _ => id, fun _ => rfl⟩
  | shutDown => exact ⟨rfl, rfl, id, id, id, fun _ => id, fun _ => rfl⟩

theorem Later.accepts {p' : IngestPool} (h : Later p p') (ha : p.accepts = false) : p'.accepts = false := by
  have hopen := h.closed
  have hcancelled := h.cancelled
  simp only [IngestPool.accepts, Bool.and_eq_false_iff, Bool.not_eq_false'] at ha ⊢
  exact ha.imp hopen hcancelled

/-! ## What an act does to one of those who use the pool -/

/-- a submission stays where it is, or goes one way -/
theorem step_call {t : Nat} {c : Submission} (hc : p.calls[t]? = some c) (a : Act) :
    (p.step a).calls[t]? = some c ∨
    ∃ phase more, c.Goes p phase more ∧ (p.step a).calls[t]? = some { c with phase } := by
  obtain ⟨ht, -⟩ := List.getElem?_eq_some_iff.1 hc
  have h := p.step_does a
  generalize p.step a = p' at h ⊢
  cases h with
  | @proceed _ t' c' phase more hc' hgoes =>
    by_cases hsame : t' = t
    · subst hsame
      cases hc.symm.trans hc'
      exact .inr ⟨phase, more, hgoes, by simp [ht]⟩
    · exact .inl (by simpa only [List.getElem?_set_ne hsame] using hc)
  | submit m patient => exact .inl (by simpa [IngestPool.submit, List.getElem?_append_left ht] using hc)
  | _ => exact .inl hc

end IngestPool

end EventBroker
