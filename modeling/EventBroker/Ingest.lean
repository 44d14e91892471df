/-
A pool of workers that hand queued messages to an engine.

Callers, workers and those who shut the pool down run side by side. Each stands at a place in its work, and a step takes
it to the next place; no step uses more than one thing that is shared. What a pool goes through is a list of steps, in
whatever order they were made.

Shutting a pool down closes its queue: the workers empty it and stop. Cancelling a pool makes each worker stop after the
message it holds.
-/
import EventBroker.Filter.Engine

namespace EventBroker

namespace Ingest

/-- a message under the number of its submission -/
structure Parcel where
  number : Nat
  message : Message

/-- where a worker stands -/
inductive Worker where
  /-- about to look whether the pool is cancelled -/
  | checking
  /-- waiting for a message -/
  | waiting
  /-- with a message off the queue -/
  | holding (p : Parcel)
  /-- within the engine: rules are left to apply, and so many deliveries were made -/
  | evaluating (p : Parcel) (left : List (Rule × Event)) (n : Nat)
  /-- back from the engine, with nothing counted yet -/
  | evaluated (n : Nat)
  /-- the message is counted, its deliveries are not -/
  | counted (n : Nat)
  | stopped

/-- where a submission stands -/
inductive Phase where
  | begun
  /-- the pool was not cancelled -/
  | admitted
  /-- with a sender of its own -/
  | sending
  /-- the outcome is known, the sender still to be dropped -/
  | leaving (r : Except BrokerError Bool)
  | answered (r : Except BrokerError Bool)

/-- a call that submits a message -/
structure Submission where
  parcel : Parcel
  /-- wait for room; otherwise a message that finds none is dropped -/
  patient : Bool
  phase : Phase

/-- where a call that shuts the pool down stands -/
inductive Closing where
  | called
  /-- the queue was closed by somebody else: are there workers left to wait for? -/
  | looking
  /-- waiting for the workers -/
  | joining
  /-- about to cancel the pool -/
  | leaving
  | returned

def Worker.isStopped : Worker → Bool
  | stopped => true
  | _ => false

namespace Phase

def hasSender : Phase → Bool
  | sending | leaving _ => true
  | _ => false

/-- the message was queued -/
def isAccepted : Phase → Bool
  | leaving (.ok true) | answered (.ok true) => true
  | _ => false

end Phase

end Ingest

open Ingest

structure IngestPool where
  capacity : Nat
  /-- messages that wait, the oldest first -/
  queue : List Parcel
  /-- senders are still given out -/
  isOpen : Bool
  cancelled : Bool
  /-- messages evaluated so far -/
  processed : Nat
  /-- deliveries that they led to -/
  delivered : Nat
  workers : List Worker
  /-- the submissions so far, each at the place of its number -/
  calls : List Submission
  closings : List Closing
  /-- somebody has waited for all workers -/
  joined : Bool

namespace IngestPool

/-- there is at least one worker and room for one message -/
def start (workers queueSize : Nat) : IngestPool where
  capacity := max queueSize 1
  queue := []
  isOpen := true
  cancelled := false
  processed := 0
  delivered := 0
  workers := .replicate (max workers 1) .checking
  calls := []
  closings := []
  joined := false

/-- the pool takes messages -/
def accepts (p : IngestPool) : Bool := p.isOpen && !p.cancelled

def isFull (p : IngestPool) : Bool := p.capacity ≤ p.queue.length

/-- messages may still be queued -/
def hasSender (p : IngestPool) : Bool := p.isOpen || p.calls.any fun c => c.phase.hasSender

/-- every worker has stopped -/
def isDeserted (p : IngestPool) : Bool := p.workers.all Worker.isStopped

/-- a step takes the worker further -/
def isBusy (p : IngestPool) : Worker → Bool
  | .waiting => !p.queue.isEmpty || !p.hasSender
  | .stopped => false
  | _ => true

/-- the outcome of a submission, once it has one -/
def answer? (p : IngestPool) (t : Nat) : Option (Except BrokerError Bool) :=
  match p.calls[t]? with
  | some ⟨_, _, .answered r⟩ => some r
  | _ => none

/-! ## Submissions -/

/-- somebody begins to submit a message -/
def submit (p : IngestPool) (m : Message) (patient : Bool) : IngestPool :=
  { p with calls := p.calls ++ [⟨⟨p.calls.length, m⟩, patient, .begun⟩] }

/-- a submission gets to a place -/
def proceed (p : IngestPool) (t : Nat) (c : Submission) (phase : Phase) : IngestPool :=
  { p with calls := p.calls.set t { c with phase } }

/-- a submission uses its sender; one that waits for room stays where it is -/
def send (p : IngestPool) (t : Nat) (c : Submission) : IngestPool :=
  if p.isDeserted then p.proceed t c (.leaving (.error .ingestClosed))
  else if !p.isFull then { p with queue := p.queue ++ [c.parcel] }.proceed t c (.leaving (.ok true))
  else if c.patient then p
  else p.proceed t c (.leaving (.ok false))

/-- a submission makes a step -/
def advance (p : IngestPool) (t : Nat) : IngestPool :=
  match p.calls[t]? with
  | none => p
  | some c =>
    match c.phase with
    | .begun => p.proceed t c (if p.cancelled then .answered (.error .ingestClosed) else .admitted)
    | .admitted => p.proceed t c (if p.isOpen then .sending else .answered (.error .ingestClosed))
    | .sending => p.send t c
    | .leaving r => p.proceed t c (.answered r)
    | .answered _ => p

/-! ## Workers -/

/-- a worker gets to a place -/
def move (p : IngestPool) (w : Nat) (x : Worker) : IngestPool := { p with workers := p.workers.set w x }

/-- a worker takes the oldest message; it stops if there is none and none can come -/
def take (p : IngestPool) (w : Nat) : IngestPool :=
  match p.queue with
  | q :: qs => { p with queue := qs }.move w (.holding q)
  | [] => if p.hasSender then p else p.move w .stopped

/-- a worker makes a step, with what it finds in the engine and the hub then -/
def work (p : IngestPool) (w : Nat) (e : Engine) (now : Timestamp) (h : Hub) : IngestPool × Hub :=
  match p.workers[w]? with
  | none => (p, h)
  | some .checking => (p.move w (if p.cancelled then .stopped else .waiting), h)
  | some .waiting => (p.take w, h)
  | some (.holding q) => (p.move w (.evaluating q (e.agenda q.message now) 0), h)
  | some (.evaluating q ((r, event) :: left) n) =>
    let (done, h) := Engine.apply r event h
    (p.move w (.evaluating q left (if done then n + 1 else n)), h)
  | some (.evaluating _ [] n) => (p.move w (.evaluated n), h)
  | some (.evaluated n) => ({ p with processed := p.processed + 1 }.move w (.counted n), h)
  | some (.counted n) => ({ p with delivered := p.delivered + n }.move w .checking, h)
  | some .stopped => (p, h)

/-- a worker has waited long enough and found nothing: it looks again whether the pool is cancelled -/
def timeOut (p : IngestPool) (w : Nat) : IngestPool :=
  match p.workers[w]? with
  | some .waiting => if p.isBusy .waiting then p else p.move w .checking
  | _ => p

/-! ## Shutdown and cancellation -/

/-- every worker stops after the message it holds -/
def cancel (p : IngestPool) : IngestPool := { p with cancelled := true }

/-- somebody begins to shut the pool down -/
def shutDown (p : IngestPool) : IngestPool := { p with closings := p.closings ++ [.called] }

/-- a shutdown gets to a place -/
def wind (p : IngestPool) (k : Nat) (x : Closing) : IngestPool := { p with closings := p.closings.set k x }

/-- a shutdown makes a step; one that waits for workers stays where it is -/
def windUp (p : IngestPool) (k : Nat) : IngestPool :=
  match p.closings[k]? with
  | none => p
  | some .called => { p with isOpen := false }.wind k (if p.isOpen then .joining else .looking)
  | some .looking => p.wind k (if p.joined then .returned else .joining)
  | some .joining => if p.isDeserted then { p with joined := true }.wind k .leaving else p
  | some .leaving => p.cancel.wind k .returned
  | some .returned => p

end IngestPool

end EventBroker
