/-
Jobs that are due at the end of something's life.

An identity has one pending job at most; a later one takes its place. A timer keeps an entry for every job that was
scheduled, in the order in which they are due. An entry whose job was replaced or cancelled is stale: the generations
differ, and it claims nothing. When stale entries prevail the timer drops them. The timer measures time by itself, in
microseconds since it began, so that moving a clock does not move what is already scheduled.
-/
import EventBroker.Error
import EventBroker.Table
import EventBroker.Time

namespace EventBroker

structure Job (α : Type) where
  generation : Nat
  endOfLife : Timestamp
  action : α

structure TimerEntry where
  /-- the microsecond in which the entry is due -/
  due : Nat
  generation : Nat
  identity : String
  deriving DecidableEq

/-- a job whose time has come -/
structure Claimed (α : Type) where
  identity : String
  endOfLife : Timestamp
  action : α
  deriving DecidableEq

structure Scheduler (α : Type) where
  jobs : Table String (Job α)
  /-- the entries of the timer, those due first first -/
  timers : List TimerEntry
  /-- entries that the timer has not yet taken up, the oldest first -/
  commands : List TimerEntry
  nextGeneration : Nat
  /-- how many entries the timer had when it last looked -/
  queuedTimers : Nat
  isShutDown : Bool

namespace Scheduler

variable {α : Type}

def start : Scheduler α := ⟨.empty, [], [], 1, 0, false⟩

/-- stale entries that are kept beyond twice the pending jobs -/
def compactSlack : Nat := 64

/-- how long a job has to wait, in microseconds; none if its time has passed -/
def delay (now endOfLife : Timestamp) : Nat := ((endOfLife.remainingSince now).map Span.wholeMicros).getD 0

/-- track a job instead of the one that its identity had, and tell the timer -/
def schedule (s : Scheduler α) (elapsed : Nat) (now : Timestamp) (identity : String) (endOfLife : Timestamp)
    (action : α) : Except BrokerError (Scheduler α) :=
  if s.isShutDown then .error .schedulerShutdown
  else
    .ok { s with
      jobs := s.jobs.insert identity ⟨s.nextGeneration, endOfLife, action⟩
      commands := s.commands ++ [⟨elapsed + delay now endOfLife, s.nextGeneration, identity⟩]
      nextGeneration := s.nextGeneration + 1 }

/-- forget a pending job -/
def cancel (s : Scheduler α) (identity : String) : Except BrokerError (Scheduler α) :=
  if s.jobs.contains identity then .ok { s with jobs := s.jobs.erase identity }
  else .error (.unknownTerminatable identity)

def isScheduled (s : Scheduler α) (identity : String) : Bool := s.jobs.contains identity

/-- when the pending job of an identity is due by the clock -/
def endOfLife? (s : Scheduler α) (identity : String) : Option Timestamp := (s.jobs.find? identity).map Job.endOfLife

def pendingCount (s : Scheduler α) : Nat := s.jobs.size

/-- forget all jobs and take no more -/
def shutdown (s : Scheduler α) : Scheduler α :=
  if s.isShutDown then s else { s with jobs := .empty, isShutDown := true }

/-! ## The timer -/

/-- an entry belongs to the pending job of its identity -/
def isCurrent (s : Scheduler α) (t : TimerEntry) : Bool :=
  match s.jobs.find? t.identity with
  | some j => j.generation == t.generation
  | none => false

/-- earlier entries come first; of those due at once, the older generation -/
def before (a b : TimerEntry) : Bool := a.due < b.due || a.due == b.due && a.generation ≤ b.generation

/-- put an entry in its place -/
def place (t : TimerEntry) : List TimerEntry → List TimerEntry
  | [] => [t]
  | u :: us => if before t u then t :: u :: us else u :: place t us

/-- claim the job of an entry, if it is the pending one -/
def claim (s : Scheduler α) (t : TimerEntry) : Option (Claimed α) × Scheduler α :=
  match s.jobs.find? t.identity with
  | some j =>
    if j.generation == t.generation then
      (some ⟨t.identity, j.endOfLife, j.action⟩, { s with jobs := s.jobs.erase t.identity })
    else (none, s)
  | none => (none, s)

/-- claim the jobs of entries one after the other -/
def claimAll (s : Scheduler α) : List TimerEntry → List (Claimed α) × Scheduler α
  | [] => ([], s)
  | t :: ts =>
    let (c, s) := s.claim t
    let (cs, s) := s.claimAll ts
    (c.toList ++ cs, s)

/-- take out the entries that are due, and claim their jobs -/
def fireDue (s : Scheduler α) (elapsed : Nat) : List (Claimed α) × Scheduler α :=
  let due := s.timers.takeWhile fun t => t.due ≤ elapsed
  let (cs, s) := { s with timers := s.timers.drop due.length }.claimAll due
  (cs, { s with queuedTimers := s.timers.length })

/-- drop stale entries if there are more than twice the pending jobs and the slack -/
def compact (s : Scheduler α) : Scheduler α :=
  if s.timers.length ≤ 2 * s.jobs.size + compactSlack then s
  else { s with timers := s.timers.filter s.isCurrent }

/-- one turn of the timer: fire what is due, then take up one entry -/
def turn (s : Scheduler α) (elapsed : Nat) : List (Claimed α) × Scheduler α :=
  if s.isShutDown then ([], s)
  else
    let (cs, s) := s.fireDue elapsed
    match s.commands with
    | [] => (cs, s)
    | t :: ts => (cs, { s with commands := ts, timers := place t s.timers }.compact)

/-- so many turns of the timer -/
def turns (elapsed : Nat) : (n : Nat) → Scheduler α → List (Claimed α) × Scheduler α
  | 0, s => ([], s)
  | n + 1, s =>
    let (cs, s) := s.turn elapsed
    let (cs', s) := turns elapsed n s
    (cs ++ cs', s)

/-- the timer takes up all it was told, and fires what is due -/
def advance (s : Scheduler α) (elapsed : Nat) : List (Claimed α) × Scheduler α :=
  turns elapsed (s.commands.length + 1) s

end Scheduler

end EventBroker
