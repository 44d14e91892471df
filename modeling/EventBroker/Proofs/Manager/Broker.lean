/-
A broker at work: a manager, and expiries that were claimed and not yet run.

The timer and the workers that run claimed expiries do not wait for each other or for operations. So a `Broker` takes
one `Op` at a time, in whatever order: operations of the manager, time that passes, and the small steps of timer and
workers. A claimed expiry is run whenever a worker gets to it, and the first claimed need not be the first run.

- `step`, `run`: what an op and a row of ops do; runs begin with a broker that is `opened`, or merely `assembled`.
- `wait_eq_run`: waiting, with all that falls due in the meantime, is a row of such ops.
-/
import EventBroker.Proofs.Manager.Operations
import EventBroker.Proofs.Scheduler.Timer

namespace EventBroker

structure Broker (σ : Type) where
  manager : Manager σ
  /-- expiries that no worker has run yet -/
  claimed : List (Claimed Unit)

namespace Broker

/-- what is done to local queues from outside -/
inductive QueueOp where
  | openUp (name : String)
  | close (name : String)
  | empty (serial : Nat)
  | dropReceiver (serial : Nat)

inductive Op where
  | subscribe (o : SubscribeOptions)
  | renew (id : String) (t : Timestamp)
  | unsubscribe (id : String)
  | restore
  | shutdown
  | receive (message : Message)
  | look (id : String)
  | list
  | queue (q : QueueOp)
  /-- time passes on the timer, and then the clock has this reading -/
  | pass (micros : Nat) (reading : Timestamp)
  /-- the timer takes up an entry -/
  | takeUp
  /-- the timer claims a job that is due -/
  | claim
  /-- a worker runs the claimed expiry at this place -/
  | expire (i : Nat)

/-! ## Steps -/

def QueueOp.apply (h : Hub) : QueueOp → Hub
  | .openUp name => (h.openQueue name).2
  | .close name => (h.closeQueue name).2
  | .empty serial => (h.receiveAll serial).2
  | .dropReceiver serial => h.dropReceiver serial

variable {σ : Type} [SubscriptionStore σ]

/-- the broker after an operation of its manager -/
def after {α : Type} (b : Broker σ) (a : Manager.Act σ α) : Broker σ := { b with manager := (a b.manager).2 }

/-- The broker after an op. A subscription whose search for an id has no end is left out of a run: nothing comes of it,
and nothing could come after it. -/
def step (b : Broker σ) : Op → Broker σ
  | .subscribe o => (Manager.subscribe o b.manager).elim b fun r => { b with manager := r.2 }
  | .renew id t => b.after (Manager.renew id t)
  | .unsubscribe id => b.after (Manager.unsubscribe id)
  | .restore => b.after Manager.restore
  | .shutdown => b.after Manager.shutdown
  | .receive message => b.after (Manager.receive message)
  | .look id => b.after (Manager.getSubscription id)
  | .list => b.after Manager.subscriptions
  | .queue q => { b with manager := { b.manager with hub := q.apply b.manager.hub } }
  | .pass micros reading =>
    { b with manager := { b.manager with elapsed := b.manager.elapsed + micros, clock := ⟨reading⟩ } }
  | .takeUp => { b with manager := { b.manager with scheduler := b.manager.scheduler.takeUp } }
  | .claim =>
    let (c, scheduler) := b.manager.scheduler.claimNext b.manager.elapsed
    ⟨{ b.manager with scheduler }, b.claimed ++ c.toList⟩
  | .expire i =>
    match b.claimed[i]? with
    | some c => ⟨(Manager.expire c.identity c.endOfLife b.manager).2, b.claimed.eraseIdx i⟩
    | none => b

theorem step_subscribe_some {b : Broker σ} {o : SubscribeOptions} {a : Except BrokerError Subscription} {m : Manager σ}
    (h : Manager.subscribe o b.manager = some (a, m)) : b.step (.subscribe o) = { b with manager := m } := by
  simp only [step, h, Option.elim_some]

/-- what holds of the manager, and still does when a subscription has come to its end, holds after the step -/
theorem step_subscribe {b : Broker σ} {o : SubscribeOptions} {P : Manager σ → Prop} (h : P b.manager)
    (hends : Manager.Yields (Manager.subscribe o) b.manager fun _ m => P m) : P (b.step (.subscribe o)).manager := by
  cases ha : Manager.subscribe o b.manager with
  | none => simpa only [step, ha, Option.elim_none] using h
  | some r =>
    rw [step_subscribe_some ha]
    exact hends r.1 r.2 ha

theorem step_expire_some {b : Broker σ} {i : Nat} {c : Claimed Unit} (h : b.claimed[i]? = some c) :
    b.step (.expire i) =
      ⟨(Manager.expire c.identity c.endOfLife b.manager).2, b.claimed.eraseIdx i⟩ := by
  simp only [step, h]

theorem step_expire_none {b : Broker σ} {i : Nat} (h : b.claimed[i]? = none) : b.step (.expire i) = b := by
  simp only [step, h]

def run (b : Broker σ) (ops : List Op) : Broker σ := ops.foldl step b

theorem run_nil (b : Broker σ) : b.run [] = b := rfl

theorem run_cons (b : Broker σ) (op : Op) (ops : List Op) : b.run (op :: ops) = (b.step op).run ops := rfl

theorem run_append (b : Broker σ) (ops ops' : List Op) : b.run (ops ++ ops') = (b.run ops).run ops' :=
  List.foldl_append

/-- a broker around a store, before anything is done -/
def assembled (store : σ) (hub : Hub) (c : Compiler) (t : Transformer) (clock : Clock) (ids : Nat → String) :
    Broker σ :=
  ⟨Manager.assemble store hub (Engine.ofCompiler c t) clock ids, []⟩

/-- a broker around a store, with every record in it alive that can live -/
def opened (store : σ) (hub : Hub) (c : Compiler) (t : Transformer) (clock : Clock) (ids : Nat → String) :
    Broker σ :=
  ⟨Manager.start store hub (Engine.ofCompiler c t) clock ids, []⟩

/-- a broker is opened by a restore -/
theorem opened_eq_step (store : σ) (hub : Hub) (c : Compiler) (t : Transformer) (clock : Clock) (ids : Nat → String) :
    opened store hub c t clock ids = (assembled store hub c t clock ids).step .restore := rfl

/-- the end that an op sets, with the id that it sets it for -/
def setEnd? (b : Broker σ) : Op → Option (String × Option Timestamp)
  | .subscribe o =>
    match Manager.subscribe o b.manager with
    | some (.ok s, _) => some (s.id, s.terminationTime)
    | _ => none
  | .renew id t =>
    match (Manager.renew id t b.manager).1 with
    | .ok t => some (id, some t)
    | .error _ => none
  | _ => none

/-! ## Waiting -/

/-- ops of timer and workers, time standing still -/
def Op.ofTimer : Op → Bool
  | .takeUp | .claim | .expire _ => true
  | _ => false

theorem run_claims (b : Broker σ) (n : Nat) :
    b.run (List.replicate n .claim) =
      ⟨{ b.manager with scheduler := (Scheduler.claimMany b.manager.elapsed n b.manager.scheduler).2 },
        b.claimed ++ (Scheduler.claimMany b.manager.elapsed n b.manager.scheduler).1⟩ := by
  induction n generalizing b with
  | zero => simp [run, Scheduler.claimMany]
  | succ n ih =>
    rw [List.replicate_succ, run_cons, ih]
    simp [step, Scheduler.claimMany]

theorem run_turn (b : Broker σ) :
    ∃ ops : List Op, (∀ op ∈ ops, op.ofTimer) ∧ b.run ops =
      ⟨{ b.manager with scheduler := (b.manager.scheduler.turn b.manager.elapsed).2 },
        b.claimed ++ (b.manager.scheduler.turn b.manager.elapsed).1⟩ := by
  obtain ⟨n, hn⟩ := Scheduler.turn_eq_steps b.manager.scheduler b.manager.elapsed
  refine ⟨List.replicate n .claim ++ [.takeUp], fun op hop => ?_, ?_⟩
  · rcases List.mem_append.1 hop with hop | hop
    · rw [List.eq_of_mem_replicate hop]
      rfl
    · rw [List.mem_singleton.1 hop]
      rfl
  · rw [run_append, run_claims, hn]
    rfl

theorem run_turns (b : Broker σ) (n : Nat) :
    ∃ ops : List Op, (∀ op ∈ ops, op.ofTimer) ∧ b.run ops =
      ⟨{ b.manager with scheduler := (Scheduler.turns b.manager.elapsed n b.manager.scheduler).2 },
        b.claimed ++ (Scheduler.turns b.manager.elapsed n b.manager.scheduler).1⟩ := by
  induction n generalizing b with
  | zero => exact ⟨[], by simp, by simp [run, Scheduler.turns]⟩
  | succ n ih =>
    obtain ⟨ops, hops, hrun⟩ := run_turn b
    obtain ⟨ops', hops', hrun'⟩ := ih (b.run ops)
    refine ⟨ops ++ ops', fun op hop => ?_, ?_⟩
    · rcases List.mem_append.1 hop with hop | hop
      · exact hops op hop
      · exact hops' op hop
    · rw [run_append, hrun', hrun]
      simp [Scheduler.turns]

theorem run_expiries (m : Manager σ) (cs : List (Claimed Unit)) :
    (Broker.mk m cs).run (List.replicate cs.length (.expire 0)) = ⟨(Manager.expireAll cs m).2, []⟩ := by
  induction cs generalizing m with
  | nil => rfl
  | cons c cs ih => exact ih (Manager.expire c.identity c.endOfLife m).2

/-- waiting is a row of ops: time passes, and then timer and workers do what is due -/
theorem wait_eq_run (m : Manager σ) (micros : Nat) :
    ∃ ops : List Op, (∀ op ∈ ops, op.ofTimer) ∧
      (Broker.mk m []).run (.pass micros m.clock.now :: ops) = ⟨(Manager.wait micros m).2, []⟩ := by
  set b : Broker σ := (Broker.mk m []).step (.pass micros m.clock.now) with hb
  obtain ⟨ops, hops, hrun⟩ := run_turns b (b.manager.scheduler.commands.length + 1)
  refine ⟨ops ++ List.replicate (b.run ops).claimed.length (.expire 0), fun op hop => ?_, ?_⟩
  · rcases List.mem_append.1 hop with hop | hop
    · exact hops op hop
    · rw [List.eq_of_mem_replicate hop]
      rfl
  · rw [run_cons, run_append]
    have hsplit : b.run ops = ⟨(b.run ops).manager, (b.run ops).claimed⟩ := rfl
    rw [hsplit, run_expiries, hrun]
    rfl

/-! ## A small broker -/

/-- options for a local queue, with an end or without one -/
def sampleOptions (t : Option Timestamp) : SubscribeOptions :=
  ⟨"weather", t, none, none, some ⟨"local", "q", "weather", [], false⟩, .empty, none⟩

/-- a hub with one open local queue -/
def sampleHub : Hub := ((Hub.empty (fun _ => .done) (fun n => toString n) 4 [.queues]).openQueue "q").2

/-- a store with one dormant record -/
def sampleStore : MemoryStore := .put .empty ⟨"old", sampleOptions none, .detached "elsewhere"⟩

def sample : Broker MemoryStore := opened sampleStore sampleHub Compiler.regex .standard ⟨⟨0⟩⟩ fun n => toString n

end Broker

end EventBroker
