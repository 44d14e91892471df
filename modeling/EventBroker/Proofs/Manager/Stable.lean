/-
What the parts of operations keep, operations keep.

`Stable I` says of a property of managers that every single change that an operation can make keeps it: a call of the
store, an endpoint that is made or destroyed, other rules, a job that is planned or cancelled. Then all operations keep
it, and so do the steps of a broker (`Enduring.step`, `Enduring.run`), whatever the store and whatever fails. A message
that is handed on is told apart: what it does depends on the rules. What records are written may matter, too; without
them the property is `Gentle`, and the operations that write none keep it.

- `enduring_keeps`: an endpoint that was destroyed stays so.
- `enduring_handed`: what an endpoint has handed on stays as it is but for messages.
- `enduring_timed`: the timer has an entry for each pending job, and its entries in order.
-/
import EventBroker.Proofs.Delivery.Journal
import EventBroker.Proofs.Delivery.Wiring
import EventBroker.Proofs.Manager.Release
import EventBroker.Proofs.Scheduler.Prompt

namespace EventBroker

namespace Manager

variable {σ : Type} [SubscriptionStore σ]

/-- the changes that are part of an operation keep the property, but for those that write a record -/
structure Gentle (I : Manager σ → Prop) : Prop where
  get {m : Manager σ} (h : I m) (id : String) : I { m with store := (SubscriptionStore.get m.store id).2 }
  all {m : Manager σ} (h : I m) : I { m with store := (SubscriptionStore.all m.store).2 }
  delete {m : Manager σ} (h : I m) (id : String) : I { m with store := (SubscriptionStore.delete m.store id).2 }
  create {m : Manager σ} (h : I m) (d : DeliveryDefinition) : I { m with hub := (m.hub.create d).2 }
  destroy {m : Manager σ} (h : I m) (e : Endpoint) : I { m with hub := (m.hub.destroy e).2 }
  engine {m : Manager σ} (h : I m) (engine : Engine) : I { m with engine }
  drawn {m : Manager σ} (h : I m) (idsDrawn : Nat) : I { m with idsDrawn }
  schedule {m : Manager σ} (h : I m) (id : String) (t : Timestamp) (scheduler : Scheduler Unit) :
    m.scheduler.schedule m.elapsed m.clock.now id t () = .ok scheduler → I { m with scheduler }
  cancel {m : Manager σ} (h : I m) (id : String) (scheduler : Scheduler Unit) :
    m.scheduler.cancel id = .ok scheduler → I { m with scheduler }
  close {m : Manager σ} (h : I m) : I { m with scheduler := m.scheduler.shutdown }

/-- every change that is part of an operation keeps the property -/
structure Stable (I : Manager σ → Prop) : Prop extends Gentle I where
  put {m : Manager σ} (h : I m) (s : Subscription) : I { m with store := (SubscriptionStore.put m.store s).2 }
  renew {m : Manager σ} (h : I m) (id : String) (t : Timestamp) :
    I { m with store := (SubscriptionStore.renew m.store id t).2 }

/-! ## Operations -/

namespace Gentle

variable {I : Manager σ → Prop} {m : Manager σ}

theorem onSchedule (hI : Gentle I) (h : I m) (s : Subscription) :
    Ensures (Manager.schedule s) m fun _ m' => I m' := by
  refine Ensures.modify ?_
  cases s.terminationTime with
  | none => exact h
  | some t =>
    dsimp only
    cases hs : m.scheduler.schedule m.elapsed m.clock.now s.id t () with
    | ok scheduler => exact hI.schedule h s.id t scheduler hs
    | error f => exact h

theorem unschedule (hI : Gentle I) (h : I m) (id : String) :
    Ensures (Manager.unschedule id) m fun _ m' => I m' := by
  refine Ensures.modify ?_
  cases hs : m.scheduler.cancel id with
  | ok scheduler => exact hI.cancel h id scheduler hs
  | error f => exact h

theorem register (hI : Gentle I) (h : I m) (s : Subscription) (e : Endpoint) :
    Ensures (Manager.register s e) m fun _ m' => I m' := by
  refine Ensures.modifyGet ?_
  cases m.engine.register s e with
  | ok engine => exact hI.engine h engine
  | error f => exact h

theorem removeRule (hI : Gentle I) (h : I m) (id : String) :
    Ensures (Manager.removeRule id) m fun _ m' => I m' := by
  refine Ensures.modifyGet ?_
  cases m.engine.remove id with
  | ok r => exact hI.engine h r.2
  | error f => exact h

theorem letGo (hI : Gentle I) (h : I m) (e : Endpoint) : Ensures (Manager.destroy e) m fun _ m' => I m' :=
  hI.destroy h e

theorem tryId (hI : Gentle I) (h : I m) : Ensures Manager.tryId m fun _ m' => I m' := hI.get (hI.drawn h _) _

theorem drawId (hI : Gentle I) (h : I m) : Yields Manager.drawId m fun _ m' => I m' :=
  (drawId_keeps h fun _ hm => hI.tryId hm).imp fun _ _ hdrawn => hdrawn.1

/-- preparing an endpoint makes one at most, and it may go again -/
theorem prepared (hI : Gentle I) (h : I m) {o : SubscribeOptions} {a : Except BrokerError Endpoint} {m' : Manager σ}
    (hprepared : m.Prepared o a m') : I m' := by
  cases hprepared with
  | undefined => exact h
  | refused => exact hI.create h _
  | late => exact hI.destroy (hI.create h _) _
  | made => exact hI.create h _

/-- the last steps of a teardown -/
theorem forget {α : Type} (hI : Gentle I) (h : I m) (id : String)
    {f : Except BrokerError Subscription → Act σ α} (hf : ∀ a m', I m' → Ensures (f a) m' fun _ m' => I m') :
    Ensures (do Manager.unschedule id; f (← onStore (SubscriptionStore.delete · id))) m fun _ m' => I m' := by
  refine Ensures.bind (hI.unschedule h id) fun _ m₁ h₁ => ?_
  have hdelete : Ensures (onStore (SubscriptionStore.delete · id)) m₁ fun _ m' => I m' := hI.delete h₁ id
  exact Ensures.bind hdelete fun a m₂ h₂ => hf a m₂ h₂

theorem teardown (hI : Gentle I) (h : I m) (id : String) (stored : Option Subscription) :
    Ensures (Manager.teardown id stored) m fun _ m' => I m' := by
  unfold Manager.teardown
  refine Ensures.bind (hI.removeRule h id) fun a m₁ h₁ => ?_
  cases a with
  | ok r =>
    refine Ensures.pure_bind (Ensures.bind (hI.letGo h₁ r.endpoint) fun _ m₂ h₂ => ?_)
    exact hI.forget h₂ id fun a m' h' => by cases a <;> exact h'
  | error f =>
    cases stored with
    | none => exact Ensures.pure_bind (Ensures.pure_bind (hI.forget h₁ id fun a m' h' => by cases a <;> exact h'))
    | some s =>
      refine Ensures.pure_bind (Ensures.bind (hI.letGo h₁ s.endpoint) fun _ m₂ h₂ => ?_)
      exact hI.forget h₂ id fun a m' h' => by cases a <;> exact h'

theorem lookUp (hI : Gentle I) (h : I m) (id : String) : Ensures (Manager.lookUp id) m fun _ m' => I m' := hI.get h id

theorem unsubscribe (hI : Gentle I) (h : I m) (id : String) :
    Ensures (Manager.unsubscribe id) m fun _ m' => I m' := by
  unfold Manager.unsubscribe
  refine Ensures.bind (hI.lookUp h id) fun s m₁ h₁ => ?_
  refine Ensures.bind (Ensures.get (Q := fun _ m' => I m') h₁) fun x m₂ h₂ => ?_
  split
  · exact h₂
  · refine Ensures.bind (hI.teardown h₂ id s) fun fs m₃ h₃ => ?_
    cases fs with
    | nil => exact h₃
    | cons f fs => exact h₃

theorem expire (hI : Gentle I) (h : I m) (id : String) (t : Timestamp) :
    Ensures (Manager.expire id t) m fun _ m' => I m' := by
  unfold Manager.expire
  refine Ensures.bind (hI.lookUp h id) fun s m₁ h₁ => ?_
  cases s with
  | none => exact h₁
  | some s =>
    dsimp only
    split
    · exact Ensures.bind (hI.teardown h₁ id (some s)) fun _ m₂ h₂ => h₂
    · exact h₁

theorem destroyAll (hI : Gentle I) (h : I m) (rs : List Rule) :
    Ensures (Manager.destroyAll rs) m fun _ m' => I m' := by
  induction rs generalizing m with
  | nil => exact h
  | cons r rs ih => exact Ensures.bind (hI.letGo h r.endpoint) fun _ m₁ h₁ => ih h₁

theorem shutdown (hI : Gentle I) (h : I m) : Ensures Manager.shutdown m fun _ m' => I m' :=
  hI.destroyAll (hI.engine (hI.close h) _) _

end Gentle

namespace Stable

variable {I : Manager σ → Prop} {m : Manager σ}

theorem activateNew (hI : Stable I) (h : I m) (id : String) (o : SubscribeOptions) (e : Endpoint) :
    Ensures (Manager.activateNew id o e) m fun _ m' => I m' := by
  have hput : Ensures (onStore (SubscriptionStore.put · ⟨id, o, e⟩)) m fun _ m' => I m' := hI.put h _
  unfold Manager.activateNew
  refine Ensures.bind hput fun a m₁ h₁ => ?_
  cases a with
  | error f => exact Ensures.bind (hI.letGo h₁ e) fun _ m₂ h₂ => h₂
  | ok u =>
    refine Ensures.bind (hI.register h₁ ⟨id, o, e⟩ e) fun b m₂ h₂ => ?_
    cases b with
    | error f =>
      have hdelete : Ensures (onStore (SubscriptionStore.delete · id)) m₂ fun _ m' => I m' := hI.delete h₂ id
      exact Ensures.bind hdelete fun _ m₃ h₃ => Ensures.bind (hI.letGo h₃ e) fun _ m₄ h₄ => h₄
    | ok u => exact Ensures.bind (hI.onSchedule h₂ ⟨id, o, e⟩) fun _ m₃ h₃ => h₃

theorem subscribe (hI : Stable I) (h : I m) (o : SubscribeOptions) :
    Yields (Manager.subscribe o) m fun _ m' => I m' :=
  subscribe_yields (fun _ _ hfailed => hI.prepared h hfailed) fun e _ hmade =>
    (hI.drawId (hI.prepared h hmade)).imp fun id _ h₁ => hI.activateNew h₁ id o e

theorem onRenew (hI : Stable I) (h : I m) (id : String) (t : Timestamp) :
    Ensures (Manager.renew id t) m fun _ m' => I m' := by
  unfold Manager.renew
  refine Ensures.bind (P := fun _ m' => I m') h fun running m₁ h₁ => ?_
  cases running with
  | false => exact h₁
  | true =>
    have hrenew : Ensures (onStore (SubscriptionStore.renew · id t)) m₁ fun _ m' => I m' := hI.renew h₁ id t
    refine Ensures.bind hrenew fun a m₂ h₂ => ?_
    cases a with
    | error f => exact h₂
    | ok s => exact Ensures.bind (hI.onSchedule h₂ s) fun _ m₃ h₃ => h₃

theorem activate (hI : Stable I) (h : I m) (s : Subscription) :
    Ensures (Manager.activate s) m fun _ m' => I m' := by
  unfold Manager.activate
  split
  · exact h
  · rename_i d _
    have hcreate : Ensures (onHub (·.create d)) m fun _ m' => I m' := hI.create h d
    refine Ensures.bind hcreate fun a m₁ h₁ => ?_
    cases a with
    | error f => exact h₁
    | ok e =>
      refine Ensures.bind (hI.register h₁ ⟨s.id, s.options, e⟩ e) fun b m₂ h₂ => ?_
      cases b with
      | error f => exact Ensures.bind (hI.letGo h₂ e) fun _ m₃ h₃ => h₃
      | ok u =>
        have hput : Ensures (onStore (SubscriptionStore.put · ⟨s.id, s.options, e⟩)) m₂ fun _ m' => I m' :=
          hI.put h₂ _
        refine Ensures.bind hput fun c m₃ h₃ => ?_
        cases c with
        | error f =>
          refine Ensures.bind (hI.removeRule h₃ s.id) fun _ m₄ h₄ => ?_
          exact Ensures.bind (hI.letGo h₄ e) fun _ m₅ h₅ => h₅
        | ok u => exact Ensures.bind (hI.onSchedule h₃ ⟨s.id, s.options, e⟩) fun _ m₄ h₄ => h₄

theorem activateAll (hI : Stable I) (h : I m) (ss : List Subscription) :
    Ensures (Manager.activateAll ss) m fun _ m' => I m' := by
  induction ss generalizing m with
  | nil => exact h
  | cons s ss ih =>
    unfold Manager.activateAll
    refine Ensures.bind (Ensures.get (Q := fun _ m' => I m') h) fun x m₁ h₁ => ?_
    split
    · exact Ensures.pure_bind (Ensures.bind (ih h₁) fun _ m₂ h₂ => h₂)
    · refine Ensures.bind (hI.activate h₁ s) fun a m₂ h₂ => ?_
      cases a with
      | ok u => exact Ensures.pure_bind (Ensures.bind (ih h₂) fun _ m₃ h₃ => h₃)
      | error f =>
        have hdelete : Ensures (onStore (SubscriptionStore.delete · s.id)) m₂ fun _ m' => I m' := hI.delete h₂ s.id
        exact Ensures.bind hdelete fun _ m₃ h₃ => Ensures.pure_bind (Ensures.bind (ih h₃) fun _ m₄ h₄ => h₄)

theorem restore (hI : Stable I) (h : I m) : Ensures Manager.restore m fun _ m' => I m' := by
  have hall : Ensures (onStore SubscriptionStore.all) m fun _ m' => I m' := hI.all h
  unfold Manager.restore
  exact Ensures.bind hall fun ss m₁ h₁ => hI.activateAll h₁ ss

end Stable

end Manager

namespace Broker

open Manager (Stable)

variable {σ : Type} [SubscriptionStore σ]

/-- whatever is done to the timer keeps the property, too -/
structure Persistent (I : Manager σ → Prop) : Prop extends Stable I where
  pass {m : Manager σ} (h : I m) (micros : Nat) (reading : Timestamp) :
    I { m with elapsed := m.elapsed + micros, clock := ⟨reading⟩ }
  takeUp {m : Manager σ} (h : I m) : I { m with scheduler := m.scheduler.takeUp }
  claim {m : Manager σ} (h : I m) : I { m with scheduler := (m.scheduler.claimNext m.elapsed).2 }

/-- and whatever is done to queues -/
structure Enduring (I : Manager σ → Prop) : Prop extends Persistent I where
  queue {m : Manager σ} (h : I m) (q : QueueOp) : I { m with hub := q.apply m.hub }

/-- the manager after it has handed on a message -/
def received (m : Manager σ) (message : Message) : Manager σ :=
  { m with hub := (m.engine.dispatch message m.clock.now m.hub).2 }

theorem Persistent.step {I : Manager σ → Prop} {b : Broker σ} (hI : Persistent I) (h : I b.manager) (op : Op)
    (hreceive : ∀ message, op = .receive message → I (received b.manager message))
    (hqueue : ∀ q, op = .queue q → I { b.manager with hub := q.apply b.manager.hub }) : I (b.step op).manager := by
  cases op with
  | subscribe o => exact step_subscribe h (hI.subscribe h o)
  | renew id t => exact hI.onRenew h id t
  | unsubscribe id => exact hI.unsubscribe h id
  | restore => exact hI.restore h
  | shutdown => exact hI.shutdown h
  | receive message => exact hreceive message rfl
  | look id => exact hI.get h id
  | list => exact hI.all h
  | queue q => exact hqueue q rfl
  | pass micros reading => exact hI.pass h micros reading
  | takeUp => exact hI.takeUp h
  | claim => exact hI.claim h
  | expire i =>
    cases hi : b.claimed[i]? with
    | none =>
      rw [step_expire_none hi]
      exact h
    | some c =>
      rw [step_expire_some hi]
      exact hI.expire h c.identity c.endOfLife

namespace Enduring

variable {I : Manager σ → Prop} {b : Broker σ}

theorem step (hI : Enduring I) (h : I b.manager) (op : Op)
    (hreceive : ∀ message, op = .receive message → I (received b.manager message)) : I (b.step op).manager :=
  hI.toPersistent.step h op hreceive fun q _ => hI.queue h q

theorem run (hI : Enduring I) (hreceive : ∀ m message, I m → I (received m message)) (h : I b.manager) (ops : List Op) :
    I (b.run ops).manager := by
  induction ops generalizing b with
  | nil => exact h
  | cons op ops ih => exact ih (hI.step h op fun message _ => hreceive _ message h)

end Enduring

/-! ## Properties that endure -/

/-- a property of the hub that lasts when endpoints are made and destroyed -/
theorem Persistent.of_hub {J : Hub → Prop} (hcreate : ∀ h d, J h → J (h.create d).2)
    (hdestroy : ∀ h e, J h → J (h.destroy e).2) : Persistent fun m : Manager σ => J m.hub where
  get h _ := h
  all h := h
  put h _ := h
  delete h _ := h
  renew h _ _ := h
  create h d := hcreate _ d h
  destroy h e := hdestroy _ e h
  engine h _ := h
  drawn h _ := h
  schedule h _ _ _ _ := h
  cancel h _ _ _ := h
  close h := h
  pass h _ _ := h
  takeUp h := h
  claim h := h

namespace Enduring

/-- a property of the hub that lasts when endpoints are made and destroyed, and whatever becomes of queues -/
theorem of_hub {J : Hub → Prop} (hcreate : ∀ h d, J h → J (h.create d).2) (hdestroy : ∀ h e, J h → J (h.destroy e).2)
    (hqueue : ∀ (q : QueueOp) h, J h → J (q.apply h)) : Enduring fun m : Manager σ => J m.hub where
  toPersistent := .of_hub hcreate hdestroy
  queue h q := hqueue q _ h

/-- a property of the scheduler that lasts when it is used -/
theorem of_scheduler {J : Scheduler Unit → Prop}
    (hschedule : ∀ s elapsed now id t s', J s → s.schedule elapsed now id t () = .ok s' → J s')
    (hcancel : ∀ s id s', J s → s.cancel id = .ok s' → J s') (hclose : ∀ s, J s → J s.shutdown)
    (htakeUp : ∀ s, J s → J s.takeUp) (hclaim : ∀ s elapsed, J s → J (s.claimNext elapsed).2) :
    Enduring fun m : Manager σ => J m.scheduler where
  get h _ := h
  all h := h
  put h _ := h
  delete h _ := h
  renew h _ _ := h
  create h _ := h
  destroy h _ := h
  engine h _ := h
  drawn h _ := h
  schedule h _ _ _ hs := hschedule _ _ _ _ _ _ h hs
  cancel h _ _ hs := hcancel _ _ _ h hs
  close h := hclose _ h
  queue h _ := h
  pass h _ _ := h
  takeUp h := htakeUp _ h
  claim h := hclaim _ _ h

end Enduring

/-- outlets are kept, and those that were destroyed stay so -/
theorem enduring_keeps (h₀ : Hub) : Enduring fun m : Manager σ => h₀.Keeps m.hub :=
  .of_hub (fun h d hk => hk.trans (h.create_keeps d)) (fun h e hk => hk.trans (h.destroy_keeps e))
    fun q h hk => hk.trans (.of_outlets (q.apply_outlets h))

theorem QueueOp.apply_journal (q : QueueOp) (h : Hub) : (q.apply h).journal = h.journal := by
  cases q with
  | openUp name => rfl
  | close name => rfl
  | empty serial =>
    simp only [apply, Hub.receiveAll]
    split <;> rfl
  | dropReceiver serial =>
    simp only [apply, Hub.dropReceiver]
    split <;> rfl

/-- what an endpoint has handed on stays as it is but for messages -/
theorem enduring_handed (k : Nat) (ds : List Deed) : Enduring fun m : Manager σ => m.hub.handed k = ds :=
  .of_hub (fun h d hk => (Hub.handed_of_journal (h.create_journal d) k).trans hk)
    (fun h e hk => (h.destroy_handed e k).trans hk)
    fun q h hk => (Hub.handed_of_journal (q.apply_journal h) k).trans hk

omit [SubscriptionStore σ] in
theorem received_keeps (m : Manager σ) (message : Message) : m.hub.Keeps (received m message).hub :=
  .of_outlets (Engine.dispatch_outlets m.engine message m.clock.now m.hub)

theorem enduring_timed : Enduring fun m : Manager σ => m.scheduler.Timed := by
  refine .of_scheduler (fun s elapsed now id t s' h hs => h.schedule hs)
    (fun s id s' h hs => ⟨h.tracked.thinner (Scheduler.cancel_thinner hs), ?_⟩)
    (fun s h => ⟨h.tracked.thinner s.shutdown_thinner, ?_⟩)
    (fun s h => ⟨h.tracked.thinner s.takeUp_thinner, h.ordered.takeUp⟩)
    fun s elapsed h => ⟨h.tracked.thinner (s.claimNext_thinner elapsed),
      h.ordered.sublist (Clockwork.claimNext_timers s elapsed).1⟩
  · unfold Scheduler.cancel at hs
    split at hs
    · cases hs
      exact h.ordered
    · cases hs
  · unfold Scheduler.shutdown
    split <;> exact h.ordered

omit [SubscriptionStore σ] in
theorem assembled_timed (store : σ) (hub : Hub) (engine : Engine) (clock : Clock) (ids : Nat → String) :
    (Manager.assemble store hub engine clock ids).scheduler.Timed :=
  ⟨Scheduler.tracked_start, List.Pairwise.nil⟩

end Broker

end EventBroker
