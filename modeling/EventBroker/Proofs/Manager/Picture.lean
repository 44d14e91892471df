/-
A manager seen from outside.

A `Picture` has what can be told of a manager without looking into its parts: the records of its store, the rules by
id, the scheduler and the readings it plans by, and what decides where options lead. `Manager.Shows` relates a manager
over a faithful store to its picture. The few ways in which operations change pictures are functions here: `activate`,
`prolong`, `remove`, `drop`, `close`.

`Manager.Ensures` says what holds after an operation of a manager, of its answer and of the manager as it is then; the
lemmas at the end say it of the parts that operations are made of. `Manager.Yields` says the same of an operation that
need not come to an end, as drawing an id: `drawId_keeps` is the induction over its tries.
-/
import Mathlib.Logic.Function.Basic
import EventBroker.Manager
import EventBroker.Proofs.Delivery.Frame
import EventBroker.Proofs.Store.Faithful

namespace EventBroker

open Function (update)

/-! ## After an operation -/

namespace Manager

variable {σ : Type}

/-- after the operation `Q` holds of its answer and the manager -/
def Ensures {α : Type} (a : Act σ α) (m : Manager σ) (Q : α → Manager σ → Prop) : Prop := Q (a m).1 (a m).2

namespace Ensures

variable {α β : Type} {m : Manager σ}

theorem pure {x : α} {Q : α → Manager σ → Prop} (h : Q x m) : Ensures (Pure.pure x : Act σ α) m Q := h

theorem bind {a : Act σ α} {f : α → Act σ β} {P : α → Manager σ → Prop} {Q : β → Manager σ → Prop}
    (ha : Ensures a m P) (hf : ∀ x m', P x m' → Ensures (f x) m' Q) : Ensures (a >>= f) m Q :=
  hf _ _ ha

theorem pure_bind {x : α} {f : α → Act σ β} {Q : β → Manager σ → Prop} (h : Ensures (f x) m Q) :
    Ensures (Pure.pure x >>= f) m Q := h

theorem imp {a : Act σ α} {P Q : α → Manager σ → Prop} (ha : Ensures a m P) (h : ∀ x m', P x m' → Q x m') :
    Ensures a m Q :=
  h _ _ ha

theorem and {a : Act σ α} {P Q : α → Manager σ → Prop} (hP : Ensures a m P) (hQ : Ensures a m Q) :
    Ensures a m fun x m' => P x m' ∧ Q x m' :=
  ⟨hP, hQ⟩

theorem get {Q : Manager σ → Manager σ → Prop} (h : Q m m) : Ensures (MonadState.get : Act σ (Manager σ)) m Q := h

theorem modifyGet {f : Manager σ → α × Manager σ} {Q : α → Manager σ → Prop} (h : Q (f m).1 (f m).2) :
    Ensures (MonadStateOf.modifyGet f : Act σ α) m Q := h

theorem modify {f : Manager σ → Manager σ} {Q : Unit → Manager σ → Prop} (h : Q () (f m)) :
    Ensures (modify f : Act σ Unit) m Q := h

end Ensures

/-- if the operation comes to an end, `Q` holds of its answer and the manager then -/
def Yields {α : Type} (a : Manager σ → Option (α × Manager σ)) (m : Manager σ) (Q : α → Manager σ → Prop) : Prop :=
  ∀ x m', a m = some (x, m') → Q x m'

theorem Yields.imp {α : Type} {a : Manager σ → Option (α × Manager σ)} {m : Manager σ} {P Q : α → Manager σ → Prop}
    (ha : Yields a m P) (h : ∀ x m', P x m' → Q x m') : Yields a m Q :=
  fun x m' hx => h x m' (ha x m' hx)

section Drawing

variable [SubscriptionStore σ] {m : Manager σ}

/-- what every try keeps, drawing an id keeps, and the last try was the one that succeeded -/
theorem drawId_keeps {P : Manager σ → Prop} (h : P m) (htry : ∀ m, P m → P (tryId m).2) :
    Yields drawId m fun id m' => P m' ∧ ∃ m₀, P m₀ ∧ tryId m₀ = ((id, true), m') := by
  intro id m' hdraw
  rw [drawId_eq_searchId] at hdraw
  suffices hlast : ∃ m₀, P m₀ ∧ tryId m₀ = ((id, true), m') by
    obtain ⟨m₀, h₀, htried⟩ := hlast
    have hlast := htry m₀ h₀
    rw [htried] at hlast
    exact ⟨hlast, m₀, h₀, htried⟩
  -- by induction on the tries of the search
  refine searchId.partial_correctness (fun m r => P m → ∃ m₀, P m₀ ∧ tryId m₀ = ((r.1, true), r.2)) ?_ m (id, m')
    hdraw h
  intro search ih m r hr hm
  have hnext := htry m hm
  split at hr <;> rename_i htried
  · cases hr
    exact ⟨m, hm, htried⟩
  · rw [htried] at hnext
    exact ih _ r hr hnext

/-- drawing an id comes to an end if one that is still to come stays free until it is tried -/
theorem exists_drawId {P : Manager σ → Prop} (h : P m) (htry : ∀ m, P m → P (tryId m).2) {n : Nat}
    (hfree : ∀ m', P m' → m'.idsDrawn = m.idsDrawn + n → (tryId m').1.2 = true) : ∃ id m', drawId m = some (id, m') := by
  suffices hends : ∃ r, searchId m = some r by
    obtain ⟨r, hr⟩ := hends
    exact ⟨r.1, r.2, (drawId_eq_searchId m).trans hr⟩
  induction n generalizing m with
  | zero =>
    have hnow := hfree m h rfl
    rw [searchId.eq_1]
    split
    · exact ⟨_, rfl⟩
    · rename_i htried
      rw [htried] at hnow
      cases hnow
  | succ n ih =>
    rw [searchId.eq_1]
    split
    · exact ⟨_, rfl⟩
    · rename_i id m' htried
      have hm' : (tryId m).2 = m' := congrArg Prod.snd htried
      refine ih (hm' ▸ htry m h) fun m'' hm'' hdrawn => hfree m'' hm'' ?_
      have hone : m'.idsDrawn = m.idsDrawn + 1 := hm' ▸ rfl
      omega

/-- how an endpoint for a new subscription is prepared: there is none, or it is made, and goes again after a shutdown -/
inductive Prepared (m : Manager σ) (o : SubscribeOptions) : Except BrokerError Endpoint → Manager σ → Prop where
  | undefined (hd : o.delivery = none) (f : BrokerError) : Prepared m o (.error f) m
  | refused {d : DeliveryDefinition} {f : BrokerError} (hd : o.delivery = some d)
    (hf : (m.hub.create d).1 = .error f) : Prepared m o (.error f) { m with hub := (m.hub.create d).2 }
  | late {d : DeliveryDefinition} {e : Endpoint} (hd : o.delivery = some d) (he : (m.hub.create d).1 = .ok e)
    (hdown : m.scheduler.isShutDown = true) :
    Prepared m o (.error .schedulerShutdown) { m with hub := ((m.hub.create d).2.destroy e).2 }
  | made {d : DeliveryDefinition} {e : Endpoint} (hd : o.delivery = some d) (he : (m.hub.create d).1 = .ok e)
    (hrun : m.scheduler.isShutDown = false) : Prepared m o (.ok e) { m with hub := (m.hub.create d).2 }

omit [SubscriptionStore σ] in
theorem prepare_prepared (m : Manager σ) (o : SubscribeOptions) : Ensures (prepare o) m (Prepared m o) := by
  unfold prepare
  cases hd : o.delivery with
  | none => exact .undefined hd _
  | some d =>
    refine Ensures.bind (P := fun r m' => r = (m.hub.create d).1 ∧ m' = { m with hub := (m.hub.create d).2 })
      ⟨rfl, rfl⟩ ?_
    rintro r _ ⟨hr, rfl⟩
    cases r with
    | error f => exact .refused hd hr.symm
    | ok e =>
      refine Ensures.bind (P := fun running m' => running = !m.scheduler.isShutDown ∧
        m' = { m with hub := (m.hub.create d).2 }) ⟨rfl, rfl⟩ ?_
      rintro running _ ⟨hrunning, rfl⟩
      cases running with
      | true => exact .made hd hr.symm (by simpa using hrunning)
      | false => exact .late hd hr.symm (by simpa using hrunning)

/-- a subscription that is made has an endpoint first, and then an id -/
theorem subscribe_yields {o : SubscribeOptions} {Q : Except BrokerError Subscription → Manager σ → Prop}
    (hfails : ∀ f m', m.Prepared o (.error f) m' → Q (.error f) m')
    (hgoes : ∀ e m', m.Prepared o (.ok e) m' → Yields drawId m' fun id m'' => Ensures (activateNew id o e) m'' Q) :
    Yields (subscribe o) m Q := by
  have hprepare : m.Prepared o (prepare o m).1 (prepare o m).2 := prepare_prepared m o
  intro a m' ha
  unfold subscribe at ha
  split at ha <;> rename_i hprepared <;> rw [hprepared] at hprepare
  · cases ha
    exact hfails _ _ hprepare
  · rename_i e m₁
    obtain ⟨⟨id, m₂⟩, hdraw, hactivated⟩ := Option.map_eq_some_iff.1 ha
    have hactivated : activateNew id o e m₂ = (a, m') := hactivated
    have hdone : Q (activateNew id o e m₂).1 (activateNew id o e m₂).2 := hgoes e m₁ hprepare id m₂ hdraw
    rwa [hactivated] at hdone

/-- it comes to an end if an id can be drawn -/
theorem exists_subscribe {o : SubscribeOptions}
    (hdraw : ∀ e m', m.Prepared o (.ok e) m' → ∃ id m'', drawId m' = some (id, m'')) :
    ∃ a m', subscribe o m = some (a, m') := by
  have hprepare : m.Prepared o (prepare o m).1 (prepare o m).2 := prepare_prepared m o
  unfold subscribe
  split <;> rename_i hprepared <;> rw [hprepared] at hprepare
  · exact ⟨_, _, rfl⟩
  · obtain ⟨id, m₂, hid⟩ := hdraw _ _ hprepare
    rw [hid]
    exact ⟨_, _, rfl⟩

end Drawing

end Manager

/-! ## Where options lead -/

/-- some hub of this supply makes an endpoint at this address for these options -/
def Resolves (supply : Supply) (o : SubscribeOptions) (location : String) : Prop :=
  ∃ (d : DeliveryDefinition) (h : Hub) (e : Endpoint), o.delivery = some d ∧ h.supply = supply ∧
    (h.create d).1 = .ok e ∧ e.location = location

/-- the predicate that a compiler makes for options, whatever the transformer -/
def compiled (c : Compiler) (o : SubscribeOptions) : Except BrokerError Predicate :=
  (Engine.ofCompiler c .standard).compile o

theorem Engine.compile_eq (e : Engine) (o : SubscribeOptions) : e.compile o = compiled e.compiler o := rfl

/-- a rule does what a record asks for, at the address that the record has -/
structure Rule.Serves (rule : Rule) (c : Compiler) (r : SubscriptionRecord) : Prop where
  predicate : compiled c r.options = .ok rule.predicate
  raw : rule.raw = (r.options.delivery.map DeliveryDefinition.useRaw).getD false
  location : rule.endpoint.location = r.location

/-- Whatever address the options lead to, the store can keep them under any id. A store in memory keeps everything; a
store of files keeps what its files can tell (`FileStore.Storable`): texts and lists of fewer than `2 ^ 32` entries, and
parameters that are nested no deeper than a reader of records enters. -/
def Keepable (σ : Type) [SubscriptionStore σ] [FaithfulStore σ] (supply : Supply) (o : SubscribeOptions) : Prop :=
  ∀ id location, Resolves supply o location → FaithfulStore.Fits σ ⟨id, o, location⟩

/-! ## Pictures -/

structure Picture where
  records : Records
  rules : String → Option Rule
  scheduler : Scheduler Unit
  elapsed : Nat
  now : Timestamp
  compiler : Compiler
  supply : Supply
  queues : Table String Nat

namespace Picture

/-- the scheduler with a plan for the end of an id, if there is an end and the scheduler takes plans -/
def planned (p : Picture) (id : String) : Option Timestamp → Scheduler Unit
  | none => p.scheduler
  | some t => (p.scheduler.schedule p.elapsed p.now id t ()).toOption.getD p.scheduler

/-- the scheduler without a plan for an id -/
def unplanned (p : Picture) (id : String) : Scheduler Unit := (p.scheduler.cancel id).toOption.getD p.scheduler

/-- a record is put in, with a rule that serves it -/
def activate (p : Picture) (r : SubscriptionRecord) (rule : Rule) : Picture :=
  { p with
    records := update p.records r.id (some r)
    rules := update p.rules r.id (some rule)
    scheduler := p.planned r.id r.options.terminationTime }

/-- a record gets another end -/
def prolong (p : Picture) (r : SubscriptionRecord) (t : Timestamp) : Picture :=
  { p with records := update p.records r.id (some (r.renewed t)), scheduler := p.planned r.id (some t) }

/-- an id goes from every part -/
def remove (p : Picture) (id : String) : Picture :=
  { p with records := update p.records id none, rules := update p.rules id none, scheduler := p.unplanned id }

/-- a record goes that has no rule -/
def drop (p : Picture) (id : String) : Picture := { p with records := update p.records id none }

/-- plans and rules go, records stay -/
def close (p : Picture) : Picture := { p with rules := fun _ => none, scheduler := p.scheduler.shutdown }

/-- options can be served, whatever has become of the endpoints so far -/
def CanServe (p : Picture) (o : SubscribeOptions) : Prop :=
  (∃ d, o.delivery = some d ∧
    ∀ h : Hub, h.supply = p.supply → h.queues = p.queues → ∃ e, (h.create d).1 = .ok e) ∧
  ∃ f, compiled p.compiler o = .ok f

/-- what is asked of a record and a rule before they are put in -/
structure Admits (p : Picture) (r : SubscriptionRecord) (rule : Rule) : Prop where
  free : p.rules r.id = none
  resolves : Resolves p.supply r.options r.location
  serves : rule.Serves p.compiler r

end Picture

namespace Manager

variable {σ : Type} [SubscriptionStore σ] [FaithfulStore σ]

structure Shows (m : Manager σ) (p : Picture) : Prop where
  holds : FaithfulStore.Holds m.store p.records
  keepable : ∀ id r, p.records id = some r → Keepable σ p.supply r.options
  rules : m.engine.rules.find? = p.rules
  scheduler : m.scheduler = p.scheduler
  elapsed : m.elapsed = p.elapsed
  now : m.clock.now = p.now
  compiler : m.engine.compiler = p.compiler
  supply : m.hub.supply = p.supply
  queues : m.hub.queues = p.queues

namespace Shows

variable {m : Manager σ} {p : Picture}

theorem onHub (h : m.Shows p) {hub : Hub} (hs : m.hub.SameSetting hub) : Shows { m with hub } p :=
  { h with supply := hs.supply.trans h.supply, queues := hs.queues.trans h.queues }

theorem onStore (h : m.Shows p) {store : σ} {v : Records} (hv : FaithfulStore.Holds store v)
    (hk : ∀ id r, v id = some r → Keepable σ p.supply r.options) :
    Shows { m with store } { p with records := v } :=
  { h with holds := hv, keepable := hk }

theorem onScheduler (h : m.Shows p) (scheduler : Scheduler Unit) :
    Shows { m with scheduler } { p with scheduler } :=
  { h with scheduler := rfl }

theorem contains (h : m.Shows p) (id : String) : m.engine.contains id = (p.rules id).isSome := by
  rw [← h.rules]
  rfl

theorem endpoint (h : m.Shows p) (id : String) : m.engine.endpoint? id = (p.rules id).map Rule.endpoint := by
  rw [← h.rules]
  rfl

theorem keepable_put (h : m.Shows p) {r : SubscriptionRecord} (hr : Keepable σ p.supply r.options) (id : String) :
    ∀ k s, update p.records id (some r) k = some s → Keepable σ p.supply s.options := by
  intro k s hs
  rcases update_some_eq_some.1 hs with ⟨-, rfl⟩ | ⟨-, hs⟩
  · exact hr
  · exact h.keepable k s hs

theorem keepable_erase (h : m.Shows p) (id : String) :
    ∀ k s, update p.records id none k = some s → Keepable σ p.supply s.options := by
  intro k s hs
  exact h.keepable k s (update_none_eq_some.1 hs).2

end Shows

theorem Keepable.renewed {supply : Supply} {r : SubscriptionRecord} (h : Keepable σ supply r.options)
    (t : Timestamp) : Keepable σ supply (r.renewed t).options := by
  intro id location hres
  obtain ⟨d, hub, e, hd, hrest⟩ := hres
  exact FaithfulStore.fits_renewed t (h id location ⟨d, hub, e, hd, hrest⟩)

/-! ## Parts of operations -/

section Parts

variable {m : Manager σ} {p : Picture}

theorem lookUp_ensures (h : m.Shows p) (id : String) :
    Ensures (lookUp id) m fun s m' => s.map Subscription.toRecord = p.records id ∧ m'.Shows p :=
  ⟨FaithfulStore.get_answer h.holds id, h.onStore (FaithfulStore.get_holds h.holds id) h.keepable⟩

theorem create_ensures (h : m.Shows p) (d : DeliveryDefinition) :
    Ensures (onHub (·.create d)) m fun r m' => r = (m.hub.create d).1 ∧ m'.Shows p :=
  ⟨rfl, h.onHub (Hub.create_setting m.hub d)⟩

theorem destroy_ensures (h : m.Shows p) (e : Endpoint) : Ensures (destroy e) m fun _ m' => m'.Shows p :=
  h.onHub (Hub.destroy_setting m.hub e)

theorem isRunning_ensures (h : m.Shows p) :
    Ensures (isRunning : Act σ Bool) m fun b m' => b = !p.scheduler.isShutDown ∧ m'.Shows p :=
  ⟨by rw [← h.scheduler]; rfl, h⟩

theorem schedule_ensures (h : m.Shows p) (s : Subscription) :
    Ensures (schedule s) m fun _ m' => m'.Shows { p with scheduler := p.planned s.id s.terminationTime } := by
  refine Ensures.modify ?_
  cases ht : s.terminationTime with
  | none => exact h
  | some t =>
    have hplan : p.planned s.id (some t) =
        (m.scheduler.schedule m.elapsed m.clock.now s.id t ()).toOption.getD m.scheduler := by
      rw [h.scheduler, h.elapsed, h.now]
      rfl
    rw [hplan]
    dsimp only
    cases m.scheduler.schedule m.elapsed m.clock.now s.id t () with
    | ok scheduler => exact h.onScheduler scheduler
    | error f => exact h.onScheduler m.scheduler

theorem unschedule_ensures (h : m.Shows p) (id : String) :
    Ensures (unschedule id) m fun _ m' => m'.Shows { p with scheduler := p.unplanned id } := by
  have hplan : p.unplanned id = (m.scheduler.cancel id).toOption.getD m.scheduler := by
    rw [h.scheduler]
    rfl
  rw [hplan]
  refine Ensures.modify ?_
  cases m.scheduler.cancel id with
  | ok scheduler => exact h.onScheduler scheduler
  | error f => exact h.onScheduler m.scheduler

theorem find?_insert_eq {κ α : Type} [DecidableEq κ] (t : Table κ α) (k : κ) (v : α) :
    (t.insert k v).find? = update t.find? k (some v) := by
  funext k'
  by_cases hk : k' = k
  · subst hk
    simp [Table.find?_insert]
  · simp [Table.find?_insert, hk]

theorem find?_erase_eq {κ α : Type} [DecidableEq κ] (t : Table κ α) (k : κ) :
    (t.erase k).find? = update t.find? k none := by
  funext k'
  by_cases hk : k' = k
  · subst hk
    simp [Table.find?_erase]
  · simp [Table.find?_erase, hk]

/-- a rule is installed unless the filter does not compile or the id has a rule -/
theorem register_ensures (h : m.Shows p) (s : Subscription) (e : Endpoint) (he : s.endpoint = e) :
    Ensures (register s e) m fun r m' =>
      (r = .ok () ∧ p.rules s.id = none ∧ ∃ rule, rule.Serves p.compiler s.toRecord ∧ rule.endpoint = e ∧
        m'.Shows { p with rules := update p.rules s.id (some rule) }) ∨
      ((∃ f, r = .error f) ∧ m'.Shows p ∧
        (p.rules s.id = none → ∀ f, compiled p.compiler s.options ≠ .ok f)) := by
  have hcomp : m.engine.compile s.options = compiled p.compiler s.options := by
    rw [Engine.compile_eq, h.compiler]
  have hfree : m.engine.rules.contains s.id = (p.rules s.id).isSome := h.contains s.id
  refine Ensures.modifyGet ?_
  unfold Engine.register
  rw [hcomp, hfree]
  cases hc : compiled p.compiler s.options with
  | error f => exact Or.inr ⟨⟨f, rfl⟩, h, fun _ f' => by simp⟩
  | ok f =>
    cases hr : p.rules s.id with
    | some rule => exact Or.inr ⟨⟨_, rfl⟩, h, fun hnone => by simp at hnone⟩
    | none =>
      refine Or.inl ⟨rfl, rfl, ⟨s.id, f, e, _⟩, ⟨hc, rfl, ?_⟩, rfl, { h with rules := ?_ }⟩
      · rw [← he]
        rfl
      · rw [← h.rules]
        exact find?_insert_eq _ _ _

theorem removeRule_ensures (h : m.Shows p) (id : String) :
    Ensures (removeRule id) m fun r m' =>
      r.toOption = p.rules id ∧ m'.Shows { p with rules := update p.rules id none } := by
  refine Ensures.modifyGet ?_
  unfold Engine.remove
  have hfind : m.engine.rules.find? id = p.rules id := congrFun h.rules id
  rw [hfind]
  cases hr : p.rules id with
  | some rule =>
    refine ⟨rfl, { h with rules := ?_ }⟩
    rw [← h.rules]
    exact find?_erase_eq _ _
  | none =>
    refine ⟨rfl, { h with rules := ?_ }⟩
    rw [h.rules, ← hr, Function.update_eq_self]

/-- deleting leaves no record; it answers a subscription if there was one -/
theorem delete_ensures (h : m.Shows p) (id : String) :
    Ensures (onStore (SubscriptionStore.delete · id)) m fun r m' =>
      r.toOption.map Subscription.toRecord = p.records id ∧
        m'.Shows { p with records := update p.records id none } := by
  cases hr : p.records id with
  | some r =>
    obtain ⟨⟨s, hs, hsr⟩, hd⟩ := FaithfulStore.delete_known h.holds hr
    refine ⟨?_, h.onStore hd (h.keepable_erase id)⟩
    show Option.map _ ((SubscriptionStore.delete m.store id).1).toOption = _
    rw [hs, ← hsr]
    rfl
  | none =>
    obtain ⟨⟨e, he⟩, hd⟩ := FaithfulStore.delete_unknown h.holds hr
    refine ⟨?_, ?_⟩
    · show Option.map _ ((SubscriptionStore.delete m.store id).1).toOption = _
      rw [he]
      rfl
    · rw [← hr, Function.update_eq_self]
      exact h.onStore hd h.keepable

/-- a store that can keep a subscription puts it in or refuses it; it does not refuse if it has a record of that id -/
theorem put_ensures (h : m.Shows p) {s : Subscription} (hk : Keepable σ p.supply s.options)
    (hres : Resolves p.supply s.options s.location) :
    Ensures (onStore (SubscriptionStore.put · s)) m fun r m' =>
      (r = .ok () ∧ m'.Shows { p with records := update p.records s.id (some s.toRecord) }) ∨
      ((∃ f, r = .error f) ∧ p.records s.id = none ∧ m'.Shows p) := by
  have hfits : FaithfulStore.Fits σ s.toRecord := hk s.id s.location hres
  show ((SubscriptionStore.put m.store s).1 = _ ∧ _) ∨ (∃ f, (SubscriptionStore.put m.store s).1 = _) ∧ _
  cases ha : (SubscriptionStore.put m.store s).1 with
  | ok u => exact Or.inl ⟨rfl, h.onStore (FaithfulStore.put_accepted h.holds hfits ha) (h.keepable_put hk s.id)⟩
  | error f =>
    refine Or.inr ⟨⟨f, rfl⟩, ?_, h.onStore (FaithfulStore.put_refused h.holds ha) h.keepable⟩
    cases hr : p.records s.id with
    | none => rfl
    | some r =>
      rw [FaithfulStore.put_known h.holds hfits hr] at ha
      cases ha

theorem renewRecord_ensures (h : m.Shows p) (id : String) (t : Timestamp) :
    Ensures (onStore (SubscriptionStore.renew · id t)) m fun a m' =>
      (∃ r s, p.records id = some r ∧ a = .ok s ∧ s.toRecord = r.renewed t ∧
        m'.Shows { p with records := update p.records id (some (r.renewed t)) }) ∨
      (a = .error (.unknownSubscription id) ∧ p.records id = none ∧ m'.Shows p) := by
  cases hr : p.records id with
  | some r =>
    obtain ⟨⟨s, hs, hsr⟩, hd⟩ := FaithfulStore.renew_known h.holds hr t
    exact Or.inl ⟨r, s, rfl, hs, hsr,
      h.onStore hd (h.keepable_put (Keepable.renewed (h.keepable id r hr) t) id)⟩
  | none =>
    obtain ⟨ha, hd⟩ := FaithfulStore.renew_unknown h.holds hr t
    exact Or.inr ⟨ha, rfl, h.onStore hd h.keepable⟩

/-- an id that is tried is free if neither a record nor a rule has it -/
theorem tryId_ensures (h : m.Shows p) :
    Ensures tryId m fun r m' => (r.2 = true ↔ p.records r.1 = none ∧ p.rules r.1 = none) ∧ m'.Shows p := by
  have hdrawn : Manager.Shows { m with idsDrawn := m.idsDrawn + 1 } p := { h with }
  obtain ⟨hanswer, h'⟩ := lookUp_ensures hdrawn (m.ids m.idsDrawn)
  refine ⟨?_, h'⟩
  show ((SubscriptionStore.get m.store (m.ids m.idsDrawn)).1.isNone && !m.engine.contains (m.ids m.idsDrawn)) = true ↔
    p.records (m.ids m.idsDrawn) = none ∧ p.rules (m.ids m.idsDrawn) = none
  have hanswer : (SubscriptionStore.get m.store (m.ids m.idsDrawn)).1.map Subscription.toRecord =
      p.records (m.ids m.idsDrawn) := hanswer
  rw [← hanswer, h.contains]
  simp

/-- an id that is drawn is free -/
theorem drawId_ensures (h : m.Shows p) :
    Yields drawId m fun id m' => p.records id = none ∧ p.rules id = none ∧ m'.Shows p := by
  refine (drawId_keeps (P := fun m => m.Shows p) h fun m hm => (tryId_ensures hm).2).imp fun id m' hdrawn => ?_
  obtain ⟨h', m₀, h₀, htried⟩ := hdrawn
  have hfree := (tryId_ensures h₀).1
  rw [htried] at hfree
  obtain ⟨hrecord, hrule⟩ := hfree.1 rfl
  exact ⟨hrecord, hrule, h'⟩

end Parts

end Manager

end EventBroker
