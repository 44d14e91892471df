/-
The life of subscriptions.

A manager keeps four things in agreement about which subscriptions are active: the store has their records, the engine
their rules, the scheduler the jobs that end them, and the hub their endpoints. Every operation runs as a whole; jobs
that fall due run between operations.
-/
import EventBroker.Filter.Engine
import EventBroker.Scheduler
import EventBroker.Store.Basic

namespace EventBroker

structure Manager (σ : Type) where
  store : σ
  hub : Hub
  engine : Engine
  scheduler : Scheduler Unit
  clock : Clock
  /-- how long the scheduler's timer has been running, in microseconds -/
  elapsed : Nat
  /-- the ids that are drawn for subscriptions, one after the other -/
  ids : Nat → String
  idsDrawn : Nat

namespace Manager

variable {σ : Type} [SubscriptionStore σ]

/-- an operation on a manager -/
abbrev Act (σ α : Type) := StateM (Manager σ) α

/-- a manager around a store; records in it stay dormant -/
def assemble (store : σ) (hub : Hub) (engine : Engine) (clock : Clock) (ids : Nat → String) : Manager σ :=
  ⟨store, hub, engine, .start, clock, 0, ids, 0⟩

/-! ## The parts of a manager -/

def onStore {α : Type} (f : σ → α × σ) : Act σ α :=
  modifyGet fun m =>
    let (a, s) := f m.store
    (a, { m with store := s })

def onHub {α : Type} (f : Hub → α × Hub) : Act σ α :=
  modifyGet fun m =>
    let (a, h) := f m.hub
    (a, { m with hub := h })

def lookUp (id : String) : Act σ (Option Subscription) := onStore (SubscriptionStore.get · id)

/-- install a rule -/
def register (s : Subscription) (e : Endpoint) : Act σ (Except BrokerError Unit) :=
  modifyGet fun m =>
    match m.engine.register s e with
    | .ok engine => (.ok (), { m with engine })
    | .error f => (.error f, m)

/-- take a rule out -/
def removeRule (id : String) : Act σ (Except BrokerError Rule) :=
  modifyGet fun m =>
    match m.engine.remove id with
    | .ok (r, engine) => (.ok r, { m with engine })
    | .error f => (.error f, m)

/-- let an endpoint go; a crash of it is a failure like others -/
def destroy (e : Endpoint) : Act σ (Option BrokerError) :=
  onHub fun h =>
    let (reply, h) := h.destroy e
    (reply.destroyError?, h)

/-- plan the end of a subscription, if it has one -/
def schedule (s : Subscription) : Act σ Unit :=
  modify fun m =>
    match s.terminationTime with
    | none => m
    | some t =>
      match m.scheduler.schedule m.elapsed m.clock.now s.id t () with
      | .ok scheduler => { m with scheduler }
      | .error _ => m

/-- forget the planned end of a subscription -/
def unschedule (id : String) : Act σ Unit :=
  modify fun m =>
    match m.scheduler.cancel id with
    | .ok scheduler => { m with scheduler }
    | .error _ => m

def isRunning : Act σ Bool := return !(← get).scheduler.isShutDown

/-! ## Ids -/

/-- draw an id, and see whether it is free: neither a record nor a rule has it -/
def tryId : Act σ (String × Bool) := do
  let id ← modifyGet fun m => (m.ids m.idsDrawn, { m with idsDrawn := m.idsDrawn + 1 })
  return (id, (← lookUp id).isNone && !(← get).engine.contains id)

/-- ids are drawn until one is free; there is no outcome if none ever is -/
def searchId (m : Manager σ) : Option (String × Manager σ) :=
  match tryId m with
  | ((id, true), m) => some (id, m)
  | ((_, false), m) => m |>.searchId
partial_fixpoint

/-- the next id that is free, if there is one. The first is tried outside the search, which does not evaluate within the
logic: it is nearly always free. -/
def drawId (m : Manager σ) : Option (String × Manager σ) :=
  match tryId m with
  | ((id, true), m) => some (id, m)
  | ((_, false), m) => searchId m

/-- the first try makes no difference -/
theorem drawId_eq_searchId (m : Manager σ) : drawId m = searchId m := (searchId.eq_1 m).symm

/-! ## Operations -/

/-- record and activate a subscription whose endpoint is made; on failure the endpoint goes again -/
def activateNew (id : String) (options : SubscribeOptions) (e : Endpoint) :
    Act σ (Except BrokerError Subscription) := do
  let s : Subscription := ⟨id, options, e⟩
  match ← onStore (SubscriptionStore.put · s) with
  | .error f =>
    let _ ← destroy e
    return .error f
  | .ok () =>
    match ← register s e with
    | .error f =>
      let _ ← onStore (SubscriptionStore.delete · id)
      let _ ← destroy e
      return .error f
    | .ok () =>
      schedule s
      return .ok s

/-- the endpoint for a new subscription, as long as the scheduler runs -/
def prepare (options : SubscribeOptions) : Act σ (Except BrokerError Endpoint) := do
  match options.delivery with
  | none => return .error (.unsupportedDelivery (.text "no delivery definition given"))
  | some d =>
    match ← onHub (·.create d) with
    | .error f => return .error f
    | .ok e =>
      if ← isRunning then return .ok e
      else
        let _ ← destroy e
        return .error .schedulerShutdown

/-- make a subscription, or leave nothing of it behind; there is no outcome if the search for an id has no end -/
def subscribe (options : SubscribeOptions) (m : Manager σ) :
    Option (Except BrokerError Subscription × Manager σ) :=
  match prepare options m with
  | (.error f, m) => some (.error f, m)
  | (.ok e, m) => (drawId m).map fun (id, m) => activateNew id options e m

/-- give a subscription another end -/
def renew (id : String) (t : Timestamp) : Act σ (Except BrokerError Timestamp) := do
  if !(← isRunning) then return .error .schedulerShutdown
  else
    match ← onStore (SubscriptionStore.renew · id t) with
    | .error f => return .error f
    | .ok s =>
      schedule s
      return .ok t

/-- remove a subscription from every part, going on after failures, and tell them all -/
def teardown (id : String) (stored : Option Subscription) : Act σ (List BrokerError) := do
  let (endpoint, noRule) ← do
    match ← removeRule id with
    | .ok r => pure (some r.endpoint, none)
    | .error f => pure (stored.map Subscription.endpoint, some f)
  let notDestroyed ← do
    match endpoint with
    | some e => destroy e
    | none => pure none
  unschedule id
  let notDeleted ← do
    match ← onStore (SubscriptionStore.delete · id) with
    | .ok _ => pure none
    | .error f => pure (some f)
  return [noRule, notDestroyed, notDeleted].filterMap fun f => f

/-- end a subscription that is stored or active -/
def unsubscribe (id : String) : Act σ (Except BrokerError Unit) := do
  let stored ← lookUp id
  if stored.isNone && !(← get).engine.contains id then return .error (.unknownSubscription id)
  else
    match ← teardown id stored with
    | [] => return .ok ()
    | fs => return .error (.unsubscribe fs)

/-- end a subscription whose time has come, unless it is gone or was given another end -/
def expire (id : String) (endOfLife : Timestamp) : Act σ Unit := do
  match ← lookUp id with
  | none => return ()
  | some s =>
    if s.terminationTime == some endOfLife then
      let _ ← teardown id (some s)

/-- bring a dormant record to life -/
def activate (s : Subscription) : Act σ (Except BrokerError Unit) := do
  match s.options.delivery with
  | none => return .error (.unsupportedDelivery (.text "no delivery definition stored"))
  | some d =>
    match ← onHub (·.create d) with
    | .error f => return .error f
    | .ok e =>
      let live : Subscription := ⟨s.id, s.options, e⟩
      match ← register live e with
      | .error f =>
        let _ ← destroy e
        return .error f
      | .ok () =>
        match ← onStore (SubscriptionStore.put · live) with
        | .error f =>
          let _ ← removeRule live.id
          let _ ← destroy e
          return .error f
        | .ok () =>
          schedule live
          return .ok ()

/-- bring records to life one after the other, and count them; one that cannot live is deleted -/
def activateAll : List Subscription → Act σ Nat
  | [] => return 0
  | s :: ss => do
    let done ← do
      if (← get).engine.contains s.id then pure false
      else
        match ← activate s with
        | .ok () => pure true
        | .error _ =>
          let _ ← onStore (SubscriptionStore.delete · s.id)
          pure false
    let n ← activateAll ss
    return if done then n + 1 else n

/-- bring every dormant record to life -/
def restore : Act σ Nat := do
  activateAll (← onStore SubscriptionStore.all)

/-- a manager around a store, with every record in it alive that can live -/
def start (store : σ) (hub : Hub) (engine : Engine) (clock : Clock) (ids : Nat → String) : Manager σ :=
  (restore.run (assemble store hub engine clock ids)).2

/-- let endpoints go one after the other -/
def destroyAll : List Rule → Act σ Unit
  | [] => return ()
  | r :: rs => do
    let _ ← destroy r.endpoint
    destroyAll rs

/-- end nothing any more and let all endpoints go; the records stay -/
def shutdown : Act σ Unit := do
  modify fun m => { m with scheduler := m.scheduler.shutdown }
  let rules ← modifyGet fun m =>
    let (rules, engine) := m.engine.drain
    (rules, { m with engine })
  destroyAll rules

/-- a stored subscription with the endpoint that is in use for it -/
def withLiveEndpoint (m : Manager σ) (s : Subscription) : Subscription :=
  match m.engine.endpoint? s.id with
  | some e => { s with endpoint := e }
  | none => s

def getSubscription (id : String) : Act σ (Option Subscription) := do
  let s ← lookUp id
  return s.map (← get).withLiveEndpoint

def subscriptions : Act σ (List Subscription) := do
  let ss ← onStore SubscriptionStore.all
  return ss.map (← get).withLiveEndpoint

/-- hand a message to every matching subscription, and count what was delivered -/
def receive (message : Message) : Act σ Nat :=
  modifyGet fun m =>
    let (n, h) := m.engine.dispatch message m.clock.now m.hub
    (n, { m with hub := h })

/-! ## Time -/

/-- run jobs that were claimed, one after the other -/
def expireAll : List (Claimed Unit) → Act σ Unit
  | [] => return ()
  | c :: cs => do
    expire c.identity c.endOfLife
    expireAll cs

/-- let time pass on the timer, and run the jobs that fall due -/
def wait (micros : Nat) : Act σ Unit := do
  let claimed ← modifyGet fun m =>
    let elapsed := m.elapsed + micros
    let (cs, scheduler) := m.scheduler.advance elapsed
    (cs, { m with scheduler, elapsed })
  expireAll claimed

/-- the handles of the endpoints that rules and records keep in use -/
def heldEndpoints (m : Manager σ) : List Nat :=
  m.engine.rules.values.filterMap (·.endpoint.handle?) ++ SubscriptionStore.held m.store

end Manager

end EventBroker
