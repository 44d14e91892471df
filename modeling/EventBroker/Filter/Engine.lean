/-
The rules of active subscriptions, and how messages reach their endpoints.

A rule stands under the id of its subscription. A message goes to every rule; whether one rule fails or crashes does not
matter to the others.
-/
import EventBroker.Delivery.Hub
import EventBroker.Filter.Predicate
import EventBroker.Subscription.Basic
import EventBroker.Transform

namespace EventBroker

/-- a predicate and the endpoint of the events that pass it -/
structure Rule where
  subscription : String
  predicate : Predicate
  endpoint : Endpoint
  /-- hand on messages as they came -/
  raw : Bool

structure Engine where
  compiler : Compiler
  transformer : Transformer
  rules : Table String Rule

namespace Engine

def ofCompiler (c : Compiler) (t : Transformer) : Engine := ⟨c, t, .empty⟩

/-- every failure to compile is one of the filter -/
def asFilterFailure : BrokerError → BrokerError
  | .filterInstantiation r => .filterInstantiation r
  | e => .filterInstantiation e.toDetail

/-- the predicate that a subscription asks for -/
def compile (e : Engine) (o : SubscribeOptions) : Except BrokerError Predicate :=
  match o.filterExpression with
  | none => .ok Predicate.always
  | some expression =>
    match e.compiler expression o.filterLanguage with
    | .ok p => .ok p
    | .error f => .error (asFilterFailure f)

/-- install the rule of a subscription; an id has one rule at most -/
def register (e : Engine) (s : Subscription) (endpoint : Endpoint) : Except BrokerError Engine :=
  match e.compile s.options with
  | .error f => .error f
  | .ok p =>
    if e.rules.contains s.id then .error (.ruleAlreadyRegistered s.id)
    else
      let raw := (s.options.delivery.map DeliveryDefinition.useRaw).getD false
      .ok { e with rules := e.rules.insert s.id ⟨s.id, p, endpoint, raw⟩ }

/-- take a rule out -/
def remove (e : Engine) (id : String) : Except BrokerError (Rule × Engine) :=
  match e.rules.find? id with
  | some r => .ok (r, { e with rules := e.rules.erase id })
  | none => .error (.unknownSubscription id)

def contains (e : Engine) (id : String) : Bool := e.rules.contains id

/-- the endpoint of an active subscription -/
def endpoint? (e : Engine) (id : String) : Option Endpoint := (e.rules.find? id).map Rule.endpoint

def ruleCount (e : Engine) : Nat := e.rules.size

/-- take all rules out -/
def drain (e : Engine) : List Rule × Engine := (e.rules.values, { e with rules := .empty })

/-- hand an event to a rule; true if it was delivered -/
def apply (r : Rule) (event : Event) (h : Hub) : Bool × Hub :=
  match r.predicate event with
  | .yes =>
    let (reply, h) := h.deliver r.endpoint (Payload.ofEvent event) r.raw
    (reply.isDone, h)
  | _ => (false, h)

/-- hand an event to rules one after the other, and count what was delivered -/
def applyAll (event : Event) : List Rule → Hub → Nat × Hub
  | [], h => (0, h)
  | r :: rs, h =>
    let (done, h) := apply r event h
    let (n, h) := applyAll event rs h
    (if done then n + 1 else n, h)

/-- the event of a message, if it is one the engine takes -/
def event? (e : Engine) (m : Message) (now : Timestamp) : Option Event :=
  if e.transformer.supports m then (e.transformer.transform m now).toOption else none

/-- the rules that a message goes to, each with the event to hand to it -/
def agenda (e : Engine) (m : Message) (now : Timestamp) : List (Rule × Event) :=
  match e.event? m now with
  | some event => e.rules.values.map fun r => (r, event)
  | none => []

/-- hand a message to all rules, and count what was delivered -/
def dispatch (e : Engine) (m : Message) (now : Timestamp) (h : Hub) : Nat × Hub :=
  match e.event? m now with
  | some event => applyAll event e.rules.values h
  | none => (0, h)

end Engine

end EventBroker
