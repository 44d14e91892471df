/-
Dispatch is exact, and no rule is in the way of another.

An engine is used by registering, removing and draining rules and by messages, which go to all rules that are in force.
Meanwhile anything may happen to the hub: the endpoints belong to others as well.

- `Switchboard.step`: one use of an engine and its answer; `Switchboard.run`: one use after the other.
- `Switchboard.InForce`: which rules there are, told from the history alone: a rule is in force if its registration was
  accepted and it was not taken out since. `step_rules` is the step and `run_rules` the run.
- `Engine.calls`: the deliveries that an event leads to, and `Hub.deliverAll`: these deliveries, one after the other.
  `applyAll_eq_deliverAll` says that handing an event to rules in any order is making these deliveries and no others.

Predicates, endpoints, compiler and transformer are arbitrary throughout; no proof looks at what a delivery does.
-/
import Mathlib.Data.List.Induction
import Mathlib.Tactic.Common
import EventBroker.Filter.Engine

namespace EventBroker

/-! ## The deliveries that an event leads to -/

/-- a delivery that an endpoint is asked for on account of a rule -/
structure Call where
  rule : String
  endpoint : Endpoint
  payload : Payload
  raw : Bool

/-- the delivery that a rule asks for when it lets an event pass: the message as it came and the text of the event, to
the rule's endpoint and in the rule's form -/
def Rule.call (event : Event) (r : Rule) : Call := ⟨r.subscription, r.endpoint, ⟨event.message, event.text⟩, r.raw⟩

def Rule.passes (event : Event) (r : Rule) : Bool := decide (r.predicate event = .yes)

/-- make deliveries one after the other: how each of them ends -/
def Hub.deliverAll : List Call → Hub → List Reply × Hub
  | [], h => ([], h)
  | c :: cs, h =>
    let (reply, h) := h.deliver c.endpoint c.payload c.raw
    let (replies, h) := deliverAll cs h
    (reply :: replies, h)

namespace Engine

/-- the deliveries that an event leads to if the rules are asked in this order -/
def calls (event : Event) (rs : List Rule) : List Call := (rs.filter (Rule.passes event)).map (Rule.call event)

theorem calls_cons (event : Event) (r : Rule) (rs : List Rule) :
    calls event (r :: rs) = if r.passes event then r.call event :: calls event rs else calls event rs := by
  unfold calls
  rw [List.filter_cons]
  split <;> rfl

theorem apply_of_passes {event : Event} {r : Rule} (h : r.passes event = true) (hub : Hub) :
    apply r event hub = ((hub.deliver r.endpoint ⟨event.message, event.text⟩ r.raw).1.isDone,
      (hub.deliver r.endpoint ⟨event.message, event.text⟩ r.raw).2) := by
  have hyes : r.predicate event = .yes := of_decide_eq_true h
  simp only [apply, hyes, Payload.ofEvent]

/-- a rule that says no or crashes leaves no trace -/
theorem apply_of_not_passes {event : Event} {r : Rule} (h : r.passes event = false) (hub : Hub) :
    apply r event hub = (false, hub) := by
  have hno : r.predicate event ≠ .yes := of_decide_eq_false h
  unfold apply
  split
  · exact absurd ‹_› hno
  · rfl

/-- handing an event to rules makes just the deliveries it leads to, and counts those that were done -/
theorem applyAll_eq_deliverAll (event : Event) (rs : List Rule) (h : Hub) :
    applyAll event rs h =
      ((h.deliverAll (calls event rs)).1.countP Reply.isDone, (h.deliverAll (calls event rs)).2) := by
  induction rs generalizing h with
  | nil => rfl
  | cons r rs ih =>
    rw [calls_cons]
    cases hr : r.passes event with
    | true => simp only [applyAll, apply_of_passes hr, ih, if_true, Hub.deliverAll, Rule.call, List.countP_cons]; grind
    | false => simp only [applyAll, apply_of_not_passes hr, ih, Bool.false_eq_true, if_false]

/-- a delivery is asked for by a rule that lets the event pass; what the other rules do does not matter -/
theorem mem_calls {event : Event} {rs : List Rule} {c : Call} :
    c ∈ calls event rs ↔ ∃ r ∈ rs, r.predicate event = .yes ∧ c = r.call event := by
  simp only [calls, List.mem_map, List.mem_filter, Rule.passes, decide_eq_true_eq]
  constructor
  · rintro ⟨r, ⟨hr, hyes⟩, rfl⟩
    exact ⟨r, hr, hyes, rfl⟩
  · rintro ⟨r, hr, hyes, rfl⟩
    exact ⟨r, ⟨hr, hyes⟩, rfl⟩

/-- rules of different subscriptions ask for one delivery each -/
theorem nodup_calls (event : Event) {rs : List Rule} (h : (rs.map Rule.subscription).Nodup) :
    ((calls event rs).map Call.rule).Nodup := by
  have hmap : (calls event rs).map Call.rule = (rs.filter (Rule.passes event)).map Rule.subscription := by
    simp only [calls, List.map_map]
    rfl
  rw [hmap]
  exact h.sublist (List.filter_sublist.map _)

/-! ## The rules of an engine -/

/-- every rule stands under the id of its subscription -/
def Keyed (e : Engine) : Prop := ∀ id r, e.rules.find? id = some r → r.subscription = id

theorem Keyed.mem_values {e : Engine} (h : e.Keyed) {r : Rule} :
    r ∈ e.rules.values ↔ e.rules.find? r.subscription = some r := by
  rw [Table.mem_values_iff]
  constructor
  · rintro ⟨id, hid⟩
    rw [h id r hid]
    exact hid
  · exact fun hr => ⟨_, hr⟩

theorem Keyed.nodup {e : Engine} (h : e.Keyed) : (e.rules.values.map Rule.subscription).Nodup := by
  have hkeys : e.rules.values.map Rule.subscription = e.rules.entries.map Prod.fst := by
    rw [Table.values, List.map_map]
    refine List.map_congr_left fun entry hentry => ?_
    exact h entry.1 entry.2 (Table.find?_eq_some_iff.2 hentry)
  rw [hkeys]
  exact e.rules.nodup

theorem Keyed.empty (e : Engine) : Keyed { e with rules := .empty } := fun _ _ h => nomatch h

theorem Keyed.insert {e : Engine} (h : e.Keyed) (r : Rule) :
    Keyed { e with rules := e.rules.insert r.subscription r } := by
  intro id r' hr'
  rw [Table.find?_insert] at hr'
  split at hr'
  · cases hr'
    exact ‹id = _›.symm
  · exact h id r' hr'

theorem Keyed.erase {e : Engine} (h : e.Keyed) (id : String) : Keyed { e with rules := e.rules.erase id } := by
  intro id' r hr
  rw [Table.find?_erase] at hr
  split at hr
  · cases hr
  · exact h id' r hr

theorem Keyed.mem_insert {e : Engine} (h : e.Keyed) {r : Rule} (hnew : e.rules.find? r.subscription = none)
    (r' : Rule) : r' ∈ (e.rules.insert r.subscription r).values ↔ r' ∈ e.rules.values ∨ r' = r := by
  rw [(h.insert r).mem_values, h.mem_values, Table.find?_insert]
  split
  · rename_i hid
    rw [hid, hnew]
    simp [eq_comm]
  · rename_i hid
    simp only [iff_self_or]
    rintro rfl
    exact absurd rfl hid

theorem Keyed.mem_erase {e : Engine} (h : e.Keyed) (id : String) (r : Rule) :
    r ∈ (e.rules.erase id).values ↔ r ∈ e.rules.values ∧ r.subscription ≠ id := by
  rw [(h.erase id).mem_values, h.mem_values, Table.find?_erase]
  split <;> simp [*]

/-- the rule that a registration would install, if the filter compiles -/
def ruleFor (e : Engine) (s : Subscription) (endpoint : Endpoint) : Except BrokerError Rule :=
  (e.compile s.options).map fun p =>
    ⟨s.id, p, endpoint, (s.options.delivery.map DeliveryDefinition.useRaw).getD false⟩

theorem ruleFor_subscription {e : Engine} {s : Subscription} {endpoint : Endpoint} {r : Rule}
    (h : e.ruleFor s endpoint = .ok r) : r.subscription = s.id := by
  unfold ruleFor at h
  cases hc : e.compile s.options with
  | error f => rw [hc] at h; cases h
  | ok p => rw [hc] at h; cases h; rfl

theorem ruleFor_congr {e e' : Engine} (h : e'.compiler = e.compiler) (s : Subscription) (endpoint : Endpoint) :
    e'.ruleFor s endpoint = e.ruleFor s endpoint := by
  simp only [ruleFor, compile, h]

theorem register_eq (e : Engine) (s : Subscription) (endpoint : Endpoint) :
    e.register s endpoint = (e.ruleFor s endpoint).bind fun r =>
      if (e.rules.find? s.id).isSome then .error (.ruleAlreadyRegistered s.id)
      else .ok { e with rules := e.rules.insert s.id r } := by
  unfold register ruleFor
  cases e.compile s.options <;> rfl

/-- a registration is accepted if the filter compiles and the id has no rule; then that rule is added -/
theorem register_ok {e e' : Engine} {s : Subscription} {endpoint : Endpoint} :
    e.register s endpoint = .ok e' ↔
      ∃ r, e.ruleFor s endpoint = .ok r ∧ e.rules.find? s.id = none ∧
        e' = { e with rules := e.rules.insert s.id r } := by
  rw [register_eq]
  cases e.ruleFor s endpoint with
  | error f => simp [Except.bind]
  | ok r => cases e.rules.find? s.id <;> simp [Except.bind, eq_comm]

end Engine

/-! ## Uses of an engine -/

/-- what is done with an engine -/
inductive Use where
  | register (s : Subscription) (endpoint : Endpoint)
  | remove (id : String)
  | drain
  | receive (m : Message) (now : Timestamp)
  /-- the hub becomes another by what others do to it -/
  | meanwhile (h : Hub)

/-- what an engine answers -/
inductive Response where
  | registered (result : Except BrokerError Unit)
  | removed (result : Except BrokerError Rule)
  | drained (rules : List Rule)
  | delivered (count : Nat)
  | none

/-- an engine and the hub that its rules deliver through -/
structure Switchboard where
  engine : Engine
  hub : Hub

namespace Switchboard

def start (c : Compiler) (t : Transformer) (h : Hub) : Switchboard := ⟨Engine.ofCompiler c t, h⟩

def step (b : Switchboard) : Use → Response × Switchboard
  | .register s endpoint =>
    match b.engine.register s endpoint with
    | .ok e => (.registered (.ok ()), { b with engine := e })
    | .error f => (.registered (.error f), b)
  | .remove id =>
    match b.engine.remove id with
    | .ok (r, e) => (.removed (.ok r), { b with engine := e })
    | .error f => (.removed (.error f), b)
  | .drain => (.drained b.engine.drain.1, { b with engine := b.engine.drain.2 })
  | .receive m now =>
    let (n, h) := b.engine.dispatch m now b.hub
    (.delivered n, { b with hub := h })
  | .meanwhile h => (.none, { b with hub := h })

def run (b : Switchboard) (us : List Use) : Switchboard := us.foldl (fun b u => (b.step u).2) b

theorem run_concat (b : Switchboard) (us : List Use) (u : Use) : b.run (us ++ [u]) = ((b.run us).step u).2 := by
  unfold run
  rw [List.foldl_append]
  rfl

/-- the use takes the rule of an id out, if there is one -/
def TakesOut (u : Use) (id : String) : Prop := u = .remove id ∨ u = .drain

/-- the rule's registration was accepted, and it was not taken out since -/
def InForce (b : Switchboard) (us : List Use) (r : Rule) : Prop :=
  ∃ before s endpoint after, us = before ++ .register s endpoint :: after ∧ b.engine.ruleFor s endpoint = .ok r ∧
    ((b.run before).step (.register s endpoint)).1 = .registered (.ok ()) ∧ ∀ u ∈ after, ¬TakesOut u s.id

/-- a rule is in force after one more use if it was before and is not taken out, or if that use is its registration -/
theorem inForce_concat {b : Switchboard} {us : List Use} {u : Use} {r : Rule} :
    b.InForce (us ++ [u]) r ↔
      (b.InForce us r ∧ ¬TakesOut u r.subscription) ∨
      ∃ s endpoint, u = .register s endpoint ∧ b.engine.ruleFor s endpoint = .ok r ∧
        ((b.run us).step u).1 = .registered (.ok ()) := by
  constructor
  · rintro ⟨before, s, endpoint, after, hus, hr, hok, hafter⟩
    rcases List.eq_nil_or_concat after with rfl | ⟨after, last, rfl⟩
    · obtain ⟨rfl, hu⟩ := List.append_inj' hus rfl
      cases hu
      exact Or.inr ⟨s, endpoint, rfl, hr, hok⟩
    · rw [List.concat_eq_append, ← List.cons_append, ← List.append_assoc] at hus
      obtain ⟨rfl, hu⟩ := List.append_inj' hus rfl
      cases hu
      rw [List.concat_eq_append, List.forall_mem_append] at hafter
      refine Or.inl ⟨⟨before, s, endpoint, after, rfl, hr, hok, hafter.1⟩, ?_⟩
      rw [Engine.ruleFor_subscription hr]
      exact hafter.2 u List.mem_cons_self
  · rintro (⟨⟨before, s, endpoint, after, rfl, hr, hok, hafter⟩, hu⟩ | ⟨s, endpoint, rfl, hr, hok⟩)
    · refine ⟨before, s, endpoint, after ++ [u], by simp, hr, hok, ?_⟩
      rw [Engine.ruleFor_subscription hr] at hu
      rw [List.forall_mem_append]
      exact ⟨hafter, fun v hv => by rwa [List.mem_singleton.1 hv]⟩
    · exact ⟨us, s, endpoint, [], rfl, hr, hok, by simp⟩

/-- no use changes the compiler or the transformer -/
theorem step_setting (b : Switchboard) (u : Use) :
    (b.step u).2.engine.compiler = b.engine.compiler ∧ (b.step u).2.engine.transformer = b.engine.transformer := by
  cases u with
  | register s endpoint =>
    cases he : b.engine.register s endpoint with
    | error f => simp [step, he]
    | ok e =>
      obtain ⟨r, -, -, rfl⟩ := Engine.register_ok.1 he
      simp [step, he]
  | remove id =>
    cases hr : b.engine.rules.find? id <;> simp [step, Engine.remove, hr]
  | _ => exact ⟨rfl, rfl⟩

theorem step_keyed {b : Switchboard} (h : b.engine.Keyed) (u : Use) : (b.step u).2.engine.Keyed := by
  cases u with
  | register s endpoint =>
    cases he : b.engine.register s endpoint with
    | error f => simpa [step, he] using h
    | ok e =>
      obtain ⟨r, hr, -, rfl⟩ := Engine.register_ok.1 he
      rw [← Engine.ruleFor_subscription hr] at he
      simpa [step, he] using h.insert r
  | remove id =>
    cases hr : b.engine.rules.find? id with
    | none => simpa [step, Engine.remove, hr] using h
    | some r => simpa [step, Engine.remove, hr] using h.erase id
  | drain => exact .empty b.engine
  | receive m now => exact h
  | meanwhile hub => exact h

/-- what one use makes of the rules -/
theorem step_rules {b : Switchboard} (h : b.engine.Keyed) (u : Use) (r : Rule) :
    r ∈ (b.step u).2.engine.rules.values ↔
      (r ∈ b.engine.rules.values ∧ ¬TakesOut u r.subscription) ∨
      ∃ s endpoint, u = .register s endpoint ∧ b.engine.ruleFor s endpoint = .ok r ∧
        (b.step u).1 = .registered (.ok ()) := by
  cases u with
  | register s endpoint =>
    cases he : b.engine.register s endpoint with
    | error f => simp [step, he, TakesOut]
    | ok e =>
      obtain ⟨new, hnew, hfree, rfl⟩ := Engine.register_ok.1 he
      have hid := Engine.ruleFor_subscription hnew
      rw [← hid] at hfree he
      have hmem := h.mem_insert hfree r
      simp only [step, he, hmem, TakesOut, reduceCtorEq, or_self, not_false_iff, and_true, Use.register.injEq]
      refine or_congr_right ⟨?_, ?_⟩
      · rintro rfl
        exact ⟨s, endpoint, ⟨rfl, rfl⟩, hnew⟩
      · rintro ⟨_, _, ⟨rfl, rfl⟩, hr⟩
        rw [hnew] at hr
        exact (Except.ok.inj hr).symm
  | remove id =>
    cases hr : b.engine.rules.find? id with
    | none =>
      have hgone (hm : r ∈ b.engine.rules.values) : r.subscription ≠ id := by
        rintro rfl
        rw [h.mem_values, hr] at hm
        cases hm
      simpa [step, Engine.remove, hr, TakesOut] using fun hm e => hgone hm e.symm
    | some old =>
      have hmem := h.mem_erase id r
      simp [step, Engine.remove, hr, hmem, TakesOut, eq_comm]
  | drain => simp [step, Engine.drain, TakesOut, Table.values, Table.empty]
  | receive m now => simp [step, TakesOut]
  | meanwhile hub => simp [step, TakesOut]

/-- the rules of a run are those in force by its history -/
theorem run_rules (c : Compiler) (t : Transformer) (h : Hub) (us : List Use) :
    ((start c t h).run us).engine.Keyed ∧ ((start c t h).run us).engine.compiler = c ∧
      ((start c t h).run us).engine.transformer = t ∧
      ∀ r, r ∈ ((start c t h).run us).engine.rules.values ↔ (start c t h).InForce us r := by
  induction us using List.reverseRecOn with
  | nil =>
    refine ⟨.empty (Engine.ofCompiler c t), rfl, rfl, fun r => ?_⟩
    simp [InForce, run, start, Engine.ofCompiler, Table.values, Table.empty]
  | append_singleton us u ih =>
    obtain ⟨hkeyed, hcompiler, htransformer, hrules⟩ := ih
    have hsetting := step_setting ((start c t h).run us) u
    rw [run_concat]
    refine ⟨step_keyed hkeyed u, hsetting.1.trans hcompiler, hsetting.2.trans htransformer, fun r => ?_⟩
    rw [step_rules hkeyed, inForce_concat, hrules]
    simp only [Engine.ruleFor_congr (e := (start c t h).engine) hcompiler]

/-! ## Dispatch -/

theorem step_register_ok {b : Switchboard} {s : Subscription} {endpoint : Endpoint} :
    (b.step (.register s endpoint)).1 = .registered (.ok ()) ↔
      (∃ r, b.engine.ruleFor s endpoint = .ok r) ∧ b.engine.rules.find? s.id = none := by
  have hok : (b.step (.register s endpoint)).1 = .registered (.ok ()) ↔ ∃ e, b.engine.register s endpoint = .ok e := by
    cases he : b.engine.register s endpoint <;> simp [step, he]
  rw [hok]
  constructor
  · rintro ⟨e, he⟩
    obtain ⟨r, hr, hfree, -⟩ := Engine.register_ok.1 he
    exact ⟨⟨r, hr⟩, hfree⟩
  · rintro ⟨⟨r, hr⟩, hfree⟩
    exact ⟨_, Engine.register_ok.2 ⟨r, hr, hfree, rfl⟩⟩

theorem step_remove_ok {b : Switchboard} {id : String} {r : Rule} :
    (b.step (.remove id)).1 = .removed (.ok r) ↔ b.engine.rules.find? id = some r := by
  cases hr : b.engine.rules.find? id <;> simp [step, Engine.remove, hr]

/-- a use that is refused changes nothing -/
theorem step_refused {b : Switchboard} {u : Use} {f : BrokerError}
    (h : (b.step u).1 = .registered (.error f) ∨ (b.step u).1 = .removed (.error f)) : (b.step u).2 = b := by
  cases u with
  | register s endpoint =>
    cases he : b.engine.register s endpoint with
    | error f => simp only [step, he]
    | ok e => simp [step, he] at h
  | remove id =>
    cases he : b.engine.remove id with
    | error f => simp only [step, he]
    | ok p => simp [step, he] at h
  | drain => simp [step] at h
  | receive m now => simp [step] at h
  | meanwhile hub => simp [step] at h

/-- what can be told of the rules after a history -/
structure RulesTold (b : Switchboard) (us : List Use) : Prop where
  distinct : ((b.run us).engine.rules.values.map Rule.subscription).Nodup
  inForce : ∀ r, r ∈ (b.run us).engine.rules.values ↔ b.InForce us r
  accepts : ∀ s endpoint, ((b.run us).step (.register s endpoint)).1 = .registered (.ok ()) ↔
    (∃ r, b.engine.ruleFor s endpoint = .ok r) ∧ ∀ r, b.InForce us r → r.subscription ≠ s.id
  hands : ∀ id r, ((b.run us).step (.remove id)).1 = .removed (.ok r) ↔ b.InForce us r ∧ r.subscription = id
  refused : ∀ u f, ((b.run us).step u).1 = .registered (.error f) ∨ ((b.run us).step u).1 = .removed (.error f) →
    ((b.run us).step u).2 = b.run us

/-- what a message does after a history; `calls` says it for whatever order the rules are asked in -/
structure Dispatches (b : Switchboard) (us : List Use) (m : Message) (now : Timestamp) : Prop where
  rules : ((b.run us).step (.receive m now)).2.engine = (b.run us).engine
  dropped : b.engine.transformer.supports m = false ∨ (∃ f, b.engine.transformer.transform m now = .error f) →
    (b.run us).step (.receive m now) = (.delivered 0, b.run us)
  asked : ∀ event, b.engine.transformer.supports m = true → b.engine.transformer.transform m now = .ok event →
    (b.run us).step (.receive m now) =
      (.delivered (Engine.applyAll event (b.run us).engine.rules.values (b.run us).hub).1,
        ⟨(b.run us).engine, (Engine.applyAll event (b.run us).engine.rules.values (b.run us).hub).2⟩)
  calls : ∀ event order, order.Perm (b.run us).engine.rules.values →
    ((Engine.calls event order).map Call.rule).Nodup ∧
    (∀ call, call ∈ Engine.calls event order ↔ ∃ r, b.InForce us r ∧ r.predicate event = .yes ∧ call = r.call event) ∧
    Engine.applyAll event order (b.run us).hub =
      (((b.run us).hub.deliverAll (Engine.calls event order)).1.countP Reply.isDone,
        ((b.run us).hub.deliverAll (Engine.calls event order)).2)

theorem run_rulesTold (c : Compiler) (t : Transformer) (h : Hub) (us : List Use) : RulesTold (start c t h) us := by
  obtain ⟨hkeyed, hcompiler, -, hrules⟩ := run_rules c t h us
  have hfind (id : String) (r : Rule) : ((start c t h).run us).engine.rules.find? id = some r ↔
      (start c t h).InForce us r ∧ r.subscription = id := by
    rw [← hrules, hkeyed.mem_values]
    constructor
    · intro hr
      have hid := hkeyed id r hr
      exact ⟨by rwa [hid], hid⟩
    · rintro ⟨hr, rfl⟩
      exact hr
  refine ⟨hkeyed.nodup, hrules, fun s endpoint => ?_, fun id r => step_remove_ok.trans (hfind id r),
    fun u f => step_refused⟩
  rw [step_register_ok, Option.eq_none_iff_forall_ne_some]
  simp only [Engine.ruleFor_congr (e := (start c t h).engine) hcompiler, ne_eq, hfind, not_and]

theorem run_dispatches (c : Compiler) (t : Transformer) (h : Hub) (us : List Use) (m : Message) (now : Timestamp) :
    Dispatches (start c t h) us m now := by
  obtain ⟨hkeyed, -, htransformer, hrules⟩ := run_rules c t h us
  refine ⟨rfl, fun hnone => ?_, fun event hsupports hevent => ?_, fun event order horder => ⟨?_, fun call => ?_, ?_⟩⟩
  · have hevent : ((start c t h).run us).engine.event? m now = none := by
      unfold Engine.event?
      rw [htransformer]
      rcases hnone with hnone | ⟨f, hf⟩
      · simp [show t.supports m = false from hnone]
      · simp [show t.transform m now = .error f from hf, Except.toOption]
    simp only [step, Engine.dispatch, hevent]
  · have hevent : ((start c t h).run us).engine.event? m now = some event := by
      unfold Engine.event?
      rw [htransformer, show t.supports m = true from hsupports, show t.transform m now = .ok event from hevent]
      rfl
    simp only [step, Engine.dispatch, hevent]
  · exact Engine.nodup_calls event ((horder.map Rule.subscription).nodup_iff.2 hkeyed.nodup)
  · rw [Engine.mem_calls]
    simp only [horder.mem_iff, hrules]
  · exact Engine.applyAll_eq_deliverAll event order _

/-- **Exact dispatch.** After any use of an engine there is one rule for every id whose registration was accepted and
that was not taken out since, and a use that was refused has changed nothing. A message changes no rule. One that makes
no event is dropped; any other asks for one delivery for each rule whose predicate says yes, to that rule's endpoint and
in its form, whatever other predicates and endpoints do and in whatever order they are asked, and answers how many of
these deliveries were done. -/
theorem dispatch_exact (c : Compiler) (t : Transformer) (h : Hub) (us : List Use) :
    RulesTold (start c t h) us ∧ ∀ m now, Dispatches (start c t h) us m now :=
  ⟨run_rulesTold c t h us, run_dispatches c t h us⟩

/-- of three rules one crashes over the message and one has an endpoint that crashes; the third gets it all the same -/
theorem dispatch_past_crashes :
    let outlet (r : Reply) : Outlet := ⟨.plugIn ⟨"there", fun _ _ => r, .done⟩, 0⟩
    let hub : Hub := { Hub.empty (fun _ => .done) (fun _ => "") 1 [] with
      outlets := [outlet .done, outlet (.crashed none), outlet .done] }
    let s (id : String) (filter : Option String) : Subscription :=
      ⟨id, ⟨"news", none, filter, none, none, .empty, none⟩, .detached "there"⟩
    let transformer : Transformer := ⟨fun _ => true, fun m now => .ok ⟨m, "x", none, now⟩⟩
    let b := start (fun _ _ => .ok fun _ => .crashed) transformer hub
    let us : List Use := [.register (s "a" (some "x")) (.bound 0 "there"), .register (s "b" none) (.bound 1 "there"),
      .register (s "b" none) (.bound 0 "there"), .register (s "c" none) (.bound 2 "there")]
    ((b.run us).step (.receive (.text "x") ⟨0⟩)).1 = .delivered 1 := by
  intro outlet hub s transformer b us
  rw [((dispatch_exact _ transformer hub us).2 (.text "x") ⟨0⟩).asked ⟨.text "x", "x", none, ⟨0⟩⟩ rfl rfl]
  rfl

end Switchboard

end EventBroker
