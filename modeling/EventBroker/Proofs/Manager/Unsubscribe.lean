/-
Ending a subscription, whatever fails.

- `teardown_ended`, `unsubscribe_refused`, `unsubscribe_ended`: what is answered and what is left, as equations. The
  four steps of a teardown are taken in any case; the endpoint is that of the rule, or else the stored one.
- `ended_clears`, `ended_spares`: after it the id has no rule and no job, and those of other ids are as before.
- `Custody.parting_belongs`: the endpoint that goes belongs to the id, or was there before the manager.
- `unsubscribe_finishes`: what unsubscribing does in every state that a broker can reach, over a store that may lose
  sight of records and may fail to delete, and with endpoints that may crash.
-/
import Mathlib.Data.List.ReduceOption
import EventBroker.Proofs.Manager.FlakyScene
import EventBroker.Proofs.Manager.Release
import EventBroker.Proofs.Store.Steady

namespace EventBroker

/-- destroying an endpoint leaves the other outlets as they are -/
theorem Hub.destroy_outlet_of_ne (h : Hub) {e : Endpoint} {k : Nat} (hk : e.handle? ≠ some k) :
    (h.destroy e).2.outlets[k]? = h.outlets[k]? := by
  cases e with
  | detached l => rfl
  | bound j l =>
    have hne : j ≠ k := fun heq => hk (congrArg some heq)
    unfold destroy
    dsimp only
    cases h.outlets[j]? with
    | none => rfl
    | some outlet => exact List.getElem?_set_ne hne

namespace Manager

variable {σ : Type} [SubscriptionStore σ] {m : Manager σ} {id : String} {stored : Option Subscription} {e : Endpoint}

/-! ## Teardowns -/

/-- the endpoint that goes with an id: that of its rule, or else the one that is stored -/
def parting? (m : Manager σ) (id : String) (stored : Option Subscription) : Option Endpoint :=
  (m.engine.endpoint? id).or (stored.map Subscription.endpoint)

/-- what an operation failed with, if it failed -/
def failure? {α : Type} : Except BrokerError α → Option BrokerError
  | .ok _ => none
  | .error f => some f

/-- what fails when an id and an endpoint go: the removal of the rule, the destruction of the endpoint, the deletion of
the record, in this order -/
def endFailures (m : Manager σ) (id : String) (e : Endpoint) : List BrokerError :=
  [failure? (m.engine.remove id), (m.hub.destroy e).1.destroyError?,
    failure? (SubscriptionStore.delete m.store id).1].reduceOption

/-- the manager that an id and an endpoint are gone from -/
def ended (m : Manager σ) (id : String) (e : Endpoint) : Manager σ :=
  { m with
    engine := ((m.engine.remove id).toOption.map Prod.snd).getD m.engine
    hub := (m.hub.destroy e).2
    scheduler := (m.scheduler.cancel id).toOption.getD m.scheduler
    store := (SubscriptionStore.delete m.store id).2 }

/-- the last steps of a teardown: the job goes, and then the record; what failed before is told with what fails now -/
theorem forget_ended {f : Except BrokerError Subscription → Act σ (List BrokerError)} (m : Manager σ) (id : String)
    (noRule notDestroyed : Option BrokerError)
    (hf : ∀ a m', f a m' = ([noRule, notDestroyed, failure? a].reduceOption, m')) :
    Ensures (do unschedule id; f (← onStore (SubscriptionStore.delete · id))) m fun fs m' =>
      fs = [noRule, notDestroyed, failure? (SubscriptionStore.delete m.store id).1].reduceOption ∧
        m' = { m with
          scheduler := (m.scheduler.cancel id).toOption.getD m.scheduler
          store := (SubscriptionStore.delete m.store id).2 } := by
  have hjob : Ensures (unschedule id) m fun _ m' =>
      m' = { m with scheduler := (m.scheduler.cancel id).toOption.getD m.scheduler } := by
    refine Ensures.modify ?_
    cases m.scheduler.cancel id <;> rfl
  have hrecord : ∀ m : Manager σ, Ensures (onStore (SubscriptionStore.delete · id)) m fun a m' =>
      a = (SubscriptionStore.delete m.store id).1 ∧ m' = { m with store := (SubscriptionStore.delete m.store id).2 } :=
    fun _ => ⟨rfl, rfl⟩
  refine Ensures.bind hjob fun _ m₁ hm₁ => ?_
  subst hm₁
  refine Ensures.bind (hrecord _) fun a m₂ hpost₂ => ?_
  obtain ⟨rfl, rfl⟩ := hpost₂
  exact ⟨congrArg Prod.fst (hf _ _), congrArg Prod.snd (hf _ _)⟩

/-- a teardown takes all its steps, and tells all that failed -/
theorem teardown_ended (he : m.parting? id stored = some e) :
    Ensures (teardown id stored) m fun fs m' => fs = m.endFailures id e ∧ m' = m.ended id e := by
  have hrule : Ensures (removeRule id) m fun a m' => a = (m.engine.remove id).map Prod.fst ∧
      m' = { m with engine := ((m.engine.remove id).toOption.map Prod.snd).getD m.engine } := by
    refine Ensures.modifyGet ?_
    cases m.engine.remove id <;> exact ⟨rfl, rfl⟩
  have hlet : ∀ m : Manager σ, Ensures (destroy e) m fun a m' => a = (m.hub.destroy e).1.destroyError? ∧
      m' = { m with hub := (m.hub.destroy e).2 } := fun _ => ⟨rfl, rfl⟩
  unfold teardown endFailures ended
  refine Ensures.bind hrule fun a m₁ hpost₁ => ?_
  obtain ⟨rfl, rfl⟩ := hpost₁
  unfold parting? Engine.endpoint? at he
  unfold Engine.remove
  cases hr : m.engine.rules.find? id with
  | some r =>
    rw [hr] at he
    cases he
    refine Ensures.pure_bind (Ensures.bind (hlet _) fun a m₂ hpost₂ => ?_)
    obtain ⟨rfl, rfl⟩ := hpost₂
    exact forget_ended _ id none _ fun a _ => by cases a <;> rfl
  | none =>
    rw [hr] at he
    obtain ⟨s, rfl, rfl⟩ := Option.map_eq_some_iff.1 he
    refine Ensures.pure_bind (Ensures.bind (hlet _) fun a m₂ hpost₂ => ?_)
    obtain ⟨rfl, rfl⟩ := hpost₂
    exact forget_ended _ id (some (.unknownSubscription id)) _ fun a _ => by cases a <;> rfl

/-- an id that is gone has no rule and no job -/
theorem ended_clears (m : Manager σ) (id : String) (e : Endpoint) :
    (m.ended id e).engine.contains id = false ∧ (m.ended id e).scheduler.isScheduled id = false := by
  unfold ended Engine.remove Engine.contains Scheduler.cancel Scheduler.isScheduled
  constructor
  · cases hr : m.engine.rules.find? id with
    | some r => simp [Except.toOption, Table.contains, Table.find?_erase]
    | none => simp [Except.toOption, Table.contains, hr]
  · dsimp only
    split
    · simp [Except.toOption, Table.contains, Table.find?_erase]
    · rename_i hnone
      simpa [Except.toOption] using hnone

/-- rules and jobs of other ids are as before -/
theorem ended_spares (m : Manager σ) (e : Endpoint) {k : String} (hk : k ≠ id) :
    (m.ended id e).engine.rules.find? k = m.engine.rules.find? k ∧
      (m.ended id e).scheduler.jobs.find? k = m.scheduler.jobs.find? k := by
  unfold ended Engine.remove Scheduler.cancel
  constructor
  · cases m.engine.rules.find? id with
    | some r => simp [Except.toOption, Table.find?_erase, hk]
    | none => simp [Except.toOption]
  · dsimp only
    split
    · simp [Except.toOption, Table.find?_erase, hk]
    · simp [Except.toOption]

/-! ## Unsubscribing -/

/-- the manager after it has looked for the record of an id -/
def asked (m : Manager σ) (id : String) : Manager σ := { m with store := (SubscriptionStore.get m.store id).2 }

/-- what is answered to an end that came with these failures -/
def endAnswer : List BrokerError → Except BrokerError Unit
  | [] => .ok ()
  | fs => .error (.unsubscribe fs)

theorem endAnswer_ne (fs : List BrokerError) (id : String) : endAnswer fs ≠ .error (.unknownSubscription id) := by
  cases fs <;> simp [endAnswer]

omit [SubscriptionStore σ] in
theorem parting?_eq_none :
    m.parting? id stored = none ↔ stored = none ∧ m.engine.contains id = false := by
  unfold parting? Engine.endpoint? Engine.contains Table.contains
  cases m.engine.rules.find? id <;> simp

/-- an id with neither a record nor a rule is unknown, and nothing happens -/
theorem unsubscribe_refused (h : m.parting? id (SubscriptionStore.get m.store id).1 = none) :
    Ensures (unsubscribe id) m fun a m' => a = .error (.unknownSubscription id) ∧ m' = m.asked id := by
  obtain ⟨hstored, hrule⟩ := parting?_eq_none.1 h
  unfold unsubscribe
  refine Ensures.bind (P := fun s m' => s = (SubscriptionStore.get m.store id).1 ∧ m' = m.asked id) ⟨rfl, rfl⟩
    fun s m₁ hpost₁ => ?_
  obtain ⟨rfl, rfl⟩ := hpost₁
  refine Ensures.bind (Ensures.get (Q := fun x m' => x = m.asked id ∧ m' = m.asked id) ⟨rfl, rfl⟩)
    fun x m₂ hpost₂ => ?_
  obtain ⟨rfl, rfl⟩ := hpost₂
  have hunknown : ((SubscriptionStore.get m.store id).1.isNone && !(m.asked id).engine.contains id) = true := by
    rw [hstored, show (m.asked id).engine.contains id = false from hrule]
    rfl
  rw [if_pos hunknown]
  exact ⟨rfl, rfl⟩

/-- an id that has one of them goes with its endpoint -/
theorem unsubscribe_ended (h : m.parting? id (SubscriptionStore.get m.store id).1 = some e) :
    Ensures (unsubscribe id) m fun a m' =>
      a = endAnswer ((m.asked id).endFailures id e) ∧ m' = (m.asked id).ended id e := by
  have hknown : ¬ ((SubscriptionStore.get m.store id).1.isNone && !(m.asked id).engine.contains id) = true := by
    intro hunknown
    rw [Bool.and_eq_true, Option.isNone_iff_eq_none, Bool.not_eq_true'] at hunknown
    have hrule : m.engine.contains id = false := hunknown.2
    rw [parting?_eq_none.2 ⟨hunknown.1, hrule⟩] at h
    cases h
  unfold unsubscribe
  refine Ensures.bind (P := fun s m' => s = (SubscriptionStore.get m.store id).1 ∧ m' = m.asked id) ⟨rfl, rfl⟩
    fun s m₁ hpost₁ => ?_
  obtain ⟨rfl, rfl⟩ := hpost₁
  refine Ensures.bind (Ensures.get (Q := fun x m' => x = m.asked id ∧ m' = m.asked id) ⟨rfl, rfl⟩)
    fun x m₂ hpost₂ => ?_
  obtain ⟨rfl, rfl⟩ := hpost₂
  rw [if_neg hknown]
  have hparting : (m.asked id).parting? id (SubscriptionStore.get m.store id).1 = some e := h
  refine Ensures.bind (teardown_ended hparting) fun fs m₃ hpost₃ => ?_
  obtain ⟨rfl, rfl⟩ := hpost₃
  cases (m.asked id).endFailures id e <;> exact ⟨rfl, rfl⟩

/-- a subscription that is found and is to end then goes with an endpoint -/
theorem expire_ended {s : Subscription} {t : Timestamp} (hs : (SubscriptionStore.get m.store id).1 = some s)
    (ht : s.terminationTime = some t) :
    ∃ e, m.parting? id (some s) = some e ∧ (expire id t m).2 = (m.asked id).ended id e := by
  obtain ⟨e, he⟩ : ∃ e, m.parting? id (some s) = some e := by
    refine Option.ne_none_iff_exists'.1 fun hnone => ?_
    cases (parting?_eq_none.1 hnone).1
  refine ⟨e, he, ?_⟩
  show Ensures (expire id t) m fun _ m' => m' = (m.asked id).ended id e
  unfold expire
  refine Ensures.bind (P := fun a m' => a = some s ∧ m' = m.asked id) ⟨hs, rfl⟩ fun a m₁ hpost₁ => ?_
  obtain ⟨rfl, rfl⟩ := hpost₁
  have hdue : (s.terminationTime == some t) = true := beq_iff_eq.2 ht
  dsimp only
  rw [if_pos hdue]
  have hparting : (m.asked id).parting? id (some s) = some e := he
  exact Ensures.bind (teardown_ended hparting) fun _ m₂ hpost₂ => hpost₂.2

/-! ## Endpoints of others -/

section Custody

variable [LoyalStore σ] {first : Nat} {owner : Nat → Option String} {again : List Nat}

/-- the endpoint that goes belongs to the id -/
theorem Custody.parting_belongs (h : m.Custody first owner again [])
    (he : m.parting? id (SubscriptionStore.get m.store id).1 = some e) {j : Nat} (hj : e.handle? = some j) :
    Belongs first owner id j := by
  unfold parting? at he
  cases hrule : m.engine.endpoint? id with
  | some e' =>
    rw [hrule] at he
    cases he
    have hhandle : m.handle? id = some j := by rw [handle?, hrule, Option.bind_some, hj]
    exact Or.inr (h.rule_owns id j hhandle).1
  | none =>
    rw [hrule] at he
    obtain ⟨s, hs, rfl⟩ := Option.map_eq_some_iff.1 he
    exact LoyalStore.get_allowed h.stored hs j hj

/-- what belongs to an id was made -/
theorem Custody.belongs_made (h : m.Custody first owner again []) {j : Nat} (hj : Belongs first owner id j) :
    j < m.hub.outlets.length := by
  rcases hj with hlt | howner
  · exact Nat.lt_of_lt_of_le hlt h.first_le
  · exact (h.owned j id howner).2

end Custody

/-- what was made for this manager belongs to one id at most -/
theorem belongs_apart {first : Nat} {owner : Nat → Option String} {k : String} (hk : k ≠ id) {j : Nat}
    (hfirst : first ≤ j) (hj : Belongs first owner k j) : ¬ Belongs first owner id j := by
  rintro (hlt | howner)
  · omega
  · rcases hj with hlt | howner'
    · omega
    · exact hk (Option.some.inj (howner'.symm.trans howner))

end Manager

namespace Broker

variable {σ : Type} [SubscriptionStore σ] [LoyalStore σ] [SteadyStore σ]

open Manager (parting? failure?)

/-- **Unsubscribing finishes the job.** In every state that a broker can reach, over whatever store: an id is unknown
just if the store finds no record of it and it has no rule, and then nothing changes. Otherwise one endpoint is
destroyed once, that of the rule or else the stored one, and no other; the id has no rule and no job any more, and no
record either if that could be deleted; and the answer tells what failed of removing the rule, destroying the endpoint
and deleting the record, in this order. All that other ids have is as it was. -/
theorem unsubscribe_finishes {store : σ} {hub : Hub} (hs : LoyalStore.Only (fun _ k => k < hub.outlets.length) store)
    (c : Compiler) (t : Transformer) (clock : Clock) (ids : Nat → String) (ops : List Op) (id : String) :
    let m := ((assembled store hub c t clock ids).run ops).manager
    let found := SubscriptionStore.get m.store id
    let answer := (Manager.unsubscribe id m).1
    let m' := (Manager.unsubscribe id m).2
    (answer = .error (.unknownSubscription id) ↔ found.1 = none ∧ m.engine.contains id = false) ∧
    (answer = .error (.unknownSubscription id) →
      m' = { m with store := found.2 } ∧ SteadyStore.kept? found.2 = SteadyStore.kept? m.store) ∧
    (answer ≠ .error (.unknownSubscription id) → ∃ e,
      (m.engine.endpoint? id).or (found.1.map Subscription.endpoint) = some e ∧
      m'.hub = (m.hub.destroy e).2 ∧
      (∀ j, m'.hub.destroyCount j = m.hub.destroyCount j + if e.handle? = some j then 1 else 0) ∧
      m'.engine.contains id = false ∧ m'.scheduler.isScheduled id = false ∧
      (failure? (SubscriptionStore.delete found.2 id).1 = none →
        SteadyStore.kept? m'.store id = none ∧ (SubscriptionStore.get m'.store id).1 = none) ∧
      answer = match [failure? (m.engine.remove id), (m.hub.destroy e).1.destroyError?,
          failure? (SubscriptionStore.delete found.2 id).1].reduceOption with
        | [] => .ok ()
        | fs => .error (.unsubscribe fs)) ∧
    ∀ k, k ≠ id →
      SteadyStore.kept? m'.store k = SteadyStore.kept? m.store k ∧
      m'.engine.rules.find? k = m.engine.rules.find? k ∧ m'.scheduler.jobs.find? k = m.scheduler.jobs.find? k ∧
      ∀ e j, m.engine.endpoint? k = some e ∨ (SubscriptionStore.get m.store k).1.map Subscription.endpoint = some e →
        e.handle? = some j → hub.outlets.length ≤ j → m'.hub.outlets[j]? = m.hub.outlets[j]? := by
  intro m found answer m'
  obtain ⟨owner, hcustody⟩ := run_custody (b := assembled store hub c t clock ids)
    (Manager.assemble_custody hs (Engine.ofCompiler c t) rfl clock ids) ops
  have hread : SteadyStore.kept? found.2 = SteadyStore.kept? m.store := SteadyStore.get_keeps m.store id
  cases hparting : m.parting? id found.1 with
  | none =>
    obtain ⟨ha, hm'⟩ : answer = _ ∧ m' = m.asked id := Manager.unsubscribe_refused hparting
    have hnothing := Manager.parting?_eq_none.1 hparting
    refine ⟨⟨fun _ => hnothing, fun _ => ha⟩, fun _ => ⟨hm', hread⟩, fun hne => absurd ha hne, fun k _ => ?_⟩
    rw [hm']
    exact ⟨congrFun hread k, rfl, rfl, fun _ _ _ _ _ => rfl⟩
  | some e =>
    obtain ⟨ha, hm'⟩ : answer = Manager.endAnswer _ ∧ m' = (m.asked id).ended id e := Manager.unsubscribe_ended hparting
    have hne : answer ≠ .error (.unknownSubscription id) := ha ▸ Manager.endAnswer_ne _ id
    have hknown : ¬ (found.1 = none ∧ m.engine.contains id = false) := by
      intro hnone
      rw [Manager.parting?_eq_none.2 hnone] at hparting
      cases hparting
    have hclears := (m.asked id).ended_clears id e
    refine ⟨⟨fun h => absurd h hne, fun h => absurd h hknown⟩, fun h => absurd h hne,
      fun _ => ⟨e, hparting, ?_, ?_, ?_⟩, fun k hk => ?_⟩
    · rw [hm']
      rfl
    · intro j
      rw [hm']
      show (m.hub.destroy e).2.destroyCount j = _
      have hmade : e.handle? = some j → j < m.hub.outlets.length :=
        fun hj => hcustody.belongs_made (hcustody.parting_belongs hparting hj)
      rw [Hub.destroyCount_destroy]
      by_cases hj : e.handle? = some j
      · rw [if_pos ⟨hj, hmade hj⟩, if_pos hj]
      · rw [if_neg fun h => hj h.1, if_neg hj]
        rfl
    · rw [hm']
      refine ⟨hclears.1, hclears.2, fun hdeleted => ?_, ?_⟩
      · cases hdelete : (SubscriptionStore.delete found.2 id).1 with
        | error f => rw [hdelete] at hdeleted; cases hdeleted
        | ok s => exact SteadyStore.delete_clears hdelete
      · rw [ha]
        rfl
    · rw [hm']
      obtain ⟨hrules, hjobs⟩ := (m.asked id).ended_spares e hk
      refine ⟨?_, hrules, hjobs, fun e' j he' hj hfirst => Hub.destroy_outlet_of_ne _ fun heq => ?_⟩
      · exact (SteadyStore.delete_spares found.2 hk).trans (congrFun hread k)
      · have hbelongs : Manager.Belongs hub.outlets.length owner k j := by
          rcases he' with hrule | hrecord
          · have hhandle : m.handle? k = some j := by rw [Manager.handle?, hrule, Option.bind_some, hj]
            exact Or.inr (hcustody.rule_owns k j hhandle).1
          · obtain ⟨s, hs', rfl⟩ := Option.map_eq_some_iff.1 hrecord
            exact LoyalStore.get_allowed hcustody.stored hs' j hj
        exact Manager.belongs_apart hk hfirst hbelongs (hcustody.parting_belongs hparting heq)

/-- a hub whose endpoints crash when they are let go -/
def frailHub : Hub :=
  Hub.empty (fun _ => .done) (fun n => toString n) 4
    [.plugIn "frail" "" fun d => .ok ⟨d.location, fun _ _ => .done, .crashed (some "boom")⟩]

/-- an empty store that finds nothing the second time, and whose second change fails -/
def frailStore : FlakyStore (DimStore MemoryStore) :=
  ⟨⟨.empty, fun n => n = 1, 0⟩, fun n => if n = 1 then some (.storage (.text "full")) else none, 0⟩

/-- a broker with one subscription -/
def frail : Broker (FlakyStore (DimStore MemoryStore)) :=
  (assembled frailStore frailHub Compiler.regex .standard ⟨⟨0⟩⟩ fun n => toString n).run
    [.subscribe ⟨"weather", some ⟨5⟩, none, none, some ⟨"frail", "q", "weather", [], false⟩, .empty, none⟩]

/-- the record is out of sight, the endpoint crashes and the record cannot be deleted; rule and job go all the same -/
theorem unsubscribe_finishes_through_failures :
    let m := frail.manager
    let m' := (Manager.unsubscribe "0" m).2
    LoyalStore.Only (fun _ k => k < frailHub.outlets.length) frailStore ∧
      m.engine.contains "0" = true ∧ m.scheduler.isScheduled "0" = true ∧
      (SubscriptionStore.get m.store "0").1.isNone = true ∧
      (Manager.unsubscribe "0" m).1 = .error (.unsubscribe
        [.delivery "destroying endpoint panicked: boom", .storage (.text "full")]) ∧
      m'.engine.contains "0" = false ∧ m'.scheduler.isScheduled "0" = false ∧ m'.hub.destroyCount 0 = 1 := by
  intro m m'
  have honly : LoyalStore.Only (fun _ k => k < frailHub.outlets.length) frailStore := fun id s hs => by
    simp [frailStore, MemoryStore.empty] at hs
  obtain ⟨-, -, hfinished, -⟩ :=
    unsubscribe_finishes honly Compiler.regex .standard ⟨⟨0⟩⟩ (fun n => toString n)
      [.subscribe ⟨"weather", some ⟨5⟩, none, none, some ⟨"frail", "q", "weather", [], false⟩, .empty, none⟩] "0"
  have hanswer : (Manager.unsubscribe "0" frail.manager).1 = .error (.unsubscribe
      [.delivery "destroying endpoint panicked: boom", .storage (.text "full")]) := rfl
  have hended : (Manager.unsubscribe "0" frail.manager).1 ≠ .error (.unknownSubscription "0") := by
    rw [hanswer]
    simp
  obtain ⟨e, he, -, hcount, hrule, hjob, -⟩ := hfinished hended
  have hbound : e.handle? = some 0 := by
    cases he
    rfl
  have hfirst : m'.hub.destroyCount 0 = 0 + if e.handle? = some 0 then 1 else 0 := hcount 0
  rw [if_pos hbound] at hfirst
  exact ⟨honly, by decide, by decide, by decide, hanswer, hrule, hjob, hfirst⟩

end Broker

end EventBroker
