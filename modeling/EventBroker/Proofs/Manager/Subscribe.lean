/-
All or nothing.

Subscribing changes four parts of a manager one after the other: the hub makes an endpoint, the store gets a record, the
engine a rule, the scheduler a plan. Whatever refuses, what was done before is taken back, and the endpoint is let go
once. For the record to be taken back its deletion must not fail; nothing else is asked of the store.

- `Unchanged`, `Gained`: all that can be told of a manager is as before, or there is one subscription more.
- `subscribe_hub` says what becomes of the endpoint; of the rest the lemmas on flaky stores say it.
- `Spares`: a row of ops leaves an id alone; `run_has`: then its subscription stays as it is.
- `subscribe_all_or_nothing` is the main result.
-/
import EventBroker.Proofs.Delivery.Outlets
import EventBroker.Proofs.Manager.Agreement
import EventBroker.Proofs.Manager.FlakyScene
import EventBroker.Proofs.Manager.Misfits

namespace EventBroker

open Function (update)

/-! ## The endpoint -/

namespace Hub

variable {h : Hub} {d : DeliveryDefinition} {e : Endpoint}

theorem create_ok (he : (h.create d).1 = .ok e) :
    e.handle? = some h.outlets.length ∧ ∃ c, (h.create d).2.outlets = h.outlets ++ [⟨c, 0⟩] := by
  rcases h.create_cases d with ⟨f, hf, -⟩ | ⟨e', c, he', hhandle, hout⟩
  · rw [hf] at he
    cases he
  · rw [he'] at he
    cases he
    exact ⟨hhandle, c, hout⟩

/-- an endpoint that was made and let go is there as one that was destroyed once, whatever it did then -/
theorem destroy_created (he : (h.create d).1 = .ok e) :
    ∃ c, ((h.create d).2.destroy e).2.outlets = h.outlets ++ [⟨c, 1⟩] := by
  obtain ⟨hhandle, c, hout⟩ := create_ok he
  cases e with
  | detached l => cases hhandle
  | bound k l =>
    have hk : k = h.outlets.length := Option.some.inj hhandle
    have hlast : (h.create d).2.outlets[k]? = some ⟨c, 0⟩ := by simp [hout, hk]
    refine ⟨c, ?_⟩
    simp only [destroy, hlast]
    rw [hout, hk]
    simp

end Hub

namespace Manager

section Endpoints

variable {σ : Type}

theorem schedule_hub (m : Manager σ) (s : Subscription) : Ensures (schedule s) m fun _ m' => m'.hub = m.hub := by
  refine Ensures.modify ?_
  cases s.terminationTime with
  | none => rfl
  | some t =>
    dsimp only
    cases m.scheduler.schedule m.elapsed m.clock.now s.id t () with
    | ok scheduler => rfl
    | error f => rfl

variable [SubscriptionStore σ]

theorem drawId_hub (m : Manager σ) : Yields drawId m fun _ m' => m'.hub = m.hub :=
  (drawId_keeps (P := fun m' => m'.hub = m.hub) rfl fun _ hm => hm).imp fun _ _ hdrawn => hdrawn.1

/-- an endpoint that is to be used stays as it is, or it is let go once -/
theorem activateNew_hub (m : Manager σ) (id : String) (o : SubscribeOptions) (e : Endpoint) :
    Ensures (activateNew id o e) m fun a m' =>
      ((∃ f, a = .error f) ∧ m'.hub = (m.hub.destroy e).2) ∨ a = .ok ⟨id, o, e⟩ ∧ m'.hub = m.hub := by
  unfold activateNew
  refine Ensures.bind (P := fun _ m' => m'.hub = m.hub) rfl fun a m₁ h₁ => ?_
  cases a with
  | error f => exact Or.inl ⟨⟨f, rfl⟩, congrArg (fun h : Hub => (h.destroy e).2) h₁⟩
  | ok _ =>
    refine Ensures.bind (Ensures.imp (register_keeps m₁ _ e) fun _ _ h₂ => h₂.1.trans h₁) fun b m₂ h₂ => ?_
    cases b with
    | error f =>
      refine Ensures.bind (P := fun _ m' => m'.hub = m.hub) h₂ fun _ m₃ h₃ => ?_
      exact Or.inl ⟨⟨f, rfl⟩, congrArg (fun h : Hub => (h.destroy e).2) h₃⟩
    | ok _ => exact Ensures.bind (schedule_hub m₂ _) fun _ m₃ h₃ => Or.inr ⟨rfl, h₃.trans h₂⟩

/-- options lead to an endpoint -/
def Makes (h : Hub) (o : SubscribeOptions) (e : Endpoint) : Prop :=
  ∃ d, o.delivery = some d ∧ (h.create d).1 = .ok e

/-- if options lead to an endpoint, it was made and destroyed once; all others are as they were -/
def LetGo (m m' : Manager σ) (o : SubscribeOptions) : Prop :=
  (∀ e, ¬ Makes m.hub o e) ∧ m'.hub.outlets = m.hub.outlets ∨
    ∃ e c, Makes m.hub o e ∧ m'.hub.outlets = m.hub.outlets ++ [⟨c, 1⟩]

/-- an endpoint was made that the options lead to, and it is in use; all others are as they were -/
def TookUp (m m' : Manager σ) (o : SubscribeOptions) (e : Endpoint) : Prop :=
  Makes m.hub o e ∧ e.handle? = some m.hub.outlets.length ∧ ∃ c, m'.hub.outlets = m.hub.outlets ++ [⟨c, 0⟩]

/-- if a subscription fails, its endpoint is let go -/
theorem subscribe_hub (m : Manager σ) (o : SubscribeOptions) :
    Yields (subscribe o) m fun a m' =>
      ((∃ f, a = .error f) ∧ m.LetGo m' o) ∨ ∃ s, a = .ok s ∧ m.TookUp m' o s.endpoint := by
  -- once an endpoint is made, a failure lets it go
  have hgone {d : DeliveryDefinition} {e : Endpoint} (hd : o.delivery = some d) (he : (m.hub.create d).1 = .ok e)
      {m' : Manager σ} (hm' : m'.hub = ((m.hub.create d).2.destroy e).2) : m.LetGo m' o := by
    obtain ⟨c, hc⟩ := Hub.destroy_created he
    exact Or.inr ⟨e, c, ⟨d, hd, he⟩, (congrArg Hub.outlets hm').trans hc⟩
  refine subscribe_yields (fun f m₁ hfailed => Or.inl ⟨⟨f, rfl⟩, ?_⟩) fun e m₁ hmade => ?_
  · cases hfailed with
    | undefined hd =>
      refine Or.inl ⟨?_, rfl⟩
      rintro e ⟨d, hsome, -⟩
      cases hd.symm.trans hsome
    | @refused d _ hd hf =>
      refine Or.inl ⟨?_, ?_⟩
      · rintro e ⟨d', hd', he⟩
        cases hd.symm.trans hd'
        cases hf.symm.trans he
      · rcases m.hub.create_cases d with ⟨f', -, hout⟩ | ⟨e, c, he, -⟩
        · exact hout
        · cases hf.symm.trans he
    | late hd he => exact hgone hd he rfl
  · cases hmade with
    | @made d _ hd he =>
      refine (drawId_hub _).imp fun id m₂ h₂ => ?_
      refine Ensures.imp (activateNew_hub m₂ id o e) fun a m₃ h₃ => ?_
      rcases h₃ with ⟨hf, h₃⟩ | ⟨rfl, h₃⟩
      · refine Or.inl ⟨hf, hgone hd he ?_⟩
        rw [h₃, h₂]
      · obtain ⟨hhandle, c, hout⟩ := Hub.create_ok he
        refine Or.inr ⟨_, rfl, ⟨d, hd, he⟩, hhandle, c, ?_⟩
        rw [h₃, h₂, hout]

end Endpoints

/-! ## Records, rules and plans -/

section Parts

variable {σ : Type} [SubscriptionStore σ]

/-- all that can be told of a manager is as it was -/
structure Unchanged (m m' : Manager σ) : Prop where
  told : SubscriptionStore.told m'.store = SubscriptionStore.told m.store
  listed : (SubscriptionStore.listed m'.store).Perm (SubscriptionStore.listed m.store)
  rules : m'.engine.rules.find? = m.engine.rules.find?
  scheduler : m'.scheduler = m.scheduler

/-- a manager has one subscription more, under an id that was not in use, and its end is planned if it has one -/
structure Gained (m m' : Manager σ) (s : Subscription) : Prop where
  not_told : SubscriptionStore.told m.store s.id = none
  not_listed : ∀ r ∈ SubscriptionStore.listed m.store, r.id ≠ s.id
  no_rule : m.engine.rules.find? s.id = none
  told : SubscriptionStore.told m'.store = update (SubscriptionStore.told m.store) s.id (some s.toRecord)
  listed : (SubscriptionStore.listed m'.store).Perm (s.toRecord :: SubscriptionStore.listed m.store)
  rule : ∃ rule : Rule, rule.Serves m.engine.compiler s.toRecord ∧ rule.endpoint = s.endpoint ∧
    m'.engine.rules.find? = update m.engine.rules.find? s.id (some rule)
  unplanned : s.terminationTime = none → m'.scheduler = m.scheduler
  planned : ∀ t, s.terminationTime = some t →
    m'.scheduler.endOfLife? = update m.scheduler.endOfLife? s.id (some t)

variable [FaithfulStore σ] {m m' : Manager (FlakyStore σ)} {p : Picture}

namespace Shows

theorem told (h : m.sound.Shows p) : SubscriptionStore.told m.store = p.records := by
  have hbase : SubscriptionStore.told m.store = SubscriptionStore.told m.store.base := rfl
  rw [hbase]
  exact FaithfulStore.told_eq h.holds

theorem mem_listed (h : m.sound.Shows p) {r : SubscriptionRecord} :
    r ∈ SubscriptionStore.listed m.store ↔ p.records r.id = some r := by
  have hbase : SubscriptionStore.listed m.store = SubscriptionStore.listed m.store.base := rfl
  rw [hbase]
  exact FaithfulStore.mem_listed h.holds

theorem listed_nodup (h : m.sound.Shows p) : (SubscriptionStore.listed m.store).Nodup := by
  have hbase : SubscriptionStore.listed m.store = SubscriptionStore.listed m.store.base := rfl
  rw [hbase]
  exact FaithfulStore.listed_nodup h.holds

theorem unchanged (h : m.sound.Shows p) (h' : m'.sound.Shows p) : m.Unchanged m' := by
  refine ⟨h'.told.trans h.told.symm, ?_, h'.rules.trans h.rules.symm, h'.scheduler.trans h.scheduler.symm⟩
  refine (List.perm_ext_iff_of_nodup h'.listed_nodup h.listed_nodup).2 fun r => ?_
  rw [h'.mem_listed, h.mem_listed]

theorem gained (h : m.sound.Shows p) {s : Subscription} {rule : Rule} (hrun : p.scheduler.isShutDown = false)
    (hfree : p.Unused s.id) (hserves : rule.Serves p.compiler s.toRecord) (hrule : rule.endpoint = s.endpoint)
    (h' : m'.sound.Shows (p.activate s.toRecord rule)) : m.Gained m' s := by
  obtain ⟨hnone, hnorule⟩ := hfree
  have hrules : m.engine.rules.find? = p.rules := h.rules
  have hplans : m.scheduler = p.scheduler := h.scheduler
  have hplans' : m'.scheduler = p.planned s.id s.terminationTime := h'.scheduler
  have hfresh : ∀ r ∈ SubscriptionStore.listed m.store, r.id ≠ s.id := by
    intro r hr hid
    rw [h.mem_listed, hid, hnone] at hr
    cases hr
  have hnodup : (s.toRecord :: SubscriptionStore.listed m.store).Nodup :=
    List.nodup_cons.2 ⟨fun hmem => hfresh _ hmem rfl, h.listed_nodup⟩
  refine ⟨?_, hfresh, ?_, ?_, ?_, ⟨rule, ?_, hrule, ?_⟩, fun ht => ?_, fun t ht => ?_⟩
  · rw [h.told, hnone]
  · rw [hrules, hnorule]
  · rw [h'.told, h.told]
    rfl
  · refine (List.perm_ext_iff_of_nodup h'.listed_nodup hnodup).2 fun r => ?_
    rw [h'.mem_listed, List.mem_cons, h.mem_listed]
    show update p.records s.id (some s.toRecord) r.id = some r ↔ _
    rw [update_some_eq_some]
    constructor
    · rintro (⟨-, rfl⟩ | ⟨-, hr⟩)
      · exact Or.inl rfl
      · exact Or.inr hr
    · rintro (rfl | hr)
      · exact Or.inl ⟨rfl, rfl⟩
      · refine Or.inr ⟨fun hid => ?_, hr⟩
        rw [hid, hnone] at hr
        cases hr
  · have hcompiler : m.engine.compiler = p.compiler := h.compiler
    rw [hcompiler]
    exact hserves
  · rw [hrules]
    exact h'.rules
  · rw [hplans', hplans, ht]
    rfl
  · funext k
    rw [hplans', hplans, ht, Picture.planned_endOfLife? hrun, Function.update_apply]

end Shows

end Parts

end Manager

/-! ## Until the next op on its id -/

/-- the scene has this subscription, and no endpoint for its id but the one that it has -/
structure Scene.Has (w : Scene) (s : Subscription) : Prop where
  record : w.picture.records s.id = some s.toRecord
  endpoint : ∀ rule, w.picture.rules s.id = some rule → rule.endpoint = s.endpoint

namespace Broker

variable {σ : Type} [SubscriptionStore σ]

/-- the op is about this id: it names it, it runs a claimed expiry of it, or it is a restore and the id is dormant -/
def Concerns (b : Broker σ) (id : String) : Op → Prop
  | .renew k _ => id = k
  | .unsubscribe k => id = k
  | .restore => b.manager.engine.contains id = false
  | .expire i => ∃ c, b.claimed[i]? = some c ∧ id = c.identity
  | _ => False

/-- no op of the row is about this id when its turn comes -/
def Spares (b : Broker σ) (id : String) : List Op → Prop
  | [] => True
  | op :: ops => ¬ b.Concerns id op ∧ (b.step op).Spares id ops

variable [FaithfulStore σ] {b : Broker (FlakyStore σ)} {w : Scene}

/-- an id with a record is touched only by ops that are about it -/
theorem Shows.concerns (h : b.sound.Shows w) {id : String} (hid : w.picture.records id ≠ none) {op : Op}
    (hop : op.Touches w id) : b.Concerns id op := by
  have hcontains : b.manager.engine.contains id = (w.picture.rules id).isSome := h.manager.contains id
  have hclaimed : b.claimed = w.claimed := h.claimed
  cases op with
  | subscribe o => exact absurd hop.1 hid
  | restore =>
    have hrule : w.picture.rules id = none := hop
    show b.manager.engine.contains id = false
    rw [hcontains, hrule]
    rfl
  | expire i =>
    obtain ⟨c, hc, hsame⟩ := hop
    exact ⟨c, hclaimed ▸ hc, hsame⟩
  | _ => exact hop

/-- an op that is not about the id of a subscription leaves it as it is -/
theorem Slip.has {w' : Scene} {op : Op} (h : Slip w op w') {s : Subscription} (hs : w.Has s)
    (hop : ¬ op.Touches w s.id) : w'.Has s := by
  obtain ⟨hrecord, hrule⟩ := h.spares hop
  refine ⟨hrecord.trans hs.record, fun rule hr => ?_⟩
  rcases hrule with hsame | ⟨-, hnone⟩
  · exact hs.endpoint rule (hsame.symm.trans hr)
  · cases hnone.symm.trans hr

theorem run_has (h : b.sound.Shows w) {s : Subscription} (hs : w.Has s) {ops : List Op}
    (hkeep : ∀ op ∈ ops, op.Keepable σ w.picture.supply) (hops : b.Spares s.id ops) :
    ∃ w', (b.run ops).sound.Shows w' ∧ w'.Has s := by
  induction ops generalizing b w with
  | nil => exact ⟨w, h, hs⟩
  | cons op ops ih =>
    obtain ⟨hop, hops⟩ := hops
    obtain ⟨w', hslip, hw'⟩ := step_slip h (hkeep op List.mem_cons_self)
    have hstored : w.picture.records s.id ≠ none := by
      rw [hs.record]
      exact Option.some_ne_none _
    refine ih hw' (hslip.has hs fun htouch => hop (h.concerns hstored htouch)) (fun o ho => ?_) hops
    rw [hslip.supply]
    exact hkeep o (List.mem_cons_of_mem op ho)

/-- what is answered for a subscription equals it, and is the very same as long as it has its rule -/
theorem Shows.answer (h : b.sound.Shows w) {s : Subscription} (hs : w.Has s) :
    (Manager.getSubscription s.id b.manager).1.map Subscription.toRecord = some s.toRecord ∧
      (b.manager.engine.contains s.id = true → (Manager.getSubscription s.id b.manager).1 = some s) := by
  have hget : (SubscriptionStore.get b.manager.store s.id).1.map Subscription.toRecord = some s.toRecord :=
    (congrFun h.manager.told s.id).trans hs.record
  obtain ⟨t, ht, hsame⟩ := Option.map_eq_some_iff.1 hget
  have hanswer : (Manager.getSubscription s.id b.manager).1 = some (b.manager.withLiveEndpoint t) := by
    show (SubscriptionStore.get b.manager.store s.id).1.map _ = _
    rw [ht]
    rfl
  have hid : t.id = s.id := congrArg SubscriptionRecord.id hsame
  have hoptions : t.options = s.options := congrArg SubscriptionRecord.options hsame
  have hendpoint : b.manager.engine.endpoint? t.id = (w.picture.rules s.id).map Rule.endpoint := by
    rw [hid]
    exact h.manager.endpoint s.id
  have hcontains : b.manager.engine.contains s.id = (w.picture.rules s.id).isSome := h.manager.contains s.id
  rw [hanswer, hcontains]
  unfold Manager.withLiveEndpoint
  rw [hendpoint]
  cases hrule : w.picture.rules s.id with
  | none => exact ⟨congrArg some hsame, fun hno => by cases hno⟩
  | some rule =>
    have hwhole : (⟨t.id, t.options, rule.endpoint⟩ : Subscription) = s := by
      rw [hid, hoptions, hs.endpoint rule hrule]
    exact ⟨congrArg (fun u : Subscription => some u.toRecord) hwhole, fun _ => congrArg some hwhole⟩

/-- a subscription comes to its end if an id that is still to come is not in use -/
theorem Shows.subscribe_ends (h : b.sound.Shows w) (o : SubscribeOptions) {n : Nat} (hn : b.manager.idsDrawn ≤ n)
    (hunused : w.picture.Unused (b.manager.ids n)) : (Manager.subscribe o b.manager).isSome := by
  obtain ⟨a, m', hends⟩ : ∃ a m', Manager.subscribe o b.manager = some (a, m') := by
    refine Manager.exists_subscribe fun e m₁ hmade => ?_
    obtain ⟨h₁, -⟩ := Manager.Prepared.flaky h.manager hmade
    have hids : m₁.ids = b.manager.ids ∧ m₁.idsDrawn = b.manager.idsDrawn := by
      cases hmade with
      | made => exact ⟨rfl, rfl⟩
    refine Manager.exists_drawId (P := fun m => m.sound.Shows w.picture ∧ m.ids = b.manager.ids) ⟨h₁, hids.1⟩
      (fun m hm => ⟨(Manager.tryId_flaky hm.1).1.2, hm.2⟩) (n := n - m₁.idsDrawn) fun m hm hdrawn => ?_
    refine (Manager.tryId_flaky hm.1).1.1.2 ?_
    show w.picture.Unused (m.ids m.idsDrawn)
    have hturn : m.idsDrawn = n := by omega
    rw [hm.2, hturn]
    exact hunused
  rw [hends]
  rfl

/-- **All or nothing.** Let a broker be in any state that it can reach, whichever changes of its store have failed and
will fail. If a subscription fails, the endpoint that was made for it, if any, is destroyed once, even if it crashes
then; and records, rules and plans are as before, unless the deletion of the record, the second change from here, fails
too. If a subscription is made, there is one record and one rule more, under an id that neither had, and a plan for its
end if it has one. Until the next op that is about its id, it is what is answered for its id, with the very endpoint
that it has as long as it has its rule. One of the two happens if some id that is still to come is not in use; otherwise
the search for an id has no end. All this needs options that the store can keep: a file store keeps what its files can
hold. -/
theorem subscribe_all_or_nothing {base : σ} {v : Records} {hub : Hub} (hv : FaithfulStore.Holds base v)
    (hk : ∀ id r, v id = some r → EventBroker.Keepable σ hub.supply r.options) (failures : Nat → Option BrokerError)
    (c : Compiler) (t : Transformer) (clock : Clock) (ids : Nat → String) {ops : List Op}
    (hkeep : ∀ op ∈ ops, op.Keepable σ hub.supply) {o : SubscribeOptions} (ho : EventBroker.Keepable σ hub.supply o) :
    let b := (assembled (FlakyStore.mk base failures 0) hub c t clock ids).run ops
    let m := b.manager
    let b' := b.step (.subscribe o)
    (∀ n, m.idsDrawn ≤ n → SubscriptionStore.told m.store (m.ids n) = none → m.engine.contains (m.ids n) = false →
      (Manager.subscribe o m).isSome) ∧
    (∀ f m', Manager.subscribe o m = some (.error f, m') → b'.manager = m' ∧
      (m.store.failures (m.store.tried + 1) = none → m.Unchanged m') ∧ m.LetGo m' o) ∧
    ∀ s m', Manager.subscribe o m = some (.ok s, m') → b'.manager = m' ∧
      s.options = o ∧ m.Gained m' s ∧ m.TookUp m' o s.endpoint ∧
      ∀ later, (∀ op ∈ later, op.Keepable σ hub.supply) → b'.Spares s.id later →
        (Manager.getSubscription s.id (b'.run later).manager).1.map Subscription.toRecord = some s.toRecord ∧
        ((b'.run later).manager.engine.contains s.id = true →
          (Manager.getSubscription s.id (b'.run later).manager).1 = some s) := by
  intro b m b'
  obtain ⟨w, hw, hsupply⟩ := run_flaky (assembled_flaky hv hk failures c t clock ids) hkeep
  have hw : b.sound.Shows w := hw
  have hsupply : w.picture.supply = hub.supply := hsupply
  have hstep {a : Except BrokerError Subscription} {m' : Manager (FlakyStore σ)}
      (ha : Manager.subscribe o m = some (a, m')) : b' = ⟨m', b.claimed⟩ := step_subscribe_some ha
  refine ⟨fun n hn hrecord hrule => ?_, fun f m' hf => ⟨congrArg manager (hstep hf), ?_⟩,
    fun s m' hs => ⟨congrArg manager (hstep hs), ?_⟩⟩
  · refine hw.subscribe_ends o hn ⟨(congrFun hw.manager.told _).symm.trans hrecord, ?_⟩
    have hcontains : m.engine.contains (m.ids n) = (w.picture.rules (m.ids n)).isSome := hw.manager.contains _
    rw [hrule] at hcontains
    simpa using hcontains.symm
  · constructor
    · intro hsure
      rcases Manager.subscribe_flaky hw.manager (hsupply ▸ ho) _ m' hf with
        ⟨-, hsame | ⟨hdue, -⟩⟩ | ⟨s, rule, hok, -⟩
      · exact Manager.Shows.unchanged hw.manager hsame
      · exact absurd hsure hdue
      · cases hok
    · rcases Manager.subscribe_hub m o _ m' hf with ⟨-, hgone⟩ | ⟨s, hok, -⟩
      · exact hgone
      · cases hok
  · rcases Manager.subscribe_flaky hw.manager (hsupply ▸ ho) _ m' hs with
      ⟨⟨f, hf⟩, -⟩ | ⟨s', rule, hok, hoptions, hrunning, hfree, hserves, hrule, hshows⟩
    · cases hf
    · cases hok
      refine ⟨hoptions, Manager.Shows.gained hw.manager hrunning hfree hserves hrule hshows, ?_, ?_⟩
      · rcases Manager.subscribe_hub m o _ m' hs with ⟨⟨f, hf⟩, -⟩ | ⟨s', hok, hused⟩
        · cases hf
        · cases hok
          exact hused
      · intro later hlater hspares
        have hb' : b'.sound.Shows ⟨w.picture.activate s.toRecord rule, w.claimed⟩ := by
          rw [hstep hs]
          exact ⟨hshows, hw.claimed⟩
        have hhas : Scene.Has ⟨w.picture.activate s.toRecord rule, w.claimed⟩ s := by
          refine ⟨Function.update_self _ _ _, fun rule' hrule' => ?_⟩
          have hsame : update w.picture.rules s.id (some rule) s.id = some rule' := hrule'
          rw [Function.update_self] at hsame
          cases hsame
          exact hrule
        obtain ⟨w', hw', hhas'⟩ := run_has hb' hhas (fun op hop => hsupply ▸ hlater op hop) hspares
        exact hw'.answer hhas'

/-- Over files, with room for one at hand. A subscription with parameters nested too deep is not found any more when
another one was made; and what is found under the name of a file with the record of another id changes with a
subscription that has nothing to do with it. -/
theorem not_all_or_nothing_over_misfits :
    (∃ f, (FileStore.openAt FileStore.bareDisk ["d"] 1).1 = .ok f ∧
      let later := [Op.subscribe (alerts none)]
      let b' := (openedOver f).step (.subscribe FileStore.deep.options)
      ∃ s m', Manager.subscribe FileStore.deep.options (openedOver f).manager = some (.ok s, m') ∧
        b'.Spares s.id later ∧ (Manager.getSubscription s.id (b'.run later).manager).1 = none) ∧
    ∃ f, (FileStore.openAt strayDisk ["d"] 1).1 = .ok f ∧
      let m := ((openedOver f).step (.renew "b" ⟨9⟩)).manager
      ∃ s m', Manager.subscribe (alerts none) m = some (.ok s, m') ∧ s.id ≠ "b" ∧
        SubscriptionStore.told m'.store "b" ≠ SubscriptionStore.told m.store "b" := by
  constructor
  · obtain ⟨f, hopen, -, hf, -⟩ := FileStore.openAt_bare FileStore.bareDisk_bare 1
    have hroom : f.cache.capacity = 1 := congrArg Cache.capacity (FileStore.openAt_cache hopen)
    obtain ⟨s, m', hs, hid, -, hgone⟩ := deep_pushed_out hf hroom
    refine ⟨f, hopen, s, m', hs, ⟨not_false, trivial⟩, ?_⟩
    rw [hid]
    exact Manager.getSubscription_eq_none hgone
  · obtain ⟨s, m', hs, hid, hbefore, hafter⟩ := misled_pushed_out
    refine ⟨stray 1, stray_opened 1, s, m', hs, by rw [hid]; decide, ?_⟩
    rw [hbefore, hafter]
    decide

/-- a broker whose store is full when the next record comes -/
def fullOnce : Broker (FlakyStore MemoryStore) :=
  opened (FlakyStore.mk sampleStore (fun n => if n = 1 then some (.storage (.text "full")) else none) 0) sampleHub
    Compiler.regex .standard ⟨⟨0⟩⟩ fun n => toString n

/-- a subscription that fails and leaves nothing, and one that stays while another ends and the broker is shut down -/
theorem subscribe_twice :
    let o := sampleOptions (some ⟨5⟩)
    let b := fullOnce.step (.subscribe o)
    (∃ f, Manager.subscribe o fullOnce.manager = some (.error f, b.manager)) ∧
      fullOnce.manager.Unchanged b.manager ∧ fullOnce.manager.LetGo b.manager o ∧
    ∃ s, Manager.subscribe o b.manager = some (.ok s, (b.step (.subscribe o)).manager) ∧
      b.manager.Gained (b.step (.subscribe o)).manager s ∧
      (Manager.getSubscription s.id
          ((b.step (.subscribe o)).run [.unsubscribe "old", .shutdown]).manager).1.map Subscription.toRecord =
        some s.toRecord := by
  intro o b
  have hkeep (ops : List Op) : ∀ op ∈ ops, op.Keepable MemoryStore sampleHub.supply := fun op _ => op.keepable_memory _
  have hrun (ops : List Op) := subscribe_all_or_nothing sampleStore_holds (fun _ _ _ _ _ _ => trivial)
    (fun n => if n = 1 then some (.storage (.text "full")) else none) Compiler.regex .standard ⟨⟨0⟩⟩
    (fun n => toString n) (hkeep ops) (hkeep [.subscribe o] _ List.mem_cons_self)
  obtain ⟨f, m₁, hf⟩ : ∃ f m₁, Manager.subscribe o fullOnce.manager = some (.error f, m₁) := by
    have hfailed : ((Manager.subscribe o fullOnce.manager).map fun r => r.1.toOption.isNone) = some true := by decide
    obtain ⟨⟨a, m₁⟩, ha, hnone⟩ := Option.map_eq_some_iff.1 hfailed
    cases a with
    | ok s => cases hnone
    | error f => exact ⟨f, m₁, ha⟩
  obtain ⟨s, m₂, hs, hid⟩ : ∃ s m₂, Manager.subscribe o b.manager = some (.ok s, m₂) ∧ s.id = "1" := by
    have hmade : ((Manager.subscribe o b.manager).map fun r => r.1.toOption.map Subscription.id) = some (some "1") := by
      decide
    obtain ⟨⟨a, m₂⟩, ha, hsome⟩ := Option.map_eq_some_iff.1 hmade
    cases a with
    | error f => cases hsome
    | ok s => exact ⟨s, m₂, ha, Option.some.inj hsome⟩
  obtain ⟨rfl, hsame, hgone⟩ := (hrun [.restore]).2.1 f m₁ hf
  obtain ⟨rfl, -, hgained, -, hlater⟩ := (hrun [.restore, .subscribe o]).2.2 s m₂ hs
  have hspares : (b.step (.subscribe o)).Spares s.id [.unsubscribe "old", .shutdown] := by
    rw [hid]
    simp [Spares, Concerns]
  exact ⟨⟨f, hf⟩, hsame (by decide), hgone, s, hs, hgained, (hlater _ (hkeep _) hspares).1⟩

end Broker

end EventBroker
