/-
Storage that fails does no harm to what is active.

Whatever changes of the store fail, an id with a rule has a record, and the end that is recorded is planned, or its
expiry was claimed and has not been run (`Scene.Safe`). Its endpoint was not let go either; that is custody, which
failures do not touch. So a failure can leave a dormant record behind, and nothing worse.

- `Slip.safe`, `run_safe`: every op but a shutdown keeps what is active safe.
- `run_failsafe`: whatever fails, an active id has a record that can be read, an endpoint in use and an expiry to come.
-/
import EventBroker.Proofs.Manager.FlakyScene
import EventBroker.Proofs.Manager.Misfits
import EventBroker.Proofs.Manager.Release

namespace EventBroker

open Function (update)

/-! ## The invariant -/

namespace Scene

structure Safe (s : Scene) : Prop where
  running : s.picture.scheduler.isShutDown = false
  stored : ∀ id, s.picture.rules id ≠ none → s.picture.records id ≠ none
  ends : ∀ id r t, s.picture.records id = some r → s.picture.rules id ≠ none →
    r.options.terminationTime = some t → s.Ends id t

namespace Safe

variable {p p' : Picture} {cs : List (Claimed Unit)}

theorem activate (h : Safe ⟨p, cs⟩) (r : SubscriptionRecord) (rule : Rule) : Safe ⟨p.activate r rule, cs⟩ where
  running := (p.planned_isShutDown r.id r.options.terminationTime).trans h.running
  stored id hrule := by
    have hrule : update p.rules r.id (some rule) id ≠ none := hrule
    show update p.records r.id (some r) id ≠ none
    rw [Function.update_apply] at hrule ⊢
    split
    · exact Option.some_ne_none r
    · rename_i hid
      rw [if_neg hid] at hrule
      exact h.stored id hrule
  ends id s t hs hrule ht := by
    have hrule : update p.rules r.id (some rule) id ≠ none := hrule
    rcases update_some_eq_some.1 hs with ⟨rfl, rfl⟩ | ⟨hid, hs⟩
    · refine Or.inl ?_
      show (p.planned r.id r.options.terminationTime).endOfLife? r.id = some t
      rw [ht, Picture.planned_endOfLife? h.running, if_pos rfl]
    · rw [Function.update_of_ne hid] at hrule
      refine (h.ends id s t hs hrule ht).mono (fun hplan => ?_) fun c hc _ _ => hc
      exact (Picture.planned_endOfLife?_of_ne h.running hid _).trans hplan

theorem prolong (h : Safe ⟨p, cs⟩) {r : SubscriptionRecord} (t : Timestamp) : Safe ⟨p.prolong r t, cs⟩ where
  running := (p.planned_isShutDown r.id (some t)).trans h.running
  stored id hrule := by
    show update p.records r.id (some (r.renewed t)) id ≠ none
    rw [Function.update_apply]
    split
    · exact Option.some_ne_none _
    · exact h.stored id hrule
  ends id s u hs hrule hu := by
    rcases update_some_eq_some.1 hs with ⟨rfl, rfl⟩ | ⟨hid, hs⟩
    · refine Or.inl ?_
      show (p.planned r.id (some t)).endOfLife? r.id = some u
      rw [Picture.planned_endOfLife? h.running, if_pos rfl]
      exact hu
    · refine (h.ends id s u hs hrule hu).mono (fun hplan => ?_) fun c hc _ _ => hc
      exact (Picture.planned_endOfLife?_of_ne h.running hid _).trans hplan

/-- the rule of an id goes, with its plan and maybe with its claims and its record -/
theorem silence (h : Safe ⟨p, cs⟩) {id : String} {v : Records} (hv : ∀ k, k ≠ id → v k = p.records k)
    {cs' : List (Claimed Unit)} (hcs : ∀ c ∈ cs, c.identity ≠ id → c ∈ cs') :
    Safe ⟨{ p.silence id with records := v }, cs'⟩ := by
  have hother : ∀ k, update p.rules id none k ≠ none → k ≠ id ∧ p.rules k ≠ none := by
    intro k hk
    rw [Function.update_apply] at hk
    split at hk
    · exact absurd rfl hk
    · rename_i hne
      exact ⟨hne, hk⟩
  refine ⟨(p.scheduler.cancel_isShutDown id).trans h.running, fun k hrule => ?_, fun k s t hs hrule ht => ?_⟩
  · obtain ⟨hk, hrule⟩ := hother k hrule
    show v k ≠ none
    rw [hv k hk]
    exact h.stored k hrule
  · obtain ⟨hk, hrule⟩ := hother k hrule
    have hs : v k = some s := hs
    rw [hv k hk] at hs
    refine (h.ends k s t hs hrule ht).mono (fun hplan => ?_) fun c hc hid _ => hcs c hc (hid ▸ hk)
    show (p.unplanned id).endOfLife? k = some t
    rw [Picture.unplanned, Scheduler.cancel_endOfLife?, if_neg hk]
    exact hplan

theorem remove (h : Safe ⟨p, cs⟩) (id : String) {cs' : List (Claimed Unit)}
    (hcs : ∀ c ∈ cs, c.identity ≠ id → c ∈ cs') : Safe ⟨p.remove id, cs'⟩ :=
  h.silence (fun _ hk => Function.update_of_ne hk none p.records) hcs

/-- the record of an id without a rule does not matter -/
theorem dormant (h : Safe ⟨p, cs⟩) {id : String} (hrule : p.rules id = none) (r : Option SubscriptionRecord) :
    Safe ⟨{ p with records := update p.records id r }, cs⟩ := by
  have hne : ∀ k, p.rules k ≠ none → k ≠ id := fun k hk heq => hk (heq ▸ hrule)
  refine ⟨h.running, fun k hk => ?_, fun k s t hs hk ht => ?_⟩
  · show update p.records id r k ≠ none
    rw [Function.update_of_ne (hne k hk)]
    exact h.stored k hk
  · have hs : update p.records id r k = some s := hs
    rw [Function.update_of_ne (hne k hk)] at hs
    exact h.ends k s t hs hk ht

theorem slips (h : Safe ⟨p, cs⟩) {ids : String → Prop} (hp : p.Slips ids p') : Safe ⟨p', cs⟩ := by
  induction hp with
  | done p => exact h
  | activated _ _ ih => exact ih (h.activate _ _)
  | prolonged _ _ _ ih => exact ih (h.prolong _)
  | removed _ _ ih => exact ih (h.remove _ fun c hc _ => hc)
  | silenced _ _ ih => exact ih (h.silence (fun _ _ => rfl) fun c hc _ => hc)
  | dropped _ hrule _ ih => exact ih (h.dormant hrule none)
  | laid _ hrule _ _ ih => exact ih (h.dormant hrule _)

/-- the scheduler may change as long as no plan changes -/
theorem scheduler (h : Safe ⟨p, cs⟩) {s : Scheduler Unit} (hrun : s.isShutDown = p.scheduler.isShutDown)
    (hend : ∀ id, s.endOfLife? id = p.scheduler.endOfLife? id) : Safe ⟨{ p with scheduler := s }, cs⟩ where
  running := hrun.trans h.running
  stored := h.stored
  ends id r t hr hrule ht :=
    (h.ends id r t hr hrule ht).mono (fun hplan => (hend id).trans hplan) fun _ hc _ _ => hc

theorem claim (h : Safe ⟨p, cs⟩) :
    Safe ⟨{ p with scheduler := (p.scheduler.claimNext p.elapsed).2 },
      cs ++ (p.scheduler.claimNext p.elapsed).1.toList⟩ where
  running := (Scheduler.claimNext_isShutDown _ _).trans h.running
  stored := h.stored
  ends id r t hr hrule ht := (h.ends id r t hr hrule ht).claim

/-- a stale claim may go -/
theorem stale (h : Safe ⟨p, cs⟩) {i : Nat} {c : Claimed Unit} (hi : cs[i]? = some c)
    (hstale : ∀ r, p.records c.identity = some r → r.options.terminationTime ≠ some c.endOfLife) :
    Safe ⟨p, cs.eraseIdx i⟩ where
  running := h.running
  stored := h.stored
  ends id r t hr hrule ht := by
    refine (h.ends id r t hr hrule ht).mono (fun hplan => hplan) fun d hd hid hend => ?_
    subst hid hend
    exact mem_eraseIdx_of_ne hd hi fun hcd => hstale r (hcd ▸ hr) (hcd ▸ ht)

end Safe

end Scene

/-! ## Runs -/

namespace Broker

variable {σ : Type}

variable [SubscriptionStore σ]

/-- what is active can be read, can deliver and can end -/
structure Failsafe (b : Broker σ) : Prop where
  readable : ∀ id, b.manager.engine.contains id = true → (SubscriptionStore.get b.manager.store id).1 ≠ none
  in_use : ∀ id, b.manager.engine.contains id = true →
    ∃ k, b.manager.handle? id = some k ∧ b.manager.hub.destroyCount k = 0
  ends : ∀ id s t, b.manager.engine.contains id = true → (SubscriptionStore.get b.manager.store id).1 = some s →
    s.terminationTime = some t →
    b.manager.scheduler.endOfLife? id = some t ∨ ∃ c ∈ b.claimed, c.identity = id ∧ c.endOfLife = t

variable [FaithfulStore σ]

/-- a slip that is no shutdown keeps what is active safe -/
theorem Slip.safe {s s' : Scene} {op : Op} (h : Slip s op s') (hne : op ≠ .shutdown) (hsafe : s.Safe) : s'.Safe := by
  have hothers {i : Nat} {c : Claimed Unit} (hi : s.claimed[i]? = some c) :
      ∀ d ∈ s.claimed, d.identity ≠ c.identity → d ∈ s.claimed.eraseIdx i := by
    intro d hd hne
    exact mem_eraseIdx_of_ne hd hi fun heq => hne (heq ▸ rfl)
  cases h with
  | operated _ hp => exact hsafe.slips hp
  | closed => exact absurd rfl hne
  | queued queues => exact ⟨hsafe.running, hsafe.stored, hsafe.ends⟩
  | passed => exact ⟨hsafe.running, hsafe.stored, hsafe.ends⟩
  | tookUp =>
    exact hsafe.scheduler (Scheduler.takeUp_isShutDown _) (Scheduler.endOfLife?_eq_of_jobs (Scheduler.takeUp_jobs _))
  | claimed => exact hsafe.claim
  | expired hi => exact hsafe.remove _ (hothers hi)
  | silenced hi => exact hsafe.silence (fun _ _ => rfl) (hothers hi)
  | stale hi hstale => exact hsafe.stale hi hstale

theorem run_safe {b : Broker (FlakyStore σ)} {s : Scene} (h : b.sound.Shows s) (hsafe : s.Safe) {ops : List Op}
    (hkeep : ∀ op ∈ ops, op.Keepable σ s.picture.supply) (hops : Op.shutdown ∉ ops) :
    ∃ s', (b.run ops).sound.Shows s' ∧ s'.Safe := by
  induction ops generalizing b s with
  | nil => exact ⟨s, h, hsafe⟩
  | cons op ops ih =>
    have hne : op ≠ .shutdown := fun heq => hops (heq ▸ List.mem_cons_self)
    obtain ⟨s', hslip, hs'⟩ := step_slip h (hkeep op List.mem_cons_self)
    refine ih hs' (hslip.safe hne hsafe) (fun o ho => ?_) fun ho => hops (List.mem_cons_of_mem op ho)
    rw [hslip.supply]
    exact hkeep o (List.mem_cons_of_mem op ho)

/-- a broker that was opened over a flaky store is safe -/
theorem opened_safe {base : σ} {v : Records} {hub : Hub} (hv : FaithfulStore.Holds base v)
    (hk : ∀ id r, v id = some r → EventBroker.Keepable σ hub.supply r.options) (failures : Nat → Option BrokerError)
    (c : Compiler) (t : Transformer) (clock : Clock) (ids : Nat → String) :
    ∃ s, (opened (FlakyStore.mk base failures 0) hub c t clock ids).sound.Shows s ∧ s.picture.supply = hub.supply ∧
      s.Safe := by
  have hdormant : Scene.Safe ⟨Picture.dormant v c hub clock, []⟩ :=
    ⟨rfl, fun _ hrule => absurd rfl hrule, fun _ _ _ _ hrule => absurd rfl hrule⟩
  have hrestore : Op.Keepable σ (Picture.dormant v c hub clock).supply .restore := trivial
  obtain ⟨s, hslip, hs⟩ := step_slip (assembled_flaky hv hk failures c t clock ids) hrestore
  rw [← opened_eq_step] at hs
  exact ⟨s, hs, hslip.supply, hslip.safe (fun hop => by cases hop) hdormant⟩

/-- safe parts and custody of the endpoints make what is active fail-safe -/
theorem Shows.failsafe [LoyalStore σ] {b : Broker (FlakyStore σ)} {s : Scene} (h : b.sound.Shows s) (hsafe : s.Safe)
    {first : Nat} {owner : Nat → Option String} {again : List Nat}
    (hcustody : b.manager.Custody first owner again []) : b.Failsafe := by
  have hrule : ∀ id, b.manager.engine.contains id = true → s.picture.rules id ≠ none := by
    intro id hid
    have hcontains : b.manager.engine.contains id = (s.picture.rules id).isSome := h.manager.contains id
    rw [hcontains, Option.isSome_iff_ne_none] at hid
    exact hid
  refine ⟨fun id hid => ?_, fun id hid => ?_, fun id u t hid hu ht => ?_⟩
  · obtain ⟨r, hr⟩ := Option.ne_none_iff_exists'.1 (hsafe.stored id (hrule id hid))
    obtain ⟨u, hu, -⟩ := h.get_of_record hr
    have hu : (SubscriptionStore.get b.manager.store id).1 = some u := hu
    rw [hu]
    exact Option.some_ne_none u
  · obtain ⟨k, hk⟩ := Option.ne_none_iff_exists'.1 (hcustody.rule_bound id hid)
    exact ⟨k, hk, (hcustody.alive k (Or.inr ⟨id, hk⟩)).1⟩
  · have hends := hsafe.ends id u.toRecord t (h.get_eq_some hu) (hrule id hid) ht
    have hscheduler : b.manager.scheduler = s.picture.scheduler := h.manager.scheduler
    have hclaimed : b.claimed = s.claimed := h.claimed
    rw [hscheduler, hclaimed]
    exact hends

/-- **Failures of storage are safe.** Whichever changes of the store fail, and with what, from the first restore on: as
long as nobody shuts the manager down, each id that has a rule has a record that can be read, the endpoint of the rule
was never destroyed, and the end that is recorded is planned, or its expiry was claimed and has not been run. The store
is one in good order, whose records stand under their own ids, and the options are such that it can keep them
(`Keepable`). -/
theorem run_failsafe [LoyalStore σ] {base : σ} {v : Records} {hub : Hub} (hv : FaithfulStore.Holds base v)
    (hk : ∀ id r, v id = some r → EventBroker.Keepable σ hub.supply r.options)
    (hs : LoyalStore.Only (fun _ k => k < hub.outlets.length) base) (failures : Nat → Option BrokerError)
    (c : Compiler) (t : Transformer) (clock : Clock) (ids : Nat → String) {ops : List Op}
    (hkeep : ∀ op ∈ ops, op.Keepable σ hub.supply) (hops : Op.shutdown ∉ ops) :
    ((opened (FlakyStore.mk base failures 0) hub c t clock ids).run ops).Failsafe := by
  have hflaky : LoyalStore.Only (fun _ k => k < hub.outlets.length) (FlakyStore.mk base failures 0) := hs
  obtain ⟨_, hopened⟩ := opened_custody hflaky c t clock ids
  obtain ⟨_, hcustody⟩ := run_custody hopened ops
  obtain ⟨s₀, hshows₀, hsupply, hsafe₀⟩ := opened_safe hv hk failures c t clock ids
  obtain ⟨s, hshows, hsafe⟩ := run_safe hshows₀ hsafe₀ (fun op hop => hsupply ▸ hkeep op hop) hops
  exact hshows.failsafe hsafe hcustody

/-- Over files: a subscription with parameters nested too deep is active and has no record that can be read, once
another one has pushed it out; and one whose file is named after another id ends when that other id was renewed. -/
theorem not_failsafe_over_misfits :
    (∃ f, (FileStore.openAt FileStore.bareDisk ["d"] 1).1 = .ok f ∧
      ¬ ((openedOver f).run [.subscribe FileStore.deep.options, .subscribe (alerts none)]).Failsafe) ∧
    ∃ f, (FileStore.openAt strayDisk ["d"] 4).1 = .ok f ∧ ¬ ((openedOver f).run [.renew "b" ⟨9⟩]).Failsafe := by
  constructor
  · obtain ⟨f, hopen, -, hf, -⟩ := FileStore.openAt_bare FileStore.bareDisk_bare 1
    have hroom : f.cache.capacity = 1 := congrArg Cache.capacity (FileStore.openAt_cache hopen)
    obtain ⟨s, m', -, -, hactive, hgone⟩ := deep_pushed_out hf hroom
    exact ⟨f, hopen, fun hsafe => hsafe.readable "s" hactive hgone⟩
  · obtain ⟨f, hmisled, -, hcache, -⟩ := misled_eq 4
    refine ⟨stray 4, stray_opened 4, fun hsafe => ?_⟩
    rw [run_cons, hmisled] at hsafe
    have hfound : (f.get "a").1 = some liveStray := FileStore.get_of_cache (by rw [hcache]; rfl)
    have hplanned : (misled f).scheduler.endOfLife? "a" = some ⟨9⟩ := rfl
    rcases hsafe.ends "a" liveStray ⟨5⟩ rfl hfound rfl with hplan | ⟨c, hc, -⟩
    · exact absurd (hplanned.symm.trans hplan) (by decide)
    · cases hc

/-- a renewal fails, and then the deletion of the record that expires; it stays behind without a rule -/
theorem failsafe_with_dormant_record :
    let failures := fun n => if n = 2 ∨ n = 3 then some (.storage (.text "full")) else none
    let b := (opened (FlakyStore.mk sampleStore failures 0) sampleHub Compiler.regex .standard ⟨⟨0⟩⟩
      fun n => toString n).run
        [.subscribe (sampleOptions (some ⟨5⟩)), .renew "0" ⟨9⟩, .takeUp, .pass 7 ⟨7⟩, .claim, .expire 0]
    b.manager.store.tried = 4 ∧ (SubscriptionStore.get b.manager.store "0").1.isSome = true ∧
      b.manager.engine.contains "0" = false ∧ b.manager.engine.contains "old" = true ∧ b.Failsafe := by
  refine ⟨by decide, by decide, by decide, by decide, ?_⟩
  exact run_failsafe sampleStore_holds (fun _ _ _ _ _ _ => trivial) (sampleStore_only _) _ _ _ _ _
    (fun op _ => op.keepable_memory _) (by simp)

end Broker

end EventBroker
