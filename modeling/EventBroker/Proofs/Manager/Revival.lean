/-
What becomes of a dormant record that is visited.

- `activate_cases`: over any store, a record comes to life (`enlivened`), or what was done for it is taken back and the
  endpoint that was made for it is destroyed once (`Retracted`).
- A `ReluctantStore` refuses to put in subscriptions of certain ids. A restore puts in an id at most once, so this is
  any pattern of failing writes.
- `Visited`: what visiting an id leaves alone. `visit_revives`, `visit_drops`: the id is `Alive` then if its options can
  be served and the store does not refuse, and it is `Dropped` otherwise.
-/
import EventBroker.Proofs.Manager.Subscribe

namespace EventBroker

open Function (update)

namespace Manager

/-! ## Bringing to life -/

section Activation

variable {τ : Type}

/-- options lead to an endpoint, and their filter compiles -/
def Servable (m : Manager τ) (o : SubscribeOptions) : Prop :=
  (∃ e, Makes m.hub o e) ∧ ∃ p, m.engine.compile o = .ok p

/-- the scheduler with a plan for the end of a subscription, if it has one -/
def plannedFor (m : Manager τ) (s : Subscription) : Scheduler Unit :=
  match s.terminationTime with
  | none => m.scheduler
  | some t => (m.scheduler.schedule m.elapsed m.clock.now s.id t ()).toOption.getD m.scheduler

/-- nothing came of the options: an endpoint that was made for them is destroyed, rules and plans are as before -/
structure Retracted (m m' : Manager τ) (o : SubscribeOptions) : Prop where
  letGo : m.LetGo m' o
  setting : m.hub.SameSetting m'.hub
  rules : m'.engine.rules.find? = m.engine.rules.find?
  compiler : m'.engine.compiler = m.engine.compiler
  scheduler : m'.scheduler = m.scheduler

/-- options that lead to no endpoint come to nothing -/
theorem retracted_of_unmade {m : Manager τ} {o : SubscribeOptions} {h : Hub} (hnone : ∀ e, ¬ Makes m.hub o e)
    (hout : h.outlets = m.hub.outlets) (hs : m.hub.SameSetting h) :
    m.Retracted { m with hub := h } o ∧ ¬ m.Servable o := by
  refine ⟨⟨Or.inl ⟨hnone, hout⟩, hs, rfl, rfl, rfl⟩, ?_⟩
  rintro ⟨⟨e, he⟩, -⟩
  exact hnone e he

theorem schedule_planned (m : Manager τ) (s : Subscription) :
    Ensures (schedule s) m fun _ m' => m' = { m with scheduler := m.plannedFor s } := by
  refine Ensures.modify ?_
  unfold plannedFor
  cases s.terminationTime with
  | none => rfl
  | some t =>
    dsimp only
    cases m.scheduler.schedule m.elapsed m.clock.now s.id t () <;> rfl

/-- a running scheduler plans the end, and other jobs stay -/
theorem plannedFor_running {m : Manager τ} (h : m.scheduler.isShutDown = false) (s : Subscription) :
    (m.plannedFor s).isShutDown = false ∧
      (m.plannedFor s).endOfLife? s.id = s.terminationTime.or (m.scheduler.endOfLife? s.id) ∧
      ∀ k, k ≠ s.id → (m.plannedFor s).jobs.find? k = m.scheduler.jobs.find? k := by
  unfold plannedFor
  cases s.terminationTime with
  | none => exact ⟨h, rfl, fun _ _ => rfl⟩
  | some t =>
    obtain ⟨planned, hplan⟩ : ∃ planned, m.scheduler.schedule m.elapsed m.clock.now s.id t () = .ok planned :=
      ⟨_, Scheduler.schedule_eq_ok_iff.2 ⟨h, rfl⟩⟩
    have hplanned : (m.scheduler.schedule m.elapsed m.clock.now s.id t ()).toOption.getD m.scheduler = planned := by
      rw [hplan]
      rfl
    dsimp only
    rw [hplanned, Scheduler.schedule_endOfLife? hplan, if_pos rfl]
    obtain ⟨-, rfl⟩ := Scheduler.schedule_eq_ok_iff.1 hplan
    refine ⟨h, rfl, fun k hk => ?_⟩
    rw [Table.find?_insert, if_neg hk]

/-- a rule is installed for an id without one, unless the filter does not compile -/
theorem register_cases (m : Manager τ) (s : Subscription) (hrule : m.engine.rules.find? s.id = none) :
    Ensures (register s s.endpoint) m fun r m' =>
      (∃ p, m.engine.compile s.options = .ok p ∧ r = .ok () ∧ m' = { m with engine := { m.engine with
        rules := m.engine.rules.insert s.id
          ⟨s.id, p, s.endpoint, (s.options.delivery.map DeliveryDefinition.useRaw).getD false⟩ } }) ∨
      ((∃ f, r = .error f) ∧ (∀ p, m.engine.compile s.options ≠ .ok p) ∧ m' = m) := by
  have hfree : m.engine.rules.contains s.id = false := by simp [Table.contains, hrule]
  refine Ensures.modifyGet ?_
  unfold Engine.register
  rw [hfree]
  cases hc : m.engine.compile s.options with
  | error f => exact Or.inr ⟨⟨f, rfl⟩, fun p hp => (by cases hp), rfl⟩
  | ok p => exact Or.inl ⟨p, rfl, rfl, rfl⟩

/-- a rule that was installed and taken out again changes nothing -/
theorem removeRule_installed {m : Manager τ} {id : String} {rule : Rule} (hrule : m.engine.rules.find? id = none)
    {engine : Engine} (hengine : engine = { m.engine with rules := m.engine.rules.insert id rule }) {m₁ : Manager τ}
    (hm₁ : m₁.engine = engine) :
    Ensures (removeRule id) m₁ fun _ m' => m'.engine.rules.find? = m.engine.rules.find? ∧
      m'.engine.compiler = m.engine.compiler ∧ m'.hub = m₁.hub ∧ m'.store = m₁.store ∧ m'.scheduler = m₁.scheduler := by
  have hfind : m₁.engine.rules.find? id = some rule := by simp [hm₁, hengine, Table.find?_insert]
  refine Ensures.modifyGet ?_
  unfold Engine.remove
  rw [hfind]
  refine ⟨?_, by simp [hm₁, hengine], rfl, rfl, rfl⟩
  show (m₁.engine.rules.erase id).find? = _
  rw [find?_erase_eq, hm₁, hengine, find?_insert_eq, Function.update_idem, ← hrule, Function.update_eq_self]

variable [SubscriptionStore τ]

/-- a subscription has come to life: it has a rule for its endpoint, is put in, and its end is planned -/
def enlivened (m : Manager τ) (d : DeliveryDefinition) (s : Subscription) (p : Predicate) : Manager τ :=
  { m with
    hub := (m.hub.create d).2
    engine := { m.engine with rules := m.engine.rules.insert s.id ⟨s.id, p, s.endpoint, d.useRaw⟩ }
    store := (SubscriptionStore.put m.store s).2
    scheduler := m.plannedFor s }

/-- a dormant subscription comes to life, or nothing comes of it -/
theorem activate_cases (m : Manager τ) (s : Subscription) (hrule : m.engine.rules.find? s.id = none) :
    Ensures (activate s) m fun a m' =>
      (a = .ok () ∧ ∃ d e p, s.options.delivery = some d ∧ (m.hub.create d).1 = .ok e ∧
        m.engine.compile s.options = .ok p ∧ (SubscriptionStore.put m.store ⟨s.id, s.options, e⟩).1 = .ok () ∧
        m' = m.enlivened d ⟨s.id, s.options, e⟩ p) ∨
      ((∃ f, a = .error f) ∧ m.Retracted m' s.options ∧
        (¬ m.Servable s.options ∧ m'.store = m.store ∨
          ∃ e f, Makes m.hub s.options e ∧ (SubscriptionStore.put m.store ⟨s.id, s.options, e⟩).1 = .error f ∧
            m'.store = (SubscriptionStore.put m.store ⟨s.id, s.options, e⟩).2)) := by
  unfold activate
  cases hd : s.options.delivery with
  | none =>
    have hnone : ∀ e, ¬ Makes m.hub s.options e := by
      rintro e ⟨d, hsome, -⟩
      cases hd.symm.trans hsome
    obtain ⟨hback, hnot⟩ := retracted_of_unmade hnone rfl (.refl m.hub)
    exact Or.inr ⟨⟨_, rfl⟩, hback, Or.inl ⟨hnot, rfl⟩⟩
  | some d =>
    dsimp only
    have hsetting : m.hub.SameSetting (m.hub.create d).2 := Hub.create_setting m.hub d
    refine Ensures.bind (P := fun r m' => r = (m.hub.create d).1 ∧ m' = { m with hub := (m.hub.create d).2 })
      ⟨rfl, rfl⟩ fun r m₁ hpost₁ => ?_
    obtain ⟨hr, rfl⟩ := hpost₁
    cases r with
    | error f =>
      have hnone : ∀ e, ¬ Makes m.hub s.options e := by
        rintro e ⟨d', hd', he⟩
        cases hd.symm.trans hd'
        cases hr.trans he
      have houtlets : (m.hub.create d).2.outlets = m.hub.outlets := by
        rcases m.hub.create_cases d with ⟨f', -, hout⟩ | ⟨e, c, he, -⟩
        · exact hout
        · cases hr.trans he
      obtain ⟨hback, hnot⟩ := retracted_of_unmade hnone houtlets hsetting
      exact Or.inr ⟨⟨f, rfl⟩, hback, Or.inl ⟨hnot, rfl⟩⟩
    | ok e =>
      have hmade : Makes m.hub s.options e := ⟨d, hd, hr.symm⟩
      -- from here on the endpoint is in hand, and a failure lets it go
      have hgone (n : Manager τ) (hhub : n.hub = ((m.hub.create d).2.destroy e).2) :
          m.LetGo n s.options ∧ m.hub.SameSetting n.hub := by
        obtain ⟨c, hc⟩ := Hub.destroy_created hr.symm
        rw [hhub]
        exact ⟨Or.inr ⟨e, c, hmade, (congrArg Hub.outlets hhub).trans hc⟩, hsetting.trans (Hub.destroy_setting _ e)⟩
      refine Ensures.bind (register_cases { m with hub := (m.hub.create d).2 } ⟨s.id, s.options, e⟩ hrule)
        fun r m₂ hpost₂ => ?_
      rcases hpost₂ with ⟨p, hp, rfl, rfl⟩ | ⟨⟨f, rfl⟩, hwhy, rfl⟩
      · refine Ensures.bind (P := fun r m' => r = (SubscriptionStore.put m.store ⟨s.id, s.options, e⟩).1 ∧ m' = { m with
            hub := (m.hub.create d).2
            engine := { m.engine with rules := m.engine.rules.insert s.id ⟨s.id, p, e, d.useRaw⟩ }
            store := (SubscriptionStore.put m.store ⟨s.id, s.options, e⟩).2 }) ?_ fun r m₃ hpost₃ => ?_
        · refine ⟨rfl, ?_⟩
          simp only [hd]
          rfl
        obtain ⟨hput, rfl⟩ := hpost₃
        cases r with
        | ok _ =>
          refine Ensures.bind (schedule_planned _ _) fun _ m₄ hm₄ => ?_
          subst hm₄
          exact Or.inl ⟨rfl, d, e, p, rfl, hr.symm, hp, hput.symm, rfl⟩
        | error f =>
          refine Ensures.bind (removeRule_installed hrule rfl rfl) fun _ m₄ hpost₄ => ?_
          obtain ⟨hrules, hcompiler, hhub, hstore, hscheduler⟩ := hpost₄
          obtain ⟨hletGo, hsame⟩ := hgone (destroy e m₄).2 (congrArg (fun h : Hub => (h.destroy e).2) hhub)
          exact Or.inr ⟨⟨f, rfl⟩, ⟨hletGo, hsame, hrules, hcompiler, hscheduler⟩,
            Or.inr ⟨e, f, hmade, hput.symm, hstore⟩⟩
      · obtain ⟨hletGo, hsame⟩ := hgone (destroy e { m with hub := (m.hub.create d).2 }).2 rfl
        refine Or.inr ⟨⟨f, rfl⟩, ⟨hletGo, hsame, rfl, rfl, rfl⟩, Or.inl ⟨?_, rfl⟩⟩
        rintro ⟨-, p, hp⟩
        exact hwhy p hp

end Activation

end Manager

/-! ## A store that refuses -/

/-- a store that does not put in subscriptions of certain ids -/
structure ReluctantStore (σ : Type) where
  base : σ
  /-- what putting in a subscription of an id fails with, if it fails -/
  refusals : String → Option BrokerError

namespace ReluctantStore

variable {σ : Type} [SubscriptionStore σ]

/-- an answer of the store behind -/
def pass {α : Type} (r : ReluctantStore σ) (x : α × σ) : α × ReluctantStore σ := (x.1, { r with base := x.2 })

instance : SubscriptionStore (ReluctantStore σ) where
  put r s :=
    match r.refusals s.id with
    | some f => (.error f, r)
    | none => r.pass (SubscriptionStore.put r.base s)
  get r id := r.pass (SubscriptionStore.get r.base id)
  all r := r.pass (SubscriptionStore.all r.base)
  delete r id := r.pass (SubscriptionStore.delete r.base id)
  renew r id t := r.pass (SubscriptionStore.renew r.base id t)
  held r := SubscriptionStore.held r.base

theorem told_base (r : ReluctantStore σ) : SubscriptionStore.told r = SubscriptionStore.told r.base := rfl

theorem put_refused {r : ReluctantStore σ} {s : Subscription} {f : BrokerError} (h : r.refusals s.id = some f) :
    SubscriptionStore.put r s = (.error f, r) := by
  simp only [SubscriptionStore.put, h]

theorem put_passed {r : ReluctantStore σ} {s : Subscription} (h : r.refusals s.id = none) :
    SubscriptionStore.put r s = r.pass (SubscriptionStore.put r.base s) := by
  simp only [SubscriptionStore.put, h]

/-- listing changes no record -/
theorem all_holds [FaithfulStore σ] {r : ReluctantStore σ} {v : Records} (h : FaithfulStore.Holds r.base v) :
    FaithfulStore.Holds (SubscriptionStore.all r).2.base v ∧
      SubscriptionStore.told (SubscriptionStore.all r).2 = v := by
  have hbase : FaithfulStore.Holds (SubscriptionStore.all r.base).2 v := FaithfulStore.all_holds h
  have htold : SubscriptionStore.told (SubscriptionStore.all r.base).2 = v := FaithfulStore.told_eq hbase
  exact ⟨hbase, htold⟩

end ReluctantStore

namespace Manager

/-! ## What is under an id -/

section Ids

variable {τ : Type} [SubscriptionStore τ] {l m n : Manager τ} {id : String} {r : SubscriptionRecord} {rule : Rule}
  {k : Nat}

/-- record, rule and job of an id are as they were -/
structure Same (m n : Manager τ) (id : String) : Prop where
  told : SubscriptionStore.told n.store id = SubscriptionStore.told m.store id
  rule : n.engine.rules.find? id = m.engine.rules.find? id
  job : n.scheduler.jobs.find? id = m.scheduler.jobs.find? id

/-- an id has no record and no rule any more -/
structure Dropped (m n : Manager τ) (id : String) : Prop where
  told : SubscriptionStore.told n.store id = none
  rule : n.engine.rules.find? id = none
  job : n.scheduler.jobs.find? id = m.scheduler.jobs.find? id

/-- a record has a rule that serves it, with an endpoint that is new and was never destroyed; its options are as they
were, and its end is planned if it has one -/
structure Alive (m n : Manager τ) (r : SubscriptionRecord) (rule : Rule) (k : Nat) : Prop where
  installed : n.engine.rules.find? r.id = some rule
  handle : rule.endpoint.handle? = some k
  fresh : m.hub.outlets.length ≤ k
  intact : ∃ c, n.hub.outlets[k]? = some ⟨c, 0⟩
  serves : rule.Serves m.engine.compiler { r with location := rule.endpoint.location }
  told : SubscriptionStore.told n.store r.id = some { r with location := rule.endpoint.location }
  plan : n.scheduler.endOfLife? r.id = r.options.terminationTime.or (m.scheduler.endOfLife? r.id)

theorem Same.trans (h : l.Same m id) (h' : m.Same n id) : l.Same n id :=
  ⟨h'.told.trans h.told, h'.rule.trans h.rule, h'.job.trans h.job⟩

theorem Dropped.same (h : l.Dropped m id) (h' : m.Same n id) : l.Dropped n id :=
  ⟨h'.told.trans h.told, h'.rule.trans h.rule, h'.job.trans h.job⟩

theorem Alive.same (h : l.Alive m r rule k) (h' : m.Same n r.id) (ho : m.hub.outlets <+: n.hub.outlets) :
    l.Alive n r rule k := by
  obtain ⟨c, hc⟩ := h.intact
  obtain ⟨made, hmade⟩ := ho
  have hlt : k < m.hub.outlets.length := (List.getElem?_eq_some_iff.1 hc).1
  refine ⟨h'.rule.trans h.installed, h.handle, h.fresh, ⟨c, ?_⟩, h.serves, h'.told.trans h.told, ?_⟩
  · rw [← hmade, List.getElem?_append_left hlt, hc]
  · rw [← h.plan]
    exact congrArg (Option.map Job.endOfLife) h'.job

end Ids

/-! ## Visiting an id -/

section Visits

variable {σ : Type} [SubscriptionStore σ] [FaithfulStore σ]

/-- what visiting an id leaves alone, and what it keeps in order -/
structure Visited (m n : Manager (ReluctantStore σ)) (id : String) : Prop where
  others : ∀ k, k ≠ id → m.Same n k
  outlets : m.hub.outlets <+: n.hub.outlets
  setting : m.hub.SameSetting n.hub
  compiler : n.engine.compiler = m.engine.compiler
  running : n.scheduler.isShutDown = m.scheduler.isShutDown
  refusals : n.store.refusals = m.store.refusals
  holds : FaithfulStore.Holds n.store.base (SubscriptionStore.told n.store)

/-- a record can come to life: its options can be served, and the store does not refuse it -/
def CanRevive (m : Manager (ReluctantStore σ)) (r : SubscriptionRecord) : Prop :=
  m.Servable r.options ∧ m.store.refusals r.id = none

variable {m n : Manager (ReluctantStore σ)} {s : Subscription}

/-- a record that comes to life is alive, and nothing else has changed -/
theorem enlivened_alive (hv : FaithfulStore.Holds m.store.base (SubscriptionStore.told m.store))
    (hs : SubscriptionStore.told m.store s.id = some s.toRecord) (hk : Keepable σ m.hub.supply s.options)
    (hrun : m.scheduler.isShutDown = false) (href : m.store.refusals s.id = none) {d : DeliveryDefinition}
    {e : Endpoint} {p : Predicate}
    (hd : s.options.delivery = some d) (he : (m.hub.create d).1 = .ok e) (hp : m.engine.compile s.options = .ok p) :
    m.Visited (m.enlivened d ⟨s.id, s.options, e⟩ p) s.id ∧
      m.Alive (m.enlivened d ⟨s.id, s.options, e⟩ p) s.toRecord ⟨s.id, p, e, d.useRaw⟩ m.hub.outlets.length ∧
      (m.enlivened d ⟨s.id, s.options, e⟩ p).hub.outlets.length = m.hub.outlets.length + 1 := by
  obtain ⟨hhandle, c, hout⟩ := Hub.create_ok he
  obtain ⟨hrunning, hplan, hjobs⟩ := plannedFor_running hrun ⟨s.id, s.options, e⟩
  have hfits : FaithfulStore.Fits σ ⟨s.id, s.options, e.location⟩ :=
    hk s.id e.location ⟨d, m.hub, e, hd, rfl, he, rfl⟩
  have hstore : (m.enlivened d ⟨s.id, s.options, e⟩ p).store =
      { m.store with base := (SubscriptionStore.put m.store.base ⟨s.id, s.options, e⟩).2 } :=
    congrArg Prod.snd (ReluctantStore.put_passed (s := ⟨s.id, s.options, e⟩) href)
  have hholds := FaithfulStore.put_accepted hv (s := ⟨s.id, s.options, e⟩) hfits
    (FaithfulStore.put_known hv (s := ⟨s.id, s.options, e⟩) hfits hs)
  have htold : SubscriptionStore.told (m.enlivened d ⟨s.id, s.options, e⟩ p).store =
      update (SubscriptionStore.told m.store) s.id (some ⟨s.id, s.options, e.location⟩) := by
    rw [hstore, ReluctantStore.told_base]
    exact FaithfulStore.told_eq hholds
  have hrules : (m.enlivened d ⟨s.id, s.options, e⟩ p).engine.rules.find? =
      update m.engine.rules.find? s.id (some ⟨s.id, p, e, d.useRaw⟩) := find?_insert_eq _ _ _
  refine ⟨⟨fun k hne => ⟨?_, ?_, hjobs k hne⟩, ?_, Hub.create_setting m.hub d, rfl, ?_, ?_, ?_⟩,
    ⟨?_, hhandle, Nat.le_refl _, ⟨c, ?_⟩, ⟨hp, ?_, rfl⟩, ?_, hplan⟩, ?_⟩
  · rw [htold, Function.update_of_ne hne]
  · rw [hrules, Function.update_of_ne hne]
  · exact ⟨[⟨c, 0⟩], hout.symm⟩
  · exact hrunning.trans hrun.symm
  · rw [hstore]
  · rw [htold, hstore]
    exact hholds
  · rw [hrules]
    exact Function.update_self _ _ _
  · show (m.hub.create d).2.outlets[m.hub.outlets.length]? = _
    rw [hout]
    exact List.getElem?_concat_length
  · simp [Subscription.toRecord, hd]
  · rw [htold]
    exact Function.update_self _ _ _
  · show (m.hub.create d).2.outlets.length = _
    rw [hout, List.length_append, List.length_singleton]

/-- a record that is visited is alive then, or nothing came of it and the store is as it was -/
theorem activate_visits (hv : FaithfulStore.Holds m.store.base (SubscriptionStore.told m.store))
    (hs : SubscriptionStore.told m.store s.id = some s.toRecord) (hk : Keepable σ m.hub.supply s.options)
    (hrule : m.engine.rules.find? s.id = none) (hrun : m.scheduler.isShutDown = false) :
    Ensures (activate s) m fun a n =>
      (a = .ok () ∧ m.CanRevive s.toRecord ∧ m.Visited n s.id ∧
        (∃ rule, m.Alive n s.toRecord rule m.hub.outlets.length) ∧
        n.hub.outlets.length = m.hub.outlets.length + 1) ∨
      ((∃ f, a = .error f) ∧ ¬ m.CanRevive s.toRecord ∧ m.Retracted n s.options ∧ n.store = m.store) := by
  refine Ensures.imp (activate_cases m s hrule) fun a n hpost => ?_
  rcases hpost with ⟨rfl, d, e, p, hd, he, hp, hput, rfl⟩ | ⟨hf, hback, ⟨hnot, hstore⟩ | ⟨e, f, hmade, hput, hstore⟩⟩
  · have href : m.store.refusals s.id = none := by
      cases href : m.store.refusals s.id with
      | none => rfl
      | some f =>
        rw [ReluctantStore.put_refused (s := ⟨s.id, s.options, e⟩) href] at hput
        cases hput
    obtain ⟨hvisited, halive, hlength⟩ := enlivened_alive hv hs hk hrun href hd he hp
    exact Or.inl ⟨rfl, ⟨⟨⟨e, d, hd, he⟩, p, hp⟩, href⟩, hvisited, ⟨_, halive⟩, hlength⟩
  · exact Or.inr ⟨hf, fun hcan => hnot hcan.1, hback, hstore⟩
  · cases href : m.store.refusals s.id with
    | some f' =>
      have hrefused := ReluctantStore.put_refused (s := ⟨s.id, s.options, e⟩) href
      refine Or.inr ⟨hf, fun hcan => ?_, hback, hstore.trans (congrArg Prod.snd hrefused)⟩
      cases href.symm.trans hcan.2
    | none =>
      -- the store behind has a record of this id, and so it does not refuse
      obtain ⟨d, hd, he⟩ := hmade
      have hfits : FaithfulStore.Fits σ ⟨s.id, s.options, e.location⟩ :=
        hk s.id e.location ⟨d, m.hub, e, hd, rfl, he, rfl⟩
      have hknown := FaithfulStore.put_known hv (s := ⟨s.id, s.options, e⟩) hfits hs
      rw [ReluctantStore.put_passed (s := ⟨s.id, s.options, e⟩) href] at hput
      cases hknown.symm.trans hput

/-- what nothing came of is deleted then -/
theorem delete_visits (hv : FaithfulStore.Holds m.store.base (SubscriptionStore.told m.store)) {r : SubscriptionRecord}
    (hr : SubscriptionStore.told m.store s.id = some r) (hrule : m.engine.rules.find? s.id = none)
    (hback : m.Retracted n s.options) (hstore : n.store = m.store) :
    Ensures (onStore (SubscriptionStore.delete · s.id)) n fun _ n' =>
      m.Visited n' s.id ∧ m.Dropped n' s.id ∧ m.LetGo n' s.options := by
  have hdeleted : SubscriptionStore.delete n.store s.id = m.store.pass (SubscriptionStore.delete m.store.base s.id) :=
    congrArg (SubscriptionStore.delete · s.id) hstore
  obtain ⟨-, hholds⟩ := FaithfulStore.delete_known hv hr
  have htold : SubscriptionStore.told (SubscriptionStore.delete n.store s.id).2 =
      update (SubscriptionStore.told m.store) s.id none := by
    rw [hdeleted, ReluctantStore.told_base]
    exact FaithfulStore.told_eq hholds
  have houtlets : m.hub.outlets <+: n.hub.outlets := by
    rcases hback.letGo with ⟨-, hout⟩ | ⟨e, c, -, hout⟩
    · exact hout ▸ List.prefix_rfl
    · exact ⟨_, hout.symm⟩
  refine ⟨⟨fun k hk => ⟨?_, congrFun hback.rules k, ?_⟩, houtlets, hback.setting, hback.compiler, ?_, ?_, ?_⟩,
    ⟨?_, (congrFun hback.rules s.id).trans hrule, ?_⟩, hback.letGo⟩
  · exact (congrFun htold k).trans (Function.update_of_ne hk _ _)
  · exact congrArg (fun p : Scheduler Unit => p.jobs.find? k) hback.scheduler
  · exact congrArg Scheduler.isShutDown hback.scheduler
  · exact congrArg (fun x => x.2.refusals) hdeleted
  · show FaithfulStore.Holds (SubscriptionStore.delete n.store s.id).2.base
      (SubscriptionStore.told (SubscriptionStore.delete n.store s.id).2)
    rw [htold, hdeleted]
    exact hholds
  · exact (congrFun htold s.id).trans (Function.update_self _ _ _)
  · exact congrArg (fun p : Scheduler Unit => p.jobs.find? s.id) hback.scheduler

end Visits

end Manager

end EventBroker
