/-
What every operation of a manager makes of its picture.

One lemma for every operation, about a manager over a faithful store: whatever its parts go through on the way, an
operation ends in one of a few changes of the picture, or it leaves the picture alone. What failed half-way is taken
back.
-/
import EventBroker.Proofs.Manager.Picture

namespace EventBroker

open Function (update)

namespace Picture

/-- what a manager tells of a record: it has the address of the endpoint in use -/
def report (p : Picture) (r : SubscriptionRecord) : SubscriptionRecord :=
  { r with location := ((p.rules r.id).map fun rule => rule.endpoint.location).getD r.location }

/-- ids are visited one after the other; dormant records are brought to life, and those that cannot live go -/
inductive Revives : Picture → List String → Picture → Prop where
  | done (p : Picture) : Revives p [] p
  | active {p p' : Picture} {id : String} {ids : List String} {rule : Rule} :
      p.rules id = some rule → Revives p ids p' → Revives p (id :: ids) p'
  | revived {p p' : Picture} {r : SubscriptionRecord} {location : String} {ids : List String} {rule : Rule} :
      p.records r.id = some r → p.Admits ⟨r.id, r.options, location⟩ rule →
      Revives (p.activate ⟨r.id, r.options, location⟩ rule) ids p' → Revives p (r.id :: ids) p'
  | dropped {p p' : Picture} {r : SubscriptionRecord} {ids : List String} :
      p.records r.id = some r → p.rules r.id = none → ¬ p.CanServe r.options → Revives (p.drop r.id) ids p' →
      Revives p (r.id :: ids) p'

/-- every id that is stored is visited once -/
def Restores (p p' : Picture) : Prop :=
  ∃ ids : List String, ids.Nodup ∧ (∀ id, id ∈ ids ↔ p.records id ≠ none) ∧ p.Revives ids p'

end Picture

namespace Manager

variable {σ : Type} [SubscriptionStore σ] [FaithfulStore σ] {m : Manager σ} {p : Picture}

/-! ## Subscribing and renewing -/

theorem activateNew_ensures (h : m.Shows p) {id : String} {o : SubscribeOptions} {e : Endpoint}
    (hk : Keepable σ p.supply o) (hres : Resolves p.supply o e.location) (hfree : p.records id = none)
    (hrule : p.rules id = none) :
    Ensures (activateNew id o e) m fun a m' =>
      ((∃ f, a = .error f) ∧ m'.Shows p) ∨
      ∃ rule, a = .ok ⟨id, o, e⟩ ∧ p.Admits ⟨id, o, e.location⟩ rule ∧
        m'.Shows (p.activate ⟨id, o, e.location⟩ rule) := by
  unfold activateNew
  refine Ensures.bind (put_ensures h (s := ⟨id, o, e⟩) hk hres) fun a m₁ h₁ => ?_
  rcases h₁ with ⟨rfl, h₁⟩ | ⟨⟨f, rfl⟩, -, h₁⟩
  · refine Ensures.bind (register_ensures h₁ ⟨id, o, e⟩ e rfl) fun b m₂ h₂ => ?_
    rcases h₂ with ⟨rfl, -, rule, hserves, -, h₂⟩ | ⟨⟨f, rfl⟩, h₂, -⟩
    · refine Ensures.bind (schedule_ensures h₂ ⟨id, o, e⟩) fun _ m₃ h₃ => ?_
      exact Ensures.pure (Or.inr ⟨rule, rfl, ⟨hrule, hres, hserves⟩, h₃⟩)
    · -- the record that was put in goes again
      refine Ensures.bind (delete_ensures h₂ id) fun _ m₃ h₃ => ?_
      refine Ensures.bind (destroy_ensures h₃.2 e) fun _ m₄ h₄ => ?_
      have hback : update (update p.records id (some ⟨id, o, e.location⟩)) id none = p.records := by
        rw [Function.update_idem, ← hfree, Function.update_eq_self]
      have hsame : m₄.Shows { p with records := update (update p.records id (some ⟨id, o, e.location⟩)) id none } := h₄
      rw [hback] at hsame
      exact Ensures.pure (Or.inl ⟨⟨f, rfl⟩, hsame⟩)
  · refine Ensures.bind (destroy_ensures h₁ e) fun _ m₂ h₂ => ?_
    exact Ensures.pure (Or.inl ⟨⟨f, rfl⟩, h₂⟩)

theorem subscribe_ensures (h : m.Shows p) {o : SubscribeOptions} (hk : Keepable σ p.supply o) :
    Yields (subscribe o) m fun a m' =>
      ((∃ f, a = .error f) ∧ m'.Shows p) ∨
      ∃ s rule, a = .ok s ∧ s.options = o ∧ p.scheduler.isShutDown = false ∧ p.records s.id = none ∧
        p.Admits s.toRecord rule ∧ m'.Shows (p.activate s.toRecord rule) := by
  refine subscribe_yields (fun f m₁ h₁ => Or.inl ⟨⟨f, rfl⟩, ?_⟩) fun e m₁ h₁ => ?_
  · cases h₁ with
    | undefined => exact h
    | refused => exact (create_ensures h _).2
    | late _ _ _ => exact destroy_ensures (create_ensures h _).2 _
  · cases h₁ with
    | made hd he hrun =>
      have hres : Resolves p.supply o e.location := ⟨_, m.hub, e, hd, h.supply, he, rfl⟩
      have hopen : p.scheduler.isShutDown = false := h.scheduler ▸ hrun
      refine (drawId_ensures (create_ensures h _).2).imp fun id m₂ ⟨hfree, hrule, h₂⟩ => ?_
      refine Ensures.imp (activateNew_ensures h₂ hk hres hfree hrule) fun a m₃ h₃ => ?_
      rcases h₃ with h₃ | ⟨rule, rfl, hadm, h₃⟩
      · exact Or.inl h₃
      · exact Or.inr ⟨_, rule, rfl, rfl, hopen, hfree, hadm, h₃⟩

theorem renew_ensures (h : m.Shows p) (id : String) (t : Timestamp) :
    Ensures (renew id t) m fun a m' =>
      ((∃ f, a = .error f) ∧ m'.Shows p) ∨
      ∃ r, a = .ok t ∧ p.scheduler.isShutDown = false ∧ p.records id = some r ∧ m'.Shows (p.prolong r t) := by
  unfold renew
  refine Ensures.bind (isRunning_ensures h) fun b m₁ ⟨hb, h₁⟩ => ?_
  split
  · exact Ensures.pure (Or.inl ⟨⟨_, rfl⟩, h₁⟩)
  · rename_i hrun
    have hopen : p.scheduler.isShutDown = false := by
      rw [hb] at hrun
      simpa using hrun
    refine Ensures.bind (renewRecord_ensures h₁ id t) fun a m₂ h₂ => ?_
    rcases h₂ with ⟨r, s, hr, rfl, hs, h₂⟩ | ⟨rfl, -, h₂⟩
    · refine Ensures.bind (schedule_ensures h₂ s) fun _ m₃ h₃ => ?_
      have hid : r.id = id := FaithfulStore.keyed h.holds hr
      have hsid : s.id = r.id := congrArg SubscriptionRecord.id hs
      have hst : s.terminationTime = some t := congrArg (fun r => r.options.terminationTime) hs
      refine Ensures.pure (Or.inr ⟨r, rfl, hopen, hr, ?_⟩)
      rw [hsid, hst, ← hid] at h₃
      exact h₃
    · exact Ensures.pure (Or.inl ⟨⟨_, rfl⟩, h₂⟩)

/-! ## Ends -/

/-- the last steps of a teardown: the plan goes, then the record -/
theorem forget_ensures {α : Type} {id : String} (h : m.Shows { p with rules := update p.rules id none })
    {f : Except BrokerError Subscription → Act σ α} (hf : ∀ a m', (f a m').2 = m') :
    Ensures (do unschedule id; f (← onStore (SubscriptionStore.delete · id))) m fun _ m' =>
      m'.Shows (p.remove id) := by
  refine Ensures.bind (unschedule_ensures h id) fun _ m₁ h₁ => ?_
  refine Ensures.bind (delete_ensures h₁ id) fun a m₂ h₂ => ?_
  show Shows (f a m₂).2 _
  rw [hf]
  exact h₂.2

theorem teardown_ensures (h : m.Shows p) (id : String) (stored : Option Subscription) :
    Ensures (teardown id stored) m fun _ m' => m'.Shows (p.remove id) := by
  unfold teardown
  refine Ensures.bind (removeRule_ensures h id) fun a m₁ h₁ => ?_
  obtain ⟨-, h₁⟩ := h₁
  cases a with
  | ok r =>
    refine Ensures.pure_bind (Ensures.bind (destroy_ensures h₁ r.endpoint) fun _ m₂ h₂ => ?_)
    exact forget_ensures h₂ fun a _ => by cases a <;> rfl
  | error f =>
    cases stored with
    | some s =>
      refine Ensures.pure_bind (Ensures.bind (destroy_ensures h₁ s.endpoint) fun _ m₂ h₂ => ?_)
      exact forget_ensures h₂ fun a _ => by cases a <;> rfl
    | none =>
      refine Ensures.pure_bind (Ensures.pure_bind ?_)
      exact forget_ensures h₁ fun a _ => by cases a <;> rfl

/-- an end that nothing knows of changes nothing -/
theorem unsubscribe_ensures (h : m.Shows p) (id : String) :
    Ensures (unsubscribe id) m fun a m' =>
      (a = .error (.unknownSubscription id) ∧ p.records id = none ∧ p.rules id = none ∧ m'.Shows p) ∨
      ((p.records id ≠ none ∨ p.rules id ≠ none) ∧ m'.Shows (p.remove id)) := by
  unfold unsubscribe
  refine Ensures.bind (lookUp_ensures h id) fun s m₁ ⟨hs, h₁⟩ => ?_
  refine Ensures.bind (Ensures.get (Q := fun x m' => x = m' ∧ m'.Shows p) ⟨rfl, h₁⟩) fun x m₂ ⟨hx, h₂⟩ => ?_
  subst hx
  rw [h₂.contains]
  split
  · rename_i hnone
    rw [Bool.and_eq_true, Option.isNone_iff_eq_none, Bool.not_eq_true', Option.isSome_eq_false_iff,
      Option.isNone_iff_eq_none] at hnone
    rw [hnone.1] at hs
    exact Ensures.pure (Or.inl ⟨rfl, hs.symm, hnone.2, h₂⟩)
  · rename_i hsome
    have hknown : p.records id ≠ none ∨ p.rules id ≠ none := by
      rw [← hs]
      cases s with
      | some s => exact Or.inl (by simp)
      | none =>
        refine Or.inr fun hr => hsome ?_
        simp [hr]
    refine Ensures.bind (teardown_ensures h₂ id s) fun fs m₃ h₃ => ?_
    cases fs with
    | nil => exact Ensures.pure (Or.inr ⟨hknown, h₃⟩)
    | cons f fs => exact Ensures.pure (Or.inr ⟨hknown, h₃⟩)

/-- an end that was claimed comes about if the record still has it -/
theorem expire_ensures (h : m.Shows p) (id : String) (t : Timestamp) :
    Ensures (expire id t) m fun _ m' =>
      (∃ r, p.records id = some r ∧ r.options.terminationTime = some t ∧ m'.Shows (p.remove id)) ∨
      ((∀ r, p.records id = some r → r.options.terminationTime ≠ some t) ∧ m'.Shows p) := by
  unfold expire
  refine Ensures.bind (lookUp_ensures h id) fun s m₁ ⟨hs, h₁⟩ => ?_
  cases s with
  | none =>
    refine Ensures.pure (Or.inr ⟨fun r hr => ?_, h₁⟩)
    rw [hr] at hs
    cases hs
  | some s =>
    have hrec : p.records id = some s.toRecord := hs.symm
    dsimp only
    split
    · rename_i heq
      refine Ensures.bind (teardown_ensures h₁ id (some s)) fun _ m₂ h₂ => ?_
      exact Or.inl ⟨s.toRecord, hrec, eq_of_beq heq, h₂⟩
    · rename_i hne
      refine Ensures.pure (Or.inr ⟨fun r hr heq => hne ?_, h₁⟩)
      rw [hrec] at hr
      cases hr
      exact beq_iff_eq.2 heq

/-! ## Dormant records -/

/-- a record is dropped only if its options cannot be served -/
theorem activate_ensures (h : m.Shows p) {s : Subscription} (hs : p.records s.id = some s.toRecord)
    (hrule : p.rules s.id = none) :
    Ensures (activate s) m fun a m' =>
      (∃ location rule, a = .ok () ∧ p.Admits ⟨s.id, s.options, location⟩ rule ∧
        m'.Shows (p.activate ⟨s.id, s.options, location⟩ rule)) ∨
      ((∃ f, a = .error f) ∧ ¬ p.CanServe s.options ∧ m'.Shows p) := by
  have hk : Keepable σ p.supply s.options := h.keepable s.id s.toRecord hs
  unfold activate
  split
  · rename_i hnone
    refine Ensures.pure (Or.inr ⟨⟨_, rfl⟩, fun hcan => ?_, h⟩)
    obtain ⟨⟨d, hd, -⟩, -⟩ := hcan
    rw [hnone] at hd
    cases hd
  · rename_i d hd
    refine Ensures.bind (create_ensures h d) fun a m₁ ⟨ha, h₁⟩ => ?_
    cases a with
    | error f =>
      refine Ensures.pure (Or.inr ⟨⟨f, rfl⟩, fun hcan => ?_, h₁⟩)
      obtain ⟨⟨d', hd', hmake⟩, -⟩ := hcan
      obtain ⟨e, he⟩ := hmake m.hub h.supply h.queues
      rw [hd] at hd'
      cases hd'
      rw [he] at ha
      cases ha
    | ok e =>
      have hres : Resolves p.supply s.options e.location := ⟨d, m.hub, e, hd, h.supply, ha.symm, rfl⟩
      refine Ensures.bind (register_ensures h₁ ⟨s.id, s.options, e⟩ e rfl) fun b m₂ h₂ => ?_
      rcases h₂ with ⟨rfl, -, rule, hserves, -, h₂⟩ | ⟨⟨f, rfl⟩, h₂, hwhy⟩
      · refine Ensures.bind (put_ensures h₂ (s := ⟨s.id, s.options, e⟩) hk hres) fun c m₃ h₃ => ?_
        rcases h₃ with ⟨rfl, h₃⟩ | ⟨-, hnew, -⟩
        · refine Ensures.bind (schedule_ensures h₃ ⟨s.id, s.options, e⟩) fun _ m₄ h₄ => ?_
          exact Ensures.pure (Or.inl ⟨e.location, rule, rfl, ⟨hrule, hres, hserves⟩, h₄⟩)
        · cases hs.symm.trans hnew
      · refine Ensures.bind (destroy_ensures h₂ e) fun _ m₃ h₃ => ?_
        refine Ensures.pure (Or.inr ⟨⟨f, rfl⟩, fun hcan => ?_, h₃⟩)
        obtain ⟨-, g, hg⟩ := hcan
        exact hwhy hrule g hg

theorem activateAll_ensures (h : m.Shows p) {ss : List Subscription} (hnodup : (ss.map Subscription.id).Nodup)
    (hrec : ∀ s ∈ ss, p.records s.id = some s.toRecord) :
    Ensures (activateAll ss) m fun _ m' => ∃ p', p.Revives (ss.map Subscription.id) p' ∧ m'.Shows p' := by
  induction ss generalizing m p with
  | nil => exact ⟨p, .done p, h⟩
  | cons s ss ih =>
    obtain ⟨hnot, hnodup⟩ := List.nodup_cons.1 hnodup
    have hs : p.records s.id = some s.toRecord := hrec s List.mem_cons_self
    -- visiting `s` leaves the records of the others alone
    have hothers : ∀ (x : Option SubscriptionRecord), ∀ t ∈ ss,
        update p.records s.id x t.id = some t.toRecord := by
      intro x t ht
      have hne : t.id ≠ s.id := fun he => hnot (he ▸ List.mem_map_of_mem ht)
      rw [Function.update_of_ne hne]
      exact hrec t (List.mem_cons_of_mem s ht)
    unfold activateAll
    refine Ensures.bind (Ensures.get (Q := fun x m' => x = m' ∧ m'.Shows p) ⟨rfl, h⟩) fun x m₁ ⟨hx, h₁⟩ => ?_
    subst hx
    split
    · rename_i hactive
      rw [h₁.contains] at hactive
      obtain ⟨rule, hrule⟩ := Option.isSome_iff_exists.1 hactive
      refine Ensures.pure_bind (Ensures.bind (ih h₁ hnodup fun t ht => hrec t (List.mem_cons_of_mem s ht))
        fun _ m₂ h₂ => ?_)
      obtain ⟨p', hp', h₂⟩ := h₂
      exact ⟨p', .active hrule hp', h₂⟩
    · rename_i hdormant
      have hrule : p.rules s.id = none := by
        rw [h₁.contains] at hdormant
        simpa using hdormant
      refine Ensures.bind (activate_ensures h₁ hs hrule) fun a m₂ h₂ => ?_
      rcases h₂ with ⟨location, rule, rfl, hadm, h₂⟩ | ⟨⟨f, rfl⟩, hcannot, h₂⟩
      · refine Ensures.pure_bind (Ensures.bind (ih h₂ hnodup (hothers _)) fun _ m₃ h₃ => ?_)
        obtain ⟨p', hp', h₃⟩ := h₃
        exact ⟨p', .revived (r := s.toRecord) hs hadm hp', h₃⟩
      · refine Ensures.bind (delete_ensures h₂ s.id) fun _ m₃ h₃ => ?_
        refine Ensures.pure_bind (Ensures.bind (ih h₃.2 hnodup (hothers _)) fun _ m₄ h₄ => ?_)
        obtain ⟨p', hp', h₄⟩ := h₄
        exact ⟨p', .dropped (r := s.toRecord) hs hrule hcannot hp', h₄⟩

/-- a restore visits every stored id -/
theorem restore_ensures (h : m.Shows p) : Ensures restore m fun _ m' => ∃ p', p.Restores p' ∧ m'.Shows p' := by
  have hall : Ensures (onStore SubscriptionStore.all) m fun ss m' => ss = (SubscriptionStore.all m.store).1 ∧
      m'.Shows p := ⟨rfl, h.onStore (FaithfulStore.all_holds h.holds) h.keepable⟩
  unfold restore
  refine Ensures.bind hall fun ss m₁ ⟨hss, h₁⟩ => ?_
  subst hss
  refine Ensures.imp (activateAll_ensures h₁ (FaithfulStore.all_nodup h.holds) (FaithfulStore.all_sound h.holds))
    fun _ m₂ h₂ => ?_
  obtain ⟨p', hp', h₂⟩ := h₂
  refine ⟨p', ⟨_, FaithfulStore.all_nodup h.holds, fun id => ?_, hp'⟩, h₂⟩
  constructor
  · intro hid
    obtain ⟨s, hs, rfl⟩ := List.mem_map.1 hid
    rw [FaithfulStore.all_sound h.holds s hs]
    exact Option.some_ne_none _
  · intro hid
    obtain ⟨r, hr⟩ := Option.ne_none_iff_exists'.1 hid
    obtain ⟨s, hs, rfl⟩ := FaithfulStore.all_complete h.holds hr
    exact List.mem_map_of_mem hs

/-! ## Shutting down, looking and delivering -/

theorem destroyAll_ensures (h : m.Shows p) (rs : List Rule) : Ensures (destroyAll rs) m fun _ m' => m'.Shows p := by
  induction rs generalizing m with
  | nil => exact h
  | cons r rs ih => exact Ensures.bind (destroy_ensures h r.endpoint) fun _ m₁ h₁ => ih h₁

theorem shutdown_ensures (h : m.Shows p) : Ensures shutdown m fun _ m' => m'.Shows p.close := by
  have hclosed : Shows { m with
      scheduler := m.scheduler.shutdown
      engine := { m.engine with rules := .empty } } p.close := by
    refine { h with rules := ?_, scheduler := congrArg Scheduler.shutdown h.scheduler }
    funext id
    simp [Picture.close]
  exact destroyAll_ensures hclosed _

theorem withLiveEndpoint_toRecord (h : m.Shows p) (s : Subscription) :
    (m.withLiveEndpoint s).toRecord = p.report s.toRecord := by
  unfold withLiveEndpoint Picture.report
  rw [h.endpoint]
  cases hr : p.rules s.id with
  | none => simp [Subscription.toRecord, hr]
  | some rule => simp [Subscription.toRecord, hr, Subscription.location]

theorem getSubscription_ensures (h : m.Shows p) (id : String) :
    Ensures (getSubscription id) m fun s m' =>
      s.map Subscription.toRecord = (p.records id).map p.report ∧ m'.Shows p := by
  unfold getSubscription
  refine Ensures.bind (lookUp_ensures h id) fun s m₁ ⟨hs, h₁⟩ => ?_
  refine Ensures.bind (Ensures.get (Q := fun x m' => x = m' ∧ m'.Shows p) ⟨rfl, h₁⟩) fun x m₂ ⟨hx, h₂⟩ => ?_
  subst hx
  refine Ensures.pure ⟨?_, h₂⟩
  rw [← hs]
  cases s with
  | none => rfl
  | some s => exact congrArg some (withLiveEndpoint_toRecord h₂ s)

/-- a list of all subscriptions tells of every record once -/
theorem subscriptions_ensures (h : m.Shows p) :
    Ensures subscriptions m fun ss m' =>
      (ss.map Subscription.id).Nodup ∧
      (∀ r, r ∈ ss.map Subscription.toRecord ↔ ∃ id s, p.records id = some s ∧ r = p.report s) ∧ m'.Shows p := by
  have hall : Ensures (onStore SubscriptionStore.all) m fun ss m' => ss = (SubscriptionStore.all m.store).1 ∧
      m'.Shows p := ⟨rfl, h.onStore (FaithfulStore.all_holds h.holds) h.keepable⟩
  unfold subscriptions
  refine Ensures.bind hall fun ss m₁ ⟨hss, h₁⟩ => ?_
  refine Ensures.bind (Ensures.get (Q := fun x m' => x = m' ∧ m'.Shows p) ⟨rfl, h₁⟩) fun x m₂ ⟨hx, h₂⟩ => ?_
  subst hx
  have hids : (ss.map x.withLiveEndpoint).map Subscription.id = ss.map Subscription.id := by
    rw [List.map_map]
    refine List.map_congr_left fun s _ => ?_
    exact congrArg SubscriptionRecord.id (withLiveEndpoint_toRecord h₂ s)
  refine Ensures.pure ⟨?_, fun r => ?_, h₂⟩
  · rw [hids, hss]
    exact FaithfulStore.all_nodup h.holds
  · rw [List.map_map, List.mem_map]
    constructor
    · rintro ⟨s, hs, rfl⟩
      rw [hss] at hs
      exact ⟨s.id, s.toRecord, FaithfulStore.all_sound h.holds s hs, withLiveEndpoint_toRecord h₂ s⟩
    · rintro ⟨id, r', hr', rfl⟩
      obtain ⟨s, hs, rfl⟩ := FaithfulStore.all_complete h.holds hr'
      have hsame : s.toRecord = r' := Option.some.inj ((FaithfulStore.all_sound h.holds s hs).symm.trans hr')
      exact ⟨s, hss ▸ hs, (withLiveEndpoint_toRecord h₂ s).trans (congrArg p.report hsame)⟩

theorem receive_ensures (h : m.Shows p) (message : Message) :
    Ensures (receive message) m fun _ m' => m'.Shows p :=
  h.onHub (Engine.dispatch_setting m.engine message m.clock.now m.hub)

end Manager

end EventBroker
