/-
Managers whose store fails now and then.

Let the changes of a store fail at any point, roll-backs included. Then an operation can end half-way: a record may stay
that was to go, and it stays without a rule. `Picture.Slips` lists what can come of a picture.

A manager over a flaky store is looked at through the store behind (`Manager.sound`), which shows a picture. Only the
changes of the store have to be looked at anew (`change_flaky`), for all other parts are those of a manager over the
store behind; then there is one lemma for every operation.
-/
import EventBroker.Proofs.Manager.Operations
import EventBroker.Proofs.Store.Flaky

namespace EventBroker

open Function (update)

/-! ## What operations can leave -/

namespace Picture

/-- an id has no rule and no plan any more, and its record stays -/
def silence (p : Picture) (id : String) : Picture :=
  { p with rules := update p.rules id none, scheduler := p.unplanned id }

/-- a record is put in that has no rule -/
def lay (p : Picture) (r : SubscriptionRecord) : Picture := { p with records := update p.records r.id (some r) }

/-- a record that is put in under an unused id and goes again changes nothing -/
theorem drop_lay {p : Picture} {r : SubscriptionRecord} (h : p.records r.id = none) : (p.lay r).drop r.id = p := by
  unfold drop lay
  dsimp only
  rw [Function.update_idem, ← h, Function.update_eq_self]

/-- neither a record nor a rule has this id -/
def Unused (p : Picture) (id : String) : Prop := p.records id = none ∧ p.rules id = none

/-- what an operation makes of a picture if changes of the store may fail, and if it is about these ids only -/
inductive Slips (ids : String → Prop) : Picture → Picture → Prop where
  | done (p : Picture) : Slips ids p p
  | activated {p p' : Picture} {r : SubscriptionRecord} {rule : Rule} :
      ids r.id → Slips ids (p.activate r rule) p' → Slips ids p p'
  | prolonged {p p' : Picture} {r : SubscriptionRecord} {t : Timestamp} :
      ids r.id → p.records r.id = some r → Slips ids (p.prolong r t) p' → Slips ids p p'
  | removed {p p' : Picture} {id : String} : ids id → Slips ids (p.remove id) p' → Slips ids p p'
  | silenced {p p' : Picture} {id : String} : ids id → Slips ids (p.silence id) p' → Slips ids p p'
  | dropped {p p' : Picture} {id : String} : ids id → p.rules id = none → Slips ids (p.drop id) p' → Slips ids p p'
  | laid {p p' : Picture} {r : SubscriptionRecord} :
      ids r.id → p.rules r.id = none → (∀ f, compiled p.compiler r.options ≠ .ok f) → Slips ids (p.lay r) p' →
      Slips ids p p'

namespace Slips

variable {ids : String → Prop} {p p' : Picture}

theorem supply (h : p.Slips ids p') : p'.supply = p.supply := by
  induction h with
  | done p => rfl
  | activated _ _ ih => exact ih
  | prolonged _ _ _ ih => exact ih
  | removed _ _ ih => exact ih
  | silenced _ _ ih => exact ih
  | dropped _ _ _ ih => exact ih
  | laid _ _ _ _ ih => exact ih

/-- other ids keep their records and their rules -/
theorem spares (h : p.Slips ids p') {id : String} (hid : ¬ ids id) :
    p'.records id = p.records id ∧ p'.rules id = p.rules id := by
  have hne : ∀ k, ids k → id ≠ k := by
    rintro k hk rfl
    exact hid hk
  induction h with
  | done p => exact ⟨rfl, rfl⟩
  | activated hk _ ih =>
    exact ⟨ih.1.trans (Function.update_of_ne (hne _ hk) _ _), ih.2.trans (Function.update_of_ne (hne _ hk) _ _)⟩
  | prolonged hk _ _ ih => exact ⟨ih.1.trans (Function.update_of_ne (hne _ hk) _ _), ih.2⟩
  | removed hk _ ih =>
    exact ⟨ih.1.trans (Function.update_of_ne (hne _ hk) _ _), ih.2.trans (Function.update_of_ne (hne _ hk) _ _)⟩
  | silenced hk _ ih => exact ⟨ih.1, ih.2.trans (Function.update_of_ne (hne _ hk) _ _)⟩
  | dropped hk _ _ ih => exact ⟨ih.1.trans (Function.update_of_ne (hne _ hk) _ _), ih.2⟩
  | laid hk _ _ _ ih => exact ⟨ih.1.trans (Function.update_of_ne (hne _ hk) _ _), ih.2⟩

end Slips

end Picture

/-! ## Managers over flaky stores -/

namespace Manager

variable {σ : Type}

/-- the same manager over the store behind -/
def sound (m : Manager (FlakyStore σ)) : Manager σ :=
  ⟨m.store.base, m.hub, m.engine, m.scheduler, m.clock, m.elapsed, m.ids, m.idsDrawn⟩

/-- what does not change the store does the same over the store behind -/
theorem Ensures.of_sound {α : Type} {a : Act (FlakyStore σ) α} {a' : Act σ α} {m : Manager (FlakyStore σ)}
    {Q : α → Manager σ → Prop} (h : Ensures a' m.sound Q) (hanswer : (a m).1 = (a' m.sound).1)
    (hafter : (a m).2.sound = (a' m.sound).2) : Ensures a m fun x m' => Q x m'.sound := by
  show Q (a m).1 (a m).2.sound
  rw [hanswer, hafter]
  exact h

theorem sound_schedule (m : Manager (FlakyStore σ)) (s : Subscription) :
    (schedule s m).2.sound = (schedule s m.sound).2 := by
  have hscheduler : m.sound.scheduler = m.scheduler := rfl
  have hnow : m.sound.clock.now = m.clock.now := rfl
  have helapsed : m.sound.elapsed = m.elapsed := rfl
  simp only [schedule, modify, modifyGet, MonadStateOf.modifyGet, StateT.modifyGet, hscheduler, hnow, helapsed]
  cases s.terminationTime with
  | none => rfl
  | some t =>
    dsimp only
    cases m.scheduler.schedule m.elapsed m.clock.now s.id t () with
    | ok scheduler => rfl
    | error f => rfl

theorem sound_unschedule (m : Manager (FlakyStore σ)) (id : String) :
    (unschedule id m).2.sound = (unschedule id m.sound).2 := by
  have hscheduler : m.sound.scheduler = m.scheduler := rfl
  simp only [unschedule, modify, modifyGet, MonadStateOf.modifyGet, StateT.modifyGet, hscheduler]
  cases m.scheduler.cancel id with
  | ok scheduler => rfl
  | error f => rfl

theorem sound_register (m : Manager (FlakyStore σ)) (s : Subscription) (e : Endpoint) :
    (register s e m).1 = (register s e m.sound).1 ∧ (register s e m).2.sound = (register s e m.sound).2 := by
  have heng : m.sound.engine = m.engine := rfl
  simp only [register, modifyGet, MonadStateOf.modifyGet, StateT.modifyGet, heng]
  cases m.engine.register s e with
  | ok engine => exact ⟨rfl, rfl⟩
  | error f => exact ⟨rfl, rfl⟩

theorem sound_removeRule (m : Manager (FlakyStore σ)) (id : String) :
    (removeRule id m).1 = (removeRule id m.sound).1 ∧ (removeRule id m).2.sound = (removeRule id m.sound).2 := by
  have heng : m.sound.engine = m.engine := rfl
  simp only [removeRule, modifyGet, MonadStateOf.modifyGet, StateT.modifyGet, heng]
  cases m.engine.remove id with
  | ok r => exact ⟨rfl, rfl⟩
  | error f => exact ⟨rfl, rfl⟩

/-- a rule is a matter of the engine alone -/
theorem register_keeps (m : Manager σ) (s : Subscription) (e : Endpoint) :
    Ensures (register s e) m fun _ m' => m'.hub = m.hub ∧ m'.store = m.store := by
  refine Ensures.modifyGet ?_
  cases m.engine.register s e with
  | ok engine => exact ⟨rfl, rfl⟩
  | error f => exact ⟨rfl, rfl⟩

variable [SubscriptionStore σ] [FaithfulStore σ] {m : Manager (FlakyStore σ)} {p : Picture}

theorem lookUp_flaky (h : m.sound.Shows p) (id : String) :
    Ensures (lookUp id) m fun s m' => s.map Subscription.toRecord = p.records id ∧ m'.sound.Shows p :=
  Ensures.of_sound (lookUp_ensures h id) rfl rfl

theorem create_flaky (h : m.sound.Shows p) (d : DeliveryDefinition) :
    Ensures (onHub (·.create d)) m fun r m' => r = (m.hub.create d).1 ∧ m'.sound.Shows p :=
  Ensures.of_sound (create_ensures h d) rfl rfl

theorem destroy_flaky (h : m.sound.Shows p) (e : Endpoint) :
    Ensures (destroy e) m fun _ m' => m'.sound.Shows p :=
  Ensures.of_sound (destroy_ensures h e) rfl rfl

theorem schedule_flaky (h : m.sound.Shows p) (s : Subscription) :
    Ensures (schedule s) m fun _ m' => m'.sound.Shows { p with scheduler := p.planned s.id s.terminationTime } :=
  Ensures.of_sound (schedule_ensures h s) rfl (sound_schedule m s)

theorem unschedule_flaky (h : m.sound.Shows p) (id : String) :
    Ensures (unschedule id) m fun _ m' => m'.sound.Shows { p with scheduler := p.unplanned id } :=
  Ensures.of_sound (unschedule_ensures h id) rfl (sound_unschedule m id)

theorem register_flaky (h : m.sound.Shows p) (s : Subscription) (e : Endpoint) (he : s.endpoint = e) :
    Ensures (register s e) m fun r m' =>
      (r = .ok () ∧ ∃ rule, rule.Serves p.compiler s.toRecord ∧ rule.endpoint = e ∧
        m'.sound.Shows { p with rules := update p.rules s.id (some rule) }) ∨
      ((∃ f, r = .error f) ∧ m'.sound.Shows p ∧
        (p.rules s.id = none → ∀ f, compiled p.compiler s.options ≠ .ok f)) := by
  obtain ⟨hanswer, hafter⟩ := sound_register m s e
  refine Ensures.imp (Ensures.of_sound (register_ensures h s e he) hanswer hafter) fun r m' h' => ?_
  rcases h' with ⟨hr, -, h'⟩ | h'
  · exact Or.inl ⟨hr, h'⟩
  · exact Or.inr h'

theorem removeRule_flaky (h : m.sound.Shows p) (id : String) :
    Ensures (removeRule id) m fun _ m' => m'.sound.Shows { p with rules := update p.rules id none } := by
  obtain ⟨hanswer, hafter⟩ := sound_removeRule m id
  exact Ensures.imp (Ensures.of_sound (removeRule_ensures h id) hanswer hafter) fun _ _ h' => h'.2

/-- a change of the store is one of the store behind, or it fails and nothing has changed -/
theorem change_flaky {α : Type} {act : σ → Except BrokerError α × σ} {Q : Except BrokerError α → Manager σ → Prop}
    (h : m.sound.Shows p) (hbase : Ensures (onStore act) m.sound Q) :
    Ensures (onStore fun f : FlakyStore σ => f.change act) m fun r m' =>
      Q r m'.sound ∨ (∃ f, r = .error f) ∧ m.store.failures m.store.tried ≠ none ∧ m'.sound.Shows p := by
  show Q (m.store.change act).1 ⟨(m.store.change act).2.base, _, _, _, _, _, _, _⟩ ∨
    (∃ f, (m.store.change act).1 = .error f) ∧ _ ∧ Shows ⟨(m.store.change act).2.base, _, _, _, _, _, _, _⟩ p
  rcases m.store.change_cases act with ⟨hf, hdue, hsame⟩ | ⟨hanswer, hafter⟩
  · rw [hsame]
    exact Or.inr ⟨hf, hdue, h⟩
  · rw [hanswer, hafter]
    exact Or.inl hbase

theorem put_flaky (h : m.sound.Shows p) {s : Subscription} (hk : Keepable σ p.supply s.options)
    (hres : Resolves p.supply s.options s.location) :
    Ensures (onStore (SubscriptionStore.put · s)) m fun r m' =>
      ((r = .ok () ∧ m'.sound.Shows (p.lay s.toRecord)) ∨ ((∃ f, r = .error f) ∧ m'.sound.Shows p)) ∧
        m'.store.failures = m.store.failures ∧ m'.store.tried = m.store.tried + 1 := by
  have hcounts : Ensures (onStore (SubscriptionStore.put · s)) m fun _ m' =>
      m'.store.failures = m.store.failures ∧ m'.store.tried = m.store.tried + 1 :=
    m.store.change_counts (SubscriptionStore.put · s)
  refine Ensures.and (Ensures.imp (change_flaky h (put_ensures h hk hres)) fun r m' h' => ?_) hcounts
  rcases h' with (hok | ⟨hf, -, h'⟩) | ⟨hf, -, h'⟩
  · exact Or.inl hok
  · exact Or.inr ⟨hf, h'⟩
  · exact Or.inr ⟨hf, h'⟩

theorem delete_flaky (h : m.sound.Shows p) (id : String) :
    Ensures (onStore (SubscriptionStore.delete · id)) m fun _ m' =>
      m'.sound.Shows (p.drop id) ∨ m.store.failures m.store.tried ≠ none ∧ m'.sound.Shows p := by
  refine Ensures.imp (change_flaky h (delete_ensures h id)) fun r m' h' => ?_
  exact h'.imp And.right And.right

theorem renewRecord_flaky (h : m.sound.Shows p) (id : String) (t : Timestamp) :
    Ensures (onStore (SubscriptionStore.renew · id t)) m fun a m' =>
      (∃ r s, p.records id = some r ∧ a = .ok s ∧ s.toRecord = r.renewed t ∧
        m'.sound.Shows { p with records := update p.records id (some (r.renewed t)) }) ∨
      ((∃ f, a = .error f) ∧ m'.sound.Shows p) := by
  refine Ensures.imp (change_flaky h (renewRecord_ensures h id t)) fun a m' h' => ?_
  rcases h' with (hok | ⟨hf, -, h'⟩) | ⟨hf, -, h'⟩
  · exact Or.inl hok
  · exact Or.inr ⟨⟨_, hf⟩, h'⟩
  · exact Or.inr ⟨hf, h'⟩

theorem tryId_flaky (h : m.sound.Shows p) :
    Ensures tryId m fun r m' => ((r.2 = true ↔ p.Unused r.1) ∧ m'.sound.Shows p) ∧
      m'.store.failures = m.store.failures ∧ m'.store.tried = m.store.tried :=
  ⟨Ensures.of_sound (tryId_ensures h) rfl rfl, rfl, rfl⟩

/-- an id that is drawn is unused; drawing only reads the store -/
theorem drawId_flaky (h : m.sound.Shows p) :
    Yields drawId m fun id m' => p.Unused id ∧ m'.sound.Shows p ∧
      m'.store.failures = m.store.failures ∧ m'.store.tried = m.store.tried := by
  refine (drawId_keeps (P := fun m' => m'.sound.Shows p ∧ m'.store.failures = m.store.failures ∧
    m'.store.tried = m.store.tried) ⟨h, rfl, rfl⟩ fun m' hm' => ?_).imp fun id m' hdrawn => ?_
  · obtain ⟨⟨-, hshows⟩, hfailures, htried⟩ := tryId_flaky hm'.1
    exact ⟨hshows, hfailures.trans hm'.2.1, htried.trans hm'.2.2⟩
  · obtain ⟨h', m₀, h₀, htried⟩ := hdrawn
    obtain ⟨⟨hfree, -⟩, -⟩ := tryId_flaky h₀.1
    rw [htried] at hfree
    exact ⟨hfree.1 rfl, h'⟩

/-! ## Operations over flaky stores -/

/-- a new subscription is made, or all is as it was, or only its record stays, because its filter does not compile and
it could not be deleted -/
theorem activateNew_flaky (h : m.sound.Shows p) {id : String} {o : SubscribeOptions} {e : Endpoint}
    (hk : Keepable σ p.supply o) (hres : Resolves p.supply o e.location) (hfree : p.Unused id) :
    Ensures (activateNew id o e) m fun a m' =>
      ((∃ f, a = .error f) ∧ (m'.sound.Shows p ∨
        m.store.failures (m.store.tried + 1) ≠ none ∧ (∀ f, compiled p.compiler o ≠ .ok f) ∧
          m'.sound.Shows (p.lay ⟨id, o, e.location⟩))) ∨
      ∃ rule, a = .ok ⟨id, o, e⟩ ∧ rule.Serves p.compiler ⟨id, o, e.location⟩ ∧ rule.endpoint = e ∧
        m'.sound.Shows (p.activate ⟨id, o, e.location⟩ rule) := by
  unfold activateNew
  refine Ensures.bind (put_flaky h (s := ⟨id, o, e⟩) hk hres) fun a m₁ hpost₁ => ?_
  obtain ⟨⟨rfl, h₁⟩ | ⟨⟨f, rfl⟩, h₁⟩, hfailures, htried⟩ := hpost₁
  · have hregister := Ensures.and (register_flaky h₁ ⟨id, o, e⟩ e rfl) (register_keeps m₁ ⟨id, o, e⟩ e)
    refine Ensures.bind hregister fun b m₂ hpost₂ => ?_
    obtain ⟨⟨rfl, rule, hserves, hrule, h₂⟩ | ⟨⟨f, rfl⟩, h₂, hwhy⟩, -, hstore⟩ := hpost₂
    · refine Ensures.bind (schedule_flaky h₂ ⟨id, o, e⟩) fun _ m₃ h₃ => ?_
      exact Or.inr ⟨rule, rfl, hserves, hrule, h₃⟩
    · refine Ensures.bind (delete_flaky h₂ id) fun _ m₃ h₃ => ?_
      rcases h₃ with h₃ | ⟨hdue, h₃⟩
      · refine Ensures.bind (destroy_flaky h₃ e) fun _ m₄ h₄ => ?_
        have hsame : m₄.sound.Shows ((p.lay ⟨id, o, e.location⟩).drop id) := h₄
        rw [Picture.drop_lay hfree.1] at hsame
        exact Or.inl ⟨⟨f, rfl⟩, Or.inl hsame⟩
      · refine Ensures.bind (destroy_flaky h₃ e) fun _ m₄ h₄ => ?_
        rw [hstore, hfailures, htried] at hdue
        exact Or.inl ⟨⟨f, rfl⟩, Or.inr ⟨hdue, hwhy hfree.2, h₄⟩⟩
  · exact Ensures.bind (destroy_flaky h₁ e) fun _ m₂ h₂ => Or.inl ⟨⟨f, rfl⟩, Or.inl h₂⟩

theorem Prepared.flaky {o : SubscribeOptions} {a : Except BrokerError Endpoint} {m' : Manager (FlakyStore σ)}
    (h : m.sound.Shows p) (hprepared : m.Prepared o a m') : m'.sound.Shows p ∧ m'.store = m.store := by
  cases hprepared with
  | undefined => exact ⟨h, rfl⟩
  | refused => exact ⟨create_flaky h _ |>.2, rfl⟩
  | late => exact ⟨destroy_flaky (create_flaky h _).2 _, rfl⟩
  | made => exact ⟨create_flaky h _ |>.2, rfl⟩

theorem subscribe_flaky (h : m.sound.Shows p) {o : SubscribeOptions} (hk : Keepable σ p.supply o) :
    Yields (subscribe o) m fun a m' =>
      ((∃ f, a = .error f) ∧ (m'.sound.Shows p ∨
        m.store.failures (m.store.tried + 1) ≠ none ∧ ∃ r, p.Unused r.id ∧ (∀ f, compiled p.compiler r.options ≠ .ok f) ∧
          m'.sound.Shows (p.lay r))) ∨
      ∃ s rule, a = .ok s ∧ s.options = o ∧ p.scheduler.isShutDown = false ∧ p.Unused s.id ∧
        rule.Serves p.compiler s.toRecord ∧ rule.endpoint = s.endpoint ∧
        m'.sound.Shows (p.activate s.toRecord rule) := by
  refine subscribe_yields (fun f m₁ h₁ => Or.inl ⟨⟨f, rfl⟩, Or.inl (Prepared.flaky h h₁).1⟩) fun e m₁ hmade => ?_
  obtain ⟨h₁, hstore₁⟩ := Prepared.flaky h hmade
  obtain ⟨hres, hrun⟩ : Resolves p.supply o e.location ∧ p.scheduler.isShutDown = false := by
    cases hmade with
    | made hd he hrun => exact ⟨⟨_, m.hub, e, hd, h.supply, he, rfl⟩, h.scheduler ▸ hrun⟩
  refine (drawId_flaky h₁).imp fun id m₂ hpost₂ => ?_
  obtain ⟨hfree, h₂, hfailures, htried⟩ := hpost₂
  refine Ensures.imp (activateNew_flaky h₂ hk hres hfree) fun a m₃ h₃ => ?_
  rcases h₃ with ⟨hf, h₃ | ⟨hdue, hwhy, h₃⟩⟩ | ⟨rule, rfl, hserves, hrule, h₃⟩
  · exact Or.inl ⟨hf, Or.inl h₃⟩
  · rw [hfailures, htried, hstore₁] at hdue
    exact Or.inl ⟨hf, Or.inr ⟨hdue, ⟨id, o, e.location⟩, hfree, hwhy, h₃⟩⟩
  · exact Or.inr ⟨_, rule, rfl, rfl, hrun, hfree, hserves, hrule, h₃⟩

theorem subscribe_slips (h : m.sound.Shows p) {o : SubscribeOptions} (hk : Keepable σ p.supply o) :
    Yields (subscribe o) m fun _ m' => ∃ p', p.Slips p.Unused p' ∧ m'.sound.Shows p' := by
  refine (subscribe_flaky h hk).imp fun a m' h' => ?_
  rcases h' with ⟨-, h' | ⟨-, r, hr, hwhy, h'⟩⟩ | ⟨s, rule, -, -, -, hs, -, -, h'⟩
  · exact ⟨p, .done p, h'⟩
  · exact ⟨_, .laid hr hr.2 hwhy (.done _), h'⟩
  · exact ⟨_, .activated (r := s.toRecord) hs (.done _), h'⟩

theorem renew_flaky (h : m.sound.Shows p) (id : String) (t : Timestamp) :
    Ensures (renew id t) m fun _ m' => ∃ p', p.Slips (· = id) p' ∧ m'.sound.Shows p' := by
  unfold renew
  refine Ensures.bind (P := fun _ m' => m'.sound.Shows p) h fun b m₁ h₁ => ?_
  split
  · exact ⟨p, .done p, h₁⟩
  · refine Ensures.bind (renewRecord_flaky h₁ id t) fun a m₂ h₂ => ?_
    rcases h₂ with ⟨r, s, hr, rfl, hs, h₂⟩ | ⟨⟨f, rfl⟩, h₂⟩
    · refine Ensures.bind (schedule_flaky h₂ s) fun _ m₃ h₃ => ?_
      have hid : r.id = id := FaithfulStore.keyed h.holds hr
      have hsid : s.id = r.id := congrArg SubscriptionRecord.id hs
      have hst : s.terminationTime = some t := congrArg (fun r => r.options.terminationTime) hs
      rw [hsid, hst, ← hid] at h₃
      exact ⟨_, .prolonged hid (hid ▸ hr) (.done _), h₃⟩
    · exact ⟨p, .done p, h₂⟩

/-- the last steps of a teardown: the plan goes, and then the record, if it can be deleted -/
theorem forget_flaky {α : Type} {id : String} (h : m.sound.Shows { p with rules := update p.rules id none })
    {f : Except BrokerError Subscription → Act (FlakyStore σ) α} (hf : ∀ a m', (f a m').2 = m') :
    Ensures (do unschedule id; f (← onStore (SubscriptionStore.delete · id))) m fun _ m' =>
      m'.sound.Shows (p.remove id) ∨ m'.sound.Shows (p.silence id) := by
  refine Ensures.bind (unschedule_flaky h id) fun _ m₁ h₁ => ?_
  refine Ensures.bind (delete_flaky h₁ id) fun a m₂ h₂ => ?_
  show Shows (f a m₂).2.sound _ ∨ Shows (f a m₂).2.sound _
  rw [hf]
  exact h₂.imp_right And.right

theorem teardown_flaky (h : m.sound.Shows p) (id : String) (stored : Option Subscription) :
    Ensures (teardown id stored) m fun _ m' => m'.sound.Shows (p.remove id) ∨ m'.sound.Shows (p.silence id) := by
  unfold teardown
  refine Ensures.bind (removeRule_flaky h id) fun a m₁ h₁ => ?_
  cases a with
  | ok r =>
    refine Ensures.pure_bind (Ensures.bind (destroy_flaky h₁ r.endpoint) fun _ m₂ h₂ => ?_)
    exact forget_flaky h₂ fun a _ => by cases a <;> rfl
  | error f =>
    cases stored with
    | some s =>
      refine Ensures.pure_bind (Ensures.bind (destroy_flaky h₁ s.endpoint) fun _ m₂ h₂ => ?_)
      exact forget_flaky h₂ fun a _ => by cases a <;> rfl
    | none =>
      refine Ensures.pure_bind (Ensures.pure_bind ?_)
      exact forget_flaky h₁ fun a _ => by cases a <;> rfl

theorem unsubscribe_flaky (h : m.sound.Shows p) (id : String) :
    Ensures (unsubscribe id) m fun _ m' => ∃ p', p.Slips (· = id) p' ∧ m'.sound.Shows p' := by
  unfold unsubscribe
  refine Ensures.bind (lookUp_flaky h id) fun s m₁ hpost₁ => ?_
  obtain ⟨hs, h₁⟩ := hpost₁
  refine Ensures.bind (Ensures.get (Q := fun _ m' => m'.sound.Shows p) h₁) fun x m₂ h₂ => ?_
  split
  · exact ⟨p, .done p, h₂⟩
  · refine Ensures.bind (teardown_flaky h₂ id s) fun fs m₃ h₃ => ?_
    have hslips : ∃ p', p.Slips (· = id) p' ∧ m₃.sound.Shows p' := by
      rcases h₃ with h₃ | h₃
      · exact ⟨_, .removed rfl (.done _), h₃⟩
      · exact ⟨_, .silenced rfl (.done _), h₃⟩
    cases fs with
    | nil => exact hslips
    | cons f fs => exact hslips

/-- an expiry silences the id at least, if it is not stale -/
theorem expire_flaky (h : m.sound.Shows p) (id : String) (t : Timestamp) :
    Ensures (expire id t) m fun _ m' =>
      m'.sound.Shows (p.remove id) ∨ m'.sound.Shows (p.silence id) ∨
      (∀ r, p.records id = some r → r.options.terminationTime ≠ some t) ∧ m'.sound.Shows p := by
  unfold expire
  refine Ensures.bind (lookUp_flaky h id) fun s m₁ hpost₁ => ?_
  obtain ⟨hs, h₁⟩ := hpost₁
  cases s with
  | none =>
    refine Or.inr (Or.inr ⟨fun r hr => ?_, h₁⟩)
    rw [hr] at hs
    cases hs
  | some s =>
    have hrec : p.records id = some s.toRecord := hs.symm
    dsimp only
    split
    · refine Ensures.bind (teardown_flaky h₁ id (some s)) fun _ m₂ h₂ => ?_
      exact h₂.imp_right Or.inl
    · rename_i hne
      refine Or.inr (Or.inr ⟨fun r hr heq => hne ?_, h₁⟩)
      rw [hrec] at hr
      cases hr
      exact beq_iff_eq.2 heq

/-- a dormant record comes to life, or all is as it was -/
theorem activate_flaky (h : m.sound.Shows p) {s : Subscription} (hs : p.records s.id = some s.toRecord)
    (hrule : p.rules s.id = none) :
    Ensures (activate s) m fun a m' =>
      (∃ location rule, a = .ok () ∧ m'.sound.Shows (p.activate ⟨s.id, s.options, location⟩ rule)) ∨
      ((∃ f, a = .error f) ∧ m'.sound.Shows p) := by
  have hk : Keepable σ p.supply s.options := h.keepable s.id s.toRecord hs
  unfold activate
  split
  · exact Or.inr ⟨⟨_, rfl⟩, h⟩
  · rename_i d hd
    refine Ensures.bind (create_flaky h d) fun a m₁ hpost₁ => ?_
    obtain ⟨ha, h₁⟩ := hpost₁
    cases a with
    | error f => exact Or.inr ⟨⟨f, rfl⟩, h₁⟩
    | ok e =>
      have hres : Resolves p.supply s.options e.location := ⟨d, m.hub, e, hd, h.supply, ha.symm, rfl⟩
      refine Ensures.bind (register_flaky h₁ ⟨s.id, s.options, e⟩ e rfl) fun b m₂ h₂ => ?_
      rcases h₂ with ⟨rfl, rule, -, -, h₂⟩ | ⟨⟨f, rfl⟩, h₂, -⟩
      · refine Ensures.bind (put_flaky h₂ (s := ⟨s.id, s.options, e⟩) hk hres) fun c m₃ hpost₃ => ?_
        obtain ⟨⟨rfl, h₃⟩ | ⟨⟨f, rfl⟩, h₃⟩, -⟩ := hpost₃
        · refine Ensures.bind (schedule_flaky h₃ ⟨s.id, s.options, e⟩) fun _ m₄ h₄ => ?_
          exact Or.inl ⟨e.location, rule, rfl, h₄⟩
        · -- the rule that was installed goes again
          refine Ensures.bind (removeRule_flaky h₃ s.id) fun _ m₄ h₄ => ?_
          refine Ensures.bind (destroy_flaky h₄ e) fun _ m₅ h₅ => ?_
          have hback : update (update p.rules s.id (some rule)) s.id none = p.rules := by
            rw [Function.update_idem, ← hrule, Function.update_eq_self]
          have hsame : m₅.sound.Shows { p with rules := update (update p.rules s.id (some rule)) s.id none } := h₅
          rw [hback] at hsame
          exact Or.inr ⟨⟨f, rfl⟩, hsame⟩
      · exact Ensures.bind (destroy_flaky h₂ e) fun _ m₃ h₃ => Or.inr ⟨⟨f, rfl⟩, h₃⟩

/-- a restore is about ids without a rule -/
theorem activateAll_flaky (h : m.sound.Shows p) {ss : List Subscription} (hnodup : (ss.map Subscription.id).Nodup)
    (hrec : ∀ s ∈ ss, p.records s.id = some s.toRecord) {ids : String → Prop}
    (hids : ∀ s ∈ ss, p.rules s.id = none → ids s.id) :
    Ensures (activateAll ss) m fun _ m' => ∃ p', p.Slips ids p' ∧ m'.sound.Shows p' := by
  induction ss generalizing m p with
  | nil => exact ⟨p, .done p, h⟩
  | cons s ss ih =>
    obtain ⟨hnot, hnodup⟩ := List.nodup_cons.1 hnodup
    have hs : p.records s.id = some s.toRecord := hrec s List.mem_cons_self
    have hrest : ∀ t ∈ ss, p.records t.id = some t.toRecord := fun t ht => hrec t (List.mem_cons_of_mem s ht)
    have hdue : ∀ t ∈ ss, p.rules t.id = none → ids t.id := fun t ht => hids t (List.mem_cons_of_mem s ht)
    have hne : ∀ t ∈ ss, t.id ≠ s.id := fun t ht he => hnot (he ▸ List.mem_map_of_mem ht)
    -- visiting `s` leaves the records and rules of the others alone
    have hothers : ∀ (x : Option SubscriptionRecord), ∀ t ∈ ss,
        update p.records s.id x t.id = some t.toRecord := by
      intro x t ht
      rw [Function.update_of_ne (hne t ht)]
      exact hrest t ht
    unfold activateAll
    refine Ensures.bind (Ensures.get (Q := fun x m' => x = m' ∧ m'.sound.Shows p) ⟨rfl, h⟩) fun x m₁ hpost₁ => ?_
    obtain ⟨hx, h₁⟩ := hpost₁
    subst hx
    have hcontains : x.engine.contains s.id = (p.rules s.id).isSome := h₁.contains s.id
    split
    · exact Ensures.pure_bind (Ensures.bind (ih h₁ hnodup hrest hdue) fun _ m₂ h₂ => h₂)
    · rename_i hdormant
      have hrule : p.rules s.id = none := by
        rw [hcontains] at hdormant
        simpa using hdormant
      refine Ensures.bind (activate_flaky h₁ hs hrule) fun a m₂ h₂ => ?_
      rcases h₂ with ⟨location, rule, rfl, h₂⟩ | ⟨⟨f, rfl⟩, h₂⟩
      · have hdue' : ∀ t ∈ ss, update p.rules s.id (some rule) t.id = none → ids t.id := by
          intro t ht hnone
          rw [Function.update_of_ne (hne t ht)] at hnone
          exact hdue t ht hnone
        refine Ensures.pure_bind (Ensures.bind (ih h₂ hnodup (hothers _) hdue') fun _ m₃ hpost₃ => ?_)
        obtain ⟨p', hp', h₃⟩ := hpost₃
        exact ⟨p', .activated (hids s List.mem_cons_self hrule) hp', h₃⟩
      · refine Ensures.bind (delete_flaky h₂ s.id) fun _ m₃ h₃ => ?_
        rcases h₃ with h₃ | ⟨-, h₃⟩
        · refine Ensures.pure_bind (Ensures.bind (ih h₃ hnodup (hothers _) hdue) fun _ m₄ hpost₄ => ?_)
          obtain ⟨p', hp', h₄⟩ := hpost₄
          exact ⟨p', .dropped (hids s List.mem_cons_self hrule) hrule hp', h₄⟩
        · exact Ensures.pure_bind (Ensures.bind (ih h₃ hnodup hrest hdue) fun _ m₄ h₄ => h₄)

theorem all_flaky (h : m.sound.Shows p) :
    Ensures (onStore SubscriptionStore.all) m fun ss m' => ss = (SubscriptionStore.all m.store.base).1 ∧
      m'.sound.Shows p :=
  ⟨rfl, h.onStore (FaithfulStore.all_holds h.holds) h.keepable⟩

theorem restore_flaky (h : m.sound.Shows p) :
    Ensures restore m fun _ m' => ∃ p', p.Slips (p.rules · = none) p' ∧ m'.sound.Shows p' := by
  unfold restore
  refine Ensures.bind (all_flaky h) fun ss m₁ hpost₁ => ?_
  obtain ⟨hss, h₁⟩ := hpost₁
  subst hss
  exact activateAll_flaky h₁ (FaithfulStore.all_nodup h.holds) (FaithfulStore.all_sound h.holds) fun _ _ hrule => hrule

end Manager

end EventBroker
