/-
Rules have endpoints that work, and keep them until they go.

`Wired` says of a manager that each of its rules has an endpoint that is connected to an outlet of the broker's own, that
the outlets of an earlier hub are still there, that the rules of some ids, told by `E`, have not changed, and that its
store has endpoints only with the subscriptions that they were put in with. All parts of operations keep it, whether they
fail or not: an operation that ends an id takes away the rule of this id and of no other.
-/
import EventBroker.Proofs.Delivery.Wiring
import EventBroker.Proofs.Manager.Custody

namespace EventBroker

/-- an endpoint that is kept for a subscription has a handle from `first` on, and is kept under its own id -/
def Subscription.Filed (first : Nat) (id : String) (s : Subscription) : Prop :=
  ∀ k, s.endpoint.handle? = some k → first ≤ k ∧ s.id = id

theorem Subscription.filed_lasting (first : Nat) : Lasting (Subscription.Filed first) where
  ofRecord _ _ _ hk := by cases hk
  renewed _ _ _ h := h

namespace Manager

variable {σ : Type}

theorem endpoint?_insert (m : Manager σ) (id : String) (r : Rule) (i : String) :
    (m.withRules (m.engine.rules.insert id r)).engine.endpoint? i =
      if i = id then some r.endpoint else m.engine.endpoint? i := by
  simp only [withRules, Engine.endpoint?, Table.find?_insert]
  split <;> rfl

theorem endpoint?_erase (m : Manager σ) (id i : String) :
    (m.withRules (m.engine.rules.erase id)).engine.endpoint? i = if i = id then none else m.engine.endpoint? i := by
  simp only [withRules, Engine.endpoint?, Table.find?_erase]
  split <;> rfl

variable [SubscriptionStore σ] [LoyalStore σ] [KeepingStore σ]

/-- Rules have endpoints that work. `h₀` is an earlier hub, `E` tells rules that have not changed. -/
structure Wired (first : Nat) (h₀ : Hub) (E : String → Option Endpoint) (m : Manager σ) : Prop where
  own : m.hub.Own (fun _ _ => True) first
  kept : h₀.Keeps m.hub
  rules : ∀ id e, m.engine.endpoint? id = some e → Hub.Wires first m.hub e
  unchanged : ∀ id e, E id = some e → m.engine.endpoint? id = some e
  store : KeepingStore.Keeps (Subscription.Filed first) m.store

/-- what `E` tells of all ids but one -/
def except (id : String) (E : String → Option Endpoint) (i : String) : Option Endpoint :=
  if i = id then none else E i

theorem except_eq_some {id i : String} {E : String → Option Endpoint} {e : Endpoint} :
    except id E i = some e ↔ i ≠ id ∧ E i = some e := by
  unfold except
  split <;> simp_all

variable {first : Nat} {h₀ : Hub} {E : String → Option Endpoint} {m : Manager σ}

namespace Wired

theorem onStore (h : m.Wired first h₀ E) {store : σ} (hs : KeepingStore.Keeps (Subscription.Filed first) store) :
    Wired first h₀ E { m with store } :=
  { h with store := hs }

theorem onScheduler (h : m.Wired first h₀ E) (scheduler : Scheduler Unit) :
    Wired first h₀ E { m with scheduler } :=
  { h with }

theorem onHub (h : m.Wired first h₀ E) {hub : Hub} (hown : hub.Own (fun _ _ => True) first) (hkeeps : m.hub.Keeps hub) :
    Wired first h₀ E { m with hub } where
  own := hown
  kept := h.kept.trans hkeeps
  rules id e he := (h.rules id e he).kept hkeeps
  unchanged := h.unchanged
  store := h.store

/-- fewer rules are told -/
theorem forget (h : m.Wired first h₀ E) {E' : String → Option Endpoint}
    (hless : ∀ id e, E' id = some e → E id = some e) : m.Wired first h₀ E' :=
  { h with unchanged := fun id e he => h.unchanged id e (hless id e he) }

theorem except (h : m.Wired first h₀ E) (id : String) : m.Wired first h₀ (Manager.except id E) :=
  h.forget fun _ _ he => (except_eq_some.1 he).2

/-- the same manager, looked at from its own hub and with all rules told -/
theorem anew (h : m.Wired first h₀ E) : m.Wired first m.hub m.engine.endpoint? :=
  { h with kept := .refl m.hub, unchanged := fun _ _ he => he }

end Wired

/-- an id that had no rule gets one with an endpoint that works -/
theorem Wired.install (h : m.Wired first h₀ E) {id : String} (hfree : E id = none) {r : Rule}
    (hr : Hub.Wires first m.hub r.endpoint) : Wired first h₀ E (m.withRules (m.engine.rules.insert id r)) := by
  refine ⟨h.own, h.kept, fun i e he => ?_, fun i e he => ?_, h.store⟩
  · rw [endpoint?_insert] at he
    split at he
    · cases he
      exact hr
    · exact h.rules i e he
  · have hne : i ≠ id := by
      rintro rfl
      rw [hfree] at he
      cases he
    rw [endpoint?_insert, if_neg hne]
    exact h.unchanged i e he

/-- the rule of an id goes, and those of other ids stay -/
theorem Wired.uninstall (h : m.Wired first h₀ E) (id : String) :
    Wired first h₀ (Manager.except id E) (m.withRules (m.engine.rules.erase id)) := by
  refine ⟨h.own, h.kept, fun i e he => ?_, fun i e he => ?_, h.store⟩
  · rw [endpoint?_erase] at he
    split at he
    · cases he
    · exact h.rules i e he
  · obtain ⟨hne, hE⟩ := except_eq_some.1 he
    rw [endpoint?_erase, if_neg hne]
    exact h.unchanged i e hE

/-! ## Parts of operations -/

theorem lookUp_wired (h : m.Wired first h₀ E) (id : String) :
    Ensures (lookUp id) m fun s m' => s = (SubscriptionStore.get m.store id).1 ∧ m'.engine = m.engine ∧
      m'.Wired first h₀ E :=
  ⟨rfl, rfl, h.onStore (KeepingStore.get_keeps (Subscription.filed_lasting first) h.store id).2⟩

theorem isRunning_wired (h : m.Wired first h₀ E) :
    Ensures (isRunning : Act σ Bool) m fun _ m' => m'.hub = m.hub ∧ m'.Wired first h₀ E := ⟨rfl, h⟩

theorem schedule_wired (h : m.Wired first h₀ E) (s : Subscription) :
    Ensures (schedule s) m fun _ m' => m'.engine = m.engine ∧ m'.Wired first h₀ E := by
  refine Ensures.modify ?_
  cases s.terminationTime with
  | none => exact ⟨rfl, h⟩
  | some t =>
    dsimp only
    cases m.scheduler.schedule m.elapsed m.clock.now s.id t () with
    | ok scheduler => exact ⟨rfl, h.onScheduler scheduler⟩
    | error f => exact ⟨rfl, h⟩

theorem unschedule_wired (h : m.Wired first h₀ E) (id : String) :
    Ensures (unschedule id) m fun _ m' => m'.engine = m.engine ∧ m'.Wired first h₀ E := by
  refine Ensures.modify ?_
  cases m.scheduler.cancel id with
  | ok scheduler => exact ⟨rfl, h.onScheduler scheduler⟩
  | error f => exact ⟨rfl, h⟩

theorem tryId_wired (h : m.Wired first h₀ E) :
    Ensures tryId m fun _ m' => m'.hub = m.hub ∧ m'.Wired first h₀ E := by
  have hdrawn : Wired first h₀ E { m with idsDrawn := m.idsDrawn + 1 } := { h with }
  exact ⟨rfl, (lookUp_wired hdrawn (m.ids m.idsDrawn)).2.2⟩

theorem drawId_wired (h : m.Wired first h₀ E) :
    Yields drawId m fun _ m' => m'.hub = m.hub ∧ m'.Wired first h₀ E := by
  refine (drawId_keeps (P := fun m' => m'.hub = m.hub ∧ m'.Wired first h₀ E) ⟨rfl, h⟩ fun m' hm' => ?_).imp
    fun _ _ hdrawn => hdrawn.1
  obtain ⟨hhub, h'⟩ := tryId_wired hm'.2
  exact ⟨hhub.trans hm'.1, h'⟩

/-- an endpoint that is made works -/
theorem create_wired (h : m.Wired first h₀ E) (d : DeliveryDefinition) :
    Ensures (onHub (·.create d)) m fun r m' =>
      (∀ e, r = .ok e → Hub.Wires first m'.hub e) ∧ m'.Wired first h₀ E := by
  obtain ⟨hown, hwires⟩ := h.own.create d
  exact ⟨hwires, h.onHub hown (Hub.create_keeps m.hub d)⟩

theorem destroy_wired (h : m.Wired first h₀ E) (e : Endpoint) :
    Ensures (destroy e) m fun _ m' => m'.engine = m.engine ∧ m'.Wired first h₀ E :=
  ⟨rfl, h.onHub (h.own.destroy e) (Hub.destroy_keeps m.hub e)⟩

/-- an id that had no rule gets one with an endpoint that works, or nothing happens -/
theorem register_wired (h : m.Wired first h₀ E) {s : Subscription} {e : Endpoint} (he : Hub.Wires first m.hub e) :
    Ensures (register s e) m fun r m' => m'.hub = m.hub ∧ m'.Wired first h₀ E ∧
      ∀ u, r = .ok u → E s.id = none ∧ m'.engine.endpoint? s.id = some e := by
  refine Ensures.modifyGet ?_
  unfold Engine.register
  cases m.engine.compile s.options with
  | error f => exact ⟨rfl, h, fun u hu => nomatch hu⟩
  | ok p =>
    cases hc : m.engine.rules.contains s.id with
    | true => exact ⟨rfl, h, fun u hu => nomatch hu⟩
    | false =>
      have hnone : m.engine.endpoint? s.id = none := by
        have hfind : m.engine.rules.find? s.id = none := by simpa [Table.contains] using hc
        simp [Engine.endpoint?, hfind]
      have hfree : E s.id = none := by
        cases hE : E s.id with
        | none => rfl
        | some e' =>
          have hsome := h.unchanged s.id e' hE
          rw [hnone] at hsome
          cases hsome
      set r : Rule := ⟨s.id, p, e, (s.options.delivery.map DeliveryDefinition.useRaw).getD false⟩
      have hrule := endpoint?_insert m s.id r s.id
      rw [if_pos rfl] at hrule
      exact ⟨rfl, h.install (r := r) hfree he, fun u _ => ⟨hfree, hrule⟩⟩

/-- an id has no rule any more, and the rules of other ids stay -/
theorem removeRule_wired (h : m.Wired first h₀ E) (id : String) :
    Ensures (removeRule id) m fun _ m' =>
      m'.engine.endpoint? id = none ∧ m'.Wired first h₀ (except id E) := by
  refine Ensures.modifyGet ?_
  unfold Engine.remove
  cases hr : m.engine.rules.find? id with
  | none => exact ⟨by simp [Engine.endpoint?, hr], h.except id⟩
  | some r =>
    have hrule := endpoint?_erase m id id
    rw [if_pos rfl] at hrule
    exact ⟨hrule, h.uninstall id⟩

/-! ## Operations -/

theorem activateNew_wired (h : m.Wired first h₀ E) {e : Endpoint} (he : Hub.Wires first m.hub e) (id : String)
    (o : SubscribeOptions) :
    Ensures (activateNew id o e) m fun r m' => m'.Wired first h₀ E ∧
      ∀ s, r = .ok s → m'.engine.endpoint? s.id = some s.endpoint := by
  have hfiled : Subscription.Filed first id ⟨id, o, e⟩ := fun k hk => ⟨he.first_le hk, rfl⟩
  unfold activateNew
  refine Ensures.bind (P := fun _ m' => m'.hub = m.hub ∧ m'.Wired first h₀ E)
    ⟨rfl, h.onStore (KeepingStore.put_keeps h.store (s := ⟨id, o, e⟩) hfiled)⟩ fun a m₁ ⟨hhub₁, h₁⟩ => ?_
  cases a with
  | error f => exact Ensures.bind (destroy_wired h₁ e) fun _ m₂ ⟨_, h₂⟩ => ⟨h₂, fun s hs => nomatch hs⟩
  | ok u =>
    have he₁ : Hub.Wires first m₁.hub e := hhub₁ ▸ he
    refine Ensures.bind (register_wired h₁ he₁) fun b m₂ ⟨_, h₂, hrule⟩ => ?_
    cases b with
    | error f =>
      refine Ensures.bind (P := fun _ m' => m'.Wired first h₀ E)
        (h₂.onStore (KeepingStore.delete_keeps (Subscription.filed_lasting first) h₂.store id)) fun _ m₃ h₃ => ?_
      exact Ensures.bind (destroy_wired h₃ e) fun _ m₄ ⟨_, h₄⟩ => ⟨h₄, fun s hs => nomatch hs⟩
    | ok u =>
      refine Ensures.bind (schedule_wired h₂ ⟨id, o, e⟩) fun _ m₃ ⟨heng₃, h₃⟩ => ⟨h₃, fun s hs => ?_⟩
      cases hs
      show m₃.engine.endpoint? id = some e
      rw [heng₃]
      exact (hrule u rfl).2

/-- preparing an endpoint wires it, if there is one in the end -/
theorem Prepared.wired (h : m.Wired first h₀ E) {o : SubscribeOptions} {a : Except BrokerError Endpoint}
    {m' : Manager σ} (hprepared : m.Prepared o a m') :
    m'.Wired first h₀ E ∧ ∀ e, a = .ok e → Hub.Wires first m'.hub e := by
  cases hprepared with
  | undefined => exact ⟨h, fun e he => nomatch he⟩
  | refused => exact ⟨(create_wired h _).2, fun e he => nomatch he⟩
  | late => exact ⟨(destroy_wired (create_wired h _).2 _).2, fun e he => nomatch he⟩
  | made _ hmade =>
    obtain ⟨hwires, h'⟩ := create_wired h _
    refine ⟨h', fun e he => ?_⟩
    cases he
    exact hwires _ hmade

theorem subscribe_wired (h : m.Wired first h₀ E) (o : SubscribeOptions) :
    Yields (subscribe o) m fun r m' => m'.Wired first h₀ E ∧
      ∀ s, r = .ok s → m'.engine.endpoint? s.id = some s.endpoint := by
  refine subscribe_yields (fun f m₁ hfailed => ⟨(hfailed.wired h).1, fun s hs => nomatch hs⟩) fun e m₁ hmade => ?_
  obtain ⟨h₁, hwires⟩ := hmade.wired h
  refine (drawId_wired h₁).imp fun id m₂ hdrawn => ?_
  obtain ⟨hhub, h₂⟩ := hdrawn
  exact activateNew_wired h₂ (hhub ▸ hwires e rfl) id o

theorem renew_wired (h : m.Wired first h₀ E) (id : String) (t : Timestamp) :
    Ensures (renew id t) m fun _ m' => m'.Wired first h₀ E := by
  unfold renew
  refine Ensures.bind (isRunning_wired h) fun b m₁ ⟨_, h₁⟩ => ?_
  split
  · exact h₁
  · refine Ensures.bind (P := fun _ m' => m'.Wired first h₀ E)
      (h₁.onStore (KeepingStore.renew_keeps (Subscription.filed_lasting first) h₁.store id t)) fun a m₂ h₂ => ?_
    cases a with
    | error f => exact h₂
    | ok s => exact Ensures.bind (schedule_wired h₂ s) fun _ m₃ ⟨_, h₃⟩ => h₃

/-- the last steps of a teardown touch no rule -/
theorem forget_wired {α : Type} (h : m.Wired first h₀ E) (id : String)
    {f : Except BrokerError Subscription → Act σ α} (hf : ∀ a m', (f a m').2 = m') :
    Ensures (do unschedule id; f (← onStore (SubscriptionStore.delete · id))) m fun _ m' =>
      m'.engine = m.engine ∧ m'.Wired first h₀ E := by
  refine Ensures.bind (unschedule_wired h id) fun _ m₁ ⟨heng₁, h₁⟩ => ?_
  refine Ensures.bind (P := fun _ m' => m'.engine = m.engine ∧ m'.Wired first h₀ E)
    ⟨heng₁, h₁.onStore (KeepingStore.delete_keeps (Subscription.filed_lasting first) h₁.store id)⟩
    fun a m₂ h₂ => ?_
  show (f a m₂).2.engine = m.engine ∧ (f a m₂).2.Wired first h₀ E
  rw [hf]
  exact h₂

/-- a teardown takes away the rule of its id and no other -/
theorem teardown_wired (h : m.Wired first h₀ E) (id : String) (stored : Option Subscription) :
    Ensures (teardown id stored) m fun _ m' =>
      m'.engine.endpoint? id = none ∧ m'.Wired first h₀ (except id E) := by
  have hforget : ∀ {m' : Manager σ}, m'.engine.endpoint? id = none → m'.Wired first h₀ (except id E) →
      ∀ {α : Type} {f : Except BrokerError Subscription → Act σ α}, (∀ a m', (f a m').2 = m') →
        Ensures (do unschedule id; f (← onStore (SubscriptionStore.delete · id))) m' fun _ m'' =>
          m''.engine.endpoint? id = none ∧ m''.Wired first h₀ (except id E) := by
    intro m' hnone h' α f hf
    refine Ensures.imp (forget_wired h' id hf) fun _ m'' ⟨heng, h''⟩ => ⟨?_, h''⟩
    rw [heng]
    exact hnone
  have hlet : ∀ {m' : Manager σ} (e : Endpoint), m'.engine.endpoint? id = none → m'.Wired first h₀ (except id E) →
      Ensures (destroy e) m' fun _ m'' =>
        m''.engine.endpoint? id = none ∧ m''.Wired first h₀ (except id E) := by
    intro m' e hnone h'
    refine Ensures.imp (destroy_wired h' e) fun _ m'' ⟨heng, h''⟩ => ⟨?_, h''⟩
    rw [heng]
    exact hnone
  unfold teardown
  refine Ensures.bind (removeRule_wired h id) fun a m₁ ⟨hnone₁, h₁⟩ => ?_
  cases a with
  | ok r =>
    refine Ensures.pure_bind (Ensures.bind (hlet r.endpoint hnone₁ h₁) fun _ m₂ ⟨hnone₂, h₂⟩ => ?_)
    exact hforget hnone₂ h₂ fun a _ => by cases a <;> rfl
  | error f =>
    cases stored with
    | none => exact Ensures.pure_bind (Ensures.pure_bind (hforget hnone₁ h₁ fun a _ => by cases a <;> rfl))
    | some s =>
      refine Ensures.pure_bind (Ensures.bind (hlet s.endpoint hnone₁ h₁) fun _ m₂ ⟨hnone₂, h₂⟩ => ?_)
      exact hforget hnone₂ h₂ fun a _ => by cases a <;> rfl

theorem unsubscribe_wired (h : m.Wired first h₀ E) (id : String) :
    Ensures (unsubscribe id) m fun _ m' =>
      m'.engine.endpoint? id = none ∧ m'.Wired first h₀ (except id E) := by
  unfold unsubscribe
  refine Ensures.bind (lookUp_wired h id) fun s m₁ ⟨_, _, h₁⟩ => ?_
  refine Ensures.bind (Ensures.get (Q := fun x m' => x = m₁ ∧ m' = m₁) ⟨rfl, rfl⟩) fun x m₂ ⟨hx, hm₂⟩ => ?_
  rw [hx, hm₂]
  split
  · rename_i hnone
    rw [Bool.and_eq_true, Bool.not_eq_true'] at hnone
    have hfind : m₁.engine.rules.find? id = none := by
      have hc := hnone.2
      simpa [Engine.contains, Table.contains] using hc
    refine ⟨?_, h₁.except id⟩
    show m₁.engine.endpoint? id = none
    simp [Engine.endpoint?, hfind]
  · refine Ensures.bind (teardown_wired h₁ id s) fun fs m₃ h₃ => ?_
    cases fs with
    | nil => exact h₃
    | cons f fs => exact h₃

/-- the store has the id with this end -/
def EndsAt (m : Manager σ) (id : String) (t : Timestamp) : Prop :=
  ∃ s, (SubscriptionStore.get m.store id).1 = some s ∧ s.terminationTime = some t

/-- an expiry takes away the rule of its id if the id ends at that time; otherwise all rules stay -/
theorem expire_wired (h : m.Wired first h₀ E) (id : String) (t : Timestamp) :
    Ensures (expire id t) m fun _ m' =>
      (m.EndsAt id t → m'.engine.endpoint? id = none ∧ m'.Wired first h₀ (except id E)) ∧
      (¬ m.EndsAt id t → m'.Wired first h₀ E) := by
  unfold expire
  refine Ensures.bind (lookUp_wired h id) fun s m₁ ⟨hs, _, h₁⟩ => ?_
  cases s with
  | none =>
    refine ⟨fun hends => ?_, fun _ => h₁⟩
    obtain ⟨s, hget, -⟩ := hends
    rw [← hs] at hget
    cases hget
  | some s =>
    dsimp only
    split
    · rename_i ht
      have hends : m.EndsAt id t := ⟨s, hs.symm, by simpa using ht⟩
      refine Ensures.bind (teardown_wired h₁ id (some s)) fun _ m₂ h₂ => ?_
      exact ⟨fun _ => h₂, fun hno => absurd hends hno⟩
    · rename_i ht
      refine ⟨fun hends => ?_, fun _ => h₁⟩
      obtain ⟨s', hget, ht'⟩ := hends
      rw [← hs] at hget
      cases hget
      exact absurd (by simpa using ht') ht

/-- a dormant record gets a rule of its own; the rules that are there stay -/
theorem activate_wired (h : m.Wired first h₀ E) (s : Subscription) :
    Ensures (activate s) m fun _ m' => m'.Wired first h₀ E := by
  unfold activate
  split
  · exact h
  · rename_i d _
    refine Ensures.bind (create_wired h d) fun a m₁ ⟨hwires, h₁⟩ => ?_
    cases a with
    | error f => exact h₁
    | ok e =>
      have he₁ := hwires e rfl
      have hfiled : Subscription.Filed first s.id ⟨s.id, s.options, e⟩ := fun k hk => ⟨he₁.first_le hk, rfl⟩
      refine Ensures.bind (register_wired h₁ (s := ⟨s.id, s.options, e⟩) he₁) fun b m₂ ⟨_, h₂, hrule⟩ => ?_
      cases b with
      | error f => exact Ensures.bind (destroy_wired h₂ e) fun _ m₃ ⟨_, h₃⟩ => h₃
      | ok u =>
        refine Ensures.bind (P := fun _ m' => m'.Wired first h₀ E)
          (h₂.onStore (KeepingStore.put_keeps h₂.store (s := ⟨s.id, s.options, e⟩) hfiled)) fun c m₃ h₃ => ?_
        cases c with
        | ok u => exact Ensures.bind (schedule_wired h₃ ⟨s.id, s.options, e⟩) fun _ m₄ ⟨_, h₄⟩ => h₄
        | error f =>
          -- the rule that goes again is none of those told, for its id had none
          refine Ensures.bind (removeRule_wired h₃ s.id) fun _ m₄ ⟨_, h₄⟩ => ?_
          refine Ensures.bind (destroy_wired h₄ e) fun _ m₅ ⟨_, h₅⟩ => ?_
          refine h₅.forget fun id e' he' => except_eq_some.2 ⟨?_, he'⟩
          rintro rfl
          have hfree := (hrule u rfl).1
          rw [hfree] at he'
          cases he'

theorem activateAll_wired (h : m.Wired first h₀ E) (ss : List Subscription) :
    Ensures (activateAll ss) m fun _ m' => m'.Wired first h₀ E := by
  induction ss generalizing m with
  | nil => exact h
  | cons s ss ih =>
    unfold activateAll
    refine Ensures.bind (Ensures.get (Q := fun _ m' => m' = m) rfl) fun x m₁ hm₁ => ?_
    rw [hm₁]
    split
    · exact Ensures.pure_bind (Ensures.bind (ih h) fun _ m₂ h₂ => h₂)
    · refine Ensures.bind (activate_wired h s) fun a m₂ h₂ => ?_
      cases a with
      | ok u => exact Ensures.pure_bind (Ensures.bind (ih h₂) fun _ m₃ h₃ => h₃)
      | error f =>
        refine Ensures.bind (P := fun _ m' => m'.Wired first h₀ E)
          (h₂.onStore (KeepingStore.delete_keeps (Subscription.filed_lasting first) h₂.store s.id)) fun _ m₃ h₃ => ?_
        exact Ensures.pure_bind (Ensures.bind (ih h₃) fun _ m₄ h₄ => h₄)

theorem restore_wired (h : m.Wired first h₀ E) :
    Ensures restore m fun _ m' => m'.Wired first h₀ E := by
  unfold restore
  refine Ensures.bind (P := fun _ m' => m'.Wired first h₀ E)
    (h.onStore (KeepingStore.all_keeps (Subscription.filed_lasting first) h.store).2) fun ss m₁ h₁ => ?_
  exact activateAll_wired h₁ ss

theorem destroyAll_wired (h : m.Wired first h₀ E) (rs : List Rule) :
    Ensures (destroyAll rs) m fun _ m' => m'.engine = m.engine ∧ m'.Wired first h₀ E := by
  induction rs generalizing m with
  | nil => exact ⟨rfl, h⟩
  | cons r rs ih =>
    refine Ensures.bind (destroy_wired h r.endpoint) fun _ m₁ ⟨heng₁, h₁⟩ => ?_
    exact Ensures.imp (ih h₁) fun _ m₂ ⟨heng₂, h₂⟩ => ⟨heng₂.trans heng₁, h₂⟩

/-- a shutdown takes away all rules -/
theorem shutdown_wired (h : m.Wired first h₀ E) :
    Ensures shutdown m fun _ m' =>
      (∀ id, m'.engine.endpoint? id = none) ∧ m'.Wired first h₀ fun _ => none := by
  have hdrained : Wired first h₀ (fun _ => none)
      ({ m with scheduler := m.scheduler.shutdown }.withRules .empty) :=
    ⟨h.own, h.kept, fun id e he => (by cases he), fun id e he => (by cases he), h.store⟩
  obtain ⟨heng, hall⟩ := destroyAll_wired hdrained m.engine.rules.values
  exact ⟨fun id => congrArg (Engine.endpoint? · id) heng, hall⟩

theorem subscriptions_wired (h : m.Wired first h₀ E) :
    Ensures subscriptions m fun _ m' => m'.Wired first h₀ E :=
  h.onStore (KeepingStore.all_keeps (Subscription.filed_lasting first) h.store).2

theorem receive_wired (h : m.Wired first h₀ E) (message : Message) :
    Ensures (receive message) m fun _ m' => m'.Wired first h₀ E := by
  have houtlets := Engine.dispatch_outlets m.engine message m.clock.now m.hub
  have hset := Engine.dispatch_setting m.engine message m.clock.now m.hub
  exact h.onHub (h.own.of_same houtlets hset) (.of_outlets houtlets)

/-- a manager begins with no rules, on a store without endpoints -/
theorem assemble_wired {store : σ} {hub : Hub} (hs : LoyalStore.Only (fun _ _ => False) store)
    (hproviders : ∀ p ∈ hub.providers, p.IsOwn) (engine : Engine) (hrules : engine.rules = .empty) (clock : Clock)
    (ids : Nat → String) :
    (assemble store hub engine clock ids).Wired hub.outlets.length hub fun _ => none where
  own := {
    made := Nat.le_refl _
    providers := hproviders
    queues := fun _ _ _ => trivial
    carriers := fun k o hk ho => absurd (List.getElem?_eq_some_iff.1 ho).1 (Nat.not_lt.2 hk) }
  kept := .refl hub
  rules id e he := by simp [assemble, Engine.endpoint?, hrules] at he
  unchanged id e he := by cases he
  store := KeepingStore.mono (fun id s hno k hk => (hno k hk).elim) (KeepingStore.only_iff.1 hs)

end Manager

end EventBroker
