/-
How often endpoints are destroyed.

There is one way in which an endpoint is destroyed again. Once an id has a record and no rule, ending it destroys
whatever endpoint the store has kept for the record, and the manager may have let that endpoint go before. `endsAgain`
tells which op does so, and `repeats` collects it over a run.

- `step_custody`, `run_custody`: every op keeps custody of the endpoints, and destroys again what `endsAgain` tells.
- `endpoints_destroyed_once`: in every state an endpoint that a rule has was never destroyed, and every other one was
  destroyed once and for each of the repeats. Without a shutdown there are no repeats.
- `destroyed_again_after_shutdown`: a shutdown lets all endpoints go and leaves the records; unsubscribing then
  destroys an endpoint that is gone.
-/
import EventBroker.Proofs.Manager.Agreement
import EventBroker.Proofs.Manager.Custody

namespace EventBroker

open Function (update)

namespace Manager

variable {σ : Type} [SubscriptionStore σ] [LoyalStore σ] {first : Nat} {owner : Nat → Option String}
  {again hand : List Nat} {m : Manager σ}

/-! ## Operations -/

/-- the handle that ending an id destroys although no rule has it, if this is stored -/
def letGoAgain (m : Manager σ) (id : String) (stored : Option Subscription) : Option Nat :=
  if m.engine.contains id then none else stored.bind fun s => s.endpoint.handle?

theorem activateNew_custody {k : Nat} {e : Endpoint} (h : m.Custody first owner again [k]) (he : e.handle? = some k)
    (hk : owner k = none) (id : String) (o : SubscribeOptions) :
    Ensures (activateNew id o e) m fun _ m' => ∃ owner', Extends owner owner' ∧ m'.Custody first owner' again [] := by
  have hnamed := h.name (List.mem_singleton.2 rfl) hk id
  have hext := extends_update hk id
  set owner' := update owner k (some id) with howner
  have hself : owner' k = some id := Function.update_self _ _ _
  have hallowed : Subscription.Allowed (Belongs first owner') id ⟨id, o, e⟩ := by
    intro j hj
    have hjk : k = j := Option.some.inj (he.symm.trans hj)
    exact Or.inr (hjk ▸ hself)
  have hlet : ∀ {m' : Manager σ}, m'.Custody first owner' again [k] →
      Ensures (destroy e) m' fun _ m'' => m''.Custody first owner' again [] := by
    intro m' h'
    refine destroy_custody ?_
    rw [he]
    exact h'
  unfold activateNew
  refine Ensures.bind (onStore_custody hnamed (LoyalStore.put_only hnamed.stored (s := ⟨id, o, e⟩) hallowed))
    fun a m₁ hpost₁ => ?_
  obtain ⟨_, _, h₁⟩ := hpost₁
  cases a with
  | error f => exact Ensures.bind (hlet h₁) fun _ m₂ h₂ => ⟨owner', hext, h₂⟩
  | ok u =>
    refine Ensures.bind (register_custody h₁ he hself) fun b m₂ h₂ => ?_
    rcases h₂ with ⟨rfl, -, h₂⟩ | ⟨⟨f, rfl⟩, h₂⟩
    · exact Ensures.bind (schedule_custody h₂ ⟨id, o, e⟩) fun _ m₃ h₃ => ⟨owner', hext, h₃⟩
    · refine Ensures.bind (onStore_custody h₂ (LoyalStore.delete_only h₂.stored id)) fun _ m₃ hpost₃ => ?_
      obtain ⟨_, _, h₃⟩ := hpost₃
      exact Ensures.bind (hlet h₃) fun _ m₄ h₄ => ⟨owner', hext, h₄⟩

theorem subscribe_custody (h : m.Custody first owner again []) (o : SubscribeOptions) :
    Yields (subscribe o) m fun _ m' => ∃ owner', Extends owner owner' ∧ m'.Custody first owner' again [] := by
  refine subscribe_yields (fun f m₁ h₁ => ⟨owner, .refl owner, ?_⟩) fun e m₁ h₁ => ?_
  · cases h₁ with
    | undefined => exact h
    | refused _ hf =>
      rcases create_custody h _ with ⟨f', -, h₁⟩ | ⟨e, k, he, -⟩
      · exact h₁
      · cases hf.symm.trans he
    | @late d e _ he =>
      rcases create_custody h d with ⟨f, hf, -⟩ | ⟨e', k, he', hk, -, h₁⟩
      · cases he.symm.trans hf
      · cases he.symm.trans he'
        have hhand : Custody first owner again (e.handle?.toList ++ []) (onHub (·.create d) m).2 := by
          rw [hk]
          exact h₁
        exact destroy_custody hhand
  · cases h₁ with
    | made _ he =>
      rcases create_custody h _ with ⟨f, hf, -⟩ | ⟨e', k, he', hk, hnew, h₁⟩
      · cases he.symm.trans hf
      · cases he.symm.trans he'
        exact (drawId_custody h₁).imp fun id m₂ h₂ => activateNew_custody h₂ hk hnew id o

theorem renew_custody (h : m.Custody first owner again []) (id : String) (t : Timestamp) :
    Ensures (renew id t) m fun _ m' => m'.Custody first owner again [] := by
  unfold renew
  refine Ensures.bind (isRunning_custody h) fun b m₁ h₁ => ?_
  split
  · exact h₁
  · refine Ensures.bind (onStore_custody h₁ (LoyalStore.renew_only h₁.stored id t)) fun a m₂ hpost₂ => ?_
    obtain ⟨_, _, h₂⟩ := hpost₂
    cases a with
    | error f => exact h₂
    | ok s => exact Ensures.bind (schedule_custody h₂ s) fun _ m₃ h₃ => h₃

/-- the last steps of a teardown touch no endpoint -/
theorem forget_custody {α : Type} (h : m.Custody first owner again []) (id : String)
    {f : Except BrokerError Subscription → Act σ α} (hf : ∀ a m', (f a m').2 = m') :
    Ensures (do unschedule id; f (← onStore (SubscriptionStore.delete · id))) m fun _ m' =>
      m'.Custody first owner again [] := by
  refine Ensures.bind (unschedule_custody h id) fun _ m₁ h₁ => ?_
  refine Ensures.bind (onStore_custody h₁ (LoyalStore.delete_only h₁.stored id)) fun a m₂ hpost₂ => ?_
  obtain ⟨_, _, h₂⟩ := hpost₂
  show Custody first owner again [] (f a m₂).2
  rw [hf]
  exact h₂

/-- a teardown lets go of what the rule has, or once more of what is stored -/
theorem teardown_custody (h : m.Custody first owner again []) (id : String) {stored : Option Subscription}
    (hs : ∀ s, stored = some s → s.Allowed (Belongs first owner) id) :
    Ensures (teardown id stored) m fun _ m' =>
      m'.Custody first owner (again ++ (m.letGoAgain id stored).toList) [] := by
  unfold teardown letGoAgain
  refine Ensures.bind (removeRule_custody h id) fun a m₁ h₁ => ?_
  rcases h₁ with ⟨r, rfl, hc, -, h₁⟩ | ⟨f, rfl, hc, hrule, hm₁⟩
  · rw [hc, if_pos rfl, Option.toList_none, List.append_nil]
    refine Ensures.pure_bind (Ensures.bind (destroy_custody h₁) fun _ m₂ h₂ => ?_)
    exact forget_custody h₂ id fun a _ => by cases a <;> rfl
  · rw [hc, hm₁]
    cases stored with
    | none =>
      refine Ensures.pure_bind (Ensures.pure_bind ?_)
      have hsame : again ++ (Option.toList (none : Option Nat)) = again := List.append_nil _
      simp only [Bool.false_eq_true, if_false, Option.bind_none, hsame]
      exact forget_custody h id fun a _ => by cases a <;> rfl
    | some s =>
      refine Ensures.pure_bind (Ensures.bind (destroy_again_custody h (hs s rfl) hrule) fun _ m₂ h₂ => ?_)
      exact forget_custody h₂ id fun a _ => by cases a <;> rfl

theorem unsubscribe_custody (h : m.Custody first owner again []) (id : String) :
    Ensures (unsubscribe id) m fun _ m' => m'.Custody first owner
      (again ++ (m.letGoAgain id (SubscriptionStore.get m.store id).1).toList) [] := by
  unfold unsubscribe
  refine Ensures.bind (lookUp_custody h id) fun s m₁ hpost₁ => ?_
  obtain ⟨hs, heng, hallowed, h₁⟩ := hpost₁
  refine Ensures.bind (Ensures.get (Q := fun x m' => x = m₁ ∧ m' = m₁) ⟨rfl, rfl⟩) fun x m₂ hpost₂ => ?_
  obtain ⟨hx, hm₂⟩ := hpost₂
  rw [hx, hm₂, ← hs]
  have hagain : m.letGoAgain id s = m₁.letGoAgain id s := by
    unfold letGoAgain
    rw [heng]
  rw [hagain]
  split
  · rename_i hnone
    rw [Bool.and_eq_true, Option.isNone_iff_eq_none, Bool.not_eq_true'] at hnone
    have hnothing : m₁.letGoAgain id s = none := by
      unfold letGoAgain
      rw [hnone.1, hnone.2]
      rfl
    rw [hnothing, Option.toList_none, List.append_nil]
    exact h₁
  · refine Ensures.bind (teardown_custody h₁ id hallowed) fun fs m₃ h₃ => ?_
    cases fs with
    | nil => exact h₃
    | cons f fs => exact h₃

/-- the handle that running a claimed expiry destroys although no rule has it -/
def expiresAgain (m : Manager σ) (id : String) (endOfLife : Timestamp) : Option Nat :=
  match (SubscriptionStore.get m.store id).1 with
  | some s => if s.terminationTime == some endOfLife then m.letGoAgain id (some s) else none
  | none => none

theorem expire_custody (h : m.Custody first owner again []) (id : String) (t : Timestamp) :
    Ensures (expire id t) m fun _ m' => m'.Custody first owner (again ++ (m.expiresAgain id t).toList) [] := by
  unfold expire expiresAgain
  refine Ensures.bind (lookUp_custody h id) fun s m₁ hpost₁ => ?_
  obtain ⟨hs, heng, hallowed, h₁⟩ := hpost₁
  rw [← hs]
  cases s with
  | none =>
    dsimp only
    rw [Option.toList_none, List.append_nil]
    exact h₁
  | some s =>
    dsimp only
    split
    · have hagain : m.letGoAgain id (some s) = m₁.letGoAgain id (some s) := by
        unfold letGoAgain
        rw [heng]
      rw [hagain]
      exact Ensures.bind (teardown_custody h₁ id hallowed) fun _ m₂ h₂ => h₂
    · rw [Option.toList_none, List.append_nil]
      exact h₁

/-- a dormant record comes to life with an endpoint of its own, or the endpoint is let go again -/
theorem activate_custody (h : m.Custody first owner again []) (s : Subscription) :
    Ensures (activate s) m fun _ m' => ∃ owner', Extends owner owner' ∧ m'.Custody first owner' again [] := by
  unfold activate
  split
  · exact ⟨owner, .refl owner, h⟩
  · rename_i d _
    refine Ensures.bind (create_custody h d) fun a m₁ h₁ => ?_
    rcases h₁ with ⟨f, rfl, h₁⟩ | ⟨e, k, rfl, he, hk, h₁⟩
    · exact ⟨owner, .refl owner, h₁⟩
    · have hnamed := h₁.name (List.mem_singleton.2 rfl) hk s.id
      have hext := extends_update hk s.id
      set owner' := update owner k (some s.id) with howner
      have hself : owner' k = some s.id := Function.update_self _ _ _
      have hallowed : Subscription.Allowed (Belongs first owner') s.id ⟨s.id, s.options, e⟩ := by
        intro j hj
        have hjk : k = j := Option.some.inj (he.symm.trans hj)
        exact Or.inr (hjk ▸ hself)
      refine Ensures.bind (register_custody (s := ⟨s.id, s.options, e⟩) hnamed he hself) fun b m₂ h₂ => ?_
      rcases h₂ with ⟨rfl, hrule, h₂⟩ | ⟨⟨f, rfl⟩, h₂⟩
      · refine Ensures.bind
          (onStore_custody h₂ (LoyalStore.put_only h₂.stored (s := ⟨s.id, s.options, e⟩) hallowed))
          fun c m₃ hpost₃ => ?_
        obtain ⟨_, heng, h₃⟩ := hpost₃
        cases c with
        | ok u => exact Ensures.bind (schedule_custody h₃ ⟨s.id, s.options, e⟩) fun _ m₄ h₄ => ⟨owner', hext, h₄⟩
        | error f =>
          -- the rule that was installed goes again, and with it the endpoint
          have hrule₃ : m₃.handle? s.id = some k := by
            unfold handle?
            rw [heng]
            exact hrule
          refine Ensures.bind (removeRule_custody h₃ s.id) fun b m₄ h₄ => ?_
          rcases h₄ with ⟨r, -, -, hr, h₄⟩ | ⟨f', -, -, hnone, -⟩
          · rw [← hr, hrule₃, ← he] at h₄
            exact Ensures.bind (destroy_custody h₄) fun _ m₅ h₅ => ⟨owner', hext, h₅⟩
          · rw [hrule₃] at hnone
            cases hnone
      · have hlet : Ensures (destroy e) m₂ fun _ m' => m'.Custody first owner' again [] := by
          refine destroy_custody ?_
          rw [he]
          exact h₂
        exact Ensures.bind hlet fun _ m₃ h₃ => ⟨owner', hext, h₃⟩

theorem activateAll_custody (h : m.Custody first owner again []) (ss : List Subscription) :
    Ensures (activateAll ss) m fun _ m' => ∃ owner', Extends owner owner' ∧ m'.Custody first owner' again [] := by
  induction ss generalizing m owner with
  | nil => exact ⟨owner, .refl owner, h⟩
  | cons s ss ih =>
    unfold activateAll
    refine Ensures.bind (Ensures.get (Q := fun _ m' => m' = m) rfl) fun x m₁ hm₁ => ?_
    rw [hm₁]
    split
    · exact Ensures.pure_bind (Ensures.bind (ih h) fun _ m₂ h₂ => h₂)
    · refine Ensures.bind (activate_custody h s) fun a m₂ hpost₂ => ?_
      obtain ⟨owner', hext, h₂⟩ := hpost₂
      cases a with
      | ok u =>
        refine Ensures.pure_bind (Ensures.bind (ih h₂) fun _ m₃ hpost₃ => ?_)
        obtain ⟨owner'', hext', h₃⟩ := hpost₃
        exact ⟨owner'', hext.trans hext', h₃⟩
      | error f =>
        refine Ensures.bind (onStore_custody h₂ (LoyalStore.delete_only h₂.stored s.id)) fun _ m₃ hpost₃ => ?_
        obtain ⟨_, _, h₃⟩ := hpost₃
        refine Ensures.pure_bind (Ensures.bind (ih h₃) fun _ m₄ hpost₄ => ?_)
        obtain ⟨owner'', hext', h₄⟩ := hpost₄
        exact ⟨owner'', hext.trans hext', h₄⟩

theorem restore_custody (h : m.Custody first owner again []) :
    Ensures restore m fun _ m' => ∃ owner', Extends owner owner' ∧ m'.Custody first owner' again [] := by
  unfold restore
  refine Ensures.bind (onStore_custody h (LoyalStore.all_only h.stored)) fun ss m₁ hpost₁ => ?_
  obtain ⟨_, _, h₁⟩ := hpost₁
  exact activateAll_custody h₁ ss

theorem destroyAll_custody {rs : List Rule}
    (h : m.Custody first owner again (rs.flatMap fun r => r.endpoint.handle?.toList)) :
    Ensures (destroyAll rs) m fun _ m' => m'.Custody first owner again [] := by
  induction rs generalizing m with
  | nil => exact h
  | cons r rs ih => exact Ensures.bind (destroy_custody h) fun _ m₁ h₁ => ih h₁

/-- two rules with one endpoint would be rules of one id -/
theorem Custody.ruleHandles_nodup (h : m.Custody first owner again hand) :
    (m.engine.rules.values.flatMap fun r => r.endpoint.handle?.toList).Nodup := by
  have howner : ∀ e ∈ m.engine.rules.entries, ∀ k ∈ e.2.endpoint.handle?.toList, owner k = some e.1 := by
    intro e he k hk
    have hfind : m.engine.rules.find? e.1 = some e.2 := Table.find?_eq_some_iff.2 he
    refine (h.rule_owns e.1 k ?_).1
    simp only [handle?, Engine.endpoint?, hfind]
    exact Option.mem_toList.1 hk
  have hkeys : m.engine.rules.entries.Pairwise fun a b => a.1 ≠ b.1 := List.pairwise_map.1 m.engine.rules.nodup
  have hpair : m.engine.rules.values.Pairwise fun r r' =>
      List.Disjoint r.endpoint.handle?.toList r'.endpoint.handle?.toList := by
    refine List.pairwise_map.2 (hkeys.imp_of_mem fun {a b} ha hb hne k hk hk' => hne ?_)
    exact Option.some.inj ((howner a ha k hk).symm.trans (howner b hb k hk'))
  refine List.nodup_flatMap.2 ⟨fun r _ => ?_, hpair⟩
  cases r.endpoint.handle? with
  | none => exact List.nodup_nil
  | some k => exact List.nodup_singleton k

/-- with all rules out, their endpoints are in hand -/
theorem Custody.drain (h : m.Custody first owner again []) :
    Custody first owner again (m.engine.rules.values.flatMap fun r => r.endpoint.handle?.toList)
      (m.withRules .empty) := by
  have hnone : ∀ i, (m.withRules .empty).handle? i = none := fun _ => rfl
  refine ⟨h.first_le, h.owned, h.again_made, h.ruleHandles_nodup, fun k hk => ?_, fun i k hk => ?_,
    fun i hi => (by cases hi), fun k hk => ?_, fun k hf hlt hh hu => ?_, h.stored⟩
  · obtain ⟨id, hid⟩ := mem_ruleHandles.1 hk
    exact h.owned k id (h.rule_owns id k hid).1
  · rw [hnone] at hk
    cases hk
  · rcases hk with hk | ⟨i, hi⟩
    · exact h.alive k (Or.inr (mem_ruleHandles.1 hk))
    · rw [hnone] at hi
      cases hi
  · exact h.gone k hf hlt List.not_mem_nil fun huse => hh (mem_ruleHandles.2 huse)

theorem shutdown_custody (h : m.Custody first owner again []) :
    Ensures shutdown m fun _ m' => m'.Custody first owner again [] :=
  destroyAll_custody (h.onScheduler m.scheduler.shutdown).drain

theorem getSubscription_custody (h : m.Custody first owner again []) (id : String) :
    Ensures (getSubscription id) m fun _ m' => m'.Custody first owner again [] :=
  (lookUp_custody h id).2.2.2

theorem subscriptions_custody (h : m.Custody first owner again []) :
    Ensures subscriptions m fun _ m' => m'.Custody first owner again [] :=
  h.onStore (LoyalStore.all_only h.stored)

theorem receive_custody (h : m.Custody first owner again []) (message : Message) :
    Ensures (receive message) m fun _ m' => m'.Custody first owner again [] :=
  h.onHub (Engine.dispatch_outlets m.engine message m.clock.now m.hub)

/-- a manager begins with nothing of its own -/
theorem assemble_custody {store : σ} {hub : Hub} (hs : LoyalStore.Only (fun _ k => k < hub.outlets.length) store)
    (engine : Engine) (hrules : engine.rules = .empty) (clock : Clock) (ids : Nat → String) :
    (assemble store hub engine clock ids).Custody hub.outlets.length (fun _ => none) [] [] := by
  have hnone : ∀ i, (assemble store hub engine clock ids).handle? i = none := by
    intro i
    simp [handle?, Engine.endpoint?, assemble, hrules]
  refine ⟨Nat.le_refl _, fun k id hk => (by cases hk), fun k hk => (by cases hk), List.nodup_nil,
    fun k hk => (by cases hk), fun i k hk => ?_, fun i hi => ?_, fun k hk => ?_, fun k hf hlt _ _ => ?_, ?_⟩
  · rw [hnone] at hk
    cases hk
  · simp [assemble, hrules, Engine.contains, Table.contains] at hi
  · rcases hk with hk | ⟨i, hi⟩
    · cases hk
    · rw [hnone] at hi
      cases hi
  · exact absurd hlt (Nat.not_lt.2 hf)
  · exact LoyalStore.mono (fun _ _ hk => Or.inl hk) hs

end Manager

/-! ## Runs -/

namespace Broker

variable {σ : Type} [SubscriptionStore σ]

/-- the handle that an op destroys although no rule has it: that of an id with a record and without a rule -/
def endsAgain (b : Broker σ) : Op → Option Nat
  | .unsubscribe id => b.manager.letGoAgain id (SubscriptionStore.get b.manager.store id).1
  | .expire i => b.claimed[i]?.bind fun c => b.manager.expiresAgain c.identity c.endOfLife
  | _ => none

/-- the handles that a row of ops destroys although no rule has them -/
def repeats (b : Broker σ) : List Op → List Nat
  | [] => []
  | op :: ops => (b.endsAgain op).toList ++ (b.step op).repeats ops

theorem QueueOp.apply_outlets (q : QueueOp) (h : Hub) : (q.apply h).outlets = h.outlets := by
  cases q with
  | openUp name => rfl
  | close name => rfl
  | empty serial =>
    simp only [apply, Hub.receiveAll]
    split <;> rfl
  | dropReceiver serial =>
    simp only [apply, Hub.dropReceiver]
    split <;> rfl

/-- without dormant records nothing is destroyed again -/
theorem endsAgain_eq_none [FaithfulStore σ] {b : Broker σ} {s : Scene} (h : b.Shows s)
    (hactive : s.picture.AllActive) (op : Op) : b.endsAgain op = none := by
  have hnothing : ∀ id, b.manager.letGoAgain id (SubscriptionStore.get b.manager.store id).1 = none := by
    intro id
    unfold Manager.letGoAgain
    split
    · rfl
    · rename_i hc
      cases ht : (SubscriptionStore.get b.manager.store id).1 with
      | none => rfl
      | some t =>
        have hrecord := h.get_eq_some ht
        have hrule := hactive id (by simp [hrecord])
        rw [h.manager.contains, Option.isSome_iff_ne_none] at hc
        exact absurd hrule hc
  cases op with
  | unsubscribe id => exact hnothing id
  | expire i =>
    simp only [endsAgain, Manager.expiresAgain]
    cases b.claimed[i]? with
    | none => rfl
    | some c =>
      have hc := hnothing c.identity
      rw [Option.bind_some]
      cases ht : (SubscriptionStore.get b.manager.store c.identity).1 with
      | none => rfl
      | some t =>
        rw [ht] at hc
        simp only [hc, ite_self]
  | _ => rfl

theorem repeats_eq_nil [FaithfulStore σ] {b : Broker σ} {s : Scene} (h : b.Shows s) (hco : s.Coherent)
    (hactive : s.picture.AllActive) {ops : List Op} (hkeep : ∀ op ∈ ops, op.Keepable σ s.picture.supply)
    (hops : Op.shutdown ∉ ops) : b.repeats ops = [] := by
  induction ops generalizing b s with
  | nil => rfl
  | cons op ops ih =>
    obtain ⟨s', hturn, hs'⟩ := step_turn h (hkeep op List.mem_cons_self)
    have hop : op ≠ .shutdown := fun heq => hops (heq ▸ List.mem_cons_self)
    have hrest : (b.step op).repeats ops = [] := by
      refine ih hs' (hturn.coherent hop hactive hco) (hturn.allActive hop hactive) (fun o ho => ?_) fun ho => ?_
      · rw [hturn.supply]
        exact hkeep o (List.mem_cons_of_mem op ho)
      · exact hops (List.mem_cons_of_mem op ho)
    rw [repeats, endsAgain_eq_none h hactive, hrest]
    rfl

variable [LoyalStore σ] {first : Nat} {owner : Nat → Option String} {again : List Nat}

theorem step_custody {b : Broker σ} (h : b.manager.Custody first owner again []) (op : Op) :
    ∃ owner', Manager.Extends owner owner' ∧ (b.step op).manager.Custody first owner' (again ++ (b.endsAgain op).toList) [] := by
  have hsame : again ++ (none : Option Nat).toList = again := List.append_nil _
  cases op with
  | subscribe o =>
    obtain ⟨owner', hext, h'⟩ := step_subscribe (P := fun m' => ∃ owner', Manager.Extends owner owner' ∧
      m'.Custody first owner' again []) ⟨owner, .refl owner, h⟩ (Manager.subscribe_custody h o)
    exact ⟨owner', hext, hsame.symm ▸ h'⟩
  | renew id t => exact ⟨owner, .refl owner, hsame.symm ▸ Manager.renew_custody h id t⟩
  | unsubscribe id => exact ⟨owner, .refl owner, Manager.unsubscribe_custody h id⟩
  | restore =>
    obtain ⟨owner', hext, h'⟩ := Manager.restore_custody h
    exact ⟨owner', hext, hsame.symm ▸ h'⟩
  | shutdown => exact ⟨owner, .refl owner, hsame.symm ▸ Manager.shutdown_custody h⟩
  | receive message => exact ⟨owner, .refl owner, hsame.symm ▸ Manager.receive_custody h message⟩
  | look id => exact ⟨owner, .refl owner, hsame.symm ▸ Manager.getSubscription_custody h id⟩
  | list => exact ⟨owner, .refl owner, hsame.symm ▸ Manager.subscriptions_custody h⟩
  | queue q => exact ⟨owner, .refl owner, hsame.symm ▸ h.onHub (q.apply_outlets b.manager.hub)⟩
  | pass micros reading => exact ⟨owner, .refl owner, hsame.symm ▸ { h with }⟩
  | takeUp => exact ⟨owner, .refl owner, hsame.symm ▸ h.onScheduler _⟩
  | claim => exact ⟨owner, .refl owner, hsame.symm ▸ h.onScheduler _⟩
  | expire i =>
    simp only [step, endsAgain]
    cases b.claimed[i]? with
    | none => exact ⟨owner, .refl owner, hsame.symm ▸ h⟩
    | some c => exact ⟨owner, .refl owner, Manager.expire_custody h c.identity c.endOfLife⟩

theorem run_custody {b : Broker σ} (h : b.manager.Custody first owner again []) (ops : List Op) :
    ∃ owner', (b.run ops).manager.Custody first owner' (again ++ b.repeats ops) [] := by
  induction ops generalizing b owner again with
  | nil => exact ⟨owner, (List.append_nil again).symm ▸ h⟩
  | cons op ops ih =>
    obtain ⟨owner₁, -, h₁⟩ := step_custody h op
    obtain ⟨owner₂, h₂⟩ := ih h₁
    refine ⟨owner₂, ?_⟩
    rw [List.append_assoc] at h₂
    exact h₂

/-- a broker that was opened has custody of what it made -/
theorem opened_custody {store : σ} {hub : Hub} (hs : LoyalStore.Only (fun _ k => k < hub.outlets.length) store)
    (c : Compiler) (t : Transformer) (clock : Clock) (ids : Nat → String) :
    ∃ owner, (opened store hub c t clock ids).manager.Custody hub.outlets.length owner [] [] := by
  obtain ⟨owner, -, h⟩ := Manager.restore_custody (Manager.assemble_custody hs (Engine.ofCompiler c t) rfl clock ids)
  exact ⟨owner, h⟩

/-- **Endpoints are destroyed once, but for what a shutdown leaves behind.** In every state an endpoint that a rule has
was never destroyed. Every other endpoint that the manager has made was destroyed once, and once more each time that an
id was ended whose record still had it and which had no rule; and this needs a shutdown. -/
theorem endpoints_destroyed_once [FaithfulStore σ] {store : σ} {v : Records} {hub : Hub}
    (hv : FaithfulStore.Holds store v) (hk : ∀ id r, v id = some r → EventBroker.Keepable σ hub.supply r.options)
    (hs : LoyalStore.Only (fun _ k => k < hub.outlets.length) store) (c : Compiler) (t : Transformer) (clock : Clock)
    (ids : Nat → String) {ops : List Op} (hkeep : ∀ op ∈ ops, op.Keepable σ hub.supply) :
    (∀ k, hub.outlets.length ≤ k → k < ((opened store hub c t clock ids).run ops).manager.hub.outlets.length →
      (((opened store hub c t clock ids).run ops).manager.InUse k →
        ((opened store hub c t clock ids).run ops).manager.hub.destroyCount k = 0) ∧
      (¬ ((opened store hub c t clock ids).run ops).manager.InUse k →
        ((opened store hub c t clock ids).run ops).manager.hub.destroyCount k =
          1 + ((opened store hub c t clock ids).repeats ops).count k)) ∧
    (Op.shutdown ∉ ops → (opened store hub c t clock ids).repeats ops = []) := by
  constructor
  · obtain ⟨owner, hopened⟩ := opened_custody hs c t clock ids
    obtain ⟨owner', hrun⟩ := run_custody hopened ops
    intro k hf hlt
    exact ⟨fun huse => (hrun.alive k (Or.inr huse)).1, hrun.gone k hf hlt List.not_mem_nil⟩
  · intro hops
    obtain ⟨p, hp, hshows⟩ := opened_shows hv hk c t clock ids
    have hsetting : p.supply = hub.supply := by
      obtain ⟨_, -, -, hrev⟩ := hp
      exact (Revives.sameSetting hrev).1
    have hco : Scene.Coherent ⟨p, []⟩ := Restores.coherent (fun id r => FaithfulStore.keyed hv) hp
    exact repeats_eq_nil hshows hco hp.allActive (fun op hop => hsetting ▸ hkeep op hop) hops

/-- the record that was there has no endpoint of any broker -/
theorem sampleStore_only (P : String → Nat → Prop) : LoyalStore.Only P sampleStore := by
  have hempty : MemoryStore.Only P .empty := fun id s hs => by simp [MemoryStore.empty] at hs
  exact hempty.insert fun k hk => by cases hk

/-- after a shutdown, unsubscribing destroys an endpoint that is gone -/
theorem destroyed_again_after_shutdown :
    let ops := [.subscribe (sampleOptions none), .shutdown, .unsubscribe "0"]
    ¬ (sample.run ops).manager.InUse 1 ∧ (sample.run ops).manager.hub.destroyCount 1 = 2 ∧
      (sample.repeats ops).count 1 = 1 := by
  intro ops
  have hkeep : ∀ op ∈ ops, op.Keepable MemoryStore sampleHub.supply := fun op _ => op.keepable_memory _
  have htwice : (sample.run ops).manager.hub.destroyCount 1 = 2 := by decide
  have hmade : 1 < (sample.run ops).manager.hub.outlets.length := by decide
  obtain ⟨huse, hgone⟩ := (endpoints_destroyed_once sampleStore_holds (fun _ _ _ _ _ _ => trivial) (sampleStore_only _)
    Compiler.regex .standard ⟨⟨0⟩⟩ (fun n => toString n) hkeep).1 1 (Nat.zero_le 1) hmade
  have hnot : ¬ (sample.run ops).manager.InUse 1 := by
    intro h
    have hzero : (sample.run ops).manager.hub.destroyCount 1 = 0 := huse h
    omega
  have hcount : (sample.run ops).manager.hub.destroyCount 1 = 1 + (sample.repeats ops).count 1 := hgone hnot
  exact ⟨hnot, htwice, by omega⟩

end Broker

end EventBroker
