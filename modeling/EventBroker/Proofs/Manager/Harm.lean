/-
Expiries over record files that come to harm.

A broker over files goes on while record files are removed or damaged from outside (`Incident`). The store may then
miss an active subscription, if it no longer has it at hand. An expiry looks the record up first, and does nothing where
it finds none; unsubscribing asks for the rule as well.

- `Recalls`: whatever the store still finds has the end that was last set for its id. Operations keep it, and so does
  harm (`befall_recalls`).
- `silent_since_destroyed`: what was destroyed hands on nothing any more, whatever happens.
- `expiry_needs_record`: when an expiry for the last end has run, the rule is gone if and only if the record was found
  or there was no rule before; then its endpoint is destroyed, and no later message reaches it.
- `expiry_needs_record_pushed_out`: an id that keeps its rule beyond its end.
-/
import EventBroker.Proofs.Manager.Expiry
import EventBroker.Proofs.Manager.Restart
import EventBroker.Proofs.Manager.Stable
import EventBroker.Proofs.Manager.Unsubscribe
import EventBroker.Proofs.Store.Harm

namespace EventBroker

open Function (update)

/-! ## Ends that are remembered -/

/-- the record has its own id, can be written again, and has the end that was last set for the id -/
structure Remembered (supply : Supply) (last : String → Option Timestamp) (id : String) (r : SubscriptionRecord) :
    Prop where
  own : r.id = id
  storable : FileStore.Storable r
  keepable : Keepable FileStore supply r.options
  last : last id = r.options.terminationTime

namespace Remembered

variable {supply : Supply} {last last' : String → Option Timestamp} {id k : String} {r : SubscriptionRecord}

/-- the end of another id has no part in it -/
theorem congr (h : Remembered supply last k r) (hlast : last' k = last k) : Remembered supply last' k r :=
  ⟨h.own, h.storable, h.keepable, hlast.trans h.last⟩

theorem elsewhere (h : Remembered supply last k r) (hk : k ≠ id) (t : Option Timestamp) :
    Remembered supply (update last id t) k r :=
  h.congr (Function.update_of_ne hk _ _)

theorem back {t : Option Timestamp} (h : Remembered supply (update last id t) k r) (hk : k ≠ id) :
    Remembered supply last k r :=
  h.congr (Function.update_of_ne hk _ _).symm

theorem renewed (h : Remembered supply last id r) (t : Timestamp) :
    Remembered supply (update last id (some t)) id (r.renewed t) :=
  ⟨h.own, h.storable.renewed t, Manager.Keepable.renewed h.keepable t, Function.update_self _ _ _⟩

end Remembered

namespace Manager

/-- whatever the store finds under an id is remembered -/
structure Recalls (supply : Supply) (last : String → Option Timestamp) (m : Manager FileStore) : Prop where
  setting : m.hub.supply = supply
  bears : m.store.Bears (Remembered supply last)

variable {supply : Supply} {last : String → Option Timestamp} {m : Manager FileStore} {id : String}

theorem gentle_recalls (supply : Supply) (last : String → Option Timestamp) : Gentle (Recalls supply last) where
  get h id := ⟨h.setting, (h.bears.get id).2⟩
  all h := ⟨h.setting, h.bears.all.2⟩
  delete h _ := ⟨h.setting, h.bears.delete fun _ _ _ hr => hr⟩
  create {m} h d := ⟨(m.hub.create_setting d).supply.trans h.setting, h.bears⟩
  destroy {m} h e := ⟨(m.hub.destroy_setting e).supply.trans h.setting, h.bears⟩
  engine h _ := ⟨h.setting, h.bears⟩
  drawn h _ := ⟨h.setting, h.bears⟩
  schedule h _ _ _ _ := ⟨h.setting, h.bears⟩
  cancel h _ _ _ := ⟨h.setting, h.bears⟩
  close h := ⟨h.setting, h.bears⟩

/-- a new record sets the end of its id; if the rest fails it goes again -/
theorem activateNew_recalls (h : m.Recalls supply last) {o : SubscribeOptions} {e : Endpoint}
    (hk : Keepable FileStore supply o) (hres : Resolves supply o e.location) (id : String) :
    Ensures (activateNew id o e) m fun a m' =>
      ((∃ f, a = .error f) ∧ m'.Recalls supply last) ∨
      a = .ok ⟨id, o, e⟩ ∧ m'.Recalls supply (update last id o.terminationTime) := by
  have hnew : Remembered supply (update last id o.terminationTime) id ⟨id, o, e.location⟩ :=
    ⟨rfl, hk id e.location hres, hk, Function.update_self _ _ _⟩
  have hold := gentle_recalls supply last
  have hset := gentle_recalls supply (update last id o.terminationTime)
  have hput : Ensures (onStore (SubscriptionStore.put · (⟨id, o, e⟩ : Subscription))) m fun a m' =>
      ((∃ f, a = .error f) ∧ m'.Recalls supply last) ∨
        a = .ok () ∧ m'.Recalls supply (update last id o.terminationTime) := by
    have hcases := h.bears.put (s := ⟨id, o, e⟩) (fun k r hne hr => hr.elsewhere hne _) hnew.storable hnew
    exact hcases.imp (fun hrefused => ⟨hrefused.1, h.setting, hrefused.2⟩) fun hdone => ⟨hdone.1, h.setting, hdone.2⟩
  unfold activateNew
  refine Ensures.bind hput fun a m₁ hpost₁ => ?_
  rcases hpost₁ with ⟨⟨f, rfl⟩, h₁⟩ | ⟨rfl, h₁⟩
  · exact Ensures.bind (hold.letGo h₁ e) fun _ m₂ h₂ => Or.inl ⟨⟨f, rfl⟩, h₂⟩
  · refine Ensures.bind (hset.register h₁ ⟨id, o, e⟩ e) fun b m₂ h₂ => ?_
    cases b with
    | error f =>
      have hdelete : Ensures (onStore (SubscriptionStore.delete · id)) m₂ fun _ m' => m'.Recalls supply last :=
        ⟨h₂.setting, h₂.bears.delete fun k r hne hr => hr.back hne⟩
      refine Ensures.bind hdelete fun _ m₃ h₃ => ?_
      exact Ensures.bind (hold.letGo h₃ e) fun _ m₄ h₄ => Or.inl ⟨⟨f, rfl⟩, h₄⟩
    | ok u => exact Ensures.bind (hset.onSchedule h₂ ⟨id, o, e⟩) fun _ m₃ h₃ => Or.inr ⟨rfl, h₃⟩

theorem subscribe_recalls (h : m.Recalls supply last) {o : SubscribeOptions} (hk : Keepable FileStore supply o) :
    Yields (subscribe o) m fun a m' =>
      ((∃ f, a = .error f) ∧ m'.Recalls supply last) ∨
      ∃ s, a = .ok s ∧ m'.Recalls supply (update last s.id s.terminationTime) := by
  have hold := gentle_recalls supply last
  refine subscribe_yields (fun f m₁ hfailed => Or.inl ⟨⟨f, rfl⟩, hold.prepared h hfailed⟩) fun e m₁ hmade => ?_
  have hres : Resolves supply o e.location := by
    cases hmade with
    | made hd he => exact ⟨_, m.hub, e, hd, h.setting, he, rfl⟩
  refine (hold.drawId (hold.prepared h hmade)).imp fun id m₂ h₂ => ?_
  refine Ensures.imp (activateNew_recalls h₂ hk hres id) fun a m₃ h₃ => ?_
  exact h₃.imp_right fun hdone => ⟨⟨id, o, e⟩, hdone⟩

theorem renew_recalls (h : m.Recalls supply last) (id : String) (t : Timestamp) :
    Ensures (renew id t) m fun a m' =>
      ((∃ f, a = .error f) ∧ m'.Recalls supply last) ∨ a = .ok t ∧ m'.Recalls supply (update last id (some t)) := by
  have hrenew : Ensures (onStore (SubscriptionStore.renew · id t)) m fun a m' =>
      ((∃ f, a = .error f) ∧ m'.Recalls supply last) ∨
        (∃ s, a = .ok s) ∧ m'.Recalls supply (update last id (some t)) := by
    have hothers : ∀ k r, k ≠ id → Remembered supply last k r → Remembered supply (update last id (some t)) k r :=
      fun k r hne hr => hr.elsewhere hne _
    have hcases := h.bears.renew (t := t) hothers fun r hr => ⟨hr.own, hr.storable, hr.renewed t⟩
    exact hcases.imp (fun hrefused => ⟨hrefused.1, h.setting, hrefused.2⟩) fun hdone =>
      ⟨hdone.1.imp fun s hs => hs.1, h.setting, hdone.2⟩
  unfold renew
  refine Ensures.bind (P := fun _ m' => m' = m) rfl fun running m₁ hm₁ => ?_
  rw [hm₁]
  cases running with
  | false => exact Or.inl ⟨⟨_, rfl⟩, h⟩
  | true =>
    refine Ensures.bind hrenew fun a m₂ hpost₂ => ?_
    rcases hpost₂ with ⟨⟨f, rfl⟩, h₂⟩ | ⟨⟨s, rfl⟩, h₂⟩
    · exact Or.inl ⟨⟨f, rfl⟩, h₂⟩
    · exact Ensures.bind ((gentle_recalls supply _).onSchedule h₂ s) fun _ m₃ h₃ => Or.inr ⟨rfl, h₃⟩

/-- a record that comes to life keeps its end -/
theorem activate_recalls (h : m.Recalls supply last) {s : Subscription} (hs : Remembered supply last s.id s.toRecord) :
    Ensures (activate s) m fun _ m' => m'.Recalls supply last := by
  have hold := gentle_recalls supply last
  unfold activate
  split
  · exact h
  · rename_i d hd
    have hcreate : Ensures (onHub (·.create d)) m fun a m' => a = (m.hub.create d).1 ∧ m'.Recalls supply last :=
      ⟨rfl, hold.create h d⟩
    refine Ensures.bind hcreate fun a m₁ hpost₁ => ?_
    obtain ⟨ha, h₁⟩ := hpost₁
    cases a with
    | error f => exact h₁
    | ok e =>
      have hres : Resolves supply s.options e.location := ⟨d, m.hub, e, hd, h.setting, ha.symm, rfl⟩
      have hlive : Remembered supply last s.id ⟨s.id, s.options, e.location⟩ :=
        ⟨rfl, hs.keepable s.id e.location hres, hs.keepable, hs.last⟩
      refine Ensures.bind (hold.register h₁ ⟨s.id, s.options, e⟩ e) fun b m₂ h₂ => ?_
      cases b with
      | error f => exact Ensures.bind (hold.letGo h₂ e) fun _ m₃ h₃ => h₃
      | ok u =>
        have hput : Ensures (onStore (SubscriptionStore.put · (⟨s.id, s.options, e⟩ : Subscription))) m₂ fun _ m' =>
            m'.Recalls supply last := by
          refine ⟨h₂.setting, ?_⟩
          rcases h₂.bears.put (s := ⟨s.id, s.options, e⟩) (fun _ _ _ hr => hr) hlive.storable hlive with
            ⟨-, hput⟩ | ⟨-, hput⟩
          · exact hput
          · exact hput
        refine Ensures.bind hput fun c m₃ h₃ => ?_
        cases c with
        | error f =>
          refine Ensures.bind (hold.removeRule h₃ s.id) fun _ m₄ h₄ => ?_
          exact Ensures.bind (hold.letGo h₄ e) fun _ m₅ h₅ => h₅
        | ok u => exact Ensures.bind (hold.onSchedule h₃ ⟨s.id, s.options, e⟩) fun _ m₄ h₄ => h₄

theorem activateAll_recalls (h : m.Recalls supply last) {ss : List Subscription}
    (hss : ∀ s ∈ ss, Remembered supply last s.id s.toRecord) :
    Ensures (activateAll ss) m fun _ m' => m'.Recalls supply last := by
  induction ss generalizing m with
  | nil => exact h
  | cons s ss ih =>
    have hrest := fun s' hs' => hss s' (List.mem_cons_of_mem s hs')
    unfold activateAll
    refine Ensures.bind (Ensures.get (Q := fun _ m' => m'.Recalls supply last) h) fun x m₁ h₁ => ?_
    split
    · exact Ensures.pure_bind (Ensures.bind (ih h₁ hrest) fun _ m₂ h₂ => h₂)
    · refine Ensures.bind (activate_recalls h₁ (hss s List.mem_cons_self)) fun a m₂ h₂ => ?_
      cases a with
      | ok u => exact Ensures.pure_bind (Ensures.bind (ih h₂ hrest) fun _ m₃ h₃ => h₃)
      | error f =>
        have hdelete : Ensures (onStore (SubscriptionStore.delete · s.id)) m₂ fun _ m' => m'.Recalls supply last :=
          (gentle_recalls supply last).delete h₂ s.id
        exact Ensures.bind hdelete fun _ m₃ h₃ => Ensures.pure_bind (Ensures.bind (ih h₃ hrest) fun _ m₄ h₄ => h₄)

theorem restore_recalls (h : m.Recalls supply last) : Ensures restore m fun _ m' => m'.Recalls supply last := by
  have hall : Ensures (onStore SubscriptionStore.all) m fun ss m' =>
      (∀ s ∈ ss, Remembered supply last s.id s.toRecord) ∧ m'.Recalls supply last := by
    refine ⟨fun s hs => ?_, (gentle_recalls supply last).all h⟩
    obtain ⟨id, hid⟩ := h.bears.all.1 s hs
    have hown : s.id = id := hid.own
    exact hown ▸ hid
  unfold restore
  exact Ensures.bind hall fun ss m₁ h₁ => activateAll_recalls h₁.2 h₁.1

end Manager

/-! ## Incidents -/

namespace Broker

/-- what may happen to a broker over files: something is done to it, or a record file comes to harm -/
inductive Incident where
  | op (op : Op)
  | harm (x : FileStore.Harm)

def befall (b : Broker FileStore) : Incident → Broker FileStore
  | .op op => b.step op
  | .harm x => { b with manager := { b.manager with store := x.befall b.manager.store } }

def suffer (b : Broker FileStore) (is : List Incident) : Broker FileStore := is.foldl befall b

def incidentEnd? (b : Broker FileStore) : Incident → Option (String × Option Timestamp)
  | .op op => b.setEnd? op
  | .harm _ => none

/-- the end that was last set for every id, by an op among the incidents or before them -/
def lastSet (b : Broker FileStore) (last : String → Option Timestamp) : List Incident → String → Option Timestamp
  | [] => last
  | i :: is => (b.befall i).lastSet (noteEnd last (b.incidentEnd? i)) is

/-! ### What the store still finds -/

section Recalls

variable {b : Broker FileStore} {supply : Supply} {last : String → Option Timestamp}

theorem step_recalls (h : b.manager.Recalls supply last) {op : Op} (hop : op.Keepable FileStore supply) :
    (b.step op).manager.Recalls supply (noteEnd last (b.setEnd? op)) := by
  have hold := Manager.gentle_recalls supply last
  cases op with
  | subscribe o =>
    have hends := Manager.subscribe_recalls h hop
    cases ha : Manager.subscribe o b.manager with
    | none =>
      simp only [setEnd?, step, ha, Option.elim_none]
      exact h
    | some r =>
      obtain ⟨a, m'⟩ := r
      rw [step_subscribe_some ha]
      simp only [setEnd?, ha]
      rcases hends a m' ha with ⟨⟨f, rfl⟩, h'⟩ | ⟨s, rfl, h'⟩
      · exact h'
      · exact h'
  | renew id t =>
    rcases Manager.renew_recalls h id t with ⟨⟨f, ha⟩, h'⟩ | ⟨ha, h'⟩
    · simp only [setEnd?, ha]
      exact h'
    · simp only [setEnd?, ha]
      exact h'
  | unsubscribe id => exact hold.unsubscribe h id
  | restore => exact Manager.restore_recalls h
  | shutdown => exact hold.shutdown h
  | receive message =>
    have hsetting := Engine.dispatch_setting b.manager.engine message b.manager.clock.now b.manager.hub
    exact ⟨hsetting.supply.trans h.setting, h.bears⟩
  | look id => exact hold.get h id
  | list => exact hold.all h
  | queue q => exact ⟨(q.apply_supply b.manager.hub).trans h.setting, h.bears⟩
  | pass micros reading => exact ⟨h.setting, h.bears⟩
  | takeUp => exact ⟨h.setting, h.bears⟩
  | claim => exact ⟨h.setting, h.bears⟩
  | expire i =>
    cases hi : b.claimed[i]? with
    | none =>
      rw [step_expire_none hi]
      exact h
    | some c =>
      rw [step_expire_some hi]
      exact hold.expire h c.identity c.endOfLife

/-- harm sets no ends, and what the store finds after it, it has found before -/
theorem befall_recalls (h : b.manager.Recalls supply last) {i : Incident}
    (hi : ∀ op, i = .op op → op.Keepable FileStore supply) :
    (b.befall i).manager.Recalls supply (noteEnd last (b.incidentEnd? i)) := by
  cases i with
  | op op => exact step_recalls h (hi op rfl)
  | harm x => exact ⟨h.setting, h.bears.befall x⟩

theorem suffer_recalls (h : b.manager.Recalls supply last) {is : List Incident}
    (his : ∀ op, .op op ∈ is → op.Keepable FileStore supply) :
    (b.suffer is).manager.Recalls supply (b.lastSet last is) := by
  induction is generalizing b last with
  | nil => exact h
  | cons i is ih =>
    have hi : ∀ op, i = .op op → op.Keepable FileStore supply := fun op hop => his op (hop ▸ List.mem_cons_self)
    exact ih (befall_recalls h hi) fun op hop => his op (List.mem_cons_of_mem i hop)

end Recalls

/-! ### What was destroyed -/

section Custody

variable {b : Broker FileStore} {first k : Nat} {owner : Nat → Option String} {again : List Nat}

/-- harm touches no endpoint, and none that the store has at hand -/
theorem befall_custody (h : b.manager.Custody first owner again []) (i : Incident) :
    ∃ owner' again', (b.befall i).manager.Custody first owner' again' [] := by
  cases i with
  | op op =>
    obtain ⟨owner', -, h'⟩ := step_custody h op
    exact ⟨owner', _, h'⟩
  | harm x =>
    have hcache := x.befall_cache b.manager.store
    have honly : LoyalStore.Only (Manager.Belongs first owner) (x.befall b.manager.store) :=
      fun id s hs => h.stored id s (hcache ▸ hs)
    exact ⟨owner, again, h.onStore honly⟩

theorem suffer_custody (h : b.manager.Custody first owner again []) (is : List Incident) :
    ∃ owner' again', (b.suffer is).manager.Custody first owner' again' [] := by
  induction is generalizing b owner again with
  | nil => exact ⟨owner, again, h⟩
  | cons i is ih =>
    obtain ⟨owner', again', h'⟩ := befall_custody h i
    exact ih h'

/-- a message is not handed to what was destroyed, for no rule has it -/
theorem befall_silent (h : b.manager.Custody first owner again []) (hk : 1 ≤ b.manager.hub.destroyCount k)
    (i : Incident) :
    (b.befall i).manager.hub.handed k = b.manager.hub.handed k ∧ 1 ≤ (b.befall i).manager.hub.destroyCount k := by
  have hunused : ∀ r ∈ b.manager.engine.rules.values, r.endpoint.handle? ≠ some k := by
    intro r hr hhandle
    have huse : b.manager.InUse k := Manager.mem_ruleHandles.1 (List.mem_flatMap.2 ⟨r, hr, Option.mem_toList.2 hhandle⟩)
    have hzero := (h.alive k (Or.inr huse)).1
    omega
  cases i with
  | op op =>
    constructor
    · exact (enduring_handed k _).step rfl op fun message _ =>
        Engine.dispatch_handed hunused message b.manager.clock.now b.manager.hub
    · have hkeeps : b.manager.hub.Keeps (b.step op).manager.hub :=
        (enduring_keeps b.manager.hub).step (.refl _) op fun message _ => received_keeps b.manager message
      exact Nat.le_trans hk (hkeeps.destroyCount_le k)
  | harm x => exact ⟨rfl, hk⟩

/-- **What was destroyed hands on nothing more**, whatever happens. -/
theorem silent_since_destroyed (h : b.manager.Custody first owner again []) (hk : 1 ≤ b.manager.hub.destroyCount k)
    (is : List Incident) : (b.suffer is).manager.hub.handed k = b.manager.hub.handed k := by
  induction is generalizing b owner again with
  | nil => rfl
  | cons i is ih =>
    obtain ⟨owner', again', h'⟩ := befall_custody h i
    obtain ⟨hsame, hk'⟩ := befall_silent h hk i
    exact (ih h' hk').trans hsame

end Custody

/-! ### Expiries -/

/-- **An expiry needs the record.** Over record files that may come to harm at any time, an expiry for the end that was
last set for an id removes the rule if the store still finds the record, at hand or in its file: then the endpoint of
the rule is destroyed, once, and whatever happens later, nothing more is handed to it. If the store has the record
neither at hand nor in its file, rules, endpoints and plans stay as they are. -/
theorem expiry_needs_record {f : FileStore} {v : Records} {hub : Hub} (hv : f.InOrder v)
    (hk : ∀ id r, v id = some r → EventBroker.Keepable FileStore hub.supply r.options)
    (hs : LoyalStore.Only (fun _ k => k < hub.outlets.length) f) (c : Compiler) (t : Transformer) (clock : Clock)
    (ids : Nat → String) {is : List Incident} (hkeep : ∀ op, .op op ∈ is → op.Keepable FileStore hub.supply) {i : Nat}
    {x : Claimed Unit} (hclaimed : ((assembled f hub c t clock ids).suffer is).claimed[i]? = some x)
    (hlast : (assembled f hub c t clock ids).lastSet (fun id => (v id).bind (·.options.terminationTime)) is x.identity =
      some x.endOfLife) :
    let b := (assembled f hub c t clock ids).suffer is
    let b' := b.step (.expire i)
    let missing := b.manager.store.cache.find? x.identity = none ∧
      FileStore.recordAt b.manager.store.disk b.manager.store.directory x.identity = none
    (b'.manager.engine.contains x.identity = true ↔ missing ∧ b.manager.engine.contains x.identity = true) ∧
    (missing → b'.manager.engine = b.manager.engine ∧ b'.manager.hub = b.manager.hub ∧
      b'.manager.scheduler = b.manager.scheduler) ∧
    (¬ missing → ∀ k, b.manager.handle? x.identity = some k →
      b.manager.hub.destroyCount k = 0 ∧ b'.manager.hub.destroyCount k = 1 ∧
      ∀ later, (b'.suffer later).manager.hub.handed k = b'.manager.hub.handed k) := by
  intro b b' missing
  have hremembers : (assembled f hub c t clock ids).manager.Recalls hub.supply
      fun id => (v id).bind (·.options.terminationTime) := by
    refine ⟨rfl, hv.bears fun id r hr => ?_⟩
    exact ⟨hv.shelf.keyed id r hr, hv.shelf.storable id r hr, hk id r hr, by simp only [hr, Option.bind_some]⟩
  have hrecalls := suffer_recalls hremembers hkeep
  obtain ⟨owner, again, hcustody⟩ := suffer_custody (b := assembled f hub c t clock ids)
    (Manager.assemble_custody hs (Engine.ofCompiler c t) rfl clock ids) is
  have hstep : b' = ⟨(Manager.expire x.identity x.endOfLife b.manager).2, b.claimed.eraseIdx i⟩ :=
    step_expire_some hclaimed
  have hmissing : missing ↔ (SubscriptionStore.get b.manager.store x.identity).1 = none :=
    (b.manager.store.get_eq_none x.identity).symm
  rw [hmissing]
  cases hget : (SubscriptionStore.get b.manager.store x.identity).1 with
  | none =>
    have hstale : b'.manager = b.manager.asked x.identity := by
      rw [hstep]
      refine expire_stale b.manager x.identity x.endOfLife fun s hfound => ?_
      rw [hget] at hfound
      cases hfound
    rw [hstale]
    exact ⟨⟨fun hrule => ⟨rfl, hrule⟩, fun h => h.2⟩, fun _ => ⟨rfl, rfl, rfl⟩, fun h => absurd rfl h⟩
  | some s =>
    have hremembered := (hrecalls.bears.get x.identity).1 s hget
    have hend : s.terminationTime = some x.endOfLife := hremembered.last.symm.trans hlast
    obtain ⟨e, hparting, hended⟩ := Manager.expire_ended hget hend
    have hafter : b'.manager = (b.manager.asked x.identity).ended x.identity e := by
      rw [hstep]
      exact hended
    refine ⟨?_, fun h => (by cases h), fun _ k hhandle => ?_⟩
    · rw [hafter, ((b.manager.asked x.identity).ended_clears x.identity e).1]
      simp
    · -- the endpoint that goes is that of the rule
      have hrule : e.handle? = some k := by
        obtain ⟨e', he', hk'⟩ := Option.bind_eq_some_iff.1 hhandle
        rw [Manager.parting?, he', Option.some_or] at hparting
        cases hparting
        exact hk'
      have hmade := (hcustody.owned k x.identity (hcustody.rule_owns x.identity k hhandle).1).2
      have hnever := (hcustody.alive k (Or.inr ⟨x.identity, hhandle⟩)).1
      have honce : b'.manager.hub.destroyCount k = 1 := by
        rw [hafter]
        show (b.manager.hub.destroy e).2.destroyCount k = 1
        rw [Hub.destroyCount_destroy, if_pos ⟨hrule, hmade⟩]
        exact congrArg (· + 1) hnever
      obtain ⟨owner', again', hcustody'⟩ := befall_custody hcustody (.op (.expire i))
      exact ⟨hnever, honce, silent_since_destroyed (b := b') hcustody' (Nat.le_of_eq honce.symm)⟩

/-! ### A file that is removed -/

/-- a directory without records, and room for one at hand -/
def narrowFiles : FileStore := ⟨freshDisk, ["d"], 0, Cache.ofCapacity 1⟩

theorem narrowFiles_inOrder : narrowFiles.InOrder fun _ => none := by
  refine ⟨freshDisk_shelf, ⟨[], ?_⟩, fun id s hs => by cases hs⟩
  show freshDisk.node? (["d"] ++ [FileStore.lockName]) = _
  rw [freshDisk_node?, if_pos rfl]
  rfl

theorem location_sample {t : Option Timestamp} {location : String}
    (h : Resolves sampleHub.supply (sampleOptions t) location) : location = "local:q" := by
  obtain ⟨d, hub, e, hd, hsupply, he, rfl⟩ := h
  obtain ⟨p, c, hp, hc, hloc⟩ := Hub.create_eq_ok he
  have hproviders : hub.providers = [.queues] := congrArg Supply.providers hsupply
  cases hd
  rw [hproviders] at hp
  cases hp
  unfold Hub.carrier at hc
  dsimp only at hc
  split at hc
  · cases hc
    exact hloc
  · cases hc

theorem keepable_sample {t : Option Timestamp} (h : (MessagePack.write (sampleOptions t).toDatum).length < 2 ^ 63) :
    EventBroker.Keepable FileStore sampleHub.supply (sampleOptions t) := by
  have hoptions : (sampleOptions t).Fits := by
    refine ⟨?_, by simp [sampleOptions], by simp [sampleOptions], fun d hd => ?_, Nat.two_pow_pos 32,
      fun e he => (by cases he), by simp [sampleOptions]⟩
    · unfold Short
      simp only [sampleOptions]
      decide
    · cases hd
      refine ⟨?_, ?_, ?_, by decide, by simp⟩ <;> unfold Short <;> decide
  intro id location hres
  rw [location_sample hres]
  exact FileStore.Storable.of_options hoptions h (by unfold Short; decide) id

def narrow : Broker FileStore :=
  assembled narrowFiles sampleHub Compiler.regex .standard ⟨⟨0⟩⟩ fun n => toString n

/-- a record is pushed out by another, its file is removed, its end comes, and its expiry is claimed -/
def lostAndDue : List Incident :=
  [.op (.subscribe (sampleOptions (some ⟨5⟩))), .op (.subscribe (sampleOptions none)), .harm (.removed "0"),
    .op (.pass 7 ⟨7⟩), .op .takeUp, .op .claim]

theorem lostAndDue_state :
    let b := narrow.suffer lostAndDue
    b.claimed[0]? = some ⟨"0", ⟨5⟩, ()⟩ ∧ narrow.lastSet (fun _ => none) lostAndDue "0" = some ⟨5⟩ ∧
      (b.manager.store.cache.find? "0" = none ∧
        FileStore.recordAt b.manager.store.disk b.manager.store.directory "0" = none) ∧
      b.manager.engine.contains "0" = true ∧
      (((b.step (.expire 0)).step (.receive (.text "x"))).manager.hub.handed 0).length = 1 := by
  refine ⟨by decide +kernel, by decide +kernel, ⟨?cached, ?stored⟩, by decide +kernel, by decide +kernel⟩
  case cached => exact Option.isNone_iff_eq_none.1 (by decide +kernel)
  case stored => exact Option.isNone_iff_eq_none.1 (by decide +kernel)

/-- the rule stays, and is handed what comes after the end -/
theorem expiry_needs_record_pushed_out :
    let b := (narrow.suffer lostAndDue).step (.expire 0)
    narrow.lastSet (fun _ => none) lostAndDue "0" = some ⟨5⟩ ∧ b.manager.engine.contains "0" = true ∧
      ((b.step (.receive (.text "x"))).manager.hub.handed 0).length = 1 := by
  have hkeep : ∀ op, .op op ∈ lostAndDue → op.Keepable FileStore sampleHub.supply := by
    intro op hop
    simp only [lostAndDue, List.mem_cons, List.not_mem_nil, or_false] at hop
    rcases hop with hop | hop | hop | hop | hop | hop <;> cases hop
    · exact keepable_sample (by decide)
    · exact keepable_sample (by decide)
    · trivial
    · trivial
    · trivial
  have honly : LoyalStore.Only (fun _ k => k < sampleHub.outlets.length) narrowFiles := fun id s hs => by cases hs
  obtain ⟨hclaimed, hlast, hmissing, hactive, hhanded⟩ := lostAndDue_state
  obtain ⟨hrule, -, -⟩ := expiry_needs_record narrowFiles_inOrder (fun id r hr => by cases hr) honly Compiler.regex
    .standard ⟨⟨0⟩⟩ (fun n => toString n) hkeep hclaimed hlast
  exact ⟨hlast, hrule.2 ⟨hmissing, hactive⟩, hhanded⟩

end Broker

end EventBroker
