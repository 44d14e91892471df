/-
A restore is complete, and a second one has nothing to do.

- `Restoring` is what holds while a restore visits one id after the other: ids that it skips or has yet to visit are as
  they were, those that it has visited are alive or dropped, and of the endpoints that it made those of living rules
  are intact and the others were destroyed once.
- `Restoring.skip`, `Restoring.revive`, `Restoring.drop`: one visit keeps it; `activateAll_restoring`: so does a row of
  visits.
- `Restored` is what it comes to in the end (`restore_restored`), and `restore_complete` says it of every state that a
  broker can reach without a shutdown.
-/
import EventBroker.Proofs.Delivery.Address
import EventBroker.Proofs.Manager.Dormant
import EventBroker.Proofs.Manager.Release
import EventBroker.Proofs.Manager.Revival

namespace EventBroker

/-- what can be made by one hub can be made by another with the same setting -/
theorem Hub.SameSetting.creates {h k : Hub} (hs : h.SameSetting k) {d : DeliveryDefinition} {e : Endpoint}
    (he : (h.create d).1 = .ok e) : ∃ e', (k.create d).1 = .ok e' := by
  refine Hub.create_again (congrArg Supply.providers hs.supply) he fun hqueues => ?_
  obtain ⟨maker, c, hmaker, hc, -⟩ := Hub.create_made he
  cases hmaker.symm.trans hqueues
  rcases Hub.carrier_cases hc with
    ⟨_, _, _, hno, -⟩ | ⟨_, _, _, _, hno, -⟩ | ⟨serial, -, hfind, -⟩ | ⟨_, _, _, _, hno, -⟩
  · cases hno
  · cases hno
  · rw [hs.queues, Table.contains, hfind]
    rfl
  · cases hno

/-- outlets that are added do not change how often the old ones were destroyed -/
theorem Hub.destroyCount_of_prefix {h k : Hub} (ho : h.outlets <+: k.outlets) {i : Nat} (hi : i < h.outlets.length) :
    k.destroyCount i = h.destroyCount i := by
  obtain ⟨made, hmade⟩ := ho
  unfold destroyCount
  rw [← hmade, List.getElem?_append_left hi]

namespace Manager

/-! ## What stays as it is -/

section Ids

variable {τ : Type} [SubscriptionStore τ] {l m n : Manager τ} {id : String} {r : SubscriptionRecord} {rule : Rule}
  {k : Nat}

omit [SubscriptionStore τ] in
theorem Servable.again {o : SubscribeOptions} (h : m.Servable o) (hs : m.hub.SameSetting n.hub)
    (hc : n.engine.compiler = m.engine.compiler) : n.Servable o := by
  obtain ⟨⟨e, d, hd, he⟩, p, hp⟩ := h
  obtain ⟨e', he'⟩ := hs.creates he
  refine ⟨⟨e', d, hd, he'⟩, p, ?_⟩
  rw [Engine.compile_eq, hc]
  exact hp

theorem Same.handle (h : m.Same n id) : n.handle? id = m.handle? id := by
  rw [handle?, handle?, Engine.endpoint?, Engine.endpoint?, h.rule]

/-- the endpoint of a living rule is known by its handle -/
theorem Alive.handle_eq (h : m.Alive n r rule k) : n.handle? r.id = some k := by
  rw [handle?, Engine.endpoint?, h.installed]
  exact h.handle

/-- what is alive since a later state is alive since an earlier one, if nothing of it has changed in between -/
theorem Alive.since (h : m.Alive n r rule k) (ho : l.hub.outlets <+: m.hub.outlets)
    (hc : m.engine.compiler = l.engine.compiler) (hsame : l.Same m r.id) : l.Alive n r rule k := by
  have hplan : m.scheduler.endOfLife? r.id = l.scheduler.endOfLife? r.id :=
    congrArg (Option.map Job.endOfLife) hsame.job
  refine { h with fresh := Nat.le_trans ho.length_le h.fresh, serves := hc ▸ h.serves, plan := ?_ }
  rw [← hplan]
  exact h.plan

theorem Dropped.since (h : m.Dropped n id) (hsame : l.Same m id) : l.Dropped n id :=
  ⟨h.told, h.rule, h.job.trans hsame.job⟩

end Ids

/-! ## A restore under way -/

section Runs

variable {σ : Type} [SubscriptionStore σ] [FaithfulStore σ] {l m n : Manager (ReluctantStore σ)} {id : String}
  {todo revived : List String} {r : SubscriptionRecord} {rule : Rule}

/-- what a restore from `l` keeps in order on its way -/
structure Underway (l m : Manager (ReluctantStore σ)) : Prop where
  outlets : l.hub.outlets <+: m.hub.outlets
  setting : l.hub.SameSetting m.hub
  compiler : m.engine.compiler = l.engine.compiler
  running : m.scheduler.isShutDown = false
  refusals : m.store.refusals = l.store.refusals
  holds : FaithfulStore.Holds m.store.base (SubscriptionStore.told m.store)

theorem Underway.visit (h : l.Underway m) (hv : m.Visited n id) : l.Underway n where
  outlets := h.outlets.trans hv.outlets
  setting := h.setting.trans hv.setting
  compiler := hv.compiler.trans h.compiler
  running := hv.running.trans h.running
  refusals := hv.refusals.trans h.refusals
  holds := hv.holds

theorem Underway.canRevive_iff (h : l.Underway m) : m.CanRevive r ↔ l.CanRevive r := by
  unfold CanRevive
  rw [h.refusals]
  refine and_congr_left fun _ => ⟨fun hm => ?_, fun hl => hl.again h.setting h.compiler⟩
  exact hm.again ⟨h.setting.supply.symm, h.setting.queues.symm⟩ h.compiler.symm

/-- A restore under way, from `l` to `m`: the ids in `todo` are yet to be visited, and those in `revived` have come to
life. -/
structure Restoring (l m : Manager (ReluctantStore σ)) (todo revived : List String) : Prop extends Underway l m where
  same : ∀ id, id ∈ todo ∨ l.engine.rules.find? id ≠ none ∨ SubscriptionStore.told l.store id = none → l.Same m id
  dropped : ∀ id, id ∉ todo → id ∉ revived → l.engine.rules.find? id = none →
    SubscriptionStore.told l.store id ≠ none → l.Dropped m id
  alive : ∀ id ∈ revived, ∃ r rule k, r.id = id ∧ SubscriptionStore.told l.store id = some r ∧ l.Alive m r rule k
  revived_iff : ∀ id, id ∈ revived ↔
    id ∉ todo ∧ l.engine.rules.find? id = none ∧ ∃ r, SubscriptionStore.told l.store id = some r ∧ l.CanRevive r
  nodup : revived.Nodup
  made : ∀ k, l.hub.outlets.length ≤ k → k < m.hub.outlets.length →
    m.hub.destroyCount k = 1 ∨ ∃ id ∈ revived, m.handle? id = some k
  apart : ∀ id ∈ revived, ∀ id' ∈ revived, m.handle? id = m.handle? id' → id = id'

namespace Restoring

/-- an id that has a rule is skipped -/
theorem skip (h : l.Restoring m (id :: todo) revived) (hrule : l.engine.rules.find? id ≠ none) :
    l.Restoring m todo revived := by
  have htodo : ∀ j, l.engine.rules.find? j = none → j ∉ todo → j ∉ id :: todo := by
    intro j hj hnot
    rw [List.mem_cons, not_or]
    refine ⟨?_, hnot⟩
    rintro rfl
    exact hrule hj
  refine { h with same := fun j hj => ?_, dropped := fun j hj => ?_, revived_iff := fun j => ?_ }
  · exact h.same j (hj.imp_left (List.mem_cons_of_mem id))
  · intro hrevived hnone
    exact h.dropped j (htodo j hnone hj) hrevived hnone
  · rw [h.revived_iff j]
    constructor
    · rintro ⟨hnot, hrest⟩
      exact ⟨fun hmem => hnot (List.mem_cons_of_mem id hmem), hrest⟩
    · rintro ⟨hnot, hnone, hrest⟩
      exact ⟨htodo j hnone hnot, hnone, hrest⟩

/-- an id that came to life was visited before -/
theorem ne_of_revived (h : l.Restoring m (id :: todo) revived) {j : String} (hj : j ∈ revived) : j ≠ id := by
  rintro rfl
  exact ((h.revived_iff j).1 hj).1 List.mem_cons_self

/-- a visit leaves all other ids as they are -/
theorem same_of_visit (h : l.Restoring m (r.id :: todo) revived) (hnot : r.id ∉ todo)
    (hr : SubscriptionStore.told l.store r.id = some r) (hrule : l.engine.rules.find? r.id = none)
    (hv : m.Visited n r.id) (j : String)
    (hj : j ∈ todo ∨ l.engine.rules.find? j ≠ none ∨ SubscriptionStore.told l.store j = none) : l.Same n j := by
  have hne : j ≠ r.id := by
    rintro rfl
    rcases hj with hmem | hsome | hnone
    · exact hnot hmem
    · exact hsome hrule
    · cases hr.symm.trans hnone
  exact (h.same j (hj.imp_left (List.mem_cons_of_mem r.id))).trans (hv.others j hne)

theorem alive_of_visit (h : l.Restoring m (id :: todo) revived) (hv : m.Visited n id) {j : String} (hj : j ∈ revived) :
    ∃ r rule k, r.id = j ∧ SubscriptionStore.told l.store j = some r ∧ l.Alive n r rule k := by
  obtain ⟨r, rule, k, rfl, hr, halive⟩ := h.alive j hj
  exact ⟨r, rule, k, rfl, hr, halive.same (hv.others r.id (h.ne_of_revived hj)) hv.outlets⟩

theorem handle_of_visit (h : l.Restoring m (id :: todo) revived) (hv : m.Visited n id) {j : String} (hj : j ∈ revived) :
    n.handle? j = m.handle? j := (hv.others j (h.ne_of_revived hj)).handle

/-- of what was made before a visit nothing changes -/
theorem made_of_visit (h : l.Restoring m (id :: todo) revived) (hv : m.Visited n id) {k : Nat}
    (hk : l.hub.outlets.length ≤ k) (hlt : k < m.hub.outlets.length) :
    n.hub.destroyCount k = 1 ∨ ∃ j ∈ revived, n.handle? j = some k := by
  rcases h.made k hk hlt with hgone | ⟨j, hj, hhandle⟩
  · exact Or.inl ((Hub.destroyCount_of_prefix hv.outlets hlt).trans hgone)
  · exact Or.inr ⟨j, hj, (h.handle_of_visit hv hj).trans hhandle⟩

/-- a dormant record comes to life -/
theorem revive (h : l.Restoring m (r.id :: todo) revived) (hnot : r.id ∉ todo)
    (hr : SubscriptionStore.told l.store r.id = some r) (hrule : l.engine.rules.find? r.id = none)
    (hcan : l.CanRevive r) (hv : m.Visited n r.id) (halive : m.Alive n r rule m.hub.outlets.length)
    (hlength : n.hub.outlets.length = m.hub.outlets.length + 1) : l.Restoring n todo (r.id :: revived) where
  toUnderway := h.toUnderway.visit hv
  same := h.same_of_visit hnot hr hrule hv
  dropped j hj hjr hnone hsome := by
    rw [List.mem_cons, not_or] at hjr
    refine (h.dropped j ?_ hjr.2 hnone hsome).same (hv.others j hjr.1)
    rw [List.mem_cons, not_or]
    exact ⟨hjr.1, hj⟩
  alive j hj := by
    rcases List.mem_cons.1 hj with rfl | hj
    · exact ⟨r, rule, _, rfl, hr,
        halive.since h.outlets h.compiler (h.same r.id (Or.inl List.mem_cons_self))⟩
    · exact h.alive_of_visit hv hj
  revived_iff j := by
    by_cases hj : j = r.id
    · subst hj
      exact ⟨fun _ => ⟨hnot, hrule, r, hr, hcan⟩, fun _ => List.mem_cons_self⟩
    · rw [List.mem_cons, or_iff_right hj, h.revived_iff j, List.mem_cons, or_iff_right hj]
  nodup := List.nodup_cons.2 ⟨fun hmem => h.ne_of_revived hmem rfl, h.nodup⟩
  made k hk hlt := by
    rw [hlength] at hlt
    rcases Nat.lt_succ_iff_lt_or_eq.1 hlt with hlt | rfl
    · refine (h.made_of_visit hv hk hlt).imp_right ?_
      rintro ⟨j, hj, hhandle⟩
      exact ⟨j, List.mem_cons_of_mem r.id hj, hhandle⟩
    · exact Or.inr ⟨r.id, List.mem_cons_self, halive.handle_eq⟩
  apart := by
    -- what came to life before has a handle that was given out before
    have hearlier : ∀ j ∈ revived, n.handle? j ≠ n.handle? r.id := by
      intro j hj heq
      obtain ⟨r', rule', k, rfl, -, halive'⟩ := h.alive j hj
      obtain ⟨c, hc⟩ := halive'.intact
      have hlt : k < m.hub.outlets.length := (List.getElem?_eq_some_iff.1 hc).1
      rw [h.handle_of_visit hv hj, halive'.handle_eq, halive.handle_eq, Option.some_inj] at heq
      omega
    intro i hi j hj heq
    rcases List.mem_cons.1 hi with rfl | hi
    · rcases List.mem_cons.1 hj with rfl | hj
      · rfl
      · exact absurd heq.symm (hearlier j hj)
    · rcases List.mem_cons.1 hj with rfl | hj
      · exact absurd heq (hearlier i hi)
      · rw [h.handle_of_visit hv hi, h.handle_of_visit hv hj] at heq
        exact h.apart i hi j hj heq

/-- a dormant record that cannot come to life is dropped -/
theorem drop (h : l.Restoring m (r.id :: todo) revived) (hnot : r.id ∉ todo)
    (hr : SubscriptionStore.told l.store r.id = some r) (hrule : l.engine.rules.find? r.id = none)
    (hcannot : ¬ l.CanRevive r) (hv : m.Visited n r.id) (hdropped : m.Dropped n r.id) {o : SubscribeOptions}
    (hgone : m.LetGo n o) : l.Restoring n todo revived where
  toUnderway := h.toUnderway.visit hv
  same := h.same_of_visit hnot hr hrule hv
  dropped j hj hjr hnone hsome := by
    by_cases hid : j = r.id
    · subst hid
      exact hdropped.since (h.same r.id (Or.inl List.mem_cons_self))
    · refine (h.dropped j ?_ hjr hnone hsome).same (hv.others j hid)
      rw [List.mem_cons, not_or]
      exact ⟨hid, hj⟩
  alive j hj := h.alive_of_visit hv hj
  revived_iff j := by
    by_cases hj : j = r.id
    · subst hj
      refine ⟨fun hmem => absurd rfl (h.ne_of_revived hmem), ?_⟩
      rintro ⟨-, -, r', hr', hcan⟩
      cases hr.symm.trans hr'
      exact absurd hcan hcannot
    · rw [h.revived_iff j, List.mem_cons, or_iff_right hj]
  nodup := h.nodup
  made k hk hlt := by
    rcases hgone with ⟨-, hout⟩ | ⟨-, c, -, hout⟩
    · rw [hout] at hlt
      exact h.made_of_visit hv hk hlt
    · rw [hout, List.length_append, List.length_singleton] at hlt
      rcases Nat.lt_succ_iff_lt_or_eq.1 hlt with hlt | rfl
      · exact h.made_of_visit hv hk hlt
      · refine Or.inl ?_
        unfold Hub.destroyCount
        rw [hout, List.getElem?_concat_length]
        rfl
  apart i hi j hj heq := by
    rw [h.handle_of_visit hv hi, h.handle_of_visit hv hj] at heq
    exact h.apart i hi j hj heq

end Restoring

/-- a row of visits brings to life as many records as it counts -/
theorem activateAll_restoring {ss : List Subscription} (h : l.Restoring m (ss.map Subscription.id) revived)
    (hnodup : (ss.map Subscription.id).Nodup)
    (hkeep : ∀ id r, SubscriptionStore.told l.store id = some r → Keepable σ l.hub.supply r.options)
    (hrec : ∀ s ∈ ss, SubscriptionStore.told l.store s.id = some s.toRecord) :
    Ensures (activateAll ss) m fun count n =>
      ∃ revived', l.Restoring n [] revived' ∧ revived'.length = revived.length + count := by
  induction ss generalizing m revived with
  | nil => exact ⟨revived, h, rfl⟩
  | cons s ss ih =>
    obtain ⟨hnot, hnodup⟩ := List.nodup_cons.1 hnodup
    have hs : SubscriptionStore.told l.store s.id = some s.toRecord := hrec s List.mem_cons_self
    have hrest : ∀ t ∈ ss, SubscriptionStore.told l.store t.id = some t.toRecord :=
      fun t ht => hrec t (List.mem_cons_of_mem s ht)
    have hsame : l.Same m s.id := h.same s.id (Or.inl List.mem_cons_self)
    unfold activateAll
    refine Ensures.bind (Ensures.get (Q := fun x m' => x = m ∧ m' = m) ⟨rfl, rfl⟩) fun x m₁ hpost₁ => ?_
    obtain ⟨rfl, rfl⟩ := hpost₁
    split
    · rename_i hactive
      have hrule : l.engine.rules.find? s.id ≠ none := by
        rw [← hsame.rule]
        intro hnone
        simp [Engine.contains, Table.contains, hnone] at hactive
      exact Ensures.pure_bind (Ensures.bind (ih (h.skip hrule) hnodup hrest) fun _ _ hpost => hpost)
    · rename_i hdormant
      have hrule : m₁.engine.rules.find? s.id = none := by
        simpa [Engine.contains, Table.contains] using hdormant
      have hnone : l.engine.rules.find? s.id = none := hsame.rule.symm.trans hrule
      have hk : Keepable σ m₁.hub.supply s.options := by
        rw [h.setting.supply]
        exact hkeep s.id s.toRecord hs
      have hvisit := activate_visits h.holds (hsame.told.trans hs) hk hrule h.running
      refine Ensures.bind hvisit fun a m₂ hpost₂ => ?_
      rcases hpost₂ with ⟨rfl, hcan, hv, ⟨rule, halive⟩, hlength⟩ | ⟨⟨f, rfl⟩, hcannot, hback, hstore⟩
      · have hlater := h.revive (r := s.toRecord) hnot hs hnone (h.canRevive_iff.1 hcan) hv halive hlength
        refine Ensures.pure_bind (Ensures.bind (ih hlater hnodup hrest) fun count m₃ hpost₃ => ?_)
        obtain ⟨revived', hrestored, hcount⟩ := hpost₃
        refine ⟨revived', hrestored, ?_⟩
        show revived'.length = revived.length + (count + 1)
        rw [hcount, List.length_cons]
        omega
      · have hdelete := delete_visits h.holds (hsame.told.trans hs) hrule hback hstore
        refine Ensures.bind hdelete fun _ m₃ hpost₃ => ?_
        obtain ⟨hv, hdropped, hgone⟩ := hpost₃
        have hlater := h.drop (r := s.toRecord) hnot hs hnone (fun hcan => hcannot (h.canRevive_iff.2 hcan)) hv hdropped
          hgone
        exact Ensures.pure_bind (Ensures.bind (ih hlater hnodup hrest) fun _ _ hpost => hpost)

/-! ## All of a restore -/

/-- what a restore of `m` comes to: `n` with so many records brought to life -/
structure Restored (m n : Manager (ReluctantStore σ)) (count : Nat) : Prop where
  complete : ∀ id, SubscriptionStore.told n.store id ≠ none → n.engine.contains id = true
  /-- what was active is as it was, its endpoint included -/
  active : ∀ id, m.engine.contains id = true → m.Same n id ∧
    ∀ k, m.handle? id = some k → k < m.hub.outlets.length ∧ n.hub.outlets[k]? = m.hub.outlets[k]?
  /-- a dormant record that can come to life has, and there is a job for it just if it has an end -/
  revived : ∀ r, SubscriptionStore.told m.store r.id = some r → m.engine.contains r.id = false → m.CanRevive r →
    ∃ rule k, m.Alive n r rule k ∧ n.scheduler.endOfLife? r.id = r.options.terminationTime
  dropped : ∀ r, SubscriptionStore.told m.store r.id = some r → m.engine.contains r.id = false → ¬ m.CanRevive r →
    m.Dropped n r.id
  absent : ∀ id, SubscriptionStore.told m.store id = none → m.Same n id
  /-- an endpoint that was made on the way is in use, or it was destroyed once -/
  made : ∀ k, m.hub.outlets.length ≤ k → k < n.hub.outlets.length →
    (n.InUse k → n.hub.destroyCount k = 0) ∧ (¬ n.InUse k → n.hub.destroyCount k = 1)
  apart : ∀ id id' k, m.hub.outlets.length ≤ k → n.handle? id = some k → n.handle? id' = some k → id = id'
  counted : ∃ ids : List String, ids.Nodup ∧ count = ids.length ∧ ∀ id, id ∈ ids ↔
    ∃ r, SubscriptionStore.told m.store id = some r ∧ m.engine.contains id = false ∧ m.CanRevive r

omit [SubscriptionStore σ] [FaithfulStore σ] in
theorem contains_eq_false {τ : Type} {m : Manager τ} {id : String} :
    m.engine.contains id = false ↔ m.engine.rules.find? id = none := by
  simp [Engine.contains, Table.contains]

namespace Restoring

theorem mem_revived (h : l.Restoring m [] revived) (id : String) : id ∈ revived ↔
    ∃ r, SubscriptionStore.told l.store id = some r ∧ l.engine.contains id = false ∧ l.CanRevive r := by
  rw [h.revived_iff id]
  constructor
  · rintro ⟨-, hnone, r, hr, hcan⟩
    exact ⟨r, hr, contains_eq_false.2 hnone, hcan⟩
  · rintro ⟨r, hr, hnone, hcan⟩
    exact ⟨List.not_mem_nil, contains_eq_false.1 hnone, r, hr, hcan⟩

theorem same_of_active (h : l.Restoring m [] revived) (hid : l.engine.contains id = true) : l.Same m id := by
  refine h.same id (Or.inr (Or.inl fun hnone => ?_))
  rw [contains_eq_false.2 hnone] at hid
  cases hid

/-- an id that did not come to life is as it was, or it is gone -/
theorem same_or_dropped (h : l.Restoring m [] revived) (hnot : id ∉ revived) : l.Same m id ∨ l.Dropped m id := by
  cases hrule : l.engine.contains id with
  | true => exact Or.inl (h.same_of_active hrule)
  | false =>
    by_cases hnone : SubscriptionStore.told l.store id = none
    · exact Or.inl (h.same id (Or.inr (Or.inr hnone)))
    · exact Or.inr (h.dropped id List.not_mem_nil hnot (contains_eq_false.1 hrule) hnone)

/-- what is stored in the end has a rule -/
theorem contains_of_told (h : l.Restoring m [] revived) (hid : SubscriptionStore.told m.store id ≠ none) :
    m.engine.contains id = true := by
  by_cases hrevived : id ∈ revived
  · obtain ⟨r, rule, k, rfl, -, halive⟩ := h.alive id hrevived
    simp [Engine.contains, Table.contains, halive.installed]
  · rcases h.same_or_dropped hrevived with hsame | hgone
    · have hrule : l.engine.rules.find? id ≠ none := by
        intro hnone
        refine hid (h.dropped id List.not_mem_nil hrevived hnone ?_).told
        exact hsame.told ▸ hid
      rw [Engine.contains, Table.contains, hsame.rule]
      exact Option.isSome_iff_ne_none.2 hrule
    · exact absurd hgone.told hid

/-- an endpoint that is in use now and was not there before is that of a record that came to life -/
theorem revived_of_handle (h : l.Restoring m [] revived)
    (hbound : ∀ id k, l.handle? id = some k → k < l.hub.outlets.length) {k : Nat} (hk : l.hub.outlets.length ≤ k)
    (hid : m.handle? id = some k) : id ∈ revived := by
  by_contra hnot
  rcases h.same_or_dropped hnot with hsame | hgone
  · have hlt : k < l.hub.outlets.length := hbound id k (hsame.handle ▸ hid)
    omega
  · rw [handle?, Engine.endpoint?, hgone.rule] at hid
    cases hid

theorem restored (h : l.Restoring m [] revived)
    (hbound : ∀ id k, l.handle? id = some k → k < l.hub.outlets.length)
    (hidle : ∀ r p, SubscriptionStore.told l.store r.id = some r → l.engine.contains r.id = false →
      l.engine.compile r.options = .ok p → r.options.terminationTime = none → l.scheduler.endOfLife? r.id = none) :
    l.Restored m revived.length where
  complete _ hid := h.contains_of_told hid
  active id hid := by
    refine ⟨h.same_of_active hid, fun k hk => ⟨hbound id k hk, ?_⟩⟩
    obtain ⟨made, hmade⟩ := h.outlets
    rw [← hmade, List.getElem?_append_left (hbound id k hk)]
  revived r hr hnone hcan := by
    obtain ⟨r', rule, k, hid, hr', halive⟩ := h.alive r.id ((h.mem_revived r.id).2 ⟨r, hr, hnone, hcan⟩)
    cases hr.symm.trans hr'
    refine ⟨rule, k, halive, ?_⟩
    rw [halive.plan]
    cases hend : r.options.terminationTime with
    | some t => rfl
    | none =>
      obtain ⟨⟨-, p, hp⟩, -⟩ := hcan
      exact hidle r p hr hnone hp hend
  dropped r hr hnone hcannot := by
    refine h.dropped r.id List.not_mem_nil (fun hrevived => ?_) (contains_eq_false.1 hnone) (by simp [hr])
    obtain ⟨r', hr', -, hcan⟩ := (h.mem_revived r.id).1 hrevived
    cases hr.symm.trans hr'
    exact hcannot hcan
  absent id hnone := h.same id (Or.inr (Or.inr hnone))
  made k hk hlt := by
    constructor
    · rintro ⟨id, hid⟩
      obtain ⟨r, rule, k', rfl, -, halive⟩ := h.alive id (h.revived_of_handle hbound hk hid)
      cases hid.symm.trans halive.handle_eq
      obtain ⟨c, hc⟩ := halive.intact
      simp [Hub.destroyCount, hc]
    · intro hnot
      refine (h.made k hk hlt).resolve_right ?_
      rintro ⟨id, -, hid⟩
      exact hnot ⟨id, hid⟩
  apart id id' k hk hid hid' :=
    h.apart id (h.revived_of_handle hbound hk hid) id' (h.revived_of_handle hbound hk hid') (hid.trans hid'.symm)
  counted := ⟨revived, h.nodup, rfl, h.mem_revived⟩

end Restoring

/-- a restore begins with all that is stored to visit -/
theorem Restoring.begin (hv : FaithfulStore.Holds l.store.base (SubscriptionStore.told l.store))
    (hrun : l.scheduler.isShutDown = false) :
    l.Restoring { l with store := (SubscriptionStore.all l.store).2 }
      ((SubscriptionStore.all l.store.base).1.map Subscription.id) [] := by
  obtain ⟨hholds, htold⟩ := ReluctantStore.all_holds hv
  have hlisted : ∀ id r, SubscriptionStore.told l.store id = some r →
      id ∈ (SubscriptionStore.all l.store.base).1.map Subscription.id := by
    intro id r hr
    obtain ⟨s, hs, rfl⟩ := FaithfulStore.all_complete hv hr
    exact List.mem_map_of_mem hs
  refine { outlets := List.prefix_rfl, setting := .refl l.hub, compiler := rfl, running := hrun, refusals := rfl,
           holds := htold.symm ▸ hholds, same := fun id _ => ⟨congrFun htold id, rfl, rfl⟩, dropped := ?_,
           alive := fun id hid => absurd hid List.not_mem_nil, revived_iff := fun id => ?_, nodup := List.nodup_nil,
           made := fun k hk hlt => absurd hlt (Nat.not_lt.2 hk),
           apart := fun id hid => absurd hid List.not_mem_nil }
  · intro id hnot _ _ hsome
    obtain ⟨r, hr⟩ := Option.ne_none_iff_exists'.1 hsome
    exact absurd (hlisted id r hr) hnot
  · refine ⟨fun hid => absurd hid List.not_mem_nil, ?_⟩
    rintro ⟨hnot, -, r, hr, -⟩
    exact absurd (hlisted id r hr) hnot

theorem restore_restored (hv : FaithfulStore.Holds l.store.base (SubscriptionStore.told l.store))
    (hkeep : ∀ id r, SubscriptionStore.told l.store id = some r → Keepable σ l.hub.supply r.options)
    (hrun : l.scheduler.isShutDown = false) (hbound : ∀ id k, l.handle? id = some k → k < l.hub.outlets.length)
    (hidle : ∀ r p, SubscriptionStore.told l.store r.id = some r → l.engine.contains r.id = false →
      l.engine.compile r.options = .ok p → r.options.terminationTime = none → l.scheduler.endOfLife? r.id = none) :
    Ensures restore l fun count n =>
      l.Restored n count ∧ FaithfulStore.Holds n.store.base (SubscriptionStore.told n.store) := by
  unfold restore
  refine Ensures.bind (P := fun ss m => ss = (SubscriptionStore.all l.store.base).1 ∧
    m = { l with store := (SubscriptionStore.all l.store).2 }) ⟨rfl, rfl⟩ fun ss m hpost => ?_
  obtain ⟨rfl, rfl⟩ := hpost
  have hvisits := activateAll_restoring (Restoring.begin hv hrun) (FaithfulStore.all_nodup hv) hkeep
    (FaithfulStore.all_sound hv)
  refine Ensures.imp hvisits fun count n hpost => ?_
  obtain ⟨revived, hdone, hcount⟩ := hpost
  rw [List.length_nil, Nat.zero_add] at hcount
  exact ⟨hcount ▸ hdone.restored hbound hidle, hdone.holds⟩

theorem activateAll_idle {τ : Type} [SubscriptionStore τ] {m : Manager τ} {ss : List Subscription}
    (h : ∀ s ∈ ss, m.engine.contains s.id = true) : Ensures (activateAll ss) m fun count n => count = 0 ∧ n = m := by
  induction ss with
  | nil => exact ⟨rfl, rfl⟩
  | cons s ss ih =>
    unfold activateAll
    refine Ensures.bind (Ensures.get (Q := fun x n => x = m ∧ n = m) ⟨rfl, rfl⟩) fun x n hpost => ?_
    obtain ⟨rfl, rfl⟩ := hpost
    rw [if_pos (h s List.mem_cons_self)]
    refine Ensures.pure_bind (Ensures.bind (ih fun t ht => h t (List.mem_cons_of_mem s ht)) fun count n hpost => ?_)
    obtain ⟨rfl, rfl⟩ := hpost
    exact ⟨rfl, rfl⟩

/-- a restore of a manager without dormant records only lists its store -/
theorem restore_idle (hv : FaithfulStore.Holds m.store.base (SubscriptionStore.told m.store))
    (hactive : ∀ id, SubscriptionStore.told m.store id ≠ none → m.engine.contains id = true) :
    Ensures restore m fun count n => count = 0 ∧ n = { m with store := (SubscriptionStore.all m.store).2 } ∧
      SubscriptionStore.told n.store = SubscriptionStore.told m.store := by
  unfold restore
  refine Ensures.bind (P := fun ss n => ss = (SubscriptionStore.all m.store.base).1 ∧
    n = { m with store := (SubscriptionStore.all m.store).2 }) ⟨rfl, rfl⟩ fun ss n hpost => ?_
  obtain ⟨rfl, rfl⟩ := hpost
  refine Ensures.imp (activateAll_idle fun s hs => ?_) fun count n hpost => ?_
  · refine hactive s.id ?_
    rw [FaithfulStore.all_sound hv s hs]
    exact Option.some_ne_none _
  · obtain ⟨rfl, rfl⟩ := hpost
    exact ⟨rfl, rfl, (ReluctantStore.all_holds hv).2⟩

end Runs

/-- the same manager over a store that refuses to put in what it is told to refuse -/
def reluctant {σ : Type} (m : Manager σ) (refusals : String → Option BrokerError) : Manager (ReluctantStore σ) :=
  ⟨⟨m.store, refusals⟩, m.hub, m.engine, m.scheduler, m.clock, m.elapsed, m.ids, m.idsDrawn⟩

end Manager

namespace Broker

variable {σ : Type} [SubscriptionStore σ] [FaithfulStore σ] [LoyalStore σ]

/-- **A restore is complete and idempotent.** Let a broker be in any state that it can reach without a shutdown,
whatever its store had at first and whichever changes of it have failed, and let the store refuse to put in whatever it
will, while it deletes what it is told to. Then a restore leaves every id that is stored with a rule. What was active is
as it was, what was dormant is alive if it can be, and is gone otherwise, and no endpoint stays behind that is not in
use. The answer is how many records came to life. A second restore brings nothing to life and changes nothing. The
options of all records, and those that are subscribed to, are such that the store can keep them (`Keepable`). -/
theorem restore_complete {base : σ} {v : Records} {hub : Hub} (hv : FaithfulStore.Holds base v)
    (hk : ∀ id r, v id = some r → EventBroker.Keepable σ hub.supply r.options)
    (hs : LoyalStore.Only (fun _ k => k < hub.outlets.length) base) (failures : Nat → Option BrokerError)
    (c : Compiler) (t : Transformer) (clock : Clock) (ids : Nat → String) {ops : List Op}
    (hkeep : ∀ op ∈ ops, op.Keepable σ hub.supply) (hops : Op.shutdown ∉ ops)
    (refusals : String → Option BrokerError) :
    let b := (assembled (FlakyStore.mk base failures 0) hub c t clock ids).run ops
    let m := b.manager.sound.reluctant refusals
    let n := (Manager.restore m).2
    m.Restored n (Manager.restore m).1 ∧
      (Manager.restore n).1 = 0 ∧
      (Manager.restore n).2 = { n with store := (SubscriptionStore.all n.store).2 } ∧
      SubscriptionStore.told (Manager.restore n).2.store = SubscriptionStore.told n.store := by
  intro b m n
  have hflaky : LoyalStore.Only (fun _ k => k < hub.outlets.length) (FlakyStore.mk base failures 0) := hs
  obtain ⟨owner, hcustody⟩ := run_custody (b := assembled (FlakyStore.mk base failures 0) hub c t clock ids)
    (Manager.assemble_custody hflaky (Engine.ofCompiler c t) rfl clock ids) ops
  have hdormant : (Picture.dormant v c hub clock).Unburdened := ⟨rfl, fun _ _ _ _ _ _ _ => rfl⟩
  obtain ⟨s, hshows, hidle⟩ := run_unburdened (assembled_flaky hv hk failures c t clock ids) hdormant hkeep hops
  have hm : b.manager.sound.Shows s.picture := hshows.manager
  have htold : SubscriptionStore.told b.manager.sound.store = s.picture.records := FaithfulStore.told_eq hm.holds
  have hholds : FaithfulStore.Holds m.store.base (SubscriptionStore.told m.store) := htold.symm ▸ hm.holds
  have hkept : ∀ id r, SubscriptionStore.told m.store id = some r → EventBroker.Keepable σ m.hub.supply r.options := by
    intro id r hr
    have hsupply : m.hub.supply = s.picture.supply := hm.supply
    rw [hsupply]
    exact hm.keepable id r ((congrFun htold id).symm.trans hr)
  have hrunning : m.scheduler.isShutDown = false := (congrArg Scheduler.isShutDown hm.scheduler).trans hidle.running
  have hbound : ∀ id k, m.handle? id = some k → k < m.hub.outlets.length := fun id k hid =>
    (hcustody.owned k id (hcustody.rule_owns id k hid).1).2
  have hjobs : ∀ r p, SubscriptionStore.told m.store r.id = some r → m.engine.contains r.id = false →
      m.engine.compile r.options = .ok p → r.options.terminationTime = none → m.scheduler.endOfLife? r.id = none := by
    intro r p hr hrule hp hend
    have hnone : s.picture.rules r.id = none := (congrFun hm.rules r.id).symm.trans (Manager.contains_eq_false.1 hrule)
    have hcompiled : compiled s.picture.compiler r.options = .ok p := by
      rw [← hm.compiler]
      exact hp
    have hscheduler : m.scheduler = s.picture.scheduler := hm.scheduler
    rw [hscheduler]
    exact hidle.idle r.id r p ((congrFun htold r.id).symm.trans hr) hnone hcompiled hend
  obtain ⟨hrestored, hafter⟩ := Manager.restore_restored hholds hkept hrunning hbound hjobs
  obtain ⟨hcount, hsame, htold'⟩ := Manager.restore_idle hafter hrestored.complete
  exact ⟨hrestored, hcount, hsame, htold'⟩

/-- a store with a record that can come to life, one whose filter does not compile, and one more -/
def mixedStore : MemoryStore :=
  ((MemoryStore.empty.put ⟨"a", sampleOptions (some ⟨5⟩), .detached "a"⟩).put
    ⟨"b", { sampleOptions none with filterExpression := some "/", filterLanguage := some "xpath" }, .detached "b"⟩).put
    ⟨"c", sampleOptions none, .detached "c"⟩

/-- a manager with one active subscription over these records; its store refuses one of them -/
def mixed : Manager (ReluctantStore MemoryStore) :=
  ((assembled (FlakyStore.mk mixedStore (fun _ => none) 0) sampleHub Compiler.regex .standard ⟨⟨0⟩⟩
    fun n => toString n).run [.subscribe (sampleOptions none)]).manager.sound.reluctant
      fun id => if id = "c" then some (.storage (.text "full")) else none

/-- one record comes to life beside what is active, and two are dropped whose endpoints were made -/
theorem restore_complete_mixed :
    let n := (Manager.restore mixed).2
    mixed.engine.contains "0" = true ∧ mixed.Restored n 1 ∧
      n.engine.contains "a" = true ∧ n.scheduler.endOfLife? "a" = some ⟨5⟩ ∧
      n.engine.contains "b" = false ∧ n.hub.destroyCount 2 = 1 ∧
      n.engine.contains "c" = false ∧ n.hub.destroyCount 3 = 1 ∧ (Manager.restore n).1 = 0 := by
  intro n
  have hkeyed : mixedStore.Keyed := ((MemoryStore.keyed_empty.insert rfl).insert rfl).insert rfl
  have hholds : FaithfulStore.Holds mixedStore mixedStore.records := ⟨hkeyed, rfl⟩
  have hempty : MemoryStore.Only (fun _ k => k < sampleHub.outlets.length) .empty :=
    fun id s hs => by simp [MemoryStore.empty] at hs
  have honly : LoyalStore.Only (fun _ k => k < sampleHub.outlets.length) mixedStore :=
    ((hempty.insert fun k hk => by cases hk).insert fun k hk => by cases hk).insert fun k hk => by cases hk
  have hops : Op.shutdown ∉ [.subscribe (sampleOptions none)] := by simp
  have hall := restore_complete hholds (fun _ _ _ _ _ _ => trivial) honly (fun _ => none) Compiler.regex .standard ⟨⟨0⟩⟩
    (fun n => toString n) (fun op _ => op.keepable_memory sampleHub.supply) hops
    fun id => if id = "c" then some (.storage (.text "full")) else none
  have hrestored : mixed.Restored n (Manager.restore mixed).1 := hall.1
  have hagain : (Manager.restore n).1 = 0 := hall.2.1
  have hcount : (Manager.restore mixed).1 = 1 := by decide +kernel
  rw [hcount] at hrestored
  exact ⟨by decide +kernel, hrestored, by decide +kernel, by decide +kernel, by decide +kernel, by decide +kernel,
    by decide +kernel, by decide +kernel, hagain⟩

end Broker

end EventBroker
