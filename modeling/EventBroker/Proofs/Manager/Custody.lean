/-
Who has which endpoint, and which were let go.

Every endpoint that a manager makes is at any time in one of three places: an operation has it in hand, a rule has it,
or it was let go. `Custody` says so, with the ids to which endpoints belong; from it one reads off how often each
endpoint was destroyed. All parts of operations keep it, whether they fail or not, for each store that is loyal: a store
may know of an endpoint that was let go, but only under the id that it belonged to.
-/
import EventBroker.Proofs.Delivery.Outlets
import EventBroker.Proofs.Manager.Picture
import EventBroker.Proofs.Store.Loyal

namespace EventBroker

open Function (update)

namespace Manager

variable {σ : Type}

/-- the handle of the endpoint that the rule of an id has -/
def handle? (m : Manager σ) (id : String) : Option Nat := (m.engine.endpoint? id).bind Endpoint.handle?

/-- some rule has the endpoint of this handle -/
def InUse (m : Manager σ) (k : Nat) : Prop := ∃ id, m.handle? id = some k

/-- the same manager with other rules -/
def withRules (m : Manager σ) (rules : Table String Rule) : Manager σ := { m with engine := { m.engine with rules } }

theorem handle?_insert (m : Manager σ) (id : String) (r : Rule) (i : String) :
    (m.withRules (m.engine.rules.insert id r)).handle? i = if i = id then r.endpoint.handle? else m.handle? i := by
  simp only [withRules, handle?, Engine.endpoint?, Table.find?_insert]
  split <;> rfl

theorem handle?_erase (m : Manager σ) (id i : String) :
    (m.withRules (m.engine.rules.erase id)).handle? i = if i = id then none else m.handle? i := by
  simp only [withRules, handle?, Engine.endpoint?, Table.find?_erase]
  split <;> rfl

/-- a rule for an id that had none has its endpoint in use -/
theorem inUse_insert {m : Manager σ} {id : String} (hfree : m.handle? id = none) {r : Rule} {k : Nat}
    (hr : r.endpoint.handle? = some k) (j : Nat) :
    (m.withRules (m.engine.rules.insert id r)).InUse j ↔ j = k ∨ m.InUse j := by
  constructor
  · rintro ⟨i, hi⟩
    rw [handle?_insert, hr] at hi
    split at hi
    · exact Or.inl (Option.some.inj hi).symm
    · exact Or.inr ⟨i, hi⟩
  · rintro (rfl | ⟨i, hi⟩)
    · exact ⟨id, by rw [handle?_insert, if_pos rfl, hr]⟩
    · refine ⟨i, ?_⟩
      have hne : i ≠ id := by
        rintro rfl
        rw [hfree] at hi
        cases hi
      rw [handle?_insert, if_neg hne]
      exact hi

/-- what is in use was the endpoint of the rule that is taken out, or still is in use -/
theorem inUse_of_erase (m : Manager σ) (id : String) (j : Nat) :
    m.InUse j ↔ m.handle? id = some j ∨ (m.withRules (m.engine.rules.erase id)).InUse j := by
  constructor
  · rintro ⟨i, hi⟩
    by_cases hk : i = id
    · rw [hk] at hi
      exact Or.inl hi
    · exact Or.inr ⟨i, by rw [handle?_erase, if_neg hk]; exact hi⟩
  · rintro (hj | ⟨i, hi⟩)
    · exact ⟨id, hj⟩
    · rw [handle?_erase] at hi
      split at hi
      · cases hi
      · exact ⟨i, hi⟩

/-- the endpoints of all rules are those in use -/
theorem mem_ruleHandles {m : Manager σ} {k : Nat} :
    k ∈ (m.engine.rules.values.flatMap fun r => r.endpoint.handle?.toList) ↔ m.InUse k := by
  simp only [List.mem_flatMap, Table.mem_values_iff, Option.mem_toList]
  constructor
  · rintro ⟨r, ⟨id, hid⟩, hk⟩
    refine ⟨id, ?_⟩
    simp only [handle?, Engine.endpoint?, hid]
    exact hk
  · rintro ⟨id, hid⟩
    obtain ⟨e, he, hk⟩ := Option.bind_eq_some_iff.1 hid
    obtain ⟨r, hr, rfl⟩ := Option.map_eq_some_iff.1 he
    exact ⟨r, ⟨id, hr⟩, hk⟩

/-- an id may have an endpoint that was there before the manager, or one that belongs to the id -/
def Belongs (first : Nat) (owner : Nat → Option String) (id : String) (k : Nat) : Prop :=
  k < first ∨ owner k = some id

/-- what belongs to an id goes on belonging to it -/
def Extends (owner owner' : Nat → Option String) : Prop := ∀ k id, owner k = some id → owner' k = some id

theorem Extends.refl (owner : Nat → Option String) : Extends owner owner := fun _ _ h => h

theorem Extends.trans {o₁ o₂ o₃ : Nat → Option String} (h₁ : Extends o₁ o₂) (h₂ : Extends o₂ o₃) : Extends o₁ o₃ :=
  fun k id h => h₂ k id (h₁ k id h)

/-- what belonged to nobody gets to belong to an id -/
theorem extends_update {owner : Nat → Option String} {k : Nat} (hnone : owner k = none) (id : String) :
    Extends owner (update owner k (some id)) := by
  intro j i hj
  refine update_some_eq_some.2 (Or.inr ⟨fun hjk => ?_, hj⟩)
  rw [hjk, hnone] at hj
  cases hj

/-- Where the endpoints are. Handles from `first` on are those of this manager; `hand` are those that no rule has yet or
has any longer and that are still to be let go, and `again` are those that were destroyed once more after that. -/
structure Custody [SubscriptionStore σ] [LoyalStore σ] (first : Nat) (owner : Nat → Option String) (again hand : List Nat)
    (m : Manager σ) : Prop where
  first_le : first ≤ m.hub.outlets.length
  owned : ∀ k id, owner k = some id → first ≤ k ∧ k < m.hub.outlets.length
  again_made : ∀ k ∈ again, k < m.hub.outlets.length
  hand_nodup : hand.Nodup
  hand_made : ∀ k ∈ hand, first ≤ k ∧ k < m.hub.outlets.length
  rule_owns : ∀ id k, m.handle? id = some k → owner k = some id ∧ k ∉ hand
  rule_bound : ∀ id, m.engine.contains id = true → m.handle? id ≠ none
  alive : ∀ k, k ∈ hand ∨ m.InUse k → m.hub.destroyCount k = 0 ∧ again.count k = 0
  gone : ∀ k, first ≤ k → k < m.hub.outlets.length → k ∉ hand → ¬ m.InUse k →
    m.hub.destroyCount k = 1 + again.count k
  stored : LoyalStore.Only (Belongs first owner) m.store

variable [SubscriptionStore σ] [LoyalStore σ] {first : Nat} {owner : Nat → Option String} {again hand : List Nat}
  {m : Manager σ}

namespace Custody

theorem onStore (h : m.Custody first owner again hand) {store : σ} (hs : LoyalStore.Only (Belongs first owner) store) :
    Custody first owner again hand { m with store } :=
  { h with stored := hs }

theorem onScheduler (h : m.Custody first owner again hand) (scheduler : Scheduler Unit) :
    Custody first owner again hand { m with scheduler } :=
  { h with }

theorem onHub (h : m.Custody first owner again hand) {hub : Hub} (ho : hub.outlets = m.hub.outlets) :
    Custody first owner again hand { m with hub } := by
  have hcount : ∀ k, hub.destroyCount k = m.hub.destroyCount k := by
    intro k
    unfold Hub.destroyCount
    rw [ho]
  refine ⟨ho ▸ h.first_le, fun k id hk => ?_, fun k hk => ?_, h.hand_nodup, fun k hk => ?_, h.rule_owns, h.rule_bound,
    fun k hk => ?_, fun k hf hk hh hu => ?_, h.stored⟩
  · show first ≤ k ∧ k < hub.outlets.length
    rw [ho]
    exact h.owned k id hk
  · show k < hub.outlets.length
    rw [ho]
    exact h.again_made k hk
  · show first ≤ k ∧ k < hub.outlets.length
    rw [ho]
    exact h.hand_made k hk
  · show hub.destroyCount k = 0 ∧ _
    rw [hcount]
    exact h.alive k hk
  · show hub.destroyCount k = _
    rw [hcount]
    exact h.gone k hf (ho ▸ hk) hh hu

/-- an endpoint in hand gets to belong to an id -/
theorem name (h : m.Custody first owner again hand) {k : Nat} (hk : k ∈ hand) (hnone : owner k = none) (id : String) :
    Custody first (update owner k (some id)) again hand m := by
  have hkeep := extends_update hnone id
  refine ⟨h.first_le, fun j i hj => ?_, h.again_made, h.hand_nodup, h.hand_made, fun i j hj => ?_, h.rule_bound,
    h.alive, h.gone, ?_⟩
  · rcases update_some_eq_some.1 hj with ⟨rfl, -⟩ | ⟨-, hj⟩
    · exact h.hand_made j hk
    · exact h.owned j i hj
  · exact ⟨hkeep j i (h.rule_owns i j hj).1, (h.rule_owns i j hj).2⟩
  · exact LoyalStore.mono (fun i j hj => hj.imp_right (hkeep j i)) h.stored

/-- what no rule has and what is stored for an id without a rule was let go, if it is the manager's -/
theorem not_inUse (h : m.Custody first owner again hand) {id : String} {k : Nat} (hk : Belongs first owner id k)
    (hrule : m.handle? id = none) : ¬ m.InUse k := by
  rintro ⟨i, hi⟩
  have howner := (h.rule_owns i k hi).1
  rcases hk with hlt | hid
  · exact absurd hlt (Nat.not_lt.2 (h.owned k i howner).1)
  · have hsame : id = i := Option.some.inj (hid.symm.trans howner)
    rw [← hsame, hrule] at hi
    cases hi

/-- an endpoint in hand goes to the rule of the id that it belongs to -/
theorem install {k : Nat} (h : m.Custody first owner again (k :: hand)) {id : String} (hk : owner k = some id)
    (hfree : m.handle? id = none) {r : Rule} (hr : r.endpoint.handle? = some k) :
    Custody first owner again hand (m.withRules (m.engine.rules.insert id r)) := by
  obtain ⟨hnot, hnodup⟩ := List.nodup_cons.1 h.hand_nodup
  have hrule := handle?_insert m id r
  have huse := inUse_insert hfree hr
  refine ⟨h.first_le, h.owned, h.again_made, hnodup, fun j hj => h.hand_made j (List.mem_cons_of_mem k hj),
    fun i j hj => ?_, fun i hi => ?_, fun j hj => ?_, fun j hf hlt hh hu => ?_, h.stored⟩
  · rw [hrule, hr] at hj
    split at hj
    · rename_i hi
      cases hj
      exact ⟨hi ▸ hk, hnot⟩
    · obtain ⟨howner, hmem⟩ := h.rule_owns i j hj
      exact ⟨howner, fun hj => hmem (List.mem_cons_of_mem k hj)⟩
  · rw [hrule, hr]
    split
    · exact Option.some_ne_none k
    · rename_i hne
      refine h.rule_bound i ?_
      rw [← hi]
      simp only [withRules, Engine.contains, Table.contains, Table.find?_insert, if_neg hne]
  · refine h.alive j ?_
    rcases hj with hj | hj
    · exact Or.inl (List.mem_cons_of_mem k hj)
    · rcases (huse j).1 hj with rfl | hj
      · exact Or.inl List.mem_cons_self
      · exact Or.inr hj
  · rw [huse, not_or] at hu
    exact h.gone j hf hlt (fun hmem => (List.mem_cons.1 hmem).elim hu.1 hh) hu.2

/-- the endpoint of a rule that is taken out is in hand -/
theorem uninstall (h : m.Custody first owner again hand) (id : String) :
    Custody first owner again ((m.handle? id).toList ++ hand) (m.withRules (m.engine.rules.erase id)) := by
  have hrule := handle?_erase m id
  have huse := inUse_of_erase m id
  have hmem : ∀ j, j ∈ (m.handle? id).toList ++ hand ↔ m.handle? id = some j ∨ j ∈ hand := by
    intro j
    rw [List.mem_append, Option.mem_toList]
  refine ⟨h.first_le, h.owned, h.again_made, ?_, fun j hj => ?_, fun i j hj => ?_, fun i hi => ?_, fun j hj => ?_,
    fun j hf hlt hh hu => ?_, h.stored⟩
  · refine List.nodup_append.2 ⟨?_, h.hand_nodup, ?_⟩
    · cases m.handle? id with
      | none => exact List.nodup_nil
      | some k => exact List.nodup_singleton k
    · rintro a ha b hb rfl
      exact (h.rule_owns id a (Option.mem_toList.1 ha)).2 hb
  · rcases (hmem j).1 hj with hj | hj
    · exact h.owned j id (h.rule_owns id j hj).1
    · exact h.hand_made j hj
  · rw [hrule] at hj
    split at hj
    · cases hj
    · rename_i hne
      obtain ⟨howner, hnot⟩ := h.rule_owns i j hj
      refine ⟨howner, fun hj' => ?_⟩
      rcases (hmem j).1 hj' with hj' | hj'
      · -- an endpoint belongs to one id only
        have hsame := (h.rule_owns id j hj').1
        exact hne (Option.some.inj (howner.symm.trans hsame))
      · exact hnot hj'
  · rw [hrule]
    simp only [withRules, Engine.contains, Table.contains, Table.find?_erase] at hi
    split at hi
    · cases hi
    · rename_i hne
      rw [if_neg hne]
      exact h.rule_bound i hi
  · refine h.alive j ?_
    rcases hj with hj | hj
    · exact ((hmem j).1 hj).elim (fun hj => Or.inr ⟨id, hj⟩) Or.inl
    · exact Or.inr ((huse j).2 (Or.inr hj))
  · rw [hmem, not_or] at hh
    refine h.gone j hf hlt hh.2 fun huse' => ?_
    rcases (huse j).1 huse' with hj | hj
    · exact hh.1 hj
    · exact hu hj

end Custody

/-! ## Parts of operations -/

/-- what happens in the store touches no endpoint -/
theorem onStore_custody {α : Type} (h : m.Custody first owner again hand) {f : σ → α × σ}
    (hf : LoyalStore.Only (Belongs first owner) (f m.store).2) :
    Ensures (onStore f) m fun a m' => a = (f m.store).1 ∧ m'.engine = m.engine ∧ m'.Custody first owner again hand :=
  ⟨rfl, rfl, h.onStore hf⟩

theorem lookUp_custody (h : m.Custody first owner again hand) (id : String) :
    Ensures (lookUp id) m fun s m' => s = (SubscriptionStore.get m.store id).1 ∧ m'.engine = m.engine ∧
      (∀ t, s = some t → t.Allowed (Belongs first owner) id) ∧ m'.Custody first owner again hand :=
  ⟨rfl, rfl, fun _ ht => LoyalStore.get_allowed h.stored ht, h.onStore (LoyalStore.get_only h.stored id)⟩

theorem isRunning_custody (h : m.Custody first owner again hand) :
    Ensures (isRunning : Act σ Bool) m fun _ m' => m'.Custody first owner again hand := h

theorem schedule_custody (h : m.Custody first owner again hand) (s : Subscription) :
    Ensures (schedule s) m fun _ m' => m'.Custody first owner again hand := by
  refine Ensures.modify ?_
  cases s.terminationTime with
  | none => exact h
  | some t =>
    dsimp only
    cases m.scheduler.schedule m.elapsed m.clock.now s.id t () with
    | ok scheduler => exact h.onScheduler scheduler
    | error f => exact h

theorem unschedule_custody (h : m.Custody first owner again hand) (id : String) :
    Ensures (unschedule id) m fun _ m' => m'.Custody first owner again hand := by
  refine Ensures.modify ?_
  cases m.scheduler.cancel id with
  | ok scheduler => exact h.onScheduler scheduler
  | error f => exact h

theorem tryId_custody (h : m.Custody first owner again hand) :
    Ensures tryId m fun _ m' => m'.Custody first owner again hand := by
  have hdrawn : Custody first owner again hand { m with idsDrawn := m.idsDrawn + 1 } := { h with }
  exact (lookUp_custody hdrawn (m.ids m.idsDrawn)).2.2.2

theorem drawId_custody (h : m.Custody first owner again hand) :
    Yields drawId m fun _ m' => m'.Custody first owner again hand :=
  (drawId_keeps (P := Custody first owner again hand) h fun _ hm => tryId_custody hm).imp fun _ _ hdrawn => hdrawn.1

/-- an endpoint that is made is in hand, and belongs to nobody yet -/
theorem create_custody (h : m.Custody first owner again []) (d : DeliveryDefinition) :
    Ensures (onHub (·.create d)) m fun r m' =>
      (∃ f, r = .error f ∧ m'.Custody first owner again []) ∨
      ∃ e k, r = .ok e ∧ e.handle? = some k ∧ owner k = none ∧ m'.Custody first owner again [k] := by
  show (∃ f, (m.hub.create d).1 = .error f ∧ _) ∨ ∃ e k, (m.hub.create d).1 = .ok e ∧ _
  rcases Hub.create_cases m.hub d with ⟨f, hf, ho⟩ | ⟨e, c, he, hk, ho⟩
  · exact Or.inl ⟨f, hf, h.onHub ho⟩
  · have hnew : owner m.hub.outlets.length = none := by
      by_contra hsome
      obtain ⟨id, hid⟩ := Option.ne_none_iff_exists'.1 hsome
      exact absurd (h.owned _ id hid).2 (Nat.lt_irrefl _)
    have hold : ∀ k, k < m.hub.outlets.length → (m.hub.create d).2.destroyCount k = m.hub.destroyCount k := by
      intro k hk
      unfold Hub.destroyCount
      rw [ho, List.getElem?_append_left hk]
    have hlength : (m.hub.create d).2.outlets.length = m.hub.outlets.length + 1 := by rw [ho]; simp
    refine Or.inr ⟨e, _, he, hk, hnew, ?_⟩
    refine ⟨?_, fun k id hid => ?_, fun k hk => ?_, List.nodup_singleton _, fun k hk => ?_, fun id k hid => ?_,
      h.rule_bound, fun k hk => ?_, fun k hf hlt hh hu => ?_, h.stored⟩
    · show first ≤ (m.hub.create d).2.outlets.length
      have := h.first_le
      omega
    · show first ≤ k ∧ k < (m.hub.create d).2.outlets.length
      have := h.owned k id hid
      omega
    · show k < (m.hub.create d).2.outlets.length
      have := h.again_made k hk
      omega
    · show first ≤ k ∧ k < (m.hub.create d).2.outlets.length
      rw [List.mem_singleton.1 hk]
      have := h.first_le
      omega
    · have howner := (h.rule_owns id k hid).1
      refine ⟨howner, fun hmem => ?_⟩
      rw [List.mem_singleton.1 hmem, hnew] at howner
      cases howner
    · show (m.hub.create d).2.destroyCount k = 0 ∧ _
      rcases hk with hmem | huse
      · rw [List.mem_singleton.1 hmem]
        refine ⟨by simp [Hub.destroyCount, ho], ?_⟩
        exact List.count_eq_zero.2 fun hmem => Nat.lt_irrefl _ (h.again_made _ hmem)
      · obtain ⟨id, hid⟩ := huse
        rw [hold k (h.owned k id (h.rule_owns id k hid).1).2]
        exact h.alive k (Or.inr ⟨id, hid⟩)
    · show (m.hub.create d).2.destroyCount k = _
      have hlt : k < (m.hub.create d).2.outlets.length := hlt
      have hne : k ≠ m.hub.outlets.length := fun hk => hh (List.mem_singleton.2 hk)
      have hlt : k < m.hub.outlets.length := by omega
      rw [hold k hlt]
      exact h.gone k hf hlt List.not_mem_nil hu

/-- an endpoint in hand is let go -/
theorem destroy_custody {e : Endpoint} (h : m.Custody first owner again (e.handle?.toList ++ hand)) :
    Ensures (destroy e) m fun _ m' => m'.Custody first owner again hand := by
  show Custody first owner again hand { m with hub := (m.hub.destroy e).2 }
  obtain ⟨-, hnodup, hdisjoint⟩ := List.nodup_append.1 h.hand_nodup
  have hrest : ∀ k, k ∈ hand → e.handle? ≠ some k := by
    intro k hk he
    exact hdisjoint k (by simp [he]) k hk rfl
  refine ⟨?_, fun k id hk => ?_, fun k hk => ?_, hnodup, fun k hk => ?_, fun id k hid => ?_, h.rule_bound,
    fun k hk => ?_, fun k hf hlt hh hu => ?_, h.stored⟩
  · simpa using h.first_le
  · simpa using h.owned k id hk
  · simpa using h.again_made k hk
  · simpa using h.hand_made k (List.mem_append_right _ hk)
  · obtain ⟨howner, hnot⟩ := h.rule_owns id k hid
    exact ⟨howner, fun hmem => hnot (List.mem_append_right _ hmem)⟩
  · have hne : e.handle? ≠ some k := by
      rcases hk with hmem | ⟨id, hid⟩
      · exact hrest k hmem
      · intro he
        exact (h.rule_owns id k hid).2 (List.mem_append_left _ (by simp [he]))
    show (m.hub.destroy e).2.destroyCount k = 0 ∧ _
    rw [Hub.destroyCount_destroy_of_ne _ hne]
    exact h.alive k (hk.imp_left (List.mem_append_right _))
  · have hlt : k < m.hub.outlets.length := by simpa using hlt
    show (m.hub.destroy e).2.destroyCount k = _
    by_cases he : e.handle? = some k
    · have halive := h.alive k (Or.inl (List.mem_append_left _ (by simp [he])))
      rw [Hub.destroyCount_destroy, if_pos ⟨he, hlt⟩, halive.1, halive.2]
    · rw [Hub.destroyCount_destroy_of_ne _ he]
      refine h.gone k hf hlt (fun hmem => ?_) hu
      rcases List.mem_append.1 hmem with hmem | hmem
      · exact he (by simpa using hmem)
      · exact hh hmem

/-- an endpoint that is stored for an id without a rule is destroyed once more -/
theorem destroy_again_custody (h : m.Custody first owner again []) {id : String} {e : Endpoint}
    (he : ∀ k, e.handle? = some k → Belongs first owner id k) (hrule : m.handle? id = none) :
    Ensures (destroy e) m fun _ m' => m'.Custody first owner (again ++ e.handle?.toList) [] := by
  show Custody first owner (again ++ e.handle?.toList) [] { m with hub := (m.hub.destroy e).2 }
  have hmade : ∀ k, e.handle? = some k → k < m.hub.outlets.length := by
    intro k hk
    rcases he k hk with hlt | hid
    · exact Nat.lt_of_lt_of_le hlt h.first_le
    · exact (h.owned k id hid).2
  have hcount : ∀ k, e.handle? ≠ some k → (again ++ e.handle?.toList).count k = again.count k := by
    intro k hk
    have hzero : e.handle?.toList.count k = 0 := List.count_eq_zero.2 (by simpa using hk)
    rw [List.count_append, hzero, Nat.add_zero]
  refine ⟨?_, fun k id hk => ?_, fun k hk => ?_, List.nodup_nil, fun k hk => (by cases hk), h.rule_owns,
    h.rule_bound, fun k hk => ?_, fun k hf hlt hh hu => ?_, h.stored⟩
  · simpa using h.first_le
  · simpa using h.owned k id hk
  · rcases List.mem_append.1 hk with hk | hk
    · simpa using h.again_made k hk
    · simpa using hmade k (by simpa using hk)
  · have huse : m.InUse k := hk.resolve_left List.not_mem_nil
    have hne : e.handle? ≠ some k := fun hek => h.not_inUse (he k hek) hrule huse
    show (m.hub.destroy e).2.destroyCount k = 0 ∧ _
    rw [Hub.destroyCount_destroy_of_ne _ hne, hcount k hne]
    exact h.alive k (Or.inr huse)
  · have hlt : k < m.hub.outlets.length := by simpa using hlt
    have hgone := h.gone k hf hlt hh hu
    show (m.hub.destroy e).2.destroyCount k = _
    by_cases hek : e.handle? = some k
    · rw [Hub.destroyCount_destroy, if_pos ⟨hek, hlt⟩, hgone, hek]
      simp [List.count_append, Nat.add_assoc]
    · rw [Hub.destroyCount_destroy_of_ne _ hek, hcount k hek]
      exact hgone

/-- the endpoint in hand goes to a rule, or nothing happens -/
theorem register_custody {k : Nat} (h : m.Custody first owner again (k :: hand)) {s : Subscription} {e : Endpoint}
    (he : e.handle? = some k) (hk : owner k = some s.id) :
    Ensures (register s e) m fun r m' =>
      (r = .ok () ∧ m'.handle? s.id = some k ∧ m'.Custody first owner again hand) ∨
      ((∃ f, r = .error f) ∧ m'.Custody first owner again (k :: hand)) := by
  refine Ensures.modifyGet ?_
  unfold Engine.register
  cases m.engine.compile s.options with
  | error f => exact Or.inr ⟨⟨f, rfl⟩, h⟩
  | ok p =>
    cases hc : m.engine.rules.contains s.id with
    | true => exact Or.inr ⟨⟨_, rfl⟩, h⟩
    | false =>
      have hfree : m.handle? s.id = none := by
        have hnone : m.engine.rules.find? s.id = none := by simpa [Table.contains] using hc
        simp [handle?, Engine.endpoint?, hnone]
      refine Or.inl ⟨rfl, ?_, h.install hk hfree he⟩
      have hrule := handle?_insert m s.id ⟨s.id, p, e, (s.options.delivery.map DeliveryDefinition.useRaw).getD false⟩ s.id
      rw [if_pos rfl, he] at hrule
      exact hrule

/-- the endpoint of a rule that is taken out is in hand -/
theorem removeRule_custody (h : m.Custody first owner again hand) (id : String) :
    Ensures (removeRule id) m fun a m' =>
      (∃ r, a = .ok r ∧ m.engine.contains id = true ∧ m.handle? id = r.endpoint.handle? ∧
        m'.Custody first owner again (r.endpoint.handle?.toList ++ hand)) ∨
      (∃ f, a = .error f ∧ m.engine.contains id = false ∧ m.handle? id = none ∧ m' = m) := by
  refine Ensures.modifyGet ?_
  unfold Engine.remove Engine.contains Table.contains
  cases hr : m.engine.rules.find? id with
  | none => exact Or.inr ⟨_, rfl, rfl, by simp [handle?, Engine.endpoint?, hr], rfl⟩
  | some r =>
    have hid : m.handle? id = r.endpoint.handle? := by simp [handle?, Engine.endpoint?, hr]
    exact Or.inl ⟨r, rfl, rfl, hid, hid ▸ h.uninstall id⟩

end Manager

end EventBroker
