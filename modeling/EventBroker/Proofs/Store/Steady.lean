/-
Stores in which taking a subscription out concerns its id only.

`SteadyStore.kept?` is what lasts of a subscription in a store: memory has the subscription, and files have a file for
it. Reading changes nothing of it, taking out leaves that of all other ids, and of what was taken out nothing is left.
This holds in every state of a store, whatever has become of its records.

A `DimStore` stands before another store and does not always find what is there: which of its readings find nothing is
fixed beforehand by their number. Together with a `FlakyStore` it makes up any pattern of failing changes and readings.
-/
import EventBroker.Proofs.Store.Flaky
import EventBroker.Proofs.Store.Frame

namespace EventBroker

/-- what lasts of a subscription -/
inductive Keepsake where
  | subscription (s : Subscription)
  | node (n : Node)

class SteadyStore (σ : Type) [SubscriptionStore σ] where
  kept? : σ → String → Option Keepsake
  get_keeps (st : σ) (id : String) : kept? (SubscriptionStore.get st id).2 = kept? st
  delete_spares (st : σ) {id k : String} : k ≠ id → kept? (SubscriptionStore.delete st id).2 k = kept? st k
  delete_clears {st : σ} {id : String} {s : Subscription} : (SubscriptionStore.delete st id).1 = .ok s →
    kept? (SubscriptionStore.delete st id).2 id = none ∧
      (SubscriptionStore.get (SubscriptionStore.delete st id).2 id).1 = none

/-! ## Memory -/

namespace MemoryStore

theorem delete_find? (m : MemoryStore) {id k : String} (h : k ≠ id) :
    (m.delete id).2.table.find? k = m.table.find? k := by
  unfold delete
  split
  · rw [Table.find?_erase, if_neg h]
  · rfl

theorem delete_gone {m : MemoryStore} {id : String} {s : Subscription} (h : (m.delete id).1 = .ok s) :
    (m.delete id).2.table.find? id = none := by
  unfold delete at h ⊢
  split
  · rw [Table.find?_erase, if_pos rfl]
  · rename_i hnone
    rw [hnone] at h
    cases h

instance : SteadyStore MemoryStore where
  kept? m id := (m.table.find? id).map .subscription
  get_keeps _ _ := rfl
  delete_spares m _ _ h := congrArg (Option.map Keepsake.subscription) (m.delete_find? h)
  delete_clears h := by
    have hgone := delete_gone h
    exact ⟨congrArg (Option.map Keepsake.subscription) hgone, hgone⟩

end MemoryStore

/-! ## Files -/

namespace Disk

/-- what is found at a path is there -/
theorem node?_of_walk {d : Disk} {here : Path} {ns : List String} {node : Node} (h : d.walk here ns = .ok node) :
    d.node? (here ++ ns) = some node := by
  induction ns generalizing here with
  | nil =>
    rw [walk] at h
    rw [List.append_nil]
    cases hn : d.node? here with
    | none =>
      rw [hn] at h
      cases h
    | some other =>
      rw [hn] at h
      cases h
      rfl
  | cons n ns ih =>
    rw [walk] at h
    split at h
    · cases h
    · cases h
    · split at h
      · rw [← ih h, List.append_assoc]
        rfl
      · cases h

/-- a file that is read is there -/
theorem node?_of_read {d : Disk} {p : Path} {bytes : List UInt8} (h : d.read p = .ok bytes) : d.node? p ≠ none := by
  unfold read at h
  split at h
  · rename_i hfind
    have hnode : d.node? p = some _ := node?_of_walk hfind
    rw [hnode]
    exact Option.some_ne_none _
  · cases h
  · cases h

end Disk

namespace FileStore

variable {f : FileStore} {id : String}

/-- what was taken out is not at hand any more, and so its file is looked for -/
theorem delete_cache {s : Subscription} (h : (f.delete id).1 = .ok s) : (f.delete id).2.cache.find? id = none := by
  unfold delete at h ⊢
  split at h
  · cases h
  · cases h
  · split at h <;> cases h
  · rename_i s' f' hload
    have hforgotten : (f'.cache.remove id).find? id = none := by
      cases hfind : (f'.cache.remove id).find? id with
      | none => rfl
      | some t => exact absurd rfl (Cache.find?_remove hfind).1
    dsimp only at h ⊢
    split at h
    · rename_i f'' hremove
      obtain ⟨d, -, rfl⟩ := removeRecord_eq_ok hremove
      exact hforgotten
    · cases h

/-- nothing is read where there is no file -/
theorem get_missing (hcache : f.cache.find? id = none) (hnode : f.disk.node? (f.recordPath id) = none) :
    (f.get id).1 = none := by
  have hread : ∀ s, f.readRecord id ≠ .ok (some s) := by
    intro s hs
    unfold readRecord at hs
    split at hs
    · cases hs
    · split at hs
      · cases hs
      · cases hs
      · rename_i hbytes
        exact Disk.node?_of_read hbytes hnode
  unfold get load Cache.use
  rw [hcache]
  dsimp only
  cases hr : f.readRecord id with
  | error e => rfl
  | ok found =>
    cases found with
    | none => rfl
    | some s => exact absurd hr (hread s)

instance : SteadyStore FileStore where
  kept? f id := (f.disk.node? (f.recordPath id)).map .node
  get_keeps f id := by
    have hget : SubscriptionStore.get f id = f.get id := rfl
    rw [hget, f.get_eq id]
    rfl
  delete_spares f id k h := by
    have htouches := f.delete_touches id
    have hpath : (f.delete id).2.recordPath k = f.recordPath k := congrArg (· ++ [recordName k]) htouches.directory
    show ((f.delete id).2.disk.node? ((f.delete id).2.recordPath k)).map Keepsake.node = _
    rw [hpath, htouches.record_eq h]
  delete_clears {f id s} h := by
    have hpath : (f.delete id).2.recordPath id = f.recordPath id :=
      congrArg (· ++ [recordName id]) (f.delete_touches id).directory
    have hnode : (f.delete id).2.disk.node? ((f.delete id).2.recordPath id) = none := hpath ▸ delete_removes h
    exact ⟨congrArg (Option.map Keepsake.node) hnode, get_missing (delete_cache h) hnode⟩

end FileStore

/-! ## Stores before other stores -/

variable {σ : Type} [SubscriptionStore σ]

namespace FlakyStore

instance [SteadyStore σ] : SteadyStore (FlakyStore σ) where
  kept? f := SteadyStore.kept? f.base
  get_keeps f id := SteadyStore.get_keeps f.base id
  delete_spares f id k h := by
    rcases f.change_cases (SubscriptionStore.delete · id) with ⟨-, -, hbase⟩ | ⟨-, hbase⟩
    · exact congrFun (congrArg SteadyStore.kept? hbase) k
    · exact (congrFun (congrArg SteadyStore.kept? hbase) k).trans (SteadyStore.delete_spares f.base h)
  delete_clears {f id s} h := by
    have h : (f.change (SubscriptionStore.delete · id)).1 = .ok s := h
    show SteadyStore.kept? (f.change (SubscriptionStore.delete · id)).2.base id = none ∧
      (SubscriptionStore.get (f.change (SubscriptionStore.delete · id)).2.base id).1 = none
    rcases f.change_cases (SubscriptionStore.delete · id) with ⟨⟨e, he⟩, -, -⟩ | ⟨hanswer, hbase⟩
    · rw [h] at he
      cases he
    · rw [hbase]
      exact SteadyStore.delete_clears (hanswer.symm.trans h)

end FlakyStore

/-- a store that does not always find what is there -/
structure DimStore (σ : Type) where
  base : σ
  /-- which readings find nothing -/
  misses : Nat → Bool
  /-- how often something was looked for -/
  looked : Nat

namespace DimStore

/-- an answer of the store behind -/
def pass {α : Type} (d : DimStore σ) (r : α × σ) : α × DimStore σ := (r.1, { d with base := r.2 })

instance : SubscriptionStore (DimStore σ) where
  put d s := d.pass (SubscriptionStore.put d.base s)
  get d id :=
    if d.misses d.looked then (none, { d with looked := d.looked + 1 })
    else { d with looked := d.looked + 1 }.pass (SubscriptionStore.get d.base id)
  all d := d.pass (SubscriptionStore.all d.base)
  delete d id := d.pass (SubscriptionStore.delete d.base id)
  renew d id t := d.pass (SubscriptionStore.renew d.base id t)
  held d := SubscriptionStore.held d.base

/-- a reading finds nothing and leaves the store behind as it was, or it is a reading of the store behind -/
theorem get_cases (d : DimStore σ) (id : String) :
    (SubscriptionStore.get d id).1 = none ∧ (SubscriptionStore.get d id).2.base = d.base ∨
      (SubscriptionStore.get d id).1 = (SubscriptionStore.get d.base id).1 ∧
        (SubscriptionStore.get d id).2.base = (SubscriptionStore.get d.base id).2 := by
  by_cases hmiss : d.misses d.looked = true
  · refine Or.inl ?_
    simp only [SubscriptionStore.get, hmiss, if_true, and_self]
  · refine Or.inr ?_
    simp only [SubscriptionStore.get, hmiss]
    exact ⟨rfl, rfl⟩

instance [LoyalStore σ] : LoyalStore (DimStore σ) where
  Only P d := LoyalStore.Only P d.base
  mono := LoyalStore.mono
  get_allowed {P d} h {id s} hs := by
    rcases d.get_cases id with ⟨hnone, -⟩ | ⟨hfound, -⟩
    · cases hs.symm.trans hnone
    · exact LoyalStore.get_allowed h (hfound.symm.trans hs)
  get_only {P d} h id := by
    rcases d.get_cases id with ⟨-, hbase⟩ | ⟨-, hbase⟩
    · exact hbase ▸ h
    · exact hbase ▸ LoyalStore.get_only h id
  all_only h := LoyalStore.all_only h
  put_only h _ hs := LoyalStore.put_only h hs
  delete_only h id := LoyalStore.delete_only h id
  renew_only h id t := LoyalStore.renew_only h id t

instance [SteadyStore σ] : SteadyStore (DimStore σ) where
  kept? d := SteadyStore.kept? d.base
  get_keeps d id := by
    rcases d.get_cases id with ⟨-, hbase⟩ | ⟨-, hbase⟩
    · exact congrArg SteadyStore.kept? hbase
    · exact (congrArg SteadyStore.kept? hbase).trans (SteadyStore.get_keeps d.base id)
  delete_spares d _ _ h := SteadyStore.delete_spares d.base h
  delete_clears {d id s} h := by
    have hbase : (SubscriptionStore.delete d.base id).1 = .ok s := h
    obtain ⟨hkept, hget⟩ := SteadyStore.delete_clears hbase
    refine ⟨hkept, ?_⟩
    rcases get_cases (SubscriptionStore.delete d id).2 id with ⟨hnone, -⟩ | ⟨hfound, -⟩
    · exact hnone
    · exact hfound.trans hget

end DimStore

end EventBroker
