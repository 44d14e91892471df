/-
Stores that keep what they are given.

`Records` is what a store holds, seen from outside: a record or nothing for every id. A store is faithful if it
answers every operation from its records and changes them as the operation says. What it has besides (the order in
which it lists, what it keeps at hand) may change with every operation, reading included.

- `FaithfulStore`: the laws. `Holds` relates a store in good order to its records, `Fits` says which records it can
  keep. A store may refuse to put something in, and then nothing has changed.
- `told`, `listed`: what a store answers with, one by one and as a list; of a faithful store, its records.
- `MemoryStore` is faithful, for every table in which subscriptions stand under their own ids, and keeps everything.
-/
import Mathlib.Data.List.Nodup
import Mathlib.Logic.Function.Basic
import Mathlib.Tactic.Common
import EventBroker.Store.Memory

namespace EventBroker

open Function (update)

/-! ## Records -/

/-- the same record with another end -/
def SubscriptionRecord.renewed (r : SubscriptionRecord) (t : Timestamp) : SubscriptionRecord :=
  { r with options := { r.options with terminationTime := some t } }

@[simp] theorem Subscription.toRecord_renewed (s : Subscription) (t : Timestamp) :
    (s.renewed t).toRecord = s.toRecord.renewed t := rfl

/-- what a store holds, by id -/
abbrev Records := String → Option SubscriptionRecord

theorem update_some_eq_some {α β : Type} [DecidableEq α] {f : α → Option β} {a k : α} {b c : β} :
    update f a (some b) k = some c ↔ (k = a ∧ b = c) ∨ (k ≠ a ∧ f k = some c) := by
  by_cases hk : k = a
  · subst hk
    rw [Function.update_self, Option.some_inj]
    simp
  · rw [Function.update_of_ne hk]
    simp [hk]

theorem update_none_eq_some {α β : Type} [DecidableEq α] {f : α → Option β} {a k : α} {c : β} :
    update f a none k = some c ↔ k ≠ a ∧ f k = some c := by
  by_cases hk : k = a
  · subst hk
    rw [Function.update_self]
    simp
  · rw [Function.update_of_ne hk]
    simp [hk]

class FaithfulStore (σ : Type) [SubscriptionStore σ] where
  /-- the store can keep this record -/
  Fits : SubscriptionRecord → Prop
  /-- the store is in good order and has these records -/
  Holds : σ → Records → Prop
  fits_renewed {r : SubscriptionRecord} (t : Timestamp) : Fits r → Fits (r.renewed t)
  keyed {st : σ} {v : Records} {id : String} {r : SubscriptionRecord} : Holds st v → v id = some r → r.id = id
  fits_held {st : σ} {v : Records} {id : String} {r : SubscriptionRecord} : Holds st v → v id = some r → Fits r
  get_answer {st : σ} {v : Records} (h : Holds st v) (id : String) :
    (SubscriptionStore.get st id).1.map Subscription.toRecord = v id
  get_holds {st : σ} {v : Records} (h : Holds st v) (id : String) : Holds (SubscriptionStore.get st id).2 v
  all_sound {st : σ} {v : Records} (h : Holds st v) :
    ∀ s ∈ (SubscriptionStore.all st).1, v s.id = some s.toRecord
  all_complete {st : σ} {v : Records} (h : Holds st v) {id : String} {r : SubscriptionRecord} (hr : v id = some r) :
    ∃ s ∈ (SubscriptionStore.all st).1, s.id = id
  all_nodup {st : σ} {v : Records} (h : Holds st v) : ((SubscriptionStore.all st).1.map Subscription.id).Nodup
  all_holds {st : σ} {v : Records} (h : Holds st v) : Holds (SubscriptionStore.all st).2 v
  put_accepted {st : σ} {v : Records} (h : Holds st v) {s : Subscription} (hf : Fits s.toRecord) {u : Unit}
    (ha : (SubscriptionStore.put st s).1 = .ok u) :
    Holds (SubscriptionStore.put st s).2 (update v s.id (some s.toRecord))
  put_refused {st : σ} {v : Records} (h : Holds st v) {s : Subscription} {e : BrokerError}
    (ha : (SubscriptionStore.put st s).1 = .error e) : Holds (SubscriptionStore.put st s).2 v
  put_known {st : σ} {v : Records} (h : Holds st v) {s : Subscription} (hf : Fits s.toRecord)
    {r : SubscriptionRecord} (hr : v s.id = some r) : (SubscriptionStore.put st s).1 = .ok ()
  delete_known {st : σ} {v : Records} (h : Holds st v) {id : String} {r : SubscriptionRecord} (hr : v id = some r) :
    (∃ s, (SubscriptionStore.delete st id).1 = .ok s ∧ s.toRecord = r) ∧
      Holds (SubscriptionStore.delete st id).2 (update v id none)
  delete_unknown {st : σ} {v : Records} (h : Holds st v) {id : String} (hr : v id = none) :
    (∃ e, (SubscriptionStore.delete st id).1 = .error e) ∧ Holds (SubscriptionStore.delete st id).2 v
  renew_known {st : σ} {v : Records} (h : Holds st v) {id : String} {r : SubscriptionRecord} (hr : v id = some r)
    (t : Timestamp) :
    (∃ s, (SubscriptionStore.renew st id t).1 = .ok s ∧ s.toRecord = r.renewed t) ∧
      Holds (SubscriptionStore.renew st id t).2 (update v id (some (r.renewed t)))
  renew_unknown {st : σ} {v : Records} (h : Holds st v) {id : String} (hr : v id = none) (t : Timestamp) :
    (SubscriptionStore.renew st id t).1 = .error (.unknownSubscription id) ∧
      Holds (SubscriptionStore.renew st id t).2 v

/-! ## What a store answers with -/

namespace SubscriptionStore

variable {σ : Type} [SubscriptionStore σ]

/-- the records that a store answers with, id by id -/
def told (st : σ) : Records := fun id => (get st id).1.map Subscription.toRecord

/-- the records of all subscriptions that a store lists -/
def listed (st : σ) : List SubscriptionRecord := (all st).1.map Subscription.toRecord

end SubscriptionStore

namespace FaithfulStore

variable {σ : Type} [SubscriptionStore σ] [FaithfulStore σ] {st : σ} {v : Records}

theorem told_eq (h : Holds st v) : SubscriptionStore.told st = v := funext fun id => get_answer h id

theorem mem_listed (h : Holds st v) {r : SubscriptionRecord} : r ∈ SubscriptionStore.listed st ↔ v r.id = some r := by
  constructor
  · intro hr
    obtain ⟨s, hs, rfl⟩ := List.mem_map.1 hr
    exact all_sound h s hs
  · intro hr
    obtain ⟨s, hs, hid⟩ := all_complete h hr
    have hsame : s.toRecord = r := Option.some.inj ((all_sound h s hs).symm.trans (hid ▸ hr))
    exact hsame ▸ List.mem_map_of_mem hs

theorem listed_nodup (h : Holds st v) : (SubscriptionStore.listed st).Nodup := by
  refine List.Nodup.of_map SubscriptionRecord.id ?_
  have hids : (SubscriptionStore.listed st).map SubscriptionRecord.id =
      (SubscriptionStore.all st).1.map Subscription.id := by
    rw [SubscriptionStore.listed, List.map_map]
    rfl
  rw [hids]
  exact all_nodup h

end FaithfulStore

/-! ## The store in memory -/

namespace MemoryStore

/-- the records of a table of subscriptions -/
def records (m : MemoryStore) : Records := fun id => (m.table.find? id).map Subscription.toRecord

/-- every subscription stands under its own id -/
def Keyed (m : MemoryStore) : Prop := ∀ id s, m.table.find? id = some s → s.id = id

theorem keyed_empty : Keyed .empty := fun id s h => by simp [empty] at h

theorem records_insert (m : MemoryStore) (id : String) (s : Subscription) :
    records ⟨m.table.insert id s⟩ = update m.records id (some s.toRecord) := by
  funext k
  by_cases hk : k = id
  · simp [records, Table.find?_insert, hk]
  · simp [records, Table.find?_insert, hk]

theorem records_erase (m : MemoryStore) (id : String) :
    records ⟨m.table.erase id⟩ = update m.records id none := by
  funext k
  by_cases hk : k = id
  · simp [records, Table.find?_erase, hk]
  · simp [records, Table.find?_erase, hk]

theorem Keyed.insert {m : MemoryStore} (h : m.Keyed) {id : String} {s : Subscription} (hs : s.id = id) :
    Keyed ⟨m.table.insert id s⟩ := by
  intro k t ht
  rw [Table.find?_insert] at ht
  split at ht
  · rename_i hk
    cases ht
    exact hs.trans hk.symm
  · exact h k t ht

theorem Keyed.erase {m : MemoryStore} (h : m.Keyed) (id : String) : Keyed ⟨m.table.erase id⟩ := by
  intro k t ht
  rw [Table.find?_erase] at ht
  split at ht
  · cases ht
  · exact h k t ht

theorem records_eq_some {m : MemoryStore} {id : String} {r : SubscriptionRecord} (h : m.records id = some r) :
    ∃ s, m.table.find? id = some s ∧ s.toRecord = r := Option.map_eq_some_iff.1 h

theorem records_eq_none {m : MemoryStore} {id : String} (h : m.records id = none) : m.table.find? id = none :=
  Option.map_eq_none_iff.1 h

theorem mem_all_iff {m : MemoryStore} {s : Subscription} : s ∈ m.all ↔ ∃ id, m.table.find? id = some s :=
  Table.mem_values_iff

theorem all_ids {m : MemoryStore} (h : m.Keyed) : m.all.map Subscription.id = m.table.keys := by
  simp only [all, Table.values, Table.keys, List.map_map]
  refine List.map_congr_left fun e he => ?_
  exact h e.1 e.2 (Table.find?_eq_some_iff.2 he)

instance : FaithfulStore MemoryStore where
  Fits _ := True
  Holds m v := m.Keyed ∧ m.records = v
  fits_renewed _ h := h
  keyed h hr := by
    obtain ⟨hk, rfl⟩ := h
    obtain ⟨s, hs, rfl⟩ := records_eq_some hr
    exact hk _ s hs
  fits_held _ _ := trivial
  get_answer h id := by rw [← h.2]; rfl
  get_holds h _ := h
  all_sound h s hs := by
    obtain ⟨id, hid⟩ := mem_all_iff.1 hs
    have he := h.1 id s hid
    rw [← h.2, records, he, hid]
    rfl
  all_complete {m v} h {id r} hr := by
    rw [← h.2] at hr
    obtain ⟨s, hs, -⟩ := records_eq_some hr
    exact ⟨s, mem_all_iff.2 ⟨_, hs⟩, h.1 _ s hs⟩
  all_nodup {m v} h := by
    show (m.all.map Subscription.id).Nodup
    rw [all_ids h.1]
    exact m.table.nodup
  all_holds h := h
  put_accepted {m v} h {s} _ _ _ := ⟨h.1.insert rfl, by rw [← h.2]; exact records_insert m s.id s⟩
  put_refused _ _ _ ha := by cases ha
  put_known _ _ _ _ _ := rfl
  delete_known {m v} h {id r} hr := by
    rw [← h.2] at hr
    obtain ⟨s, hs, hr⟩ := records_eq_some hr
    have hd : m.delete id = (.ok s, ⟨m.table.erase id⟩) := by simp only [delete, hs]
    show (∃ s, (m.delete id).1 = .ok s ∧ s.toRecord = r) ∧ (m.delete id).2.Keyed ∧ records (m.delete id).2 = _
    rw [hd]
    exact ⟨⟨s, rfl, hr⟩, h.1.erase id, by rw [← h.2]; exact records_erase m id⟩
  delete_unknown {m v} h {id} hr := by
    rw [← h.2] at hr
    have hd : m.delete id = (.error (.unknownSubscription id), m) := by simp only [delete, records_eq_none hr]
    show (∃ e, (m.delete id).1 = .error e) ∧ (m.delete id).2.Keyed ∧ (m.delete id).2.records = v
    rw [hd]
    exact ⟨⟨_, rfl⟩, h⟩
  renew_known {m v} h {id r} hr t := by
    rw [← h.2] at hr
    obtain ⟨s, hs, rfl⟩ := records_eq_some hr
    have hd : m.renew id t = (.ok (s.renewed t), ⟨m.table.insert id (s.renewed t)⟩) := by simp only [renew, hs]
    show (∃ u, (m.renew id t).1 = .ok u ∧ u.toRecord = s.toRecord.renewed t) ∧ (m.renew id t).2.Keyed ∧
      records (m.renew id t).2 = _
    rw [hd]
    refine ⟨⟨_, rfl, rfl⟩, h.1.insert (h.1 id s hs), ?_⟩
    rw [← h.2]
    exact records_insert m id (s.renewed t)
  renew_unknown {m v} h {id} hr t := by
    rw [← h.2] at hr
    have hd : m.renew id t = (.error (.unknownSubscription id), m) := by simp only [renew, records_eq_none hr]
    show (m.renew id t).1 = _ ∧ (m.renew id t).2.Keyed ∧ (m.renew id t).2.records = v
    rw [hd]
    exact ⟨rfl, h⟩

end MemoryStore

end EventBroker
