/-
Stores that hand out endpoints only under the ids they were put in with.

A store may keep the endpoint of a subscription that is put in, and give it back later; it makes no endpoints of its own
and does not move them from one id to another. `LoyalStore.Only P` says that an id has, of all endpoints that are in use
somewhere, only such as `P` allows it. Files keep no endpoints, and so what a store of files hands out comes from its
cache.

`KeepingStore.Keeps R` says so of anything that may be told of an id and the subscription kept for it, such as that the
subscription has this id. It lasts as long as `R` holds of what is put in; `Only P` is a case of it.
-/
import EventBroker.Proofs.Store.File

namespace EventBroker

/-- the id may have the endpoint of the subscription, if `P` is asked -/
def Subscription.Allowed (P : String → Nat → Prop) (id : String) (s : Subscription) : Prop :=
  ∀ k, s.endpoint.handle? = some k → P id k

theorem Subscription.allowed_ofRecord (P : String → Nat → Prop) (id : String) (r : SubscriptionRecord) :
    (Subscription.ofRecord r).Allowed P id := fun k hk => by cases hk

/-- `R` holds of what records tell, and goes on holding when a subscription gets another end -/
structure Lasting (R : String → Subscription → Prop) : Prop where
  ofRecord : ∀ id r, R id (Subscription.ofRecord r)
  renewed : ∀ id s t, R id s → R id (s.renewed t)

theorem Subscription.allowed_lasting (P : String → Nat → Prop) : Lasting fun id s => s.Allowed P id :=
  ⟨Subscription.allowed_ofRecord P, fun _ _ _ h => h⟩

class LoyalStore (σ : Type) [SubscriptionStore σ] where
  Only : (String → Nat → Prop) → σ → Prop
  mono {P Q : String → Nat → Prop} {st : σ} : (∀ id k, P id k → Q id k) → Only P st → Only Q st
  get_allowed {P : String → Nat → Prop} {st : σ} (h : Only P st) {id : String} {s : Subscription} :
    (SubscriptionStore.get st id).1 = some s → s.Allowed P id
  get_only {P : String → Nat → Prop} {st : σ} (h : Only P st) (id : String) : Only P (SubscriptionStore.get st id).2
  all_only {P : String → Nat → Prop} {st : σ} (h : Only P st) : Only P (SubscriptionStore.all st).2
  put_only {P : String → Nat → Prop} {st : σ} (h : Only P st) {s : Subscription} :
    s.Allowed P s.id → Only P (SubscriptionStore.put st s).2
  delete_only {P : String → Nat → Prop} {st : σ} (h : Only P st) (id : String) :
    Only P (SubscriptionStore.delete st id).2
  renew_only {P : String → Nat → Prop} {st : σ} (h : Only P st) (id : String) (t : Timestamp) :
    Only P (SubscriptionStore.renew st id t).2

/-- what is told of ids and subscriptions stays true of a store if it is true of all that is put in -/
class KeepingStore (σ : Type) [SubscriptionStore σ] [LoyalStore σ] where
  Keeps : (String → Subscription → Prop) → σ → Prop
  only_iff {P : String → Nat → Prop} {st : σ} : LoyalStore.Only P st ↔ Keeps (fun id s => s.Allowed P id) st
  mono {R S : String → Subscription → Prop} {st : σ} : (∀ id s, R id s → S id s) → Keeps R st → Keeps S st
  and {R S : String → Subscription → Prop} {st : σ} : Keeps R st → Keeps S st → Keeps (fun id s => R id s ∧ S id s) st
  get_keeps {R : String → Subscription → Prop} {st : σ} (hR : Lasting R) (h : Keeps R st) (id : String) :
    (∀ s, (SubscriptionStore.get st id).1 = some s → R id s) ∧ Keeps R (SubscriptionStore.get st id).2
  all_keeps {R : String → Subscription → Prop} {st : σ} (hR : Lasting R) (h : Keeps R st) :
    (∀ s ∈ (SubscriptionStore.all st).1, ∃ id, R id s) ∧ Keeps R (SubscriptionStore.all st).2
  put_keeps {R : String → Subscription → Prop} {st : σ} (h : Keeps R st) {s : Subscription} (hs : R s.id s) :
    Keeps R (SubscriptionStore.put st s).2
  delete_keeps {R : String → Subscription → Prop} {st : σ} (hR : Lasting R) (h : Keeps R st) (id : String) :
    Keeps R (SubscriptionStore.delete st id).2
  renew_keeps {R : String → Subscription → Prop} {st : σ} (hR : Lasting R) (h : Keeps R st) (id : String)
    (t : Timestamp) : Keeps R (SubscriptionStore.renew st id t).2

/-! ## Memory -/

namespace MemoryStore

variable {P : String → Nat → Prop} {R : String → Subscription → Prop} {m : MemoryStore}

def Keeps (R : String → Subscription → Prop) (m : MemoryStore) : Prop := ∀ id s, m.table.find? id = some s → R id s

theorem Keeps.insert (h : m.Keeps R) {id : String} {s : Subscription} (hs : R id s) :
    Keeps R ⟨m.table.insert id s⟩ := by
  intro k t ht
  rw [Table.find?_insert] at ht
  split at ht
  · rename_i hk
    cases ht
    exact hk ▸ hs
  · exact h k t ht

theorem Keeps.delete (h : m.Keeps R) (id : String) : (m.delete id).2.Keeps R := by
  unfold MemoryStore.delete
  split
  · intro k t ht
    rw [Table.find?_erase] at ht
    split at ht
    · cases ht
    · exact h k t ht
  · exact h

theorem Keeps.renew (hR : Lasting R) (h : m.Keeps R) (id : String) (t : Timestamp) : (m.renew id t).2.Keeps R := by
  unfold MemoryStore.renew
  split
  · rename_i s hs
    exact h.insert (hR.renewed id s t (h id s hs))
  · exact h

def Only (P : String → Nat → Prop) (m : MemoryStore) : Prop := ∀ id s, m.table.find? id = some s → s.Allowed P id

theorem Only.insert (h : m.Only P) {id : String} {s : Subscription} (hs : s.Allowed P id) :
    Only P ⟨m.table.insert id s⟩ :=
  Keeps.insert (R := fun id s => s.Allowed P id) h hs

instance : LoyalStore MemoryStore where
  Only := Only
  mono hPQ h id s hs k hk := hPQ id k (h id s hs k hk)
  get_allowed h _ _ hs := h _ _ hs
  get_only h _ := h
  all_only h := h
  put_only h _ hs := h.insert hs
  delete_only h id := Keeps.delete h id
  renew_only {P _} h id t := Keeps.renew (Subscription.allowed_lasting P) h id t

instance : KeepingStore MemoryStore where
  Keeps := Keeps
  only_iff := Iff.rfl
  mono hRS h id s hs := hRS id s (h id s hs)
  and hR hS id s hs := ⟨hR id s hs, hS id s hs⟩
  get_keeps _ h id := ⟨fun s hs => h id s hs, h⟩
  all_keeps _ h := by
    refine ⟨fun s hs => ?_, h⟩
    obtain ⟨id, hid⟩ := Table.mem_values_iff.1 hs
    exact ⟨id, h id s hid⟩
  put_keeps h _ hs := h.insert hs
  delete_keeps _ h id := h.delete id
  renew_keeps hR h id t := h.renew hR id t

end MemoryStore

/-! ## Files -/

namespace FileStore

variable {R : String → Subscription → Prop} {f : FileStore}

/-- everything at hand is as `R` tells -/
def Keeps (R : String → Subscription → Prop) (f : FileStore) : Prop := ∀ id s, f.cache.find? id = some s → R id s

/-- writing a record leaves what is at hand alone -/
theorem writeRecord_cache (f : FileStore) (s : Subscription) : (f.writeRecord s).2.cache = f.cache := by
  unfold writeRecord
  split
  · rfl
  · split
    · rfl
    · split <;> rfl

/-- what a record tells is as `R` says of records -/
theorem Keeps.readRecord (hR : Lasting R) {id : String} {s : Subscription} (hs : f.readRecord id = .ok (some s)) :
    R id s := by
  unfold FileStore.readRecord at hs
  split at hs
  · cases hs
  · split at hs
    · cases hs
    · cases hs
    · rename_i bytes _
      cases hdec : RecordFile.decode bytes with
      | error e =>
        rw [hdec] at hs
        cases hs
      | ok r =>
        rw [hdec] at hs
        cases hs
        exact hR.ofRecord id r

namespace Keeps

theorem of_cache {f f' : FileStore} (h : f.Keeps R) (hc : f'.cache = f.cache) : f'.Keeps R :=
  fun id s hs => h id s (hc ▸ hs)

theorem cachePut (h : f.Keeps R) {id : String} {s : Subscription} (hs : R id s) (d : Disk) :
    Keeps R { f with disk := d, cache := f.cache.put id s } := by
  intro k t ht
  rcases Cache.find?_put ht with ⟨rfl, rfl⟩ | ⟨-, ht⟩
  · exact hs
  · exact h k t ht

theorem cacheRemove (h : f.Keeps R) (id : String) : Keeps R { f with cache := f.cache.remove id } :=
  fun k t ht => h k t (Cache.find?_remove ht).2

theorem removeRecord {f' : FileStore} (h : f.Keeps R) {id : String} (hr : f.removeRecord id = .ok f') :
    f'.Keeps R := by
  unfold FileStore.removeRecord onDisk at hr
  split at hr
  · cases hr
    exact h
  · cases hr

theorem load (hR : Lasting R) (h : f.Keeps R) (id : String) :
    (∀ s, (f.load id).1 = .ok (some s) → R id s) ∧ (f.load id).2.Keeps R := by
  unfold FileStore.load Cache.use
  cases hc : f.cache.find? id with
  | some s =>
    have hs : R id s := h id s hc
    refine ⟨fun t ht => ?_, h.cachePut hs f.disk⟩
    cases ht
    exact hs
  | none =>
    dsimp only
    split
    · rename_i s hread
      have hs : R id s := Keeps.readRecord hR hread
      refine ⟨fun t ht => ?_, h.cachePut hs f.disk⟩
      cases ht
      exact hs
    · rename_i hnot
      exact ⟨fun t ht => absurd ht (hnot t), h⟩

theorem get (hR : Lasting R) (h : f.Keeps R) (id : String) :
    (∀ s, (f.get id).1 = some s → R id s) ∧ (f.get id).2.Keeps R := by
  have hload := h.load hR id
  unfold FileStore.get
  split
  · rename_i s f' heq
    rw [heq] at hload
    exact ⟨fun t ht => hload.1 t (congrArg Except.ok ht), hload.2⟩
  · rename_i e f' heq
    rw [heq] at hload
    exact ⟨fun t ht => (by cases ht), hload.2⟩

theorem loadAll (hR : Lasting R) (h : f.Keeps R) (ids : List String) :
    (∀ s ∈ (FileStore.loadAll ids f).1, ∃ id, R id s) ∧ (FileStore.loadAll ids f).2.Keeps R := by
  induction ids generalizing f with
  | nil => exact ⟨fun s hs => (by cases hs), h⟩
  | cons id ids ih =>
    obtain ⟨hfirst, hget⟩ := h.get hR id
    obtain ⟨hrest, hkeeps⟩ := ih hget
    refine ⟨fun s hs => ?_, hkeeps⟩
    rcases List.mem_append.1 hs with hs | hs
    · exact ⟨id, hfirst s (Option.mem_toList.1 hs)⟩
    · exact hrest s hs

theorem all (hR : Lasting R) (h : f.Keeps R) :
    (∀ s ∈ f.all.1, ∃ id, R id s) ∧ f.all.2.Keeps R := by
  unfold FileStore.all
  split
  · exact h.loadAll hR _
  · exact ⟨fun s hs => (by cases hs), h⟩

theorem put (h : f.Keeps R) {s : Subscription} (hs : R s.id s) : (f.put s).2.Keeps R := by
  have hcache := writeRecord_cache f s
  unfold FileStore.put
  split
  · rename_i u f' heq
    rw [heq] at hcache
    exact (h.of_cache hcache).cachePut hs f'.disk
  · rename_i e f' heq
    rw [heq] at hcache
    exact h.of_cache hcache

theorem delete (hR : Lasting R) (h : f.Keeps R) (id : String) : (f.delete id).2.Keeps R := by
  have hload := (h.load hR id).2
  unfold FileStore.delete
  split <;> rename_i heq <;> rw [heq] at hload
  · exact hload
  · exact hload
  · split
    · rename_i hr
      exact hload.removeRecord hr
    · exact hload
  · dsimp only
    split
    · rename_i hr
      exact (hload.cacheRemove id).removeRecord hr
    · exact hload.cacheRemove id

theorem renew (hR : Lasting R) (h : f.Keeps R) (id : String) (t : Timestamp) : (f.renew id t).2.Keeps R := by
  have hload := h.load hR id
  unfold FileStore.renew
  split
  · rename_i s f' heq
    rw [heq] at hload
    have hs : R id (s.renewed t) := hR.renewed id s t (hload.1 s rfl)
    have hcache := writeRecord_cache f' (s.renewed t)
    split
    · rename_i u g hwrite
      rw [hwrite] at hcache
      exact (hload.2.of_cache hcache).cachePut hs g.disk
    · rename_i e g hwrite
      rw [hwrite] at hcache
      exact hload.2.of_cache hcache
  · rename_i heq
    rw [heq] at hload
    exact hload.2

end Keeps

def Only (P : String → Nat → Prop) (f : FileStore) : Prop := ∀ id s, f.cache.find? id = some s → s.Allowed P id

instance : LoyalStore FileStore where
  Only := Only
  mono hPQ h id s hs k hk := hPQ id k (h id s hs k hk)
  get_allowed {P _} h id s hs := (Keeps.get (Subscription.allowed_lasting P) h id).1 s hs
  get_only {P _} h id := (Keeps.get (Subscription.allowed_lasting P) h id).2
  all_only {P _} h := (Keeps.all (Subscription.allowed_lasting P) h).2
  put_only {P _} h _ hs := Keeps.put (R := fun id s => s.Allowed P id) h hs
  delete_only {P _} h id := Keeps.delete (Subscription.allowed_lasting P) h id
  renew_only {P _} h id t := Keeps.renew (Subscription.allowed_lasting P) h id t

instance : KeepingStore FileStore where
  Keeps := Keeps
  only_iff := Iff.rfl
  mono hRS h id s hs := hRS id s (h id s hs)
  and hR hS id s hs := ⟨hR id s hs, hS id s hs⟩
  get_keeps hR h id := h.get hR id
  all_keeps hR h := h.all hR
  put_keeps h _ hs := h.put hs
  delete_keeps hR h id := h.delete hR id
  renew_keeps hR h id t := h.renew hR id t

end FileStore

end EventBroker
