/-
Renewing in a store, whatever has become of its records.

A store that is asked to renew looks the subscription up, gives it the new end and writes it where its own id says. So a
subscription that has the id it was asked for is kept with the new end, and what lasts of all other ids is as it was. If
the answer is a failure, nothing that lasts has changed.

- `RenewingStore`: the laws. `Roomy` says that the store can keep at hand what was used last; stores of files need this
  to find what they have written, since not every record can be read back. Every store of files that is opened has it.
- `FileStore.writeRecord_keeps`: what writing a record does to the files of all ids.
-/
import EventBroker.Proofs.Store.Steady
import EventBroker.Proofs.Store.Keyed

namespace EventBroker

/-- what lasts is this subscription: memory has it, or there is a file with its record -/
inductive Keepsake.Of (s : Subscription) : Keepsake → Prop where
  | memory : Of s (.subscription s)
  | file (number : Nat) : Of s (.node (.file number (RecordFile.encode s.toRecord)))

class RenewingStore (σ : Type) [SubscriptionStore σ] [SteadyStore σ] where
  /-- there is room to keep a subscription at hand -/
  Roomy : σ → Prop
  get_roomy {st : σ} (h : Roomy st) (id : String) : Roomy (SubscriptionStore.get st id).2
  all_roomy {st : σ} (h : Roomy st) : Roomy (SubscriptionStore.all st).2
  put_roomy {st : σ} (h : Roomy st) (s : Subscription) : Roomy (SubscriptionStore.put st s).2
  delete_roomy {st : σ} (h : Roomy st) (id : String) : Roomy (SubscriptionStore.delete st id).2
  renew_roomy {st : σ} (h : Roomy st) (id : String) (t : Timestamp) : Roomy (SubscriptionStore.renew st id t).2
  renew_answer {st : σ} {id : String} {t : Timestamp} {s' : Subscription} :
    (SubscriptionStore.renew st id t).1 = .ok s' →
      ∃ s, (SubscriptionStore.get st id).1 = some s ∧ s' = s.renewed t
  renew_finds {st : σ} (h : Roomy st) {id : String} {t : Timestamp} {s' : Subscription} :
    (SubscriptionStore.renew st id t).1 = .ok s' →
      (SubscriptionStore.get (SubscriptionStore.renew st id t).2 id).1 = some s'
  renew_writes {st : σ} {id : String} {t : Timestamp} {s' : Subscription} :
    (SubscriptionStore.renew st id t).1 = .ok s' → s'.id = id →
      ∃ x, SteadyStore.kept? (SubscriptionStore.renew st id t).2 id = some x ∧ x.Of s'
  renew_spares {st : σ} {id k : String} {t : Timestamp} {s' : Subscription} :
    (SubscriptionStore.renew st id t).1 = .ok s' → s'.id = id → k ≠ id →
      SteadyStore.kept? (SubscriptionStore.renew st id t).2 k = SteadyStore.kept? st k
  renew_refused {st : σ} {id : String} {t : Timestamp} {e : BrokerError} :
    (SubscriptionStore.renew st id t).1 = .error e →
      SteadyStore.kept? (SubscriptionStore.renew st id t).2 = SteadyStore.kept? st ∧
      (Roomy st →
        (SubscriptionStore.get (SubscriptionStore.renew st id t).2 id).1 = (SubscriptionStore.get st id).1)

/-! ## Memory -/

namespace MemoryStore

variable {m : MemoryStore} {id : String} {t : Timestamp}

theorem renew_eq_ok {s' : Subscription} (h : (m.renew id t).1 = .ok s') :
    ∃ s, m.table.find? id = some s ∧ s' = s.renewed t ∧ (m.renew id t).2.table = m.table.insert id s' := by
  unfold renew at h ⊢
  split at h
  · rename_i s hs
    cases h
    exact ⟨s, hs, rfl, rfl⟩
  · cases h

theorem renew_eq_error {e : BrokerError} (h : (m.renew id t).1 = .error e) : (m.renew id t).2 = m := by
  unfold renew at h ⊢
  split at h
  · cases h
  · rfl

instance : RenewingStore MemoryStore where
  Roomy _ := True
  get_roomy _ _ := trivial
  all_roomy _ := trivial
  put_roomy _ _ := trivial
  delete_roomy _ _ := trivial
  renew_roomy _ _ _ := trivial
  renew_answer h := by
    obtain ⟨s, hs, heq, -⟩ := renew_eq_ok h
    exact ⟨s, hs, heq⟩
  renew_finds {m} _ {id t s'} h := by
    obtain ⟨s, -, -, htable⟩ := renew_eq_ok h
    show (m.renew id t).2.table.find? id = some s'
    rw [htable, Table.find?_insert, if_pos rfl]
  renew_writes {m id t s'} h _ := by
    obtain ⟨s, -, -, htable⟩ := renew_eq_ok h
    refine ⟨.subscription s', ?_, .memory⟩
    show ((m.renew id t).2.table.find? id).map Keepsake.subscription = _
    rw [htable, Table.find?_insert, if_pos rfl]
    rfl
  renew_spares {m id k t s'} h _ hk := by
    obtain ⟨s, -, -, htable⟩ := renew_eq_ok h
    show ((m.renew id t).2.table.find? k).map Keepsake.subscription = _
    rw [htable, Table.find?_insert, if_neg hk]
    rfl
  renew_refused {m id t e} h := by
    have hsame : (SubscriptionStore.renew m id t).2 = m := renew_eq_error h
    rw [hsame]
    exact ⟨rfl, fun _ => rfl⟩

end MemoryStore

/-! ## Files -/

namespace Cache

variable {c : Cache} {id : String}

/-- with room for it, what was put is at hand -/
theorem find?_put_self (h : 1 ≤ c.capacity) (id : String) (s : Subscription) : (c.put id s).find? id = some s := by
  obtain ⟨n, hn⟩ := Nat.exists_eq_add_of_le' h
  unfold put find?
  rw [hn, List.take_succ_cons, List.find?_cons]
  simp

theorem use_capacity (c : Cache) (id : String) : (c.use id).2.capacity = c.capacity := by
  unfold use
  split <;> rfl

end Cache

namespace FileStore

variable {f : FileStore} {id : String} {t : Timestamp}

/-! ### Room in the cache -/

theorem load_capacity (f : FileStore) (id : String) : (f.load id).2.cache.capacity = f.cache.capacity := by
  have huse := f.cache.use_capacity id
  unfold load
  split
  · rename_i heq
    rw [heq] at huse
    exact huse
  · split <;> rfl

theorem get_capacity (f : FileStore) (id : String) : (f.get id).2.cache.capacity = f.cache.capacity := by
  have hload := f.load_capacity id
  unfold get
  split <;> rename_i heq <;> rw [heq] at hload <;> exact hload

theorem loadAll_capacity (f : FileStore) (ids : List String) :
    (loadAll ids f).2.cache.capacity = f.cache.capacity := by
  induction ids generalizing f with
  | nil => rfl
  | cons id ids ih => exact (ih (f.get id).2).trans (f.get_capacity id)

theorem all_capacity (f : FileStore) : f.all.2.cache.capacity = f.cache.capacity := by
  unfold all
  split
  · exact f.loadAll_capacity _
  · rfl

theorem put_capacity (f : FileStore) (s : Subscription) : (f.put s).2.cache.capacity = f.cache.capacity := by
  have hcache := congrArg Cache.capacity (f.writeRecord_cache s)
  unfold put
  split <;> rename_i heq <;> rw [heq] at hcache <;> exact hcache

theorem removeRecord_cache {f' : FileStore} (h : f.removeRecord id = .ok f') : f'.cache = f.cache := by
  obtain ⟨d, -, rfl⟩ := removeRecord_eq_ok h
  rfl

theorem delete_capacity (f : FileStore) (id : String) : (f.delete id).2.cache.capacity = f.cache.capacity := by
  have hload := f.load_capacity id
  unfold delete
  split <;> rename_i heq <;> rw [heq] at hload
  · exact hload
  · exact hload
  · split
    · rename_i hremove
      exact (congrArg Cache.capacity (removeRecord_cache hremove)).trans hload
    · exact hload
  · dsimp only
    split
    · rename_i hremove
      exact (congrArg Cache.capacity (removeRecord_cache hremove)).trans hload
    · exact hload

theorem renew_capacity (f : FileStore) (id : String) (t : Timestamp) :
    (f.renew id t).2.cache.capacity = f.cache.capacity := by
  have hload := f.load_capacity id
  unfold renew
  split <;> rename_i heq <;> rw [heq] at hload
  · rename_i s f'
    have hcache := congrArg Cache.capacity (f'.writeRecord_cache (s.renewed t))
    split <;> rename_i hwrite <;> rw [hwrite] at hcache <;> exact hcache.trans hload
  · exact hload

/-! ### Loading and writing -/

/-- what was loaded is at hand -/
theorem load_cache (h : 1 ≤ f.cache.capacity) {s : Subscription} (hs : (f.load id).1 = .ok (some s)) :
    (f.load id).2.cache.find? id = some s := by
  unfold load Cache.use at hs ⊢
  cases hc : f.cache.find? id with
  | some s' =>
    rw [hc] at hs
    cases hs
    exact Cache.find?_put_self h id s
  | none =>
    rw [hc] at hs
    dsimp only at hs ⊢
    split at hs
    · cases hs
      exact Cache.find?_put_self h id s
    · rename_i hnot
      exact absurd hs (hnot s)

/-- a loading that finds nothing changes nothing -/
theorem load_none (h : ∀ s, (f.load id).1 ≠ .ok (some s)) : (f.load id).2 = f := by
  unfold load at h ⊢
  split
  · rename_i s c huse
    rw [huse] at h
    exact absurd rfl (h s)
  · rename_i c huse
    rw [huse] at h
    dsimp only at h
    split
    · rename_i s hread
      rw [hread] at h
      exact absurd rfl (h s)
    · rfl

theorem get_of_load {s : Subscription} (h : (f.load id).1 = .ok (some s)) : (f.get id).1 = some s := by
  unfold get
  split
  · rename_i s' f' heq
    rw [heq] at h
    exact Except.ok.inj h
  · rename_i heq
    rw [heq] at h
    cases h

/-- what lasts in a store of files is the file of the record -/
theorem kept?_eq (f : FileStore) (id : String) :
    SteadyStore.kept? f id = (f.disk.node? (f.recordPath id)).map .node := rfl

theorem kept?_of_disk {f' : FileStore} (hdisk : f'.disk = f.disk) (hdir : f'.directory = f.directory) :
    SteadyStore.kept? f' = SteadyStore.kept? f := by
  funext k
  have hpath : f'.recordPath k = f.recordPath k := congrArg (· ++ [recordName k]) hdir
  rw [kept?_eq, kept?_eq, hdisk, hpath]

theorem load_keeps (f : FileStore) (id : String) : SteadyStore.kept? (f.load id).2 = SteadyStore.kept? f := by
  rw [f.load_eq id]
  exact kept?_of_disk rfl rfl

theorem Touches.kept? {f' : FileStore} {k : String} (h : f.Touches f' id) (hk : k ≠ id) :
    SteadyStore.kept? f' k = SteadyStore.kept? f k := by
  have hpath : f'.recordPath k = f.recordPath k := congrArg (· ++ [recordName k]) h.directory
  rw [kept?_eq, kept?_eq, hpath, h.record_eq hk]

/-- **Writing.** A record that was written is in the file of its id, and one that was not has changed no file of any. -/
theorem writeRecord_keeps (f : FileStore) (s : Subscription) :
    ((f.writeRecord s).1 = .ok () ∧
      ∃ x, SteadyStore.kept? (f.writeRecord s).2 s.id = some x ∧ x.Of s) ∨
    (∃ e, (f.writeRecord s).1 = .error e) ∧ SteadyStore.kept? (f.writeRecord s).2 = SteadyStore.kept? f := by
  unfold writeRecord
  split
  · exact Or.inr ⟨⟨_, rfl⟩, rfl⟩
  · split
    · exact Or.inr ⟨⟨_, rfl⟩, rfl⟩
    · rename_i d₁ hwrite
      split
      · -- the temporary file is none of the records
        refine Or.inr ⟨⟨_, rfl⟩, funext fun k => ?_⟩
        have hnode : d₁.node? (f.recordPath k) = f.disk.node? (f.recordPath k) :=
          Disk.write_node? hwrite (Disk.child_inj.not.2 temporaryName_ne_recordName.symm)
        exact congrArg (Option.map Keepsake.node) hnode
      · rename_i d₂ hrename
        obtain ⟨number, hwritten⟩ := Disk.write_self (Disk.child_ne_nil _ _) hwrite
        obtain ⟨number', bytes, -, hfind, -, hmoved⟩ := Disk.rename_self (Disk.child_ne_nil _ _) hrename
        have hwalk : d₁.walk [] (f.temporaryPath s.id) = .ok (.file number' bytes) := hfind
        have hfound := Disk.node?_of_walk hwalk
        rw [List.nil_append, temporaryPath, hwritten] at hfound
        cases hfound
        exact Or.inl ⟨rfl, _, congrArg (Option.map Keepsake.node) hmoved, .file number⟩

/-! ### Renewing -/

/-- a renewal that succeeds has loaded the subscription and has written it with the new end -/
theorem renew_eq_ok {s' : Subscription} (h : (f.renew id t).1 = .ok s') :
    ∃ s, (f.load id).1 = .ok (some s) ∧ s' = s.renewed t ∧ ((f.load id).2.writeRecord s').1 = .ok () ∧
      (f.renew id t).2 = { ((f.load id).2.writeRecord s').2 with cache := (f.load id).2.cache.put id s' } := by
  unfold renew at h ⊢
  split at h
  · rename_i s f' hload
    have hcache := f'.writeRecord_cache (s.renewed t)
    split at h
    · rename_i g hwrite
      rw [hwrite] at hcache
      cases h
      rw [hload]
      refine ⟨s, rfl, rfl, by rw [hwrite], ?_⟩
      dsimp only at hcache ⊢
      rw [hwrite, hcache]
    · cases h
  · cases h

/-- one that fails has loaded nothing, or could not write -/
theorem renew_eq_error {e : BrokerError} (h : (f.renew id t).1 = .error e) :
    ((∀ s, (f.load id).1 ≠ .ok (some s)) ∧ (f.renew id t).2 = (f.load id).2) ∨
      ∃ s, (f.load id).1 = .ok (some s) ∧ ((f.load id).2.writeRecord (s.renewed t)).1 = .error e ∧
        (f.renew id t).2 = ((f.load id).2.writeRecord (s.renewed t)).2 := by
  unfold renew at h ⊢
  split at h
  · rename_i s f' hload
    split at h
    · cases h
    · rename_i g hwrite
      cases h
      rw [hload]
      exact Or.inr ⟨s, rfl, by rw [hwrite], by dsimp only; rw [hwrite]⟩
  · rename_i hnot hload
    rw [hload]
    exact Or.inl ⟨hnot, rfl⟩

instance : RenewingStore FileStore where
  Roomy f := 1 ≤ f.cache.capacity
  get_roomy {f} h id := (f.get_capacity id).symm ▸ h
  all_roomy {f} h := f.all_capacity.symm ▸ h
  put_roomy {f} h s := (f.put_capacity s).symm ▸ h
  delete_roomy {f} h id := (f.delete_capacity id).symm ▸ h
  renew_roomy {f} h id t := (f.renew_capacity id t).symm ▸ h
  renew_answer {f id t s'} h := by
    obtain ⟨s, hload, heq, -, -⟩ := renew_eq_ok h
    exact ⟨s, get_of_load hload, heq⟩
  renew_finds {f} hroom {id t s'} h := by
    obtain ⟨s, -, -, -, hafter⟩ := renew_eq_ok h
    refine get_of_cache (f := (f.renew id t).2) ?_
    rw [hafter]
    exact Cache.find?_put_self ((f.load_capacity id).symm ▸ hroom) id s'
  renew_writes {f id t s'} h hid := by
    obtain ⟨s, -, -, hwrite, hafter⟩ := renew_eq_ok h
    have hsame : SteadyStore.kept? (f.renew id t).2 = SteadyStore.kept? ((f.load id).2.writeRecord s').2 := by
      rw [hafter]
      exact kept?_of_disk rfl rfl
    rcases writeRecord_keeps (f.load id).2 s' with ⟨-, hkept⟩ | ⟨⟨e, he⟩, -⟩
    · rw [hid] at hkept
      exact (congrFun hsame id) ▸ hkept
    · rw [hwrite] at he
      cases he
  renew_spares {f id k t s'} h hid hk := by
    obtain ⟨s, -, -, -, hafter⟩ := renew_eq_ok h
    have hsame : SteadyStore.kept? (f.renew id t).2 = SteadyStore.kept? ((f.load id).2.writeRecord s').2 := by
      rw [hafter]
      exact kept?_of_disk rfl rfl
    have htouched := (f.load id).2.writeRecord_touches s'
    rw [hid] at htouched
    exact (congrFun hsame k).trans ((htouched.kept? hk).trans (congrFun (f.load_keeps id) k))
  renew_refused {f id t e} h := by
    show SteadyStore.kept? (f.renew id t).2 = _ ∧ (_ → ((f.renew id t).2.get id).1 = (f.get id).1)
    rcases renew_eq_error h with ⟨hnone, hafter⟩ | ⟨s, hload, hwrite, hafter⟩
    · rw [hafter, load_none hnone]
      exact ⟨rfl, fun _ => rfl⟩
    · rcases writeRecord_keeps (f.load id).2 (s.renewed t) with ⟨hok, -⟩ | ⟨-, hkept⟩
      · rw [hwrite] at hok
        cases hok
      · refine ⟨hafter ▸ hkept.trans (f.load_keeps id), fun hroom => ?_⟩
        have hcache : (f.renew id t).2.cache.find? id = some s := by
          rw [hafter, writeRecord_cache]
          exact load_cache hroom hload
        rw [get_of_cache hcache, get_of_load hload]

end FileStore

/-! ## A store before another store -/

namespace FlakyStore

variable {σ : Type}

/-- a change leaves the store behind with a property if it has it before and after -/
theorem change_keeps {α : Type} {P : σ → Prop} {f : FlakyStore σ} {act : σ → Except BrokerError α × σ} (h : P f.base)
    (hact : P (act f.base).2) : P (f.change act).2.base := by
  rcases f.change_cases act with ⟨-, -, hbase⟩ | ⟨-, hbase⟩
  · exact hbase ▸ h
  · exact hbase ▸ hact

/-- a change that succeeds is one of the store behind -/
theorem change_eq_ok {α : Type} {f : FlakyStore σ} {act : σ → Except BrokerError α × σ} {a : α}
    (h : (f.change act).1 = .ok a) : (act f.base).1 = .ok a ∧ (f.change act).2.base = (act f.base).2 := by
  rcases f.change_cases act with ⟨⟨e, he⟩, -, -⟩ | ⟨hanswer, hbase⟩
  · rw [h] at he
    cases he
  · exact ⟨hanswer.symm.trans h, hbase⟩

instance [SubscriptionStore σ] [SteadyStore σ] [RenewingStore σ] : RenewingStore (FlakyStore σ) where
  Roomy f := RenewingStore.Roomy f.base
  get_roomy h id := RenewingStore.get_roomy h id
  all_roomy h := RenewingStore.all_roomy h
  put_roomy h s := change_keeps h (RenewingStore.put_roomy h s)
  delete_roomy h id := change_keeps h (RenewingStore.delete_roomy h id)
  renew_roomy h id t := change_keeps h (RenewingStore.renew_roomy h id t)
  renew_answer {f id t s'} h := by
    obtain ⟨s, hs, heq⟩ := RenewingStore.renew_answer (change_eq_ok h).1
    exact ⟨s, hs, heq⟩
  renew_finds {f} hroom {id t s'} h := by
    obtain ⟨hok, hbase⟩ := change_eq_ok h
    show (SubscriptionStore.get (f.change (SubscriptionStore.renew · id t)).2.base id).1 = some s'
    rw [hbase]
    exact RenewingStore.renew_finds hroom hok
  renew_writes {f id t s'} h hid := by
    obtain ⟨hok, hbase⟩ := change_eq_ok h
    show ∃ x, SteadyStore.kept? (f.change (SubscriptionStore.renew · id t)).2.base id = some x ∧ x.Of s'
    rw [hbase]
    exact RenewingStore.renew_writes hok hid
  renew_spares {f id k t s'} h hid hk := by
    obtain ⟨hok, hbase⟩ := change_eq_ok h
    show SteadyStore.kept? (f.change (SubscriptionStore.renew · id t)).2.base k = SteadyStore.kept? f.base k
    rw [hbase]
    exact RenewingStore.renew_spares hok hid hk
  renew_refused {f id t e} h := by
    have h : (f.change (SubscriptionStore.renew · id t)).1 = .error e := h
    show SteadyStore.kept? (f.change (SubscriptionStore.renew · id t)).2.base = SteadyStore.kept? f.base ∧
      (RenewingStore.Roomy f.base →
        (SubscriptionStore.get (f.change (SubscriptionStore.renew · id t)).2.base id).1 =
          (SubscriptionStore.get f.base id).1)
    rcases f.change_cases (SubscriptionStore.renew · id t) with ⟨-, -, hbase⟩ | ⟨hanswer, hbase⟩
    · rw [hbase]
      exact ⟨rfl, fun _ => rfl⟩
    · rw [hbase]
      exact RenewingStore.renew_refused (hanswer.symm.trans h)

end FlakyStore

end EventBroker
