/-
A change of a record happens as a whole or not at all.

A call that changes a record is a row of steps on the file system: a temporary file is created, filled and brought to
disk, and then takes the place of the record; or the file of a record is removed. An outage breaks off one of these
steps. Renaming and removing happen as a whole or not at all; of the bytes of a file the first ones may have been
written. After an outage the process either goes on with an error or is gone, and then the directory is opened again.

- `FileStep`, `Disk.carryOut`: the steps, with an outage or without.
- `StoreCall.serveDuring`: a call with an outage; `serveDuring_none` says that without one it is the call itself.
- `Worked`: the stores that can be reached from an empty directory by calls, outages, crashes and reopening.
- `Mirrors.serveDuring` is the step: either the call failed and nothing has changed, or it has had its effect.
-/
import EventBroker.Proofs.Store.Refinement

namespace EventBroker

open Function (update)

/-! ## Steps -/

/-- a step on the file system -/
inductive FileStep where
  /-- a file is made, or made empty -/
  | create (p : Path)
  /-- bytes are written to a file that was made before -/
  | fill (p : Path) (bytes : List UInt8)
  /-- what was written is brought to disk -/
  | sync (p : Path)
  | rename (p q : Path)
  | remove (p : Path)

/-- the step with this number, counted from zero, breaks off; if it writes, so many bytes have been written -/
structure Outage where
  step : Nat
  bytes : Nat

namespace Disk

def take (d : Disk) : FileStep → Except DiskFault Disk
  | .create p => d.write p []
  | .fill p bytes => d.write p bytes
  | .sync _ => .ok d
  | .rename p q => d.rename p q
  | .remove p => d.removeFile p

/-- what is left of a step that breaks off -/
def breakOff (d : Disk) (k : Nat) : FileStep → Disk
  | .fill p bytes => (d.write p (bytes.take k)).toOption.getD d
  | _ => d

/-- take steps one after the other, up to an outage -/
def carryOut : Option Outage → List FileStep → Disk → Except DiskFault Unit × Disk
  | _, [], d => (.ok (), d)
  | some ⟨0, k⟩, step :: _, d => (.error .unusable, d.breakOff k step)
  | some ⟨n + 1, k⟩, step :: steps, d =>
    match d.take step with
    | .ok d => carryOut (some ⟨n, k⟩) steps d
    | .error e => (.error e, d)
  | none, step :: steps, d =>
    match d.take step with
    | .ok d => carryOut none steps d
    | .error e => (.error e, d)

end Disk

/-! ## Calls with an outage -/

namespace FileStore

/-- the steps that put a record into its place -/
def writeSteps (f : FileStore) (s : Subscription) : List FileStep :=
  [.create (f.temporaryPath s.id), .fill (f.temporaryPath s.id) (RecordFile.encode s.toRecord),
    .sync (f.temporaryPath s.id), .rename (f.temporaryPath s.id) (f.recordPath s.id)]

/-- take steps on the disk of a store -/
def stepsDuring (o : Option Outage) (f : FileStore) (steps : List FileStep) : Except BrokerError Unit × FileStore :=
  (onDisk (f.disk.carryOut o steps).1, { f with disk := (f.disk.carryOut o steps).2 })

def writeRecordDuring (o : Option Outage) (f : FileStore) (s : Subscription) : Except BrokerError Unit × FileStore :=
  if !isValidId s.id then (.error (.invalidSubscriptionId s.id), f)
  else f.stepsDuring o (f.writeSteps s)

def putDuring (o : Option Outage) (f : FileStore) (s : Subscription) : Except BrokerError Unit × FileStore :=
  match f.writeRecordDuring o s with
  | (.ok (), f) => (.ok (), { f with cache := f.cache.put s.id s })
  | (.error e, f) => (.error e, f)

def renewDuring (o : Option Outage) (f : FileStore) (id : String) (t : Timestamp) :
    Except BrokerError Subscription × FileStore :=
  match f.load id with
  | (.ok (some s), f) =>
    match f.writeRecordDuring o (s.renewed t) with
    | (.ok (), f) => (.ok (s.renewed t), { f with cache := f.cache.put id (s.renewed t) })
    | (.error e, f) => (.error e, f)
  | (_, f) => (.error (.unknownSubscription id), f)

def deleteDuring (o : Option Outage) (f : FileStore) (id : String) : Except BrokerError Subscription × FileStore :=
  match f.load id with
  | (.ok none, f) => (.error (.unknownSubscription id), f)
  | (.error (.invalidSubscriptionId _), f) => (.error (.unknownSubscription id), f)
  | (.error e, f) =>
    match f.stepsDuring o [.remove (f.recordPath id)] with
    | (.ok (), f) => (.error e, f)
    | (.error e, f) => (.error e, f)
  | (.ok (some s), f) =>
    -- the subscription is no longer at hand even if its file cannot be removed
    let f := { f with cache := f.cache.remove id }
    match f.stepsDuring o [.remove (f.recordPath id)] with
    | (.ok (), f) => (.ok s, f)
    | (.error e, f) => (.error e, f)

end FileStore

namespace StoreCall

/-- a call on a store of record files, with an outage or without -/
def serveDuring (o : Option Outage) (f : FileStore) : StoreCall → StoreAnswer × FileStore
  | .put s =>
    let r := f.putDuring o s
    (.stored r.1, r.2)
  | .get id => (StoreCall.get id).serve f
  | .all => StoreCall.all.serve f
  | .delete id =>
    let r := f.deleteDuring o id
    (.taken (r.1.map Subscription.toRecord), r.2)
  | .renew id t =>
    let r := f.renewDuring o id t
    (.renewed (r.1.map Subscription.toRecord), r.2)

end StoreCall

/-! ## Writing step by step -/

theorem Table.put_put {κ α : Type} [DecidableEq κ] (k : κ) (v w : α) (es : List (κ × α)) :
    Table.put k w (Table.put k v es) = Table.put k w es := by
  induction es with
  | nil => simp [Table.put]
  | cons e es ih =>
    by_cases he : e.1 = k
    · simp [Table.put, he]
    · simp [Table.put, he, ih]

/-- of two entries of one key the last one stays -/
theorem Table.insert_insert {κ α : Type} [DecidableEq κ] (t : Table κ α) (k : κ) (v w : α) :
    (t.insert k v).insert k w = t.insert k w := by
  unfold Table.insert
  rw [Table.mk.injEq]
  exact Table.put_put k v w t.entries

namespace Disk

variable {d d₁ d₂ : Disk} {dir : Path} {n : String}

/-- writing a file anew is as if it had not been written before -/
theorem write_write (h : d.find dir = .ok .directory) (hn : isName n = true) {a : List UInt8}
    (hwrite : d.write (dir ++ [n]) a = .ok d₁) (b : List UInt8) :
    ∃ d₂, d₁.write (dir ++ [n]) b = .ok d₂ ∧ d.write (dir ++ [n]) b = .ok d₂ := by
  have hagain {number : Nat} {m : Nat} (hd : d₁ = { d with
      nodes := d.nodes.insert (dir ++ [n]) (.file number a), nextNumber := m }) :
      d₁.write (dir ++ [n]) b =
        .ok { d with nodes := d.nodes.insert (dir ++ [n]) (.file number b), nextNumber := m } := by
    have hsets : Sets d d₁ dir n (some (.file number a)) := hd ▸ sets_insert _ _
    unfold write
    rw [place_child (hsets.find_eq.trans h) hn, hsets.node?_self, hd]
    simp only [Table.insert_insert]
  unfold write at hwrite ⊢
  split at hwrite
  · cases hwrite
  · rename_i number _
    exact ⟨_, hagain (Except.ok.inj hwrite).symm, rfl⟩
  · exact ⟨_, hagain (Except.ok.inj hwrite).symm, rfl⟩

/-- an outage at one of the steps is an error -/
theorem carryOut_outage {o : Outage} {steps : List FileStep} (ho : o.step < steps.length) (d : Disk) :
    ∃ e, (d.carryOut (some o) steps).1 = .error e := by
  induction steps generalizing o d with
  | nil => cases ho
  | cons step steps ih =>
    obtain ⟨n, k⟩ := o
    cases n with
    | zero => exact ⟨_, rfl⟩
    | succ n =>
      rw [carryOut]
      split
      · exact ih (Nat.lt_of_succ_lt_succ ho) _
      · exact ⟨_, rfl⟩

/-- only what is there is removed -/
theorem removeFile_finds (h : d.find dir = .ok .directory) (hd : d.removeFile (dir ++ [n]) = .ok d₁) :
    d.node? (dir ++ [n]) ≠ none := by
  intro hnone
  unfold removeFile at hd
  rw [find_child h, hnone] at hd
  cases hn : isName n <;> simp [hn] at hd

end Disk

namespace FileStore

variable {f : FileStore} {v : Records}

/-- nothing has happened, but that the file of a temporary name may have been made or have other bytes -/
def Littered (d d' : Disk) (dir : Path) (id : String) : Prop :=
  d' = d ∨ Disk.isName (temporaryName id) = true ∧
    ∃ number bytes, Disk.Sets d d' dir (temporaryName id) (some (.file number bytes))

/-- a writing that is not cut short does what writing a record does; else the record's own file has not been touched -/
theorem writeSteps_spec (h : Shelf f.disk f.directory v) {s : Subscription} (hid : isValidId s.id = true)
    (o : Option Outage) :
    (∃ e d, f.disk.carryOut o (f.writeSteps s) = (.error e, d) ∧ Littered f.disk d f.directory s.id ∧
      (o = none → f.writeRecord s = (.error foreignFault, { f with disk := d }))) ∨
    ∃ d, f.disk.carryOut o (f.writeSteps s) = (.ok (), d) ∧ f.writeRecord s = (.ok (), { f with disk := d }) := by
  by_cases hname : Disk.isName (temporaryName s.id) = true
  · have hwritten (bytes : List UInt8) : ∃ number d, f.disk.write (f.temporaryPath s.id) bytes = .ok d ∧
        Disk.Sets f.disk d f.directory (temporaryName s.id) (some (.file number bytes)) :=
      Disk.write_child h.directory hname (h.temporary_clear s.id) bytes
    obtain ⟨number, d₁, hcreate, hmade⟩ := hwritten []
    have hfilled (bytes : List UInt8) : ∃ number d, d₁.write (f.temporaryPath s.id) bytes = .ok d ∧
        f.disk.write (f.temporaryPath s.id) bytes = .ok d ∧
        Disk.Sets f.disk d f.directory (temporaryName s.id) (some (.file number bytes)) := by
      obtain ⟨d, hagain, honce⟩ := Disk.write_write h.directory hname hcreate bytes
      obtain ⟨number, d', hwrite, hsets⟩ := hwritten bytes
      cases honce.symm.trans hwrite
      exact ⟨number, d, hagain, honce, hsets⟩
    obtain ⟨number₂, d₂, hfill, hwrite, hsets⟩ := hfilled (RecordFile.encode s.toRecord)
    have h₂ : Shelf d₂ f.directory v :=
      h.sets_other hsets (fun _ => temporaryName_ne_recordName) (fun _ => hname) (by simp)
    obtain ⟨-, d₃, hrename, -, -⟩ := Disk.rename_child h₂.directory hname (isName_recordName hname) hsets.node?_self
      (h₂.record_clear hid)
    have hrename : d₂.rename (f.temporaryPath s.id) (f.recordPath s.id) = .ok d₃ := hrename
    have hall : f.writeRecord s = (.ok (), { f with disk := d₃ }) := by
      unfold writeRecord
      rw [hid]
      simp only [Bool.not_true, Bool.false_eq_true, if_false, hwrite, hrename]
    match o with
    | none => exact Or.inr ⟨d₃, by simp [writeSteps, Disk.carryOut, Disk.take, hcreate, hfill, hrename], hall⟩
    | some ⟨0, k⟩ => exact Or.inl ⟨_, f.disk, rfl, Or.inl rfl, nofun⟩
    | some ⟨1, k⟩ =>
      obtain ⟨number', d', hpart, -, hsets'⟩ := hfilled ((RecordFile.encode s.toRecord).take k)
      refine Or.inl ⟨.unusable, d', ?_, Or.inr ⟨hname, _, _, hsets'⟩, nofun⟩
      simp [writeSteps, Disk.carryOut, Disk.take, Disk.breakOff, hcreate, hpart, Except.toOption]
    | some ⟨2, k⟩ =>
      refine Or.inl ⟨.unusable, d₂, ?_, Or.inr ⟨hname, _, _, hsets⟩, nofun⟩
      simp [writeSteps, Disk.carryOut, Disk.take, Disk.breakOff, hcreate, hfill]
    | some ⟨3, k⟩ =>
      refine Or.inl ⟨.unusable, d₂, ?_, Or.inr ⟨hname, _, _, hsets⟩, nofun⟩
      simp [writeSteps, Disk.carryOut, Disk.take, Disk.breakOff, hcreate, hfill]
    | some ⟨n + 4, k⟩ =>
      exact Or.inr ⟨d₃, by simp [writeSteps, Disk.carryOut, Disk.take, hcreate, hfill, hrename], hall⟩
  · -- there is no such file, and so not even the first step is done
    rw [Bool.not_eq_true] at hname
    have hcreate (bytes : List UInt8) : f.disk.write (f.temporaryPath s.id) bytes = .error .unusable := by
      unfold Disk.write temporaryPath
      rw [Disk.place_bad_name h.directory hname]
    refine Or.inl ⟨.unusable, f.disk, ?_, Or.inl rfl, fun _ => writeRecord_too_long h hid hname⟩
    match o with
    | none => simp [writeSteps, Disk.carryOut, Disk.take, hcreate]
    | some ⟨0, k⟩ => rfl
    | some ⟨n + 1, k⟩ => simp [writeSteps, Disk.carryOut, Disk.take, hcreate]

/-- without an outage the steps of a writing write the record -/
theorem writeRecordDuring_none (h : Shelf f.disk f.directory v) (s : Subscription) :
    f.writeRecordDuring none s = f.writeRecord s := by
  unfold writeRecordDuring
  by_cases hid : isValidId s.id = true
  · simp only [hid, Bool.not_true, Bool.false_eq_true, if_false, stepsDuring]
    rcases writeSteps_spec h hid none with ⟨e, d, hsteps, -, hwrite⟩ | ⟨d, hsteps, hwrite⟩
    · rw [hsteps, hwrite rfl]
      rfl
    · rw [hsteps, hwrite]
      rfl
  · rw [Bool.not_eq_true] at hid
    simp [writeRecord, hid]

/-- a record is written, or there is an error and no record has changed -/
theorem writeRecordDuring_cases (h : Shelf f.disk f.directory v) (s : Subscription) (o : Option Outage) :
    (∃ e d, f.writeRecordDuring o s = (.error e, { f with disk := d }) ∧ Littered f.disk d f.directory s.id) ∨
      f.writeRecordDuring o s = f.writeRecord s ∧ (f.writeRecord s).1 = .ok () := by
  unfold writeRecordDuring
  by_cases hid : isValidId s.id = true
  · simp only [hid, Bool.not_true, Bool.false_eq_true, if_false, stepsDuring]
    rcases writeSteps_spec h hid o with ⟨e, d, hsteps, hlittered, -⟩ | ⟨d, hsteps, hwrite⟩
    · rw [hsteps]
      exact Or.inl ⟨_, d, rfl, hlittered⟩
    · rw [hsteps, hwrite]
      exact Or.inr ⟨rfl, rfl⟩
  · rw [Bool.not_eq_true] at hid
    exact Or.inl ⟨.invalidSubscriptionId s.id, f.disk, by simp [hid], Or.inl rfl⟩

/-- the file of a record is removed, or there is an error and nothing has changed -/
theorem removeDuring_cases (f : FileStore) (id : String) (o : Option Outage) :
    (∃ e, f.stepsDuring o [.remove (f.recordPath id)] = (.error e, f) ∧ (o = none → f.removeRecord id = .error e)) ∨
      ∃ f', f.stepsDuring o [.remove (f.recordPath id)] = (.ok (), f') ∧ f.removeRecord id = .ok f' := by
  unfold stepsDuring removeRecord
  rcases o with _ | ⟨_ | n, k⟩
  · cases hd : f.disk.removeFile (f.recordPath id) with
    | error e => exact Or.inl ⟨foreignFault, by simp [Disk.carryOut, Disk.take, hd, onDisk], fun _ => rfl⟩
    | ok d => exact Or.inr ⟨{ f with disk := d }, by simp [Disk.carryOut, Disk.take, hd, onDisk], rfl⟩
  · exact Or.inl ⟨foreignFault, rfl, fun ho => by cases ho⟩
  · cases hd : f.disk.removeFile (f.recordPath id) with
    | error e => exact Or.inl ⟨foreignFault, by simp [Disk.carryOut, Disk.take, hd, onDisk], fun ho => by cases ho⟩
    | ok d => exact Or.inr ⟨{ f with disk := d }, by simp [Disk.carryOut, Disk.take, hd, onDisk], rfl⟩

/-! ## Calls without an outage -/

theorem putDuring_none (h : Shelf f.disk f.directory v) (s : Subscription) : f.putDuring none s = f.put s := by
  unfold putDuring put
  rcases hwrite : f.writeRecord s with ⟨_ | _, f'⟩
  · simp only [writeRecordDuring_none h, hwrite]
  · simp only [writeRecordDuring_none h, hwrite]

theorem renewDuring_none (h : f.InOrder v) (id : String) (t : Timestamp) : f.renewDuring none id t = f.renew id t := by
  unfold renewDuring renew
  rcases h.load_spec id with ⟨s, f', hload, -, hf', -⟩ | ⟨hload | ⟨e, hload⟩, -⟩
  · rcases hwrite : f'.writeRecord (s.renewed t) with ⟨_ | _, f''⟩
    · simp only [hload, writeRecordDuring_none hf'.shelf, hwrite]
    · simp only [hload, writeRecordDuring_none hf'.shelf, hwrite]
  · simp only [hload]
  · simp only [hload]

theorem deleteDuring_none (f : FileStore) (id : String) : f.deleteDuring none id = f.delete id := by
  unfold deleteDuring delete
  rcases f.load id with ⟨e | _ | s, f'⟩
  · cases e with
    | invalidSubscriptionId i => rfl
    | _ =>
      rcases removeDuring_cases f' id none with ⟨e, hsteps, hremove⟩ | ⟨f'', hsteps, hremove⟩
      · simp only [hsteps, hremove rfl]
      · simp only [hsteps, hremove]
  · rfl
  · rcases removeDuring_cases { f' with cache := f'.cache.remove id } id none with
      ⟨e, hsteps, hremove⟩ | ⟨f'', hsteps, hremove⟩
    · simp only [hsteps, hremove rfl]
    · simp only [hsteps, hremove]

/-- without an outage a call is the call itself -/
theorem serveDuring_none (h : f.InOrder v) (c : StoreCall) : c.serveDuring none f = c.serve f := by
  cases c with
  | put s => simp only [StoreCall.serveDuring, putDuring_none h.shelf]; rfl
  | get id => rfl
  | all => rfl
  | delete id => simp only [StoreCall.serveDuring, deleteDuring_none]; rfl
  | renew id t => simp only [StoreCall.serveDuring, renewDuring_none h]; rfl

/-! ## Calls with an outage -/

/-- an id that is no longer at hand is looked up in the files -/
theorem InOrder.forget (h : f.InOrder v) (id : String) : InOrder { f with cache := f.cache.remove id } v :=
  ⟨h.shelf, h.lockFile, fun k s hs => h.cache k s (Cache.find?_remove hs).2⟩

/-- where no file is in the way, an id without a record is not taken out, and nothing is done -/
theorem InOrder.deleteDuring_missing (h : f.InOrder v) (htidy : f.Tidy v) {id : String} (hv : v id = none)
    (o : Option Outage) : ∃ e, f.deleteDuring o id = (.error e, f) := by
  have hkept : ∃ e, f.stepsDuring o [.remove (f.recordPath id)] = (.error e, f) := by
    rcases removeDuring_cases f id o with ⟨e, hsteps, -⟩ | ⟨f', -, hremove⟩
    · exact ⟨e, hsteps⟩
    · obtain ⟨d, hd, -⟩ := removeRecord_eq_ok hremove
      exact absurd hv (htidy id (Disk.removeFile_finds h.shelf.directory hd))
  obtain ⟨e, hkept⟩ := hkept
  unfold deleteDuring
  rw [h.load_missing hv]
  rcases readRecord_spec h.shelf id with ⟨r, -, hr⟩ | ⟨hread | ⟨e', hread⟩, -⟩
  · cases hv.symm.trans hr
  · exact ⟨_, by rw [hread]⟩
  · rw [hread]
    cases e' with
    | invalidSubscriptionId i => exact ⟨_, rfl⟩
    | _ => exact ⟨e, by simp only [hkept]⟩

namespace Mirrors

variable {m : MemoryStore}

theorem littered (h : f.Mirrors m v) {d : Disk} {id : String} (hd : Littered f.disk d f.directory id) :
    Mirrors { f with disk := d } m v := by
  rcases hd with rfl | ⟨hname, number, bytes, hsets⟩
  · exact h
  · have hshelf : Shelf d f.directory v :=
      h.files.shelf.sets_other hsets (fun _ => temporaryName_ne_recordName) (fun _ => hname) (by simp)
    obtain ⟨old, hlock⟩ := h.files.lockFile
    refine ⟨⟨hshelf, ⟨old, (hsets.node?_of_ne temporaryName_ne_lockName.symm).trans hlock⟩, h.files.cache⟩, h.memory,
      ?_⟩
    intro k hk
    have hother : recordName k ≠ temporaryName id := temporaryName_ne_recordName.symm
    exact h.tidy k (hsets.node?_of_ne hother ▸ hk)

theorem putDuring (h : f.Mirrors m v) {s : Subscription} (hs : Storable s.toRecord) (o : Option Outage) :
    ((∃ e, (f.putDuring o s).1 = .error e) ∧ Mirrors (f.putDuring o s).2 m v) ∨
      ((f.putDuring o s).1 = .ok () ∧ ∃ m', Mirrors (f.putDuring o s).2 m' (update v s.id (some s.toRecord))) := by
  rcases writeRecordDuring_cases h.files.shelf s o with ⟨e, d, hwrite, hd⟩ | ⟨hwrite, hok⟩
  · have hput : f.putDuring o s = (.error e, { f with disk := d }) := by
      unfold FileStore.putDuring
      rw [hwrite]
    rw [hput]
    exact Or.inl ⟨⟨e, rfl⟩, h.littered hd⟩
  · have hput : f.putDuring o s = f.put s := by
      rw [← putDuring_none h.files.shelf]
      unfold FileStore.putDuring
      rw [hwrite, writeRecordDuring_none h.files.shelf]
    rcases writeRecord_cases h.files.shelf s with ⟨e, hrefused, -⟩ | ⟨hid, hname, number, -, d, haccepted, -⟩
    · rw [hrefused] at hok
      cases hok
    · have hstored : (f.put s).1 = .ok () := by
        unfold FileStore.put
        rw [haccepted]
      rw [hput]
      exact Or.inr ⟨hstored, _, (h.put ⟨hid, hname, hs⟩).2⟩

theorem renewDuring (h : f.Mirrors m v) (id : String) (t : Timestamp) (o : Option Outage) :
    ((∃ e, (f.renewDuring o id t).1 = .error e) ∧ Mirrors (f.renewDuring o id t).2 m v) ∨
      ((∃ s, (f.renewDuring o id t).1 = .ok s) ∧
        ∃ m', Mirrors (f.renewDuring o id t).2 m' (update v id ((v id).map (SubscriptionRecord.renewed · t)))) := by
  rcases h.files.load_spec id with ⟨s, f', hload, hs, hf', heq⟩ | ⟨hload, hnone⟩
  · rcases writeRecordDuring_cases hf'.shelf (s.renewed t) o with ⟨e, d, hwrite, hd⟩ | ⟨hwrite, hok⟩
    · have hrenew : f.renewDuring o id t = (.error e, { f' with disk := d }) := by
        unfold FileStore.renewDuring
        rw [hload]
        simp only [hwrite]
      rw [hrenew]
      exact Or.inl ⟨⟨e, rfl⟩, Mirrors.littered ⟨hf', h.memory, h.tidy.of_cache heq⟩ hd⟩
    · have hrenew : f.renewDuring o id t = f.renew id t := by
        rw [← renewDuring_none h.files]
        unfold FileStore.renewDuring
        rw [hload]
        simp only [hwrite, writeRecordDuring_none hf'.shelf]
      obtain ⟨⟨s', hs', -⟩, -⟩ := h.files.renew_known hs t
      rw [hrenew]
      exact Or.inr ⟨⟨s', hs'⟩, _, (h.renew id t).2⟩
  · have hrenew : f.renewDuring o id t = (.error (.unknownSubscription id), f) := by
      unfold FileStore.renewDuring
      rcases hload with hload | ⟨e, hload⟩ <;> rw [hload]
    rw [hrenew]
    exact Or.inl ⟨⟨_, rfl⟩, h⟩

theorem deleteDuring (h : f.Mirrors m v) (id : String) (o : Option Outage) :
    ((∃ e, (f.deleteDuring o id).1 = .error e) ∧ Mirrors (f.deleteDuring o id).2 m v) ∨
      ((∃ s, (f.deleteDuring o id).1 = .ok s) ∧ ∃ m', Mirrors (f.deleteDuring o id).2 m' (update v id none)) := by
  rcases h.files.load_spec id with ⟨s, f', hload, hs, hf', heq⟩ | ⟨-, hnone⟩
  · let g : FileStore := { f' with cache := f'.cache.remove id }
    have hg : g.Mirrors m v := ⟨hf'.forget id, h.memory, (h.tidy.of_cache heq).of_cache rfl⟩
    rcases removeDuring_cases g id o with ⟨e, hsteps, -⟩ | ⟨f'', hsteps, hremove⟩
    · have hdelete : f.deleteDuring o id = (.error e, g) := by
        unfold FileStore.deleteDuring
        rw [hload]
        simp only [show g.stepsDuring o [.remove (g.recordPath id)] = (.error e, g) from hsteps, g]
      rw [hdelete]
      exact Or.inl ⟨⟨e, rfl⟩, hg⟩
    · have hdelete : f.deleteDuring o id = (.ok s, f'') := by
        unfold FileStore.deleteDuring
        rw [hload]
        simp only [hsteps, g]
      have hwhole : f.delete id = (.ok s, f'') := by
        unfold FileStore.delete
        rw [hload]
        simp only [hremove, g]
      have hname : (StoreCall.delete id).Fits := fun _ => (h.files.shelf.recordAt_eq_some hs).2.1
      have hnext := (h.delete hname).2
      rw [StoreCall.serve_delete hwhole] at hnext
      rw [hdelete]
      exact Or.inr ⟨⟨s, rfl⟩, _, hnext⟩
  · obtain ⟨e, hdelete⟩ := h.files.deleteDuring_missing h.tidy hnone o
    rw [hdelete]
    exact Or.inl ⟨⟨e, rfl⟩, h⟩

/-- **Step.** A call with an outage fails and leaves the records as they were, or has its effect. -/
theorem serveDuring (h : f.Mirrors m v) {c : StoreCall} (hc : c.Kept) (o : Option Outage) :
    ((c.serveDuring o f).1.failed = true ∧ Mirrors (c.serveDuring o f).2 m v) ∨
      ((c.serveDuring o f).1.failed = false ∧ ∃ m', Mirrors (c.serveDuring o f).2 m' (c.effect v)) := by
  cases c with
  | put s =>
    rcases h.putDuring hc o with ⟨⟨e, he⟩, hsame⟩ | ⟨hok, hdone⟩
    · exact Or.inl ⟨by simp [StoreCall.serveDuring, he, StoreAnswer.failed], hsame⟩
    · exact Or.inr ⟨by simp [StoreCall.serveDuring, hok, StoreAnswer.failed], hdone⟩
  | get id => exact Or.inr ⟨rfl, _, (h.get id).2⟩
  | all => exact Or.inr ⟨rfl, _, h.all.2⟩
  | delete id =>
    rcases h.deleteDuring id o with ⟨⟨e, he⟩, hsame⟩ | ⟨⟨s, hs⟩, hdone⟩
    · exact Or.inl ⟨by simp [StoreCall.serveDuring, he, Except.map, StoreAnswer.failed], hsame⟩
    · exact Or.inr ⟨by simp [StoreCall.serveDuring, hs, Except.map, StoreAnswer.failed], hdone⟩
  | renew id t =>
    rcases h.renewDuring id t o with ⟨⟨e, he⟩, hsame⟩ | ⟨⟨s, hs⟩, hdone⟩
    · exact Or.inl ⟨by simp [StoreCall.serveDuring, he, Except.map, StoreAnswer.failed], hsame⟩
    · exact Or.inr ⟨by simp [StoreCall.serveDuring, hs, Except.map, StoreAnswer.failed], hdone⟩

end Mirrors

/-! ## Directories that only a store has written to -/

/-- the record that is told of every id -/
def told (f : FileStore) : Records := fun id => (f.get id).1.map Subscription.toRecord

theorem InOrder.told_eq (h : f.InOrder v) : f.told = v := by
  funext id
  exact (h.get_spec id).1

/-- the stores in a directory that was empty at first and that nobody else has written to. A process that dies in the
middle of a call is an outage that nobody hears of, and then the directory is opened again. -/
inductive Worked : FileStore → Prop where
  | opened {d : Disk} {dir : Path} {cacheSize : Nat} {f : FileStore} (h : Bare d dir)
    (hf : (openAt d dir cacheSize).1 = .ok f) : Worked f
  | called {f : FileStore} {c : StoreCall} (h : Worked f) (hc : c.Kept) (o : Option Outage) :
    Worked (c.serveDuring o f).2
  | reopened {f f' : FileStore} {cacheSize : Nat} (h : Worked f)
    (hf : (openAt f.close f.directory cacheSize).1 = .ok f') : Worked f'

/-- **Run.** Such a store has the records of some store in memory, and its directory is in good order. -/
theorem Worked.mirrors (h : Worked f) : ∃ m v, f.Mirrors m v := by
  induction h with
  | opened hbare hf =>
    obtain ⟨f', hopen, hmirrors⟩ := Mirrors.of_bare hbare _
    cases hopen.symm.trans hf
    exact ⟨_, _, hmirrors⟩
  | called _ hc o ih =>
    obtain ⟨m, v, hmirrors⟩ := ih
    rcases hmirrors.serveDuring hc o with ⟨-, hsame⟩ | ⟨-, m', hdone⟩
    · exact ⟨m, v, hsame⟩
    · exact ⟨m', _, hdone⟩
  | reopened _ hf ih =>
    obtain ⟨m, v, hmirrors⟩ := ih
    obtain ⟨f', hopen, hagain⟩ := hmirrors.reopen _
    cases hopen.symm.trans hf
    exact ⟨m, v, hagain⟩

/-- opened again, a store has the same records and no temporary file -/
theorem Mirrors.reopen_clears {m : MemoryStore} (h : f.Mirrors m v) (cacheSize : Nat) :
    ∃ f', (openAt f.close f.directory cacheSize).1 = .ok f' ∧ f'.told = v ∧
      ∀ n, (splitExtension n).2 = some temporaryExtension → f'.disk.node? (f.directory ++ [n]) = none := by
  obtain ⟨f', hopen, hagain⟩ := h.reopen cacheSize
  obtain ⟨bytes, hlock⟩ := h.files.lockFile
  have hclosed : Shelf f.close f.directory v := h.files.shelf.congr fun _ => rfl
  refine ⟨f', hopen, hagain.files.told_eq, fun n htmp => ?_⟩
  exact openAt_clears hclosed.directory hlock hopen htmp

/-- **Atomic changes.** Let a call on a store of record files be hit by an outage at any of its steps. If the process
goes on and the call answers an error, all later answers, with the directory opened again in between or not, are as if
the call had not been made. If the process is gone, the directory can be opened again; then all records are what they
were, or else what the call was to make of them, and no temporary file is left. -/
theorem changes_atomic (h : Worked f) {c : StoreCall} (hc : c.Kept) :
    c.serveDuring none f = c.serve f ∧
    (∀ o, (c.serveDuring o f).1.failed = true → ∀ vs, (∀ c', .call c' ∈ vs → c'.Fits) →
      (c.serveDuring o f).2.session vs = f.session vs) ∧
    ∀ o cacheSize, ∃ f', (openAt (c.serveDuring o f).2.close (c.serveDuring o f).2.directory cacheSize).1 = .ok f' ∧
      f'.told = (if (c.serveDuring o f).1.failed then f.told else c.effect f.told) ∧
      ∀ n, (splitExtension n).2 = some temporaryExtension →
        f'.disk.node? ((c.serveDuring o f).2.directory ++ [n]) = none := by
  obtain ⟨m, v, hmirrors⟩ := h.mirrors
  refine ⟨serveDuring_none hmirrors.files c, fun o hfailed vs hvs => ?_, fun o cacheSize => ?_⟩
  · rcases hmirrors.serveDuring hc o with ⟨-, hsame⟩ | ⟨hdone, -⟩
    · rw [hsame.session hvs, hmirrors.session hvs]
    · rw [hdone] at hfailed
      cases hfailed
  · rcases hmirrors.serveDuring hc o with ⟨hfailed, hsame⟩ | ⟨hdone, m', hnew⟩
    · rw [hfailed, hmirrors.files.told_eq]
      exact hsame.reopen_clears cacheSize
    · rw [hdone, hmirrors.files.told_eq]
      exact hnew.reopen_clears cacheSize

/-- A record with parameters nested too deep takes the place of another one, and the call does not fail. When the
directory is opened again, the record is neither the old one nor the new one. -/
theorem deep_neither_old_nor_new :
    ∃ f : FileStore, f.Worked ∧ f.told deep.id = some plain.toRecord ∧
      ((StoreCall.put deep).serveDuring none f).1.failed = false ∧
      ∃ f', (openAt ((StoreCall.put deep).serveDuring none f).2.close
        ((StoreCall.put deep).serveDuring none f).2.directory 4).1 = .ok f' ∧ f'.told deep.id = none := by
  obtain ⟨f₀, hopen, hmirrors⟩ := Mirrors.of_bare bareDisk_bare 4
  have hid : isValidId "s" = true := by decide
  have hname : Disk.isName (temporaryName "s") = true := isName_iff.2 (by decide)
  -- the record that is there before
  obtain ⟨f, hf, hserved⟩ : ∃ f, f.InOrder (update (fun _ => none) "s" (some plain.toRecord)) ∧
      ((StoreCall.put plain).serveDuring none f₀).2 = f := by
    rw [serveDuring_none hmirrors.files]
    rcases hmirrors.files.put_spec plain_storable with ⟨-, hdone⟩ | ⟨⟨e, he⟩, -⟩
    · exact ⟨_, hdone, rfl⟩
    · obtain ⟨_, _, _, hwrite, -⟩ := writeRecord_accepted hmirrors.files.shelf (s := plain) hid hname
      rw [put_of_writeRecord hwrite] at he
      cases he
  have hkept : (StoreCall.put plain).Kept := plain_storable
  have hworked : f.Worked := hserved ▸ .called (.opened bareDisk_bare hopen) hkept none
  -- and the one that takes its place
  obtain ⟨hput, f', hreopen, hgone⟩ := hf.put_unreadable (s := deep) hid hname deep_unreadable 4
  have hdeep : (StoreCall.put deep).serveDuring none f = (.stored (f.put deep).1, (f.put deep).2) :=
    serveDuring_none hf _
  refine ⟨f, hworked, ?_, ?_, f', ?_, ?_⟩
  · rw [hf.told_eq]
    exact Function.update_self _ _ _
  · rw [hdeep, hput]
    rfl
  · rw [hdeep]
    exact hreopen
  · show (f'.get deep.id).1.map _ = none
    rw [hgone]
    rfl

/-- an outage before the record is in its place fails the call -/
theorem putDuring_outage {o : Outage} (ho : o.step < 4) (f : FileStore) (s : Subscription) :
    ∃ e, (f.putDuring (some o) s).1 = .error e := by
  have hwrite : ∃ e, (f.writeRecordDuring (some o) s).1 = .error e := by
    unfold writeRecordDuring
    split
    · exact ⟨_, rfl⟩
    · obtain ⟨e, he⟩ := Disk.carryOut_outage (show o.step < (f.writeSteps s).length from ho) f.disk
      exact ⟨foreignFault, by simp only [stepsDuring, he, onDisk]⟩
  obtain ⟨e, he⟩ := hwrite
  unfold putDuring
  rcases hsteps : f.writeRecordDuring (some o) s with ⟨e' | _, f'⟩
  · exact ⟨e', rfl⟩
  · rw [hsteps] at he
    cases he

/-- the third byte of a record is the last that is written, and then nothing is found of it -/
theorem torn_write :
    ∃ f : FileStore, f.Worked ∧ (StoreCall.put plain).Kept ∧
      ((StoreCall.put plain).serveDuring (some ⟨1, 3⟩) f).1.failed = true ∧
      ((StoreCall.put plain).serveDuring (some ⟨1, 3⟩) f).2.session [.call (.get "s"), .reopen 0, .call .all] =
        .ok [.found none, .listed 0] := by
  obtain ⟨f, hopen, hmirrors⟩ := Mirrors.of_bare bareDisk_bare 4
  have hworked : f.Worked := .opened bareDisk_bare hopen
  have hkept : (StoreCall.put plain).Kept := plain_storable
  obtain ⟨e, he⟩ := putDuring_outage (show Outage.step ⟨1, 3⟩ < 4 by decide) f plain
  have hfailed : ((StoreCall.put plain).serveDuring (some ⟨1, 3⟩) f).1.failed = true := by
    simp [StoreCall.serveDuring, he, StoreAnswer.failed]
  have hvs : ∀ c, .call c ∈ [Visit.call (.get "s"), .reopen 0, .call .all] → c.Fits := by
    intro c hc
    simp only [List.mem_cons, List.not_mem_nil, or_false, reduceCtorEq, false_or, Visit.call.injEq] at hc
    rcases hc with rfl | rfl
    · trivial
    · trivial
  refine ⟨f, hworked, hkept, hfailed, ?_⟩
  rw [(changes_atomic hworked hkept).2.1 _ hfailed _ hvs, hmirrors.session hvs]
  rfl

end FileStore

end EventBroker
