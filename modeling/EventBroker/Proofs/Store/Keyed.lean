/-
Records under their ids, in a directory with anything in it.

A record has its id twice: its file is named after it, and it is in the file. A store goes by the name when it looks for
a record, and by the record when it writes one, and never compares the two. So all depends on what is in the directory
when it is opened. Unreadable files, directories and other names do no harm. As long as every record that can be read
has the id that its file is named after, this stays so, whatever is called, and the store is keyed by id.

- `Keyed`: the files and the cache tell these records, each under its own id, and all of them can be written again.
- `Keyed.serve` is the step, `Leads.keyed` the run, `keyed_by_id` the main result.
- `Flat.renew_misfiled`: a renewal of a record in a file that is named after another id.
-/
import EventBroker.Proofs.Store.Refinement
import EventBroker.Proofs.Subscription.Decoded

namespace EventBroker

open Function (update)

/-- the answer tells of a subscription with this id -/
def StoreAnswer.Mentions (id : String) : StoreAnswer → Prop
  | .stored _ => False
  | .found r => ∃ s, r = some s ∧ s.id = id
  | .listed rs => ∃ s ∈ rs, s.id = id
  | .taken r => ∃ s, r = .ok s ∧ s.id = id
  | .renewed r => ∃ s, r = .ok s ∧ s.id = id

/-! ## Writing whatever is in the way -/

namespace Disk

variable {d d' d₁ d₂ : Disk} {dir : Path} {n : String} {p q : Path}

/-- a directory is where it was if nothing above it has changed -/
theorem find_above (h : ∀ p : Path, p.length ≤ dir.length → d'.node? p = d.node? p) : d'.find dir = d.find dir := by
  refine walk_congr fun p hp => h p ?_
  simpa using hp

theorem child_not_above {p : Path} (hp : p.length ≤ dir.length) : p ≠ dir ++ [n] := by
  rintro rfl
  simp only [List.length_append, List.length_cons, List.length_nil] at hp
  omega

theorem write_self {bytes : List UInt8} (hp : p ≠ []) (hd : d.write p bytes = .ok d') :
    ∃ number, d'.node? p = some (.file number bytes) := by
  have hinsert (node : Node) (m : Nat) :
      node? { d with nodes := d.nodes.insert p node, nextNumber := m } p = some node := by
    unfold node?
    rw [if_neg hp, Table.find?_insert, if_pos rfl]
  unfold write at hd
  split at hd
  · cases hd
  · cases hd
    exact ⟨_, hinsert _ _⟩
  · cases hd
    exact ⟨_, hinsert _ _⟩

/-- a file that was given another name is found there -/
theorem rename_self (hq : q ≠ []) (hd : d.rename p q = .ok d') :
    ∃ number bytes other, d.find p = .ok (.file number bytes) ∧ d.place q = .ok other ∧
      d'.node? q = some (.file number bytes) := by
  unfold rename at hd
  split at hd
  · rename_i number bytes other hfind hplace
    cases hd
    refine ⟨number, bytes, other, hfind, hplace, ?_⟩
    unfold node?
    rw [if_neg hq, Table.find?_insert, if_pos rfl]
  · cases hd
  · cases hd
  · cases hd

/-- a file that was written and then given another name has that name, and what was written -/
theorem rename_written (h : d.find dir = .ok .directory) {bytes : List UInt8} {m : String}
    (hwrite : d.write (dir ++ [n]) bytes = .ok d₁) (hrename : d₁.rename (dir ++ [n]) (dir ++ [m]) = .ok d₂) :
    isName m = true ∧ ∃ number, d₂.node? (dir ++ [m]) = some (.file number bytes) := by
  have hdir : d₁.find dir = .ok .directory := by
    rw [← h]
    exact find_above fun p hp => write_node? hwrite (child_not_above hp)
  obtain ⟨number, hnode⟩ := write_self (child_ne_nil dir n) hwrite
  obtain ⟨number', bytes', other, hfind, hplace, hmoved⟩ := rename_self (child_ne_nil dir m) hrename
  have hname : isName m = true := by
    by_contra hm
    rw [place_bad_name hdir (Bool.not_eq_true _ ▸ hm)] at hplace
    cases hplace
  refine ⟨hname, number', ?_⟩
  rw [find_child hdir, hnode] at hfind
  split at hfind
  · cases hfind
    exact hmoved
  · cases hfind

end Disk

namespace FileStore

variable {f f' : FileStore} {v : Records} {d : Disk} {dir : Path} {k : String}

/-- the directory and the records of other ids are as they were -/
theorem Touches.spares (h : f.Touches f' k) (hdir : f.disk.find f.directory = .ok .directory) :
    f'.disk.find f.directory = .ok .directory ∧
      ∀ id, id ≠ k → recordAt f'.disk f.directory id = recordAt f.disk f.directory id := by
  have hfind : f'.disk.find f.directory = .ok .directory := by
    rw [← hdir]
    refine Disk.find_above fun p hp => h.nodes p ?_ ?_
    · exact Disk.child_not_above hp
    · exact Disk.child_not_above hp
  exact ⟨hfind, fun id hid => Shelf.recordAt_congr hdir hfind (h.record_eq hid)⟩

/-- what was written is told, and the records of other ids are as before -/
theorem writeRecord_tells (h : f.Tells v) {s : Subscription} (hs : Storable s.toRecord) :
    (∃ e d, f.writeRecord s = (.error e, { f with disk := d }) ∧ Tells { f with disk := d } v) ∨
      ∃ d, f.writeRecord s = (.ok (), { f with disk := d }) ∧ d.find f.directory = .ok .directory ∧
        ∀ id, recordAt d f.directory id = update v s.id (some s.toRecord) id := by
  have htouched := f.writeRecord_touches s
  unfold writeRecord at htouched ⊢
  split
  · exact Or.inl ⟨_, f.disk, rfl, h⟩
  · rename_i hid
    rw [if_neg hid] at htouched
    split
    · exact Or.inl ⟨_, f.disk, rfl, h⟩
    · rename_i d₁ hwrite
      rw [hwrite] at htouched
      dsimp only at htouched ⊢
      split
      · rename_i hrename
        rw [hrename] at htouched
        obtain ⟨hdir, hothers⟩ := htouched.spares h.directory
        refine Or.inl ⟨_, d₁, rfl, hdir, fun id => ?_, h.cache⟩
        have hnode := Disk.write_node? hwrite (q := f.directory ++ [recordName id])
          (Disk.child_inj.not.2 temporaryName_ne_recordName.symm)
        exact (Shelf.recordAt_congr h.directory hdir hnode).trans (h.records id)
      · rename_i d₂ hrename
        rw [hrename] at htouched
        obtain ⟨hdir, hothers⟩ := htouched.spares h.directory
        refine Or.inr ⟨d₂, rfl, hdir, fun id => ?_⟩
        by_cases hself : id = s.id
        · obtain ⟨hname, number, hnode⟩ := Disk.rename_written h.directory hwrite hrename
          have hvalid : isValidId s.id = true := by simpa using hid
          rw [hself, Function.update_self, Shelf.recordAt_of_node hdir hvalid hname hnode, hs.decode_encode hname]
          rfl
        · rw [Function.update_of_ne hself, ← h.records]
          exact hothers id hself

namespace Tells

/-- with what was written at hand, the store tells it -/
theorem written (h : f.Tells v) {s : Subscription} (hdir : d.find f.directory = .ok .directory)
    (hd : ∀ id, recordAt d f.directory id = update v s.id (some s.toRecord) id) :
    Tells { f with disk := d, cache := f.cache.put s.id s } (update v s.id (some s.toRecord)) := by
  refine ⟨hdir, hd, fun k t ht => ?_⟩
  rcases Cache.find?_put ht with ⟨rfl, rfl⟩ | ⟨hne, ht⟩
  · exact Function.update_self _ _ _
  · rw [Function.update_of_ne hne]
    exact h.cache k t ht

theorem put (h : f.Tells v) {s : Subscription} (hs : Storable s.toRecord) :
    ((∃ e, (f.put s).1 = .error e) ∧ (f.put s).2.Tells v) ∨
      ((f.put s).1 = .ok () ∧ (f.put s).2.Tells (update v s.id (some s.toRecord))) := by
  unfold FileStore.put
  rcases writeRecord_tells h hs with ⟨e, d, hwrite, hsame⟩ | ⟨d, hwrite, hdir, hd⟩
  · rw [hwrite]
    exact Or.inl ⟨⟨e, rfl⟩, hsame⟩
  · rw [hwrite]
    exact Or.inr ⟨rfl, h.written hdir hd⟩

/-- what is renewed is written under the id that it has -/
theorem renew (h : f.Tells v) {id : String} {r : SubscriptionRecord} (hr : v id = some r) (hid : r.id = id)
    (hs : Storable r) (t : Timestamp) :
    ((∃ e, (f.renew id t).1 = .error e) ∧ (f.renew id t).2.Tells v) ∨
      ((∃ s, (f.renew id t).1 = .ok s ∧ s.toRecord = r.renewed t) ∧
        (f.renew id t).2.Tells (update v id (some (r.renewed t)))) := by
  unfold FileStore.renew
  rcases h.load_spec id with ⟨s, f', hload, hv, hf', -⟩ | ⟨-, hnone⟩
  · have hsame : s.toRecord = r := Option.some.inj (hv.symm.trans hr)
    have hrenewed : (s.renewed t).toRecord = r.renewed t := by rw [Subscription.toRecord_renewed, hsame]
    have hkey : s.id = id := by
      rw [← hid, ← hsame]
      rfl
    rw [hload]
    dsimp only
    rcases writeRecord_tells hf' (hrenewed ▸ hs.renewed t) with ⟨e, d, hwrite, hkept⟩ | ⟨d, hwrite, hdir, hd⟩
    · rw [hwrite]
      exact Or.inl ⟨⟨e, rfl⟩, hkept⟩
    · have hdone := hf'.written hdir hd
      rw [hrenewed] at hdone
      rw [hwrite]
      subst hkey
      exact Or.inr ⟨⟨_, rfl, hrenewed⟩, hdone⟩
  · cases hr.symm.trans hnone

theorem renew_unknown (h : f.Tells v) {id : String} (hv : v id = none) (t : Timestamp) :
    (∃ e, (f.renew id t).1 = .error e) ∧ (f.renew id t).2.Tells v := by
  unfold FileStore.renew
  rcases h.load_spec id with ⟨s, f', -, hs, -⟩ | ⟨hload | ⟨e, hload⟩, -⟩
  · cases hv.symm.trans hs
  · rw [hload]
    exact ⟨⟨_, rfl⟩, h⟩
  · rw [hload]
    exact ⟨⟨_, rfl⟩, h⟩

/-- without the file of an id, and without the id at hand, the others are told -/
theorem removed (h : f.Tells v) {id : String} (hs : Disk.Sets f.disk d f.directory (recordName id) none) {c : Cache}
    (hc : ∀ k s, c.find? k = some s → k ≠ id ∧ v k = some s.toRecord) :
    Tells { f with disk := d, cache := c } (update v id none) := by
  have hdir : d.find f.directory = .ok .directory := hs.find_eq.trans h.directory
  refine ⟨hdir, fun k => ?_, fun k s hk => ?_⟩
  · by_cases hself : k = id
    · subst hself
      rw [Function.update_self]
      exact Shelf.recordAt_of_missing hdir hs.node?_self
    · rw [Function.update_of_ne hself, ← h.records]
      exact Shelf.recordAt_congr h.directory hdir (hs.node?_of_ne (recordName_inj.not.2 hself))
  · obtain ⟨hne, hv⟩ := hc k s hk
    rw [Function.update_of_ne hne]
    exact hv

theorem delete (h : f.Tells v) (id : String) :
    ((∃ e, (f.delete id).1 = .error e) ∧ (f.delete id).2.Tells v) ∨
      ((∃ s, (f.delete id).1 = .ok s ∧ v id = some s.toRecord) ∧ (f.delete id).2.Tells (update v id none)) := by
  unfold FileStore.delete
  rcases h.load_spec id with ⟨s, f', hload, hv, hf', -⟩ | ⟨hload | ⟨e, hload⟩, hnone⟩
  · let g : FileStore := { f' with cache := f'.cache.remove id }
    have hg : g.Tells v := ⟨hf'.directory, hf'.records, fun k s hs => hf'.cache k s (Cache.find?_remove hs).2⟩
    rw [hload]
    dsimp only
    cases hremove : g.removeRecord id with
    | error e => exact Or.inl ⟨⟨e, rfl⟩, hg⟩
    | ok f'' =>
      obtain ⟨d, hd, rfl⟩ := removeRecord_eq_ok hremove
      refine Or.inr ⟨⟨s, rfl, hv⟩, hg.removed (Disk.removeFile_sets hd) fun k s hs => ?_⟩
      obtain ⟨hne, hs⟩ := Cache.find?_remove hs
      exact ⟨hne, hf'.cache k s hs⟩
  · rw [hload]
    exact Or.inl ⟨⟨_, rfl⟩, h⟩
  · rw [hload]
    -- a file that cannot be read is removed, and then there is none
    have hremoved : ∀ d, f.disk.removeFile (f.recordPath id) = .ok d → Tells { f with disk := d } v := by
      intro d hd
      have hsame : update v id none = v := by rw [← hnone, Function.update_eq_self]
      rw [← hsame]
      refine h.removed (Disk.removeFile_sets hd) fun k s hs => ⟨?_, h.cache k s hs⟩
      rintro rfl
      cases hnone.symm.trans (h.cache k s hs)
    cases e with
    | invalidSubscriptionId i => exact Or.inl ⟨⟨_, rfl⟩, h⟩
    | _ =>
      dsimp only
      cases hremove : f.removeRecord id with
      | error e => exact Or.inl ⟨⟨_, rfl⟩, h⟩
      | ok f' =>
        obtain ⟨d, hd, rfl⟩ := removeRecord_eq_ok hremove
        exact Or.inl ⟨⟨_, rfl⟩, hremoved d hd⟩

end Tells

/-! ## Records under their ids -/

/-- the files and the cache tell these records, each under its own id, and all of them can be written again -/
structure Keyed (f : FileStore) (v : Records) : Prop where
  tells : f.Tells v
  keyed : ∀ id r, v id = some r → r.id = id
  storable : ∀ id r, v id = some r → Storable r

namespace Keyed

theorem insert (h : f.Keyed v) {id : String} {r : SubscriptionRecord} (hid : r.id = id) (hs : Storable r)
    (hf : f'.Tells (update v id (some r))) : f'.Keyed (update v id (some r)) := by
  refine ⟨hf, fun k s hk => ?_, fun k s hk => ?_⟩
  · rcases update_some_eq_some.1 hk with ⟨rfl, rfl⟩ | ⟨-, hk⟩
    · exact hid
    · exact h.keyed k s hk
  · rcases update_some_eq_some.1 hk with ⟨-, rfl⟩ | ⟨-, hk⟩
    · exact hs
    · exact h.storable k s hk

theorem erase (h : f.Keyed v) {id : String} (hf : f'.Tells (update v id none)) : f'.Keyed (update v id none) :=
  ⟨hf, fun k s hk => h.keyed k s (update_none_eq_some.1 hk).2,
    fun k s hk => h.storable k s (update_none_eq_some.1 hk).2⟩

/-- **Step.** A call keeps all records under their ids; if it fails, the records are as before. -/
theorem serve (h : f.Keyed v) {c : StoreCall} (hc : c.Kept) :
    (c.serve f).2.Keyed (if (c.serve f).1.failed then v else c.effect v) := by
  have hsame {g : FileStore} (hg : g.Tells v) : g.Keyed v := ⟨hg, h.keyed, h.storable⟩
  cases c with
  | put s =>
    show (f.put s).2.Keyed (if (StoreAnswer.stored (f.put s).1).failed then v else update v s.id (some s.toRecord))
    rcases h.tells.put hc with ⟨⟨e, he⟩, hg⟩ | ⟨hok, hg⟩
    · rw [he]
      exact hsame hg
    · rw [hok]
      exact h.insert rfl hc hg
  | get id => exact hsame (h.tells.get_spec id).2
  | all =>
    obtain ⟨ids, -, -, -, hg⟩ := h.tells.all_spec
    exact hsame hg
  | delete id =>
    show (f.delete id).2.Keyed (if (StoreAnswer.taken ((f.delete id).1.map Subscription.toRecord)).failed then v
      else update v id none)
    rcases h.tells.delete id with ⟨⟨e, he⟩, hg⟩ | ⟨⟨s, hs, -⟩, hg⟩
    · rw [he]
      exact hsame hg
    · rw [hs]
      exact h.erase hg
  | renew id t =>
    show (f.renew id t).2.Keyed (if (StoreAnswer.renewed ((f.renew id t).1.map Subscription.toRecord)).failed then v
      else update v id ((v id).map (SubscriptionRecord.renewed · t)))
    cases hv : v id with
    | none =>
      obtain ⟨⟨e, he⟩, hg⟩ := h.tells.renew_unknown hv t
      rw [he]
      exact hsame hg
    | some r =>
      rcases h.tells.renew hv (h.keyed id r hv) (h.storable id r hv) t with ⟨⟨e, he⟩, hg⟩ | ⟨⟨s, hs, -⟩, hg⟩
      · rw [he]
        exact hsame hg
      · rw [hs]
        exact h.insert (h.keyed id r hv) ((h.storable id r hv).renewed t) hg

end Keyed

/-! ## Opening whatever is there -/

theorem removeTemporary_keeps {d' : Disk} {ns : List String} {a : Except BrokerError Unit}
    (h : removeTemporary dir ns d = (a, d')) {p : Path}
    (hp : ∀ n, (splitExtension n).2 = some temporaryExtension → p ≠ dir ++ [n]) : d'.node? p = d.node? p := by
  induction ns generalizing d with
  | nil =>
    cases h
    rfl
  | cons n ns ih =>
    rw [removeTemporary] at h
    split at h
    · rename_i htmp
      split at h
      · rename_i d₁ hremove
        exact (ih h).trans (Disk.removeFile_node? hremove (hp n (by simpa using htmp)))
      · cases h
        rfl
    · exact ih h

/-- seeing to the lock file changes nothing else -/
theorem lockFile_keeps {d' : Disk} {number : Nat} (h : lockFile d dir = .ok (number, d')) {p : Path}
    (hp : p ≠ dir ++ [lockName]) : d'.node? p = d.node? p := by
  unfold lockFile at h
  dsimp only at h
  cases hplace : d.place (dir ++ [lockName]) with
  | error e =>
    rw [hplace] at h
    cases h
  | ok other =>
    rw [hplace] at h
    cases other with
    | some m =>
      cases h
      rfl
    | none =>
      cases hwrite : d.write (dir ++ [lockName]) [] with
      | error e =>
        rw [hwrite] at h
        cases h
      | ok d₁ =>
        rw [hwrite] at h
        cases h
        exact Disk.write_node? hwrite hp

/-- opening a directory reads no record and changes none -/
theorem openAt_tells (hdir : d.find dir = .ok .directory) {cacheSize : Nat} (hf : (openAt d dir cacheSize).1 = .ok f) :
    f.directory = dir ∧ f.Tells fun id => recordAt d dir id := by
  obtain ⟨d₁, d₂, hlock, hnodes, hremove, heq⟩ := openAt_steps hdir hf
  have hkept : ∀ p, p ≠ dir ++ [lockName] → (∀ n, (splitExtension n).2 = some temporaryExtension → p ≠ dir ++ [n]) →
      f.disk.node? p = d.node? p := by
    intro p hp htmp
    rw [removeTemporary_keeps hremove htmp, hnodes, lockFile_keeps hlock hp]
  have hdirectory : f.directory = dir := by rw [heq]
  have hfind : f.disk.find dir = .ok .directory := by
    rw [← hdir]
    refine Disk.find_above fun p hp => hkept p ?_ fun n _ => ?_
    · exact Disk.child_not_above hp
    · exact Disk.child_not_above hp
  refine ⟨hdirectory, ?_, fun id => ?_, fun id s hs => ?_⟩
  · rw [hdirectory]
    exact hfind
  · rw [hdirectory]
    refine Shelf.recordAt_congr hdir hfind (hkept _ ?_ fun n htmp heq => ?_)
    · exact Disk.child_inj.not.2 recordName_ne_lockName
    · cases Disk.child_inj.1 heq
      exact splitExtension_recordName_ne id htmp
  · rw [heq] at hs
    cases hs

/-- a store that is opened again has its records under their ids still -/
theorem Keyed.reopen (h : f.Keyed v) {cacheSize : Nat} (hf : (openAt f.close f.directory cacheSize).1 = .ok f') :
    f'.Keyed v := by
  have hnodes : ∀ p, f.close.node? p = f.disk.node? p := fun _ => rfl
  have hdir : f.close.find f.directory = .ok .directory := (Disk.find_congr hnodes).trans h.tells.directory
  obtain ⟨-, htells⟩ := openAt_tells hdir hf
  have hsame : (fun id => recordAt f.close f.directory id) = v := by
    funext id
    rw [Shelf.recordAt_congr h.tells.directory hdir (hnodes _)]
    exact h.tells.records id
  exact ⟨hsame ▸ htells, h.keyed, h.storable⟩

/-! ## Keyed by id -/

/-- calls of this kind, and opening the directory again in between, lead from one store to another -/
inductive Leads (P : StoreCall → Prop) (f : FileStore) : FileStore → Prop where
  | refl : Leads P f f
  | called {g : FileStore} {c : StoreCall} (h : Leads P f g) (hc : P c) : Leads P f (c.serve g).2
  | reopened {g g' : FileStore} {cacheSize : Nat} (h : Leads P f g)
    (hg : (openAt g.close g.directory cacheSize).1 = .ok g') : Leads P f g'

/-- the call stores no subscription of this id -/
def SparesId (id : String) (c : StoreCall) : Prop := ∀ s, c = .put s → s.id ≠ id

/-- **Run.** All records stay under their ids, whatever is called. -/
theorem Leads.keyed {g : FileStore} (hg : Leads StoreCall.Kept f g) (h : f.Keyed v) : ∃ w, g.Keyed w := by
  induction hg with
  | refl => exact ⟨v, h⟩
  | called _ hc ih =>
    obtain ⟨w, hw⟩ := ih
    exact ⟨_, hw.serve hc⟩
  | reopened _ hopen ih =>
    obtain ⟨w, hw⟩ := ih
    exact ⟨w, hw.reopen hopen⟩

/-- an id without a record has none until one is stored -/
theorem Leads.absent {g : FileStore} {id : String} (hg : Leads (fun c => c.Kept ∧ SparesId id c) f g) (h : f.Keyed v)
    (hv : v id = none) : ∃ w, g.Keyed w ∧ w id = none := by
  induction hg with
  | refl => exact ⟨v, h, hv⟩
  | @called g c _ hc ih =>
    obtain ⟨w, hw, hnone⟩ := ih
    refine ⟨_, hw.serve hc.1, ?_⟩
    split
    · exact hnone
    · cases c with
      | put s =>
        have hne : id ≠ s.id := fun heq => hc.2 s rfl heq.symm
        exact (Function.update_of_ne hne _ _).trans hnone
      | get k => exact hnone
      | all => exact hnone
      | delete k =>
        show update w k none id = none
        rw [Function.update_apply]
        split
        · rfl
        · exact hnone
      | renew k t =>
        show update w k ((w k).map (SubscriptionRecord.renewed · t)) id = none
        rw [Function.update_apply]
        split
        · rename_i heq
          rw [← heq, hnone]
          rfl
        · exact hnone
  | reopened _ hopen ih =>
    obtain ⟨w, hw, hnone⟩ := ih
    exact ⟨w, hw.reopen hopen, hnone⟩

namespace Keyed

theorem mem_all (h : f.Keyed v) {r : SubscriptionRecord} :
    r ∈ f.all.1.map Subscription.toRecord ↔ v r.id = some r := by
  obtain ⟨ids, -, hids, hall, -⟩ := h.tells.all_spec
  rw [hall, List.mem_filterMap]
  constructor
  · rintro ⟨id, -, hid⟩
    rw [h.keyed id r hid]
    exact hid
  · intro hr
    exact ⟨r.id, hids r.id (by simp [hr]), hr⟩

theorem nodup_all (h : f.Keyed v) : (f.all.1.map Subscription.id).Nodup := by
  obtain ⟨ids, hnodup, -, hall, -⟩ := h.tells.all_spec
  have hids : f.all.1.map Subscription.id = (f.all.1.map Subscription.toRecord).map SubscriptionRecord.id := by
    rw [List.map_map]
    rfl
  rw [hids, hall, List.map_filterMap]
  refine List.Nodup.filterMap (fun i j k hi hj => ?_) hnodup
  obtain ⟨r, hr, rfl⟩ := Option.map_eq_some_iff.1 hi
  obtain ⟨r', hr', heq⟩ := Option.map_eq_some_iff.1 hj
  rw [← h.keyed i r hr, ← h.keyed j r' hr', heq]

/-- no answer tells of an id that has no record -/
theorem not_mentions (h : f.Keyed v) {id : String} (hv : v id = none) (c : StoreCall) :
    ¬ (c.serve f).1.Mentions id := by
  have hother {k : String} {r : SubscriptionRecord} (hk : v k = some r) : r.id ≠ id := by
    rintro rfl
    rw [h.keyed k r hk, hk] at hv
    cases hv
  intro hm
  cases c with
  | put s => exact hm
  | get k =>
    obtain ⟨r, hr, hid⟩ := hm
    exact hother ((h.tells.get_spec k).1.symm.trans hr) hid
  | all =>
    obtain ⟨r, hr, hid⟩ := hm
    exact hother (h.mem_all.1 hr) hid
  | delete k =>
    obtain ⟨r, hr, hid⟩ := hm
    have hr : (f.delete k).1.map Subscription.toRecord = .ok r := hr
    rcases h.tells.delete k with ⟨⟨e, he⟩, -⟩ | ⟨⟨s, hs, hk⟩, -⟩
    · rw [he] at hr
      cases hr
    · rw [hs] at hr
      cases hr
      exact hother hk hid
  | renew k t =>
    obtain ⟨r, hr, hid⟩ := hm
    have hr : (f.renew k t).1.map Subscription.toRecord = .ok r := hr
    cases hk : v k with
    | none =>
      obtain ⟨⟨e, he⟩, -⟩ := h.tells.renew_unknown hk t
      rw [he] at hr
      cases hr
    | some old =>
      rcases h.tells.renew hk (h.keyed k old hk) (h.storable k old hk) t with ⟨⟨e, he⟩, -⟩ | ⟨⟨s, hs, hnew⟩, -⟩
      · rw [he] at hr
        cases hr
      · rw [hs] at hr
        cases hr
        rw [hnew] at hid
        exact hother hk hid

/-- what is loaded has the id that was asked for -/
theorem load_id (h : f.Keyed v) {id : String} {s : Subscription} (hs : (f.load id).1 = .ok (some s)) : s.id = id := by
  rcases h.tells.load_spec id with ⟨s', f', hload, hr, -, -⟩ | ⟨hload | ⟨e, hload⟩, -⟩
  · rw [hload] at hs
    cases hs
    exact h.keyed id _ hr
  · rw [hload] at hs
    cases hs
  · rw [hload] at hs
    cases hs

end Keyed

/-- a record that is read from a file fits, whatever the file has in it -/
theorem fits_of_decode {bytes : List UInt8} {r : SubscriptionRecord} (h : RecordFile.decode bytes = .ok r) :
    r.Fits := by
  unfold RecordFile.decode at h
  cases hp : RecordFile.payload bytes with
  | error e =>
    rw [hp] at h
    cases h
  | ok payload =>
    rw [hp] at h
    dsimp only [Bind.bind, Except.bind] at h
    split at h
    · rename_i x hx
      cases h
      obtain ⟨datum, hdatum, hrecord⟩ := Option.bind_eq_some_iff.1 hx
      exact SubscriptionRecord.fits_of_ofDatum? (MessagePack.read_within hdatum) hrecord
    · cases h

/-- a directory is keyed if every record that is found in it has the id that it was looked for under -/
theorem keyed_of_own {cacheSize : Nat} (hdir : d.find dir = .ok .directory) (hopen : (openAt d dir cacheSize).1 = .ok f)
    (hroom : ∀ id s, (f.get id).1 = some s → (MessagePack.write s.options.toDatum).length < 2 ^ 63)
    (hown : ∀ id s, (f.get id).1 = some s → s.id = id) : f.Keyed fun id => recordAt d dir id := by
  obtain ⟨-, htells⟩ := openAt_tells hdir hopen
  have hfound : ∀ id r, recordAt d dir id = some r → ∃ s, (f.get id).1 = some s ∧ s.toRecord = r := by
    intro id r hr
    exact Option.map_eq_some_iff.1 ((htells.get_spec id).1.trans hr)
  refine ⟨htells, fun id r hr => ?_, fun id r hr => ?_⟩
  · obtain ⟨s, hs, rfl⟩ := hfound id r hr
    exact hown id s hs
  · obtain ⟨-, -, -, bytes, -, hdecode⟩ := recordAt_file hdir hr
    have hfits := fits_of_decode hdecode
    obtain ⟨s, hs, rfl⟩ := hfound id r hr
    exact Storable.of_options hfits.options (hroom id s hs) hfits.location s.id

/-- **Keyed by id.** Let a directory with anything in it be opened, and let every record that is found in it have the id
that it was looked for under. Then the store is keyed by id, whatever is called and however often it is opened again:
what is found has the id that was asked for, the list of all has every id at most once and just what is found, taking
out and renewing touch the files of the id and no others, and once a subscription was taken out, no answer tells of
its id until one is stored. Without that condition already the first of this fails. -/
theorem keyed_by_id {cacheSize : Nat} (hdir : d.find dir = .ok .directory) (hopen : (openAt d dir cacheSize).1 = .ok f)
    (hroom : ∀ id s, (f.get id).1 = some s → (MessagePack.write s.options.toDatum).length < 2 ^ 63) :
    (∀ id s, (f.get id).1 = some s → s.id = id) ↔ ∀ g, Leads StoreCall.Kept f g →
      (∀ id s, (g.get id).1 = some s → s.id = id) ∧
      (g.all.1.map Subscription.id).Nodup ∧
      (∀ r, r ∈ g.all.1.map Subscription.toRecord ↔ (g.get r.id).1.map Subscription.toRecord = some r) ∧
      (∀ id, g.Touches (g.delete id).2 id ∧ ∀ t, g.Touches (g.renew id t).2 id) ∧
      ∀ id s, (g.delete id).1 = .ok s → ∀ k, Leads (fun c => c.Kept ∧ SparesId id c) (g.delete id).2 k →
        ∀ c : StoreCall, ¬ (c.serve k).1.Mentions id := by
  refine ⟨fun hown g hg => ?_, fun hall => (hall f .refl).1⟩
  obtain ⟨v, hv⟩ := hg.keyed (keyed_of_own hdir hopen hroom hown)
  refine ⟨fun id s hs => ?_, hv.nodup_all, fun r => ?_, fun id => ⟨g.delete_touches id, fun t => ?_⟩, ?_⟩
  · have hget := (hv.tells.get_spec id).1
    rw [hs] at hget
    exact hv.keyed id _ hget.symm
  · rw [hv.mem_all, (hv.tells.get_spec r.id).1]
  · exact renew_touches (fun s hs => hv.load_id hs) t
  · intro id s hs k hk c
    have hgone : (g.delete id).2.Keyed (update v id none) := by
      rcases hv.tells.delete id with ⟨⟨e, he⟩, -⟩ | ⟨-, hdone⟩
      · rw [hs] at he
        cases he
      · exact hv.erase hdone
    obtain ⟨w, hw, hnone⟩ := hk.absent hgone (Function.update_self id none v)
    exact hw.not_mentions hnone c

/-- the record of a subscription, and beside it a file that cannot be read -/
def strayDisk : Disk :=
  let d := bareDisk.nodes.insert (["d"] ++ [lockName]) (.file 0 [])
  let d := d.insert (["d"] ++ [recordName "s"]) (.file 1 (RecordFile.encode plain.toRecord))
  ⟨d.insert (["d"] ++ [recordName "x"]) (.file 2 [1, 2, 3]), 3, []⟩

theorem strayDisk_shelf : Shelf strayDisk ["d"] (update (fun _ => none) "s" (some plain.toRecord)) := by
  let d₁ : Disk := ⟨bareDisk.nodes.insert (["d"] ++ [lockName]) (.file 0 []), 1, []⟩
  let d₂ : Disk := ⟨d₁.nodes.insert (["d"] ++ [recordName "s"]) (.file 1 (RecordFile.encode plain.toRecord)), 2, []⟩
  have h₁ : Disk.Sets bareDisk d₁ ["d"] lockName (some (.file 0 [])) := Disk.sets_insert _ _
  have h₂ : Disk.Sets d₁ d₂ ["d"] (recordName "s") (some (.file 1 (RecordFile.encode plain.toRecord))) :=
    Disk.sets_insert _ _
  have h₃ : Disk.Sets d₂ strayDisk ["d"] (recordName "x") (some (.file 2 [1, 2, 3])) := Disk.sets_insert _ _
  have hempty : Shelf d₁ ["d"] fun _ => none := by
    refine Shelf.of_bare (h₁.find_eq.trans bareDisk_bare.directory) fun n hn => ?_
    by_contra hne
    rw [h₁.node?_of_ne hne] at hn
    exact hn (bareDisk_bare.empty n)
  have hrecord := hempty.sets_record h₂ (by decide) (isName_iff.2 (by decide)) plain_storable
  have hboth := hrecord.sets_unreadable h₃ (by decide) (isName_iff.2 (by decide)) (show _ = Except.error _ from rfl)
  have hother : (update (fun _ => none) "s" (some plain.toRecord) : Records) "x" = none :=
    Function.update_of_ne (by decide) _ _
  have hnone : update (update (fun _ => none) "s" (some plain.toRecord)) "x" none =
      update (fun _ => none) "s" (some plain.toRecord) := Function.update_eq_self_iff.2 hother.symm
  exact hnone ▸ hboth

/-- once the subscription beside the unreadable file was taken out, its id is gone -/
theorem keyed_beside_unreadable :
    ∃ f, (openAt strayDisk ["d"] 4).1 = .ok f ∧ (∃ s, (f.delete "s").1 = .ok s) ∧
      ∀ k, Leads (fun c => c.Kept ∧ SparesId "s" c) (f.delete "s").2 k →
        ∀ c : StoreCall, ¬ (c.serve k).1.Mentions "s" := by
  have hlock : strayDisk.node? (["d"] ++ [lockName]) = some (.file 0 []) := by
    simp [strayDisk, Disk.node?, Table.find?_insert, recordName_ne_lockName.symm]
  obtain ⟨f, hopen, hdirectory, hf⟩ := openAt_spec strayDisk_shelf hlock (by decide) 4
  have hok : (openAt strayDisk ["d"] 4).1 = .ok f := congrArg Prod.fst hopen
  have hfound : ∀ id s, (f.get id).1 = some s → id = "s" ∧ s.toRecord = plain.toRecord := by
    intro id s hs
    have hget := (hf.tells.get_spec id).1
    rw [hs] at hget
    rcases update_some_eq_some.1 hget.symm with ⟨rfl, hsame⟩ | ⟨-, hnone⟩
    · exact ⟨rfl, hsame.symm⟩
    · cases hnone
  have hroom : ∀ id s, (f.get id).1 = some s → (MessagePack.write s.options.toDatum).length < 2 ^ 63 := by
    intro id s hs
    have hoptions : s.options = plainOptions := congrArg SubscriptionRecord.options (hfound id s hs).2
    rw [hoptions]
    decide
  have hown : ∀ id s, (f.get id).1 = some s → s.id = id := by
    intro id s hs
    obtain ⟨rfl, hsame⟩ := hfound id s hs
    exact congrArg SubscriptionRecord.id hsame
  obtain ⟨-, -, -, -, hgone⟩ := (keyed_by_id strayDisk_shelf.directory hok hroom).1 hown f .refl
  have hkept : update (fun _ => none) "s" (some plain.toRecord) "s" = some plain.toRecord := Function.update_self _ _ _
  obtain ⟨⟨s, hs, -⟩, -⟩ := hf.delete_known hkept
  exact ⟨f, hok, ⟨s, hs⟩, hgone "s" s hs⟩

/-! ## Records under other ids -/

/-- what is at hand for an id, if anything is, is what its file tells; so this is what is loaded -/
theorem load_told {id : String} {r : SubscriptionRecord} (hr : recordAt f.disk f.directory id = some r)
    (hc : ∀ s, f.cache.find? id = some s → s = Subscription.ofRecord r) :
    f.load id = (.ok (some (Subscription.ofRecord r)),
      { f with cache := f.cache.put id (Subscription.ofRecord r) }) := by
  unfold load Cache.use
  cases hfind : f.cache.find? id with
  | some s => rw [hc s hfind]
  | none =>
    dsimp only
    rcases f.readRecord_cases id with ⟨r', hread, hr'⟩ | ⟨-, hnone⟩
    · rw [hr] at hr'
      cases hr'
      rw [hread]
    · cases hr.symm.trans hnone

theorem get_told {id : String} {r : SubscriptionRecord} (hr : recordAt f.disk f.directory id = some r)
    (hc : ∀ s, f.cache.find? id = some s → s = Subscription.ofRecord r) :
    (f.get id).1 = some (Subscription.ofRecord r) := by
  unfold FileStore.get
  rw [load_told hr hc]

/-- a directory that has nothing but files -/
structure Flat (f : FileStore) : Prop where
  directory : f.disk.find f.directory = .ok .directory
  files : ∀ n, f.disk.node? (f.directory ++ [n]) ≠ some .directory

namespace Flat

theorem cached (h : f.Flat) (cache : Cache) : Flat { f with cache } := ⟨h.directory, h.files⟩

theorem sets {d : Disk} {n : String} {node : Option Node} (h : f.Flat) (hs : Disk.Sets f.disk d f.directory n node)
    (hnode : node ≠ some .directory) : Flat { f with disk := d } := by
  refine ⟨hs.find_eq.trans h.directory, fun m => ?_⟩
  show d.node? (f.directory ++ [m]) ≠ _
  by_cases hm : m = n
  · rw [hm, hs.node?_self]
    exact hnode
  · rw [hs.node?_of_ne hm]
    exact h.files m

/-- a record whose files can have their names is written, and the files of other ids tell what they told -/
theorem writeRecord (h : f.Flat) {s : Subscription} (hid : isValidId s.id = true)
    (hname : Disk.isName (temporaryName s.id) = true) :
    ∃ d, f.writeRecord s = (.ok (), { f with disk := d }) ∧ Flat { f with disk := d } ∧
      ∀ id, id ≠ s.id → recordAt d f.directory id = recordAt f.disk f.directory id := by
  obtain ⟨number, d₁, hwrite, hs₁⟩ := Disk.write_child h.directory hname (h.files _) (RecordFile.encode s.toRecord)
  have h₁ := h.sets hs₁ (by simp)
  obtain ⟨d₂, d₃, hrename, hs₂, hs₃⟩ := Disk.rename_child h₁.directory hname (isName_recordName hname)
    hs₁.node?_self (h₁.files _)
  have h₃ := (h₁.sets hs₂ (by simp)).sets hs₃ (by simp)
  refine ⟨d₃, ?_, h₃, fun id hne => ?_⟩
  · unfold FileStore.writeRecord
    rw [hid]
    simp only [Bool.not_true, Bool.false_eq_true, if_false, temporaryPath, recordPath, hwrite, hrename]
  · refine Shelf.recordAt_congr h.directory h₃.directory ?_
    rw [hs₃.node?_of_ne (recordName_inj.not.2 hne), hs₂.node?_of_ne temporaryName_ne_recordName.symm,
      hs₁.node?_of_ne temporaryName_ne_recordName.symm]

/-- a subscription whose file is named after another id is renewed in the file of its own id, not where it was found; yet
it is found renewed as long as it is at hand -/
theorem renew_misfiled (h : f.Flat) {id : String} {r : SubscriptionRecord}
    (hr : recordAt f.disk f.directory id = some r) (hne : id ≠ r.id) (hid : isValidId r.id = true)
    (hname : Disk.isName (temporaryName r.id) = true)
    (hc : ∀ s, f.cache.find? id = some s → s = Subscription.ofRecord r) (t : Timestamp) :
    ∃ d, f.renew id t = (.ok ((Subscription.ofRecord r).renewed t),
        ⟨d, f.directory, f.lockNumber, (f.cache.put id (Subscription.ofRecord r)).put id
          ((Subscription.ofRecord r).renewed t)⟩) ∧
      recordAt d f.directory id = some r ∧ Flat { f with disk := d } ∧
      ∀ k, k ≠ r.id → recordAt d f.directory k = recordAt f.disk f.directory k := by
  obtain ⟨d, hwrite, hflat, hothers⟩ := (h.cached (f.cache.put id (Subscription.ofRecord r))).writeRecord
    (s := (Subscription.ofRecord r).renewed t) hid hname
  refine ⟨d, ?_, (hothers id hne).trans hr, ⟨hflat.directory, hflat.files⟩, hothers⟩
  unfold renew
  rw [load_told hr hc]
  dsimp only
  rw [hwrite]

end Flat

end FileStore

end EventBroker
