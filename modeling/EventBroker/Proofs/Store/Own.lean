/-
Records that have the ids that their files are named after.

A file may hold a record of another id than it is named after. In a directory where none does (`Own`), no call changes
that: what a store writes under an id reads as a record of that id or as none, however long it is and however deep it is
nested (`decode_encode_id`). And what a store has at hand there has the id it is kept under, which is a safe one.

- `Clean`: such a directory, and such a cache. `Clean.serve` is the step, for any call.
- `Used`: a store that was opened and used, while others may have changed the disk; `Used.clean` is the run.
-/
import EventBroker.Proofs.Store.Damage
import EventBroker.Proofs.Store.Keyed
import EventBroker.Proofs.Store.Loyal

namespace EventBroker

/-! ## What is written under an id -/

/-- a row of data that begins with a text is read as one that begins so, if it is read at all -/
theorem MessagePack.read_write_text {s : String} (hs : Short s) {ds : List Datum}
    (hcount : (Datum.text s :: ds).length < 2 ^ 32) {d : Datum} (h : read (write (.seq (.text s :: ds))) = some d) :
    ∃ es, d = .seq (.text s :: es) := by
  have htext (rest : List UInt8) : readWithin 1022 (write (.text s) ++ rest) = some (.text s, rest) :=
    readWithin_write (Datum.fits_text hs 1022) rest
  obtain ⟨⟨_, rest⟩, hread, rfl⟩ := Option.map_eq_some_iff.1 h
  rw [write, writeItems, readWithin_head (isHead_seqHead hcount)] at hread
  obtain ⟨⟨items, _⟩, hmany, heq⟩ := Option.map_eq_some_iff.1 hread
  cases heq
  rw [List.length_cons, many, htext] at hmany
  obtain ⟨⟨es, _⟩, -, heq⟩ := Option.map_eq_some_iff.1 hmany
  cases heq
  exact ⟨es, rfl⟩

theorem SubscriptionRecord.id_of_read {r r' : SubscriptionRecord} (hid : Short r.id)
    (h : MessagePack.read (MessagePack.write r.toDatum) >>= ofDatum? = some r') : r'.id = r.id := by
  obtain ⟨d, hd, hr'⟩ := Option.bind_eq_some_iff.1 h
  obtain ⟨es, rfl⟩ := MessagePack.read_write_text hid (by simp) hd
  unfold ofDatum? at hr'
  obtain ⟨f, hf, hr'⟩ := Option.bind_eq_some_iff.1 hr'
  obtain ⟨id, hfirst, hr'⟩ := Option.bind_eq_some_iff.1 hr'
  obtain ⟨options, -, hr'⟩ := Option.bind_eq_some_iff.1 hr'
  obtain ⟨location, -, hr'⟩ := Option.bind_eq_some_iff.1 hr'
  cases hr'
  dsimp only [Datum.fields?] at hf
  split at hf
  · cases hf
    exact (Option.some.inj hfirst).symm
  · cases hf

namespace RecordFile

theorem payload_wrap_eq {p q : List UInt8} (h : payload (wrap p) = .ok q) : q = p := by
  obtain ⟨heq, hq⟩ := payload_eq_ok_iff.1 h
  have hlength := congrArg List.length heq
  rw [wrap_length, wrap_length] at hlength
  rw [payload_wrap (by omega)] at h
  exact (Except.ok.inj h).symm

/-- a file that was written for a record is read as a record of its id, if it is read at all -/
theorem decode_encode_id {r r' : SubscriptionRecord} (hid : Short r.id) (h : decode (encode r) = .ok r') :
    r'.id = r.id := by
  unfold decode encode at h
  cases hp : payload (wrap (MessagePack.write r.toDatum)) with
  | error e =>
    rw [hp] at h
    cases h
  | ok p =>
    rw [hp, payload_wrap_eq hp] at h
    dsimp only [Bind.bind, Except.bind] at h
    split at h
    · rename_i x hx
      cases h
      exact SubscriptionRecord.id_of_read hid hx
    · cases h

end RecordFile

/-! ## Directories -/

namespace Disk

variable {d d' : Disk} {dir : Path} {n : String}

theorem walk_init {here : Path} {ns : List String} {node : Node} (h : d.walk here (ns ++ [n]) = .ok node) :
    d.walk here ns = .ok .directory := by
  induction ns generalizing here with
  | nil =>
    rw [List.nil_append, walk] at h
    rw [walk]
    cases hn : d.node? here with
    | none =>
      rw [hn] at h
      cases h
    | some node =>
      rw [hn] at h
      cases node with
      | file number bytes => cases h
      | directory => rfl
  | cons m ns ih =>
    rw [List.cons_append, walk] at h
    rw [walk]
    cases hn : d.node? here with
    | none =>
      rw [hn] at h
      cases h
    | some node =>
      rw [hn] at h
      cases node with
      | file number bytes => cases h
      | directory =>
        dsimp only at h ⊢
        split at h
        · rename_i hm
          rw [if_pos hm]
          exact ih h
        · cases h

/-- what is found in a directory shows that the directory is there -/
theorem find_parent {node : Node} (h : d.find (dir ++ [n]) = .ok node) : d.find dir = .ok .directory := walk_init h

theorem read_parent {bytes : List UInt8} (h : d.read (dir ++ [n]) = .ok bytes) : d.find dir = .ok .directory := by
  unfold read at h
  cases hfind : d.find (dir ++ [n]) with
  | error e =>
    rw [hfind] at h
    cases h
  | ok node => exact find_parent hfind

theorem place_parent {other : Option Nat} (h : d.place (dir ++ [n]) = .ok other) : d.find dir = .ok .directory := by
  unfold place at h
  rw [parent_child] at h
  split at h
  · cases h
  · cases h
  · assumption
  · assumption
  · assumption

theorem write_parent {bytes : List UInt8} (h : d.write (dir ++ [n]) bytes = .ok d') : d.find dir = .ok .directory := by
  unfold write at h
  split at h
  · cases h
  · exact place_parent ‹_›
  · exact place_parent ‹_›

end Disk

namespace FileStore

variable {f f' : FileStore} {d d' : Disk} {dir : Path} {id : String}

/-- every record that a directory tells has the id that its file is named after -/
def Own (d : Disk) (dir : Path) : Prop := ∀ id r, recordAt d dir id = some r → r.id = id

/-- such a directory; and what is at hand has the id it is kept under, which is a safe one -/
structure Clean (f : FileStore) : Prop where
  own : Own f.disk f.directory
  cache : ∀ id s, f.cache.find? id = some s → isValidId id = true ∧ s.id = id

theorem recordAt_directory {r : SubscriptionRecord} (h : recordAt d dir id = some r) : d.find dir = .ok .directory := by
  unfold recordAt at h
  split at h
  · split at h
    · rename_i hread
      exact Disk.read_parent hread
    · cases h
  · cases h

/-- a change of the files of one id leaves a directory clean if it does so for that id -/
theorem Touches.own (h : f.Touches f' id) (hown : Own f.disk f.directory)
    (hid : ∀ r, recordAt f'.disk f.directory id = some r → r.id = id) : Own f'.disk f.directory := by
  intro k r hr
  by_cases hk : k = id
  · subst hk
    exact hid r hr
  · have hdir := recordAt_directory hr
    have hbefore : f.disk.find f.directory = .ok .directory := by
      rw [← hdir]
      refine Disk.find_above fun p hp => (h.nodes p ?_ ?_).symm
      · exact Disk.child_not_above hp
      · exact Disk.child_not_above hp
    rw [(h.spares hbefore).2 k hk] at hr
    exact hown k r hr

theorem writeRecord_own (hown : Own f.disk f.directory) (s : Subscription) :
    Own (f.writeRecord s).2.disk f.directory := by
  refine (f.writeRecord_touches s).own hown fun r hr => ?_
  unfold writeRecord at hr
  split at hr
  · exact hown _ r hr
  · split at hr
    · exact hown _ r hr
    · rename_i d hwrite
      have hdir : f.disk.find f.directory = .ok .directory := Disk.write_parent hwrite
      split at hr
      · rename_i hrename
        -- the record is still as it was
        have hnode := Disk.write_node? hwrite (q := f.directory ++ [recordName s.id])
          (Disk.child_inj.not.2 temporaryName_ne_recordName.symm)
        rw [Shelf.recordAt_congr hdir (recordAt_directory hr) hnode] at hr
        exact hown _ r hr
      · rename_i d' hrename
        obtain ⟨hname, number, hnode⟩ := Disk.rename_written hdir hwrite hrename
        obtain ⟨-, -, number', bytes, hfile, hdecode⟩ := recordAt_file (recordAt_directory hr) hr
        obtain ⟨-, rfl⟩ := Node.file.inj (Option.some.inj (hfile.symm.trans hnode))
        exact RecordFile.decode_encode_id (r := s.toRecord) (Short.of_isName hname) hdecode

theorem removeRecord_own (hown : Own f.disk f.directory) (hf : f.removeRecord id = .ok f') :
    Own f'.disk f.directory := by
  refine (removeRecord_touches hf).own hown fun r hr => ?_
  obtain ⟨d, hd, rfl⟩ := removeRecord_eq_ok hf
  rw [Shelf.recordAt_of_missing (recordAt_directory hr) (Disk.removeFile_sets hd).node?_self] at hr
  cases hr

namespace Clean

theorem cachePut (h : f.Clean) {s : Subscription} (hid : isValidId id = true) (hs : s.id = id) :
    Clean { f with cache := f.cache.put id s } := by
  refine ⟨h.own, fun k t ht => ?_⟩
  rcases Cache.find?_put ht with ⟨rfl, rfl⟩ | ⟨-, ht⟩
  · exact ⟨hid, hs⟩
  · exact h.cache k t ht

theorem cacheRemove (h : f.Clean) (id : String) : Clean { f with cache := f.cache.remove id } :=
  ⟨h.own, fun k s hs => h.cache k s (Cache.find?_remove hs).2⟩

/-- a load answers a subscription of a safe id that has this id, and changes the cache at most -/
theorem load (h : f.Clean) {a : Except BrokerError (Option Subscription)} (hf : f.load id = (a, f')) :
    f'.Clean ∧ ∀ s, a = .ok (some s) → isValidId id = true ∧ s.id = id := by
  unfold FileStore.load Cache.use at hf
  cases hc : f.cache.find? id with
  | some s =>
    obtain ⟨hid, hs⟩ := h.cache id s hc
    rw [hc] at hf
    cases hf
    refine ⟨h.cachePut hid hs, fun t ht => ?_⟩
    cases ht
    exact ⟨hid, hs⟩
  | none =>
    rw [hc] at hf
    dsimp only at hf
    rcases f.readRecord_cases id with ⟨r, hread, hr⟩ | ⟨hread | ⟨e, hread⟩, -⟩
    · have hs := h.own id r hr
      have hid : isValidId id = true := (recordAt_file (recordAt_directory hr) hr).1
      rw [hread] at hf
      cases hf
      refine ⟨h.cachePut hid hs, fun t ht => ?_⟩
      cases ht
      exact ⟨hid, hs⟩
    · rw [hread] at hf
      cases hf
      refine ⟨h, fun s hs => ?_⟩
      cases hs
    · rw [hread] at hf
      cases hf
      refine ⟨h, fun s hs => ?_⟩
      cases hs

theorem writeRecord (h : f.Clean) (s : Subscription) : (f.writeRecord s).2.Clean := by
  have hdirectory : (f.writeRecord s).2.directory = f.directory := (f.writeRecord_touches s).directory
  refine ⟨hdirectory ▸ writeRecord_own h.own s, ?_⟩
  rw [writeRecord_cache]
  exact h.cache

theorem removeRecord (h : f.Clean) (hf : f.removeRecord id = .ok f') : f'.Clean := by
  have hown := removeRecord_own h.own hf
  obtain ⟨d, -, rfl⟩ := removeRecord_eq_ok hf
  exact ⟨hown, h.cache⟩

theorem put (h : f.Clean) (s : Subscription) : (f.put s).2.Clean := by
  have hwrite := h.writeRecord s
  unfold FileStore.put
  split
  · rename_i f' hok
    rw [hok] at hwrite
    refine hwrite.cachePut ?_ rfl
    by_contra hid
    rw [FileStore.writeRecord, if_pos (by simpa using hid)] at hok
    cases hok
  · rename_i he
    rw [he] at hwrite
    exact hwrite

theorem get (h : f.Clean) (id : String) : (f.get id).2.Clean := by
  unfold FileStore.get
  split
  · exact (h.load ‹_›).1
  · exact (h.load ‹_›).1

theorem loadAll (h : f.Clean) (ids : List String) : (loadAll ids f).2.Clean := by
  induction ids generalizing f with
  | nil => exact h
  | cons id ids ih => exact ih (h.get id)

theorem all (h : f.Clean) : f.all.2.Clean := by
  unfold FileStore.all
  split
  · exact h.loadAll _
  · exact h

theorem delete (h : f.Clean) (id : String) : (f.delete id).2.Clean := by
  unfold FileStore.delete
  split
  · exact (h.load ‹_›).1
  · exact (h.load ‹_›).1
  · rename_i hload
    split
    · exact (h.load hload).1.removeRecord ‹_›
    · exact (h.load hload).1
  · rename_i hload
    have hwithout := (h.load hload).1.cacheRemove id
    dsimp only
    split
    · exact hwithout.removeRecord ‹_›
    · exact hwithout

theorem renew (h : f.Clean) (id : String) (t : Timestamp) : (f.renew id t).2.Clean := by
  unfold FileStore.renew
  split
  · rename_i s f' hload
    obtain ⟨hf', hfound⟩ := h.load hload
    obtain ⟨hid, hs⟩ := hfound s rfl
    have hwrite := hf'.writeRecord (s.renewed t)
    split
    · rename_i hok
      rw [hok] at hwrite
      exact hwrite.cachePut hid hs
    · rename_i he
      rw [he] at hwrite
      exact hwrite
  · exact (h.load ‹_›).1

/-- **Step.** No call puts a record where it does not belong. -/
theorem serve (h : f.Clean) (c : StoreCall) : (c.serve f).2.Clean := by
  cases c with
  | put s => exact h.put s
  | get id => exact h.get id
  | all => exact h.all
  | delete id => exact h.delete id
  | renew id t => exact h.renew id t

end Clean

/-- a store in use: it was opened and called, and meanwhile others may have changed the disk, as long as the directory
told no record of another id -/
inductive Used : FileStore → Prop where
  | opened {f : FileStore} {d : Disk} {dir : Path} {cacheSize : Nat} (hf : (openAt d dir cacheSize).1 = .ok f)
    (hown : Own f.disk f.directory) : Used f
  | called {f : FileStore} (h : Used f) (c : StoreCall) : Used (c.serve f).2
  | changed {f : FileStore} {d : Disk} (h : Used f) (hown : Own d f.directory) : Used { f with disk := d }

/-- **Run.** A store in use has under an id what has this id. -/
theorem Used.clean (h : Used f) : f.Clean := by
  induction h with
  | opened hf hown =>
    refine ⟨hown, fun id s hs => ?_⟩
    rw [openAt_cache hf] at hs
    cases hs
  | called _ c ih => exact ih.serve c
  | changed _ hown ih => exact ⟨hown, ih.cache⟩

end FileStore

end EventBroker
