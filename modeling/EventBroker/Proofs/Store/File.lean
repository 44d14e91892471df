/-
The store of record files is faithful.

Its records are what the files in its directory tell. `Shelf` says of a directory that it is in good order: it is there,
its records stand under their own ids and can be written again, and no directory has the name of a record or of a
temporary file. What the cache has at hand is what the files tell.

- `recordAt`: what the file of an id tells.
- `Shelf.sets_record`, `Shelf.sets_missing`: with a file written or removed, the files tell a record more or less.
- `Storable`: a record that can be written and read back; `Storable.of_options` says when options make one.
- `load_eq`, `get_eq`, `all_eq`: what reading changes is the cache.
- `Tells`: the files and the cache agree on the records, whatever else is in the directory; this is enough for reading.
- `FaithfulStore FileStore`: every operation answers from the files.
-/
import EventBroker.Proofs.Store.Disk
import EventBroker.Proofs.Store.Faithful
import EventBroker.Proofs.Store.Names
import EventBroker.Proofs.Store.RecordFile

namespace EventBroker

open Function (update)

/-! ## The cache -/

namespace Cache

theorem find?_take_filter {es : List (String × Subscription)} {n : Nat} {k : String} {e : String × Subscription}
    (h : (es.take n).find? (fun e => e.1 == k) = some e) : es.find? (fun e => e.1 == k) = some e := by
  induction es generalizing n with
  | nil => simp at h
  | cons x es ih =>
    cases n with
    | zero => simp at h
    | succ n =>
      rw [List.take_succ_cons, List.find?_cons] at h
      rw [List.find?_cons]
      split at h
      · exact h
      · exact ih h

theorem find?_remove {c : Cache} {id k : String} {s : Subscription} (h : (c.remove id).find? k = some s) :
    k ≠ id ∧ c.find? k = some s := by
  obtain ⟨e, he, rfl⟩ := Option.map_eq_some_iff.1 h
  have hk : e.1 = k := by simpa using List.find?_some he
  have hmem := List.mem_filter.1 (List.mem_of_find?_eq_some he)
  have hne : k ≠ id := by
    rw [← hk]
    simpa using hmem.2
  refine ⟨hne, Option.map_eq_some_iff.2 ⟨e, ?_, rfl⟩⟩
  have hfilter : (c.remove id).entries = c.entries.filter fun e => e.1 != id := rfl
  rw [hfilter, List.find?_filter] at he
  rw [← he]
  congr 1
  funext x
  by_cases hx : x.1 = k
  · simp [hx, hne]
  · simp [hx]

/-- what is at hand after a put was put, or was at hand before -/
theorem find?_put {c : Cache} {id k : String} {s t : Subscription} (h : (c.put id s).find? k = some t) :
    (k = id ∧ t = s) ∨ (k ≠ id ∧ c.find? k = some t) := by
  obtain ⟨e, he, rfl⟩ := Option.map_eq_some_iff.1 h
  have hfind := find?_take_filter he
  rw [List.find?_cons] at hfind
  split at hfind
  · rename_i hid
    cases hfind
    exact Or.inl ⟨(eq_of_beq hid).symm, rfl⟩
  · exact Or.inr (find?_remove (Option.map_eq_some_iff.2 ⟨e, hfind, rfl⟩))

/-- where there is room for one, a put leaves nothing else at hand -/
theorem find?_put_of_room {c : Cache} (hroom : c.capacity = 1) {id k : String} {s : Subscription} (hk : k ≠ id) :
    (c.put id s).find? k = none := by
  simp [put, find?, hroom, hk.symm]

end Cache

namespace FileStore

/-! ## What files tell -/

/-- the record in the file of an id -/
def recordAt (d : Disk) (dir : Path) (id : String) : Option SubscriptionRecord :=
  if isValidId id then
    match d.read (dir ++ [recordName id]) with
    | .ok bytes => (RecordFile.decode bytes).toOption
    | .error _ => none
  else none

/-- a record can be written to a file and read back, under whatever id and with whatever end -/
structure Storable (r : SubscriptionRecord) : Prop where
  options : r.options.Fits
  location : Short r.location
  length : ∀ id end?, Disk.isName (recordName id) = true → (MessagePack.write (SubscriptionRecord.toDatum
    ⟨id, { r.options with terminationTime := end? }, r.location⟩)).length < 2 ^ 64

/-- a directory in good order, and the records that its files tell -/
structure Shelf (d : Disk) (dir : Path) (v : Records) : Prop where
  directory : d.find dir = .ok .directory
  records : ∀ id, recordAt d dir id = v id
  keyed : ∀ id r, v id = some r → r.id = id
  storable : ∀ id r, v id = some r → Storable r
  roomy : ∀ id, v id ≠ none → Disk.isName (temporaryName id) = true
  named : ∀ n, d.node? (dir ++ [n]) ≠ none → Disk.isName n = true
  clear : ∀ n ext, (splitExtension n).2 = some ext → ext = recordExtension ∨ ext = temporaryExtension →
    d.node? (dir ++ [n]) ≠ some .directory

theorem Short.of_isName {id : String} (h : Disk.isName (recordName id) = true) : Short id := by
  have hlen := (isName_iff.1 h).1
  rw [recordName, String.utf8ByteSize_append, String.utf8ByteSize_append] at hlen
  have hbytes : (Text.Utf8.bytes id).length = id.utf8ByteSize := by simp [Text.Utf8.bytes]
  unfold Short
  rw [hbytes]
  have : Disk.maxNameLength = 255 := rfl
  omega

/-- options of any length that memory has room for can be stored -/
theorem Storable.of_options {o : SubscribeOptions} (ho : o.Fits) (hlength : (MessagePack.write o.toDatum).length < 2 ^ 63)
    {location : String} (hlocation : Short location) (id : String) : Storable ⟨id, o, location⟩ := by
  refine ⟨ho, hlocation, fun id t hn => ?_⟩
  have hle := SubscriptionRecord.write_toDatum_length_le o id location t
  have hid := Short.of_isName hn
  unfold Short at hid hlocation
  exact Nat.lt_of_le_of_lt hle (by omega)

theorem Storable.renewed {r : SubscriptionRecord} (h : Storable r) (t : Timestamp) : Storable (r.renewed t) :=
  ⟨{ h.options with }, h.location, h.length⟩

theorem Storable.decode_encode {r : SubscriptionRecord} (h : Storable r) (hn : Disk.isName (recordName r.id) = true) :
    RecordFile.decode (RecordFile.encode r) = .ok r :=
  RecordFile.decode_encode ⟨Short.of_isName hn, h.options, h.location⟩ (h.length r.id r.options.terminationTime hn)

/-- a record is told by a file of its name -/
theorem recordAt_file {d : Disk} {dir : Path} (h : d.find dir = .ok .directory) {id : String} {r : SubscriptionRecord}
    (hr : recordAt d dir id = some r) :
    isValidId id = true ∧ Disk.isName (recordName id) = true ∧ ∃ number bytes,
      d.node? (dir ++ [recordName id]) = some (.file number bytes) ∧ RecordFile.decode bytes = .ok r := by
  unfold recordAt at hr
  split at hr
  · rename_i hid
    split at hr
    · rename_i bytes hread
      obtain ⟨hn, number, hnode⟩ := (Disk.read_child_eq_ok h).1 hread
      refine ⟨hid, hn, number, bytes, hnode, ?_⟩
      cases hdec : RecordFile.decode bytes with
      | ok r' =>
        rw [hdec] at hr
        cases hr
        rfl
      | error e =>
        rw [hdec] at hr
        cases hr
    · cases hr
  · cases hr

namespace Shelf

variable {d d' : Disk} {dir : Path} {v : Records}

theorem recordAt_eq_some (h : Shelf d dir v) {id : String} {r : SubscriptionRecord} (hr : v id = some r) :
    isValidId id = true ∧ Disk.isName (recordName id) = true ∧ ∃ number bytes,
      d.node? (dir ++ [recordName id]) = some (.file number bytes) ∧ RecordFile.decode bytes = .ok r :=
  recordAt_file h.directory ((h.records id).trans hr)

theorem recordAt_congr {d d' : Disk} (h : d.find dir = .ok .directory) (h' : d'.find dir = .ok .directory)
    {id : String} (hnode : d'.node? (dir ++ [recordName id]) = d.node? (dir ++ [recordName id])) :
    recordAt d' dir id = recordAt d dir id := by
  unfold recordAt
  rw [Disk.read_congr h h' hnode]

theorem recordAt_of_node (h : d.find dir = .ok .directory) {id : String} (hid : isValidId id = true)
    (hn : Disk.isName (recordName id) = true) {number : Nat} {bytes : List UInt8}
    (hnode : d.node? (dir ++ [recordName id]) = some (.file number bytes)) :
    recordAt d dir id = (RecordFile.decode bytes).toOption := by
  unfold recordAt
  rw [if_pos hid, (Disk.read_child_eq_ok h).2 ⟨hn, number, hnode⟩]

theorem recordAt_of_missing (h : d.find dir = .ok .directory) {id : String}
    (hnode : d.node? (dir ++ [recordName id]) = none) : recordAt d dir id = none := by
  unfold recordAt
  split
  · split
    · rename_i hread
      obtain ⟨-, number, hfile⟩ := (Disk.read_child_eq_ok h).1 hread
      rw [hnode] at hfile
      cases hfile
    · rfl
  · rfl

theorem sets_named (h : Shelf d dir v) {n : String} {node : Option Node} (hs : Disk.Sets d d' dir n node)
    (hname : node ≠ none → Disk.isName n = true) (m : String) (hm : d'.node? (dir ++ [m]) ≠ none) :
    Disk.isName m = true := by
  by_cases hmn : m = n
  · subst hmn
    rw [hs.node?_self] at hm
    exact hname hm
  · rw [hs.node?_of_ne hmn] at hm
    exact h.named m hm

theorem sets_clear (h : Shelf d dir v) {n : String} {node : Option Node} (hs : Disk.Sets d d' dir n node)
    (hnode : node ≠ some .directory) (m ext : String) (hext : (splitExtension m).2 = some ext)
    (hor : ext = recordExtension ∨ ext = temporaryExtension) : d'.node? (dir ++ [m]) ≠ some .directory := by
  by_cases hmn : m = n
  · subst hmn
    rw [hs.node?_self]
    exact hnode
  · rw [hs.node?_of_ne hmn]
    exact h.clear m ext hext hor

/-- a name that is no record's loses its file or gets one -/
theorem sets_other (h : Shelf d dir v) {n : String} {node : Option Node} (hs : Disk.Sets d d' dir n node)
    (hn : ∀ id, n ≠ recordName id) (hname : node ≠ none → Disk.isName n = true) (hnode : node ≠ some .directory) :
    Shelf d' dir v := by
  have hdir : d'.find dir = .ok .directory := hs.find_eq.trans h.directory
  refine ⟨hdir, fun id => ?_, h.keyed, h.storable, h.roomy, h.sets_named hs hname, h.sets_clear hs hnode⟩
  rw [recordAt_congr h.directory hdir (hs.node?_of_ne fun heq => hn id heq.symm)]
  exact h.records id

/-- the file of an id is written -/
theorem sets_record (h : Shelf d dir v) {r : SubscriptionRecord} {number : Nat}
    (hs : Disk.Sets d d' dir (recordName r.id) (some (.file number (RecordFile.encode r))))
    (hid : isValidId r.id = true) (hname : Disk.isName (temporaryName r.id) = true) (hr : Storable r) :
    Shelf d' dir (update v r.id (some r)) := by
  have hdir : d'.find dir = .ok .directory := hs.find_eq.trans h.directory
  have hrec : Disk.isName (recordName r.id) = true := isName_recordName hname
  refine ⟨hdir, fun id => ?_, fun id s hs => ?_, fun id s hs => ?_, fun id hid' => ?_,
    h.sets_named hs fun _ => hrec, h.sets_clear hs (by simp)⟩
  · by_cases heq : id = r.id
    · subst heq
      rw [recordAt_of_node hdir hid hrec hs.node?_self, hr.decode_encode hrec, Function.update_self]
      rfl
    · rw [recordAt_congr h.directory hdir (hs.node?_of_ne fun hn => heq (recordName_inj.1 hn)), h.records,
        Function.update_of_ne heq]
  · rcases update_some_eq_some.1 hs with ⟨rfl, rfl⟩ | ⟨-, hs⟩
    · rfl
    · exact h.keyed id s hs
  · rcases update_some_eq_some.1 hs with ⟨-, rfl⟩ | ⟨-, hs⟩
    · exact hr
    · exact h.storable id s hs
  · rw [Function.update_apply] at hid'
    split at hid'
    · rename_i heq
      rw [heq]
      exact hname
    · exact h.roomy id hid'

/-- the file of an id comes to tell nothing -/
theorem sets_lost (h : Shelf d dir v) {id : String} {node : Option Node}
    (hs : Disk.Sets d d' dir (recordName id) node) (hname : node ≠ none → Disk.isName (recordName id) = true)
    (hnode : node ≠ some .directory) (hnone : recordAt d' dir id = none) : Shelf d' dir (update v id none) := by
  have hdir : d'.find dir = .ok .directory := hs.find_eq.trans h.directory
  refine ⟨hdir, fun k => ?_, fun k s hk => h.keyed k s (update_none_eq_some.1 hk).2,
    fun k s hk => h.storable k s (update_none_eq_some.1 hk).2, fun k hk => ?_,
    h.sets_named hs hname, h.sets_clear hs hnode⟩
  · by_cases heq : k = id
    · subst heq
      rw [hnone, Function.update_self]
    · rw [recordAt_congr h.directory hdir (hs.node?_of_ne fun hn => heq (recordName_inj.1 hn)), h.records,
        Function.update_of_ne heq]
  · rw [Function.update_apply] at hk
    split at hk
    · exact absurd rfl hk
    · exact h.roomy k hk

/-- the file of an id is removed -/
theorem sets_missing (h : Shelf d dir v) {id : String} (hs : Disk.Sets d d' dir (recordName id) none) :
    Shelf d' dir (update v id none) :=
  h.sets_lost hs (fun hne => absurd rfl hne) (by simp)
    (recordAt_of_missing (hs.find_eq.trans h.directory) hs.node?_self)

/-- a file is written for an id that cannot be read back -/
theorem sets_unreadable (h : Shelf d dir v) {id : String} {number : Nat} {bytes : List UInt8}
    (hs : Disk.Sets d d' dir (recordName id) (some (.file number bytes))) (hid : isValidId id = true)
    (hname : Disk.isName (recordName id) = true) {e : BrokerError} (hbytes : RecordFile.decode bytes = .error e) :
    Shelf d' dir (update v id none) := by
  refine h.sets_lost hs (fun _ => hname) (by simp) ?_
  rw [recordAt_of_node (hs.find_eq.trans h.directory) hid hname hs.node?_self, hbytes]
  rfl

theorem record_clear (h : Shelf d dir v) {id : String} (hid : isValidId id = true) :
    d.node? (dir ++ [recordName id]) ≠ some .directory :=
  h.clear _ recordExtension (by rw [splitExtension_recordName (isValidId_ne_nil hid)]) (Or.inl rfl)

theorem temporary_clear (h : Shelf d dir v) (id : String) : d.node? (dir ++ [temporaryName id]) ≠ some .directory :=
  h.clear _ temporaryExtension (by rw [splitExtension_temporaryName]) (Or.inr rfl)

end Shelf

/-! ## The store -/

/-- directory and cache are in good order, and the lock file is there -/
structure InOrder (f : FileStore) (v : Records) : Prop where
  shelf : Shelf f.disk f.directory v
  lockFile : ∃ bytes, f.disk.node? (f.directory ++ [lockName]) = some (.file f.lockNumber bytes)
  cache : ∀ id s, f.cache.find? id = some s → v id = some s.toRecord

/-- a record whose files can have their names is written -/
theorem writeRecord_accepted {f : FileStore} {v : Records} (h : Shelf f.disk f.directory v) {s : Subscription}
    (hid : isValidId s.id = true) (hname : Disk.isName (temporaryName s.id) = true) :
    ∃ number d d', f.writeRecord s = (.ok (), { f with disk := d' }) ∧ Shelf d f.directory v ∧
      Disk.Sets d d' f.directory (recordName s.id) (some (.file number (RecordFile.encode s.toRecord))) ∧
      d'.node? (f.directory ++ [lockName]) = f.disk.node? (f.directory ++ [lockName]) := by
  obtain ⟨number, d₁, hwrite, hs₁⟩ := Disk.write_child h.directory hname (h.temporary_clear s.id)
    (RecordFile.encode s.toRecord)
  have h₁ : Shelf d₁ f.directory v :=
    h.sets_other hs₁ (fun _ => temporaryName_ne_recordName) (fun _ => hname) (by simp)
  obtain ⟨d₂, d₃, hrename, hs₂, hs₃⟩ := Disk.rename_child h₁.directory hname (isName_recordName hname)
    hs₁.node?_self (h₁.record_clear hid)
  have h₂ : Shelf d₂ f.directory v :=
    h₁.sets_other hs₂ (fun _ => temporaryName_ne_recordName) (fun hne => absurd rfl hne) (by simp)
  refine ⟨number, d₂, d₃, ?_, h₂, hs₃, ?_⟩
  · unfold writeRecord
    rw [hid]
    simp only [Bool.not_true, Bool.false_eq_true, if_false, temporaryPath, recordPath, hwrite, hrename]
  · rw [hs₃.node?_of_ne recordName_ne_lockName.symm, hs₂.node?_of_ne temporaryName_ne_lockName.symm,
      hs₁.node?_of_ne temporaryName_ne_lockName.symm]

/-- a record without a name for its temporary file is refused, and nothing has changed -/
theorem writeRecord_too_long {f : FileStore} {v : Records} (h : Shelf f.disk f.directory v) {s : Subscription}
    (hid : isValidId s.id = true) (hname : Disk.isName (temporaryName s.id) = false) :
    f.writeRecord s = (.error foreignFault, f) := by
  have hplace := Disk.place_bad_name h.directory hname
  unfold writeRecord
  rw [hid]
  simp only [Bool.not_true, Bool.false_eq_true, if_false, temporaryPath, Disk.write, hplace]

/-- any other record is refused, and nothing has changed; no such record is known -/
theorem writeRecord_refused {f : FileStore} {v : Records} (h : Shelf f.disk f.directory v) {s : Subscription}
    (hs : ¬ (isValidId s.id = true ∧ Disk.isName (temporaryName s.id) = true)) :
    ∃ e, f.writeRecord s = (.error e, f) ∧ v s.id = none := by
  by_cases hid : isValidId s.id = true
  · have hname : ¬ Disk.isName (temporaryName s.id) = true := fun hname => hs ⟨hid, hname⟩
    refine ⟨foreignFault, writeRecord_too_long h hid (Bool.not_eq_true _ ▸ hname), ?_⟩
    by_contra hne
    exact hname (h.roomy s.id hne)
  · rw [Bool.not_eq_true] at hid
    unfold writeRecord
    rw [hid]
    refine ⟨_, rfl, ?_⟩
    cases hv : v s.id with
    | none => rfl
    | some r => cases (h.recordAt_eq_some hv).1.symm.trans hid

/-- a record is written, or it is refused and nothing has changed; a known one is not refused -/
theorem writeRecord_cases {f : FileStore} {v : Records} (h : Shelf f.disk f.directory v) (s : Subscription) :
    (∃ e, f.writeRecord s = (.error e, f) ∧ v s.id = none) ∨
      isValidId s.id = true ∧ Disk.isName (temporaryName s.id) = true ∧ ∃ number d d',
        f.writeRecord s = (.ok (), { f with disk := d' }) ∧ Shelf d f.directory v ∧
        Disk.Sets d d' f.directory (recordName s.id) (some (.file number (RecordFile.encode s.toRecord))) ∧
        d'.node? (f.directory ++ [lockName]) = f.disk.node? (f.directory ++ [lockName]) := by
  by_cases hs : isValidId s.id = true ∧ Disk.isName (temporaryName s.id) = true
  · exact Or.inr ⟨hs.1, hs.2, writeRecord_accepted h hs.1 hs.2⟩
  · exact Or.inl (writeRecord_refused h hs)

theorem writeRecord_spec {f : FileStore} {v : Records} (h : Shelf f.disk f.directory v) {s : Subscription}
    (hs : Storable s.toRecord) :
    (∃ e, f.writeRecord s = (.error e, f) ∧ v s.id = none) ∨
      ∃ d, f.writeRecord s = (.ok (), { f with disk := d }) ∧
        Shelf d f.directory (update v s.id (some s.toRecord)) ∧
        d.node? (f.directory ++ [lockName]) = f.disk.node? (f.directory ++ [lockName]) := by
  rcases writeRecord_cases h s with hrefused | ⟨hid, hname, number, d, d', hwrite, hshelf, hsets, hlock⟩
  · exact Or.inl hrefused
  · exact Or.inr ⟨d', hwrite, hshelf.sets_record (r := s.toRecord) hsets hid hname hs, hlock⟩

/-- what was written is put at hand -/
theorem put_of_writeRecord {f f' : FileStore} {s : Subscription} (h : f.writeRecord s = (.ok (), f')) :
    f.put s = (.ok (), { f' with cache := f'.cache.put s.id s }) := by
  unfold put
  rw [h]

/-- what a reading of the file of an id answers -/
theorem readRecord_cases (f : FileStore) (id : String) :
    (∃ r, f.readRecord id = .ok (some (Subscription.ofRecord r)) ∧ recordAt f.disk f.directory id = some r) ∨
      ((f.readRecord id = .ok none ∨ ∃ e, f.readRecord id = .error e) ∧ recordAt f.disk f.directory id = none) := by
  unfold readRecord recordAt recordPath
  by_cases hid : isValidId id = true
  · rw [hid]
    simp only [Bool.not_true, Bool.false_eq_true, if_false, if_true]
    cases hread : f.disk.read (f.directory ++ [recordName id]) with
    | error fault =>
      cases fault with
      | missing => exact Or.inr ⟨Or.inl rfl, rfl⟩
      | unusable => exact Or.inr ⟨Or.inr ⟨_, rfl⟩, rfl⟩
    | ok bytes =>
      dsimp only
      cases RecordFile.decode bytes with
      | ok r => exact Or.inl ⟨r, rfl, rfl⟩
      | error e => exact Or.inr ⟨Or.inr ⟨e, rfl⟩, rfl⟩
  · rw [Bool.not_eq_true] at hid
    rw [hid]
    exact Or.inr ⟨Or.inr ⟨_, rfl⟩, rfl⟩

/-- what is at hand is found -/
theorem get_of_cache {f : FileStore} {id : String} {s : Subscription} (h : f.cache.find? id = some s) :
    (f.get id).1 = some s := by
  unfold get load Cache.use
  rw [h]

/-- what is neither at hand nor told by a file is not found, and looking for it changes nothing -/
theorem get_of_missing {f : FileStore} {id : String} (hc : f.cache.find? id = none)
    (hr : recordAt f.disk f.directory id = none) : f.get id = (none, f) := by
  unfold get load Cache.use
  rw [hc]
  dsimp only
  rcases f.readRecord_cases id with ⟨r, -, hsome⟩ | ⟨hread | ⟨e, hread⟩, -⟩
  · cases hr.symm.trans hsome
  · rw [hread]
  · rw [hread]

theorem readRecord_spec {f : FileStore} {v : Records} (h : Shelf f.disk f.directory v) (id : String) :
    (∃ r, f.readRecord id = .ok (some (Subscription.ofRecord r)) ∧ v id = some r) ∨
      ((f.readRecord id = .ok none ∨ ∃ e, f.readRecord id = .error e) ∧ v id = none) := by
  rw [← h.records id]
  exact f.readRecord_cases id

/-! ### What reading changes -/

section Reading

variable (f : FileStore) (id : String)

theorem load_eq : (f.load id).2 = { f with cache := (f.load id).2.cache } := by
  unfold load
  split
  · rfl
  · split <;> rfl

theorem get_eq : (f.get id).2 = { f with cache := (f.get id).2.cache } := by
  have hload := f.load_eq id
  unfold get
  split
  · rename_i h
    rw [h] at hload
    exact hload
  · rename_i h
    rw [h] at hload
    exact hload

theorem loadAll_eq (ids : List String) : (loadAll ids f).2 = { f with cache := (loadAll ids f).2.cache } := by
  induction ids generalizing f with
  | nil => rfl
  | cons id ids ih =>
    have hrest : (loadAll (id :: ids) f).2 = (loadAll ids (f.get id).2).2 := rfl
    rw [hrest, ih, get_eq]

theorem all_eq : (all f).2 = { f with cache := (all f).2.cache } := by
  unfold all
  split
  · exact f.loadAll_eq _
  · rfl

end Reading

/-! ### Reading -/

/-- what the files of a directory tell, and what is at hand, is these records -/
structure Tells (f : FileStore) (v : Records) : Prop where
  directory : f.disk.find f.directory = .ok .directory
  records : ∀ id, recordAt f.disk f.directory id = v id
  cache : ∀ id s, f.cache.find? id = some s → v id = some s.toRecord

namespace Tells

variable {f : FileStore} {v : Records}

/-- what is put at hand is what the files tell -/
theorem cache_put (h : f.Tells v) {id : String} {s : Subscription} (hs : v id = some s.toRecord) :
    Tells { f with cache := f.cache.put id s } v := by
  refine ⟨h.directory, h.records, fun k t ht => ?_⟩
  rcases Cache.find?_put ht with ⟨rfl, rfl⟩ | ⟨-, ht⟩
  · exact hs
  · exact h.cache k t ht

/-- a load answers what the files tell -/
theorem load_spec (h : f.Tells v) (id : String) :
    (∃ s f', f.load id = (.ok (some s), f') ∧ v id = some s.toRecord ∧ f'.Tells v ∧
      f' = { f with cache := f'.cache }) ∨
      ((f.load id = (.ok none, f) ∨ ∃ e, f.load id = (.error e, f)) ∧ v id = none) := by
  unfold load Cache.use
  cases hc : f.cache.find? id with
  | some s => exact Or.inl ⟨s, _, rfl, h.cache id s hc, h.cache_put (h.cache id s hc), rfl⟩
  | none =>
    dsimp only
    rw [← h.records id]
    rcases f.readRecord_cases id with ⟨r, hread, hr⟩ | ⟨hread, hnone⟩
    · rw [hread]
      exact Or.inl ⟨Subscription.ofRecord r, _, rfl, hr, h.cache_put ((h.records id).symm.trans hr), rfl⟩
    · rcases hread with hread | ⟨e, hread⟩
      · rw [hread]
        exact Or.inr ⟨Or.inl rfl, hnone⟩
      · rw [hread]
        exact Or.inr ⟨Or.inr ⟨e, rfl⟩, hnone⟩

theorem get_spec (h : f.Tells v) (id : String) :
    (f.get id).1.map Subscription.toRecord = v id ∧ (f.get id).2.Tells v := by
  unfold get
  rcases h.load_spec id with ⟨s, f', hload, hs, hf', -⟩ | ⟨hload, hnone⟩
  · rw [hload]
    exact ⟨hs.symm, hf'⟩
  · rcases hload with hload | ⟨e, hload⟩
    · rw [hload, hnone]
      exact ⟨rfl, h⟩
    · rw [hload, hnone]
      exact ⟨rfl, h⟩

theorem loadAll_spec (h : f.Tells v) (ids : List String) :
    (loadAll ids f).1.map Subscription.toRecord = ids.filterMap v ∧ (loadAll ids f).2.Tells v := by
  induction ids generalizing f with
  | nil => exact ⟨rfl, h⟩
  | cons id ids ih =>
    obtain ⟨hget, hf⟩ := h.get_spec id
    obtain ⟨hall, hf'⟩ := ih hf
    refine ⟨?_, hf'⟩
    have hcons : (loadAll (id :: ids) f).1 = (f.get id).1.toList ++ (loadAll ids (f.get id).2).1 := rfl
    rw [hcons, List.map_append, hall, List.filterMap_cons, ← hget]
    cases (f.get id).1 with
    | none => rfl
    | some s => rfl

/-- a list of all is a list of what the files tell, in the order of their names -/
theorem all_spec (h : f.Tells v) :
    ∃ ids : List String, ids.Nodup ∧ (∀ id, v id ≠ none → id ∈ ids) ∧
      (all f).1.map Subscription.toRecord = ids.filterMap v ∧ (all f).2.Tells v := by
  obtain ⟨names, hnames, hnodup, hmem⟩ := Disk.names_child h.directory
  refine ⟨recordIds names, recordIds_nodup hnodup, fun id hid => ?_, ?_⟩
  · obtain ⟨r, hr⟩ := Option.ne_none_iff_exists'.1 hid
    obtain ⟨hvalid, -, number, bytes, hnode, -⟩ := recordAt_file h.directory ((h.records id).trans hr)
    refine mem_recordIds.2 ⟨(hmem _).2 ?_, isValidId_ne_nil hvalid⟩
    rw [hnode]
    exact Option.some_ne_none _
  · unfold all
    rw [hnames]
    exact h.loadAll_spec (recordIds names)

end Tells

namespace InOrder

variable {f : FileStore} {v : Records}

theorem tells (h : f.InOrder v) : f.Tells v := ⟨h.shelf.directory, h.shelf.records, h.cache⟩

/-- reading leaves everything in order -/
theorem of_tells (h : f.InOrder v) {f' : FileStore} (ht : f'.Tells v) (hf : f' = { f with cache := f'.cache }) :
    f'.InOrder v := by
  rw [hf]
  exact ⟨h.shelf, h.lockFile, ht.cache⟩

/-- a load answers what the files tell -/
theorem load_spec (h : f.InOrder v) (id : String) :
    (∃ s f', f.load id = (.ok (some s), f') ∧ v id = some s.toRecord ∧ f'.InOrder v ∧
      f' = { f with cache := f'.cache }) ∨
      ((f.load id = (.ok none, f) ∨ ∃ e, f.load id = (.error e, f)) ∧ v id = none) := by
  rcases h.tells.load_spec id with ⟨s, f', hload, hs, ht, hf⟩ | hnone
  · exact Or.inl ⟨s, f', hload, hs, h.of_tells ht hf, hf⟩
  · exact Or.inr hnone

/-- what has no record is not at hand, and so its file is looked at -/
theorem cache_eq_none (h : f.InOrder v) {id : String} (hv : v id = none) : f.cache.find? id = none := by
  cases hc : f.cache.find? id with
  | none => rfl
  | some s => cases hv.symm.trans (h.cache id s hc)

theorem load_missing (h : f.InOrder v) {id : String} (hv : v id = none) : f.load id = (f.readRecord id, f) := by
  unfold load Cache.use
  rw [h.cache_eq_none hv]
  dsimp only
  rcases readRecord_spec h.shelf id with ⟨r, -, hr⟩ | ⟨hread | ⟨e, hread⟩, -⟩
  · cases hv.symm.trans hr
  · rw [hread]
  · rw [hread]

theorem get_missing (h : f.InOrder v) {id : String} (hv : v id = none) : f.get id = (none, f) :=
  get_of_missing (h.cache_eq_none hv) ((h.shelf.records id).trans hv)

theorem get_spec (h : f.InOrder v) (id : String) :
    (f.get id).1.map Subscription.toRecord = v id ∧ (f.get id).2.InOrder v := by
  obtain ⟨hget, ht⟩ := h.tells.get_spec id
  exact ⟨hget, h.of_tells ht (f.get_eq id)⟩

/-- a file that was written, and the cache with it -/
theorem written (h : f.InOrder v) {d : Disk} {s : Subscription}
    (hshelf : Shelf d f.directory (update v s.id (some s.toRecord)))
    (hlock : d.node? (f.directory ++ [lockName]) = f.disk.node? (f.directory ++ [lockName])) :
    InOrder { f with disk := d, cache := f.cache.put s.id s } (update v s.id (some s.toRecord)) := by
  refine ⟨hshelf, ?_, fun k t ht => ?_⟩
  · obtain ⟨bytes, hbytes⟩ := h.lockFile
    exact ⟨bytes, hlock.trans hbytes⟩
  · rcases Cache.find?_put ht with ⟨rfl, rfl⟩ | ⟨hne, ht⟩
    · exact Function.update_self _ _ _
    · rw [Function.update_of_ne hne]
      exact h.cache k t ht

theorem put_spec (h : f.InOrder v) {s : Subscription} (hs : Storable s.toRecord) :
    ((f.put s).1 = .ok () ∧ (f.put s).2.InOrder (update v s.id (some s.toRecord))) ∨
      ((∃ e, (f.put s).1 = .error e) ∧ v s.id = none ∧ (f.put s).2.InOrder v) := by
  unfold put
  rcases writeRecord_spec h.shelf hs with ⟨e, hwrite, hnone⟩ | ⟨d, hwrite, hshelf, hlock⟩
  · rw [hwrite]
    exact Or.inr ⟨⟨e, rfl⟩, hnone, h⟩
  · rw [hwrite]
    exact Or.inl ⟨rfl, h.written hshelf hlock⟩

/-- without the file of an id, and without the id at hand -/
theorem removed (h : f.InOrder v) {id : String} {d : Disk} (hs : Disk.Sets f.disk d f.directory (recordName id) none) :
    InOrder { f with disk := d, cache := f.cache.remove id } (update v id none) := by
  refine ⟨h.shelf.sets_missing hs, ?_, fun k t ht => ?_⟩
  · obtain ⟨bytes, hbytes⟩ := h.lockFile
    exact ⟨bytes, (hs.node?_of_ne recordName_ne_lockName.symm).trans hbytes⟩
  · obtain ⟨hne, ht⟩ := Cache.find?_remove ht
    rw [Function.update_of_ne hne]
    exact h.cache k t ht

theorem delete_known (h : f.InOrder v) {id : String} {r : SubscriptionRecord} (hr : v id = some r) :
    (∃ s, (f.delete id).1 = .ok s ∧ s.toRecord = r) ∧ (f.delete id).2.InOrder (update v id none) := by
  unfold delete
  rcases h.load_spec id with ⟨s, f', hload, hs, hf', heq⟩ | ⟨-, hnone⟩
  · obtain ⟨-, hname, number, bytes, hnode, -⟩ := hf'.shelf.recordAt_eq_some hr
    obtain ⟨d, hremove, hsets⟩ := Disk.removeFile_child hf'.shelf.directory hname hnode
    have hsame : s.toRecord = r := Option.some.inj (hs.symm.trans hr)
    rw [hload]
    simp only [removeRecord, recordPath, hremove, onDisk, Except.map]
    exact ⟨⟨s, rfl, hsame⟩, hf'.removed hsets⟩
  · cases hr.symm.trans hnone

theorem delete_unknown (h : f.InOrder v) {id : String} (hr : v id = none) :
    (∃ e, (f.delete id).1 = .error e) ∧ (f.delete id).2.InOrder v := by
  unfold delete
  rcases h.load_spec id with ⟨s, f', -, hs, -, -⟩ | ⟨hload | ⟨e, hload⟩, -⟩
  · cases hr.symm.trans hs
  · rw [hload]
    exact ⟨⟨_, rfl⟩, h⟩
  · rw [hload]
    -- a file that cannot be read is removed, and then there is none
    have hremoved : ∀ d, f.disk.removeFile (f.directory ++ [recordName id]) = .ok d →
        InOrder { f with disk := d } v := by
      intro d hd
      have hsets := Disk.removeFile_sets hd
      have hsame : update v id none = v := by rw [← hr, Function.update_eq_self]
      have hshelf := h.shelf.sets_missing hsets
      rw [hsame] at hshelf
      obtain ⟨bytes, hbytes⟩ := h.lockFile
      exact ⟨hshelf, ⟨bytes, (hsets.node?_of_ne recordName_ne_lockName.symm).trans hbytes⟩, h.cache⟩
    cases e with
    | invalidSubscriptionId i => exact ⟨⟨_, rfl⟩, h⟩
    | _ =>
      dsimp only [removeRecord, recordPath]
      cases hrem : f.disk.removeFile (f.directory ++ [recordName id]) with
      | ok d => exact ⟨⟨_, rfl⟩, hremoved d hrem⟩
      | error fault => exact ⟨⟨_, rfl⟩, h⟩

theorem renew_known (h : f.InOrder v) {id : String} {r : SubscriptionRecord} (hr : v id = some r) (t : Timestamp) :
    (∃ s, (f.renew id t).1 = .ok s ∧ s.toRecord = r.renewed t) ∧
      (f.renew id t).2.InOrder (update v id (some (r.renewed t))) := by
  unfold renew
  rcases h.load_spec id with ⟨s, f', hload, hs, hf', -⟩ | ⟨-, hnone⟩
  · have hsame : s.toRecord = r := Option.some.inj (hs.symm.trans hr)
    have hid : s.id = id := by
      have hkey := hf'.shelf.keyed id r hr
      rw [← hsame] at hkey
      exact hkey
    have hstorable : Storable (s.renewed t).toRecord := by
      rw [Subscription.toRecord_renewed, hsame]
      exact (hf'.shelf.storable id r hr).renewed t
    rw [hload]
    subst hid
    rcases writeRecord_spec hf'.shelf hstorable with ⟨e, -, hnone⟩ | ⟨d, hwrite, hshelf, hlock⟩
    · cases hr.symm.trans hnone
    · have hdone := hf'.written hshelf hlock
      rw [← hsame]
      simp only [hwrite]
      exact ⟨⟨_, rfl, rfl⟩, hdone⟩
  · cases hr.symm.trans hnone

theorem renew_unknown (h : f.InOrder v) {id : String} (hr : v id = none) (t : Timestamp) :
    (f.renew id t).1 = .error (.unknownSubscription id) ∧ (f.renew id t).2.InOrder v := by
  unfold renew
  rcases h.load_spec id with ⟨s, f', -, hs, -, -⟩ | ⟨hload | ⟨e, hload⟩, -⟩
  · cases hr.symm.trans hs
  · rw [hload]
    exact ⟨rfl, h⟩
  · rw [hload]
    exact ⟨rfl, h⟩

/-- a list of all is a list of what the files tell, in the order of their names -/
theorem all_spec (h : f.InOrder v) :
    ∃ ids : List String, ids.Nodup ∧ (∀ id, v id ≠ none → id ∈ ids) ∧
      (all f).1.map Subscription.toRecord = ids.filterMap v ∧ (all f).2.InOrder v := by
  obtain ⟨ids, hnodup, hids, hall, ht⟩ := h.tells.all_spec
  exact ⟨ids, hnodup, hids, hall, h.of_tells ht f.all_eq⟩

/-- a list of all where no file tells anything -/
theorem all_missing (h : f.InOrder fun _ => none) : f.all = ([], f) := by
  have hnone : ∀ ids : List String, loadAll ids f = ([], f) := by
    intro ids
    induction ids with
    | nil => rfl
    | cons id ids ih => simp [loadAll, h.get_missing rfl, ih]
  unfold all
  split
  · exact hnone _
  · rfl

end InOrder

instance : FaithfulStore FileStore where
  Fits := Storable
  Holds := InOrder
  fits_renewed t h := h.renewed t
  keyed h hr := h.shelf.keyed _ _ hr
  fits_held h hr := h.shelf.storable _ _ hr
  get_answer h id := (h.get_spec id).1
  get_holds h id := (h.get_spec id).2
  all_sound {f v} h s hs := by
    obtain ⟨ids, -, -, hall, -⟩ := h.all_spec
    have hmem : s.toRecord ∈ ids.filterMap v := hall ▸ List.mem_map_of_mem hs
    obtain ⟨id, -, hid⟩ := List.mem_filterMap.1 hmem
    have hkey : s.id = id := h.shelf.keyed id _ hid
    rw [hkey]
    exact hid
  all_complete {f v} h {id r} hr := by
    obtain ⟨ids, -, hids, hall, -⟩ := h.all_spec
    have hmem : r ∈ ids.filterMap v := List.mem_filterMap.2 ⟨id, hids id (by simp [hr]), hr⟩
    rw [← hall] at hmem
    obtain ⟨s, hs, rfl⟩ := List.mem_map.1 hmem
    exact ⟨s, hs, h.shelf.keyed id _ hr⟩
  all_nodup {f v} h := by
    obtain ⟨ids, hnodup, -, hall, -⟩ := h.all_spec
    have hids : (all f).1.map Subscription.id = (ids.filterMap v).map SubscriptionRecord.id := by
      rw [← hall, List.map_map]
      rfl
    show ((all f).1.map Subscription.id).Nodup
    rw [hids]
    have hkeep : (ids.filterMap v).map SubscriptionRecord.id = ids.filterMap fun id => (v id).map (·.id) := by
      rw [List.map_filterMap]
    rw [hkeep]
    refine List.Nodup.filterMap (fun i j k hi hj => ?_) hnodup
    obtain ⟨r, hr, rfl⟩ := Option.map_eq_some_iff.1 hi
    obtain ⟨r', hr', heq⟩ := Option.map_eq_some_iff.1 hj
    rw [← h.shelf.keyed i r hr, ← h.shelf.keyed j r' hr', heq]
  all_holds h := by
    obtain ⟨-, -, -, -, hholds⟩ := h.all_spec
    exact hholds
  put_accepted {f v} h {s} hf {u} ha := by
    rcases h.put_spec hf with ⟨-, hput⟩ | ⟨⟨e, he⟩, -⟩
    · exact hput
    · cases he.symm.trans ha
  put_refused {f v} h {s e} ha := by
    have ha : (f.put s).1 = .error e := ha
    show (f.put s).2.InOrder v
    unfold put at ha ⊢
    rcases writeRecord_cases h.shelf s with ⟨e', hwrite, -⟩ | ⟨-, -, -, -, d, hwrite, -⟩
    · rw [hwrite]
      exact h
    · rw [hwrite] at ha
      cases ha
  put_known {f v} h {s} hf {r} hr := by
    rcases h.put_spec hf with ⟨hok, -⟩ | ⟨-, hnone, -⟩
    · exact hok
    · cases hr.symm.trans hnone
  delete_known {f v} h {id r} hr := h.delete_known hr
  delete_unknown {f v} h {id} hr := h.delete_unknown hr
  renew_known {f v} h {id r} hr t := h.renew_known hr t
  renew_unknown {f v} h {id} hr t := h.renew_unknown hr t

end FileStore

end EventBroker
