/-
What the store of record files cannot keep.

Two limits are not of the store's making. A file system takes no name of more than `Disk.maxNameLength` bytes, and a
reader of records enters no more than `MessagePack.maxDepth` levels. The store does not look for them beforehand.

- `put_too_long`, `delete_too_long`: an id that is too long for the names of its files is a fault of the disk.
- `put_unreadable`: a record that cannot be read back is stored, and lost when the directory is opened again;
  `put_pushed_out`: it is lost even before, once another subscription takes its place at hand.
- `DeliveryParameter.nested`: parameters nested so deep; `nested_fits_iff` says which of them fit.
-/
import EventBroker.Proofs.Store.Reopen

namespace EventBroker

open Function (update)

/-! ## Parameters nested deep -/

namespace DeliveryParameter

/-- a parameter with so many levels of children below it -/
def nested : (levels : Nat) → DeliveryParameter
  | 0 => ⟨"", "", "", []⟩
  | levels + 1 => ⟨"", "", "", [nested levels]⟩

theorem nested_fits_iff {levels depth : Nat} : (nested levels).Fits depth ↔ levels < depth := by
  have hempty : Short "" := by
    unfold Short
    decide
  induction levels generalizing depth with
  | zero =>
    cases depth with
    | zero => exact ⟨False.elim, fun h => absurd h (Nat.lt_irrefl 0)⟩
    | succ depth =>
      have hleaf : (nested 0).Fits (depth + 1) := ⟨hempty, hempty, hempty, by decide, fun c hc => by cases hc⟩
      exact ⟨fun _ => Nat.succ_pos depth, fun _ => hleaf⟩
  | succ levels ih =>
    cases depth with
    | zero => exact ⟨False.elim, fun h => absurd h (Nat.not_lt_zero _)⟩
    | succ depth =>
      constructor
      · rintro ⟨-, -, -, -, hchildren⟩
        exact Nat.succ_lt_succ (ih.1 (hchildren (nested levels) List.mem_cons_self))
      · intro h
        refine ⟨hempty, hempty, hempty, by simp [nested], fun c hc => ?_⟩
        rw [List.mem_singleton.1 hc]
        exact ih.2 (Nat.lt_of_succ_lt_succ h)

/-- five bytes for a level: two heads of sequences and three empty texts -/
theorem write_nested_length (levels : Nat) : (MessagePack.write (nested levels).toDatum).length = 5 * (levels + 1) := by
  have hempty : (MessagePack.write (.text "")).length = 1 := by decide
  induction levels with
  | zero => decide
  | succ levels ih =>
    have hsizes : (MessagePack.write (nested (levels + 1)).toDatum).length =
        1 + (3 * (MessagePack.write (.text "")).length + (1 + (MessagePack.write (nested levels).toDatum).length)) := by
      simp only [nested, toDatum, listToData, MessagePack.write, MessagePack.writeItems, List.length_append,
        List.length_cons, List.length_nil, MessagePack.seqHead]
      simp
      omega
    rw [hsizes, hempty, ih]
    omega

end DeliveryParameter

namespace FileStore

variable {f : FileStore} {v : Records}

/-! ## Names -/

/-- an id of so many letters -/
def letters (n : Nat) : String := String.ofList (List.replicate n 'a')

theorem letters_utf8ByteSize (n : Nat) : (letters n).utf8ByteSize = n := by
  have hbytes : (List.replicate n 'a').utf8Encode.size = n := by
    induction n with
    | zero => rfl
    | succ n ih =>
      have hletter : ['a'].utf8Encode.size = 1 := by decide
      rw [List.replicate_succ, List.utf8Encode_cons, ByteArray.size_append, hletter, ih, Nat.add_comm]
  unfold letters
  rw [← String.size_toByteArray, String.toByteArray_ofList, hbytes]

theorem isValidId_letters (n : Nat) : isValidId (letters (n + 1)) = true := by
  unfold isValidId letters
  rw [String.toList_ofList, List.replicate_succ]
  simp [List.all_replicate]

theorem recordName_letters_utf8ByteSize (n : Nat) : (recordName (letters n)).utf8ByteSize = n + 4 := by
  rw [recordName, String.utf8ByteSize_append, String.utf8ByteSize_append, letters_utf8ByteSize]
  rfl

theorem temporaryName_letters_utf8ByteSize (n : Nat) : (temporaryName (letters n)).utf8ByteSize = n + 8 := by
  rw [temporaryName, String.utf8ByteSize_append, String.utf8ByteSize_append, recordName_letters_utf8ByteSize]
  rfl

theorem isName_eq_false {n : String} (h : Disk.maxNameLength < n.utf8ByteSize) : Disk.isName n = false := by
  rw [← Bool.not_eq_true, isName_iff]
  exact fun hfits => absurd hfits.1 (Nat.not_le.2 h)

/-- a subscription whose temporary file has no name on the disk is not stored -/
theorem InOrder.put_too_long (h : f.InOrder v) {s : Subscription} (hid : isValidId s.id = true)
    (hname : Disk.isName (temporaryName s.id) = false) : f.put s = (.error foreignFault, f) := by
  unfold FileStore.put
  rw [writeRecord_too_long h.shelf hid hname]

/-- an id whose record has no name on the disk cannot be taken out, and the fault is that of the file system -/
theorem InOrder.delete_too_long (h : f.InOrder v) {id : String} (hid : isValidId id = true)
    (hname : Disk.isName (recordName id) = false) : f.delete id = (.error foreignFault, f) := by
  have hfind : f.disk.find (f.recordPath id) = .error .unusable := by
    unfold recordPath
    rw [Disk.find_child h.shelf.directory, hname]
    rfl
  have hread : f.readRecord id = .error foreignFault := by
    unfold readRecord Disk.read
    rw [hid, hfind]
    rfl
  have hv : v id = none := by
    by_contra hne
    obtain ⟨r, hr⟩ := Option.ne_none_iff_exists'.1 hne
    rw [(h.shelf.recordAt_eq_some hr).2.1] at hname
    cases hname
  have hload : f.load id = (.error foreignFault, f) := by rw [h.load_missing hv, hread]
  have hremove : f.removeRecord id = .error foreignFault := by
    unfold removeRecord Disk.removeFile
    rw [hfind]
    rfl
  unfold FileStore.delete
  rw [hload]
  dsimp only [foreignFault]
  rw [hremove]
  rfl

/-! ## Records -/

/-- a subscription that is stored and cannot be read back is gone when its directory is opened again -/
theorem InOrder.put_unreadable (h : f.InOrder v) {s : Subscription} (hid : isValidId s.id = true)
    (hname : Disk.isName (temporaryName s.id) = true) {e : BrokerError}
    (hunread : RecordFile.decode (RecordFile.encode s.toRecord) = .error e) (cacheSize : Nat) :
    (f.put s).1 = .ok () ∧
      ∃ f', (openAt (f.put s).2.close (f.put s).2.directory cacheSize).1 = .ok f' ∧ (f'.get s.id).1 = none := by
  obtain ⟨number, d, d', hwrite, hshelf, hsets, hlock⟩ := writeRecord_accepted h.shelf hid hname
  have hput := put_of_writeRecord hwrite
  obtain ⟨bytes, hbytes⟩ := h.lockFile
  have hlost : Shelf d' f.directory (update v s.id none) :=
    hshelf.sets_unreadable hsets hid (isName_recordName hname) hunread
  obtain ⟨f', hopen, -, hf'⟩ := Shelf.reopen (f := { f with disk := d', cache := f.cache.put s.id s }) hlost
    (hlock.trans hbytes) cacheSize
  rw [hput]
  refine ⟨rfl, f', congrArg Prod.fst hopen, ?_⟩
  have hget := (hf'.get_spec s.id).1
  rw [Function.update_self] at hget
  exact Option.map_eq_none_iff.1 hget

/-- with room for one at hand, a record that cannot be read back is found only until another subscription is stored -/
theorem InOrder.put_pushed_out (h : f.InOrder v) (hroom : f.cache.capacity = 1) {s t : Subscription}
    (hs : isValidId s.id = true ∧ Disk.isName (temporaryName s.id) = true)
    (ht : isValidId t.id = true ∧ Disk.isName (temporaryName t.id) = true) (hne : s.id ≠ t.id) (hfree : v t.id = none)
    {e : BrokerError} (hunread : RecordFile.decode (RecordFile.encode s.toRecord) = .error e) :
    ∃ f₁ f₂, f.put s = (.ok (), f₁) ∧ f₁.get t.id = (none, f₁) ∧ f₁.put t = (.ok (), f₂) ∧
      (f₂.get s.id).1 = none := by
  obtain ⟨number, d, d₁, hwrite, hshelf, hsets, -⟩ := writeRecord_accepted h.shelf hs.1 hs.2
  have hput := put_of_writeRecord hwrite
  set f₁ : FileStore := { f with disk := d₁, cache := f.cache.put s.id s }
  have hlost : Shelf f₁.disk f₁.directory (update v s.id none) :=
    hshelf.sets_unreadable hsets hs.1 (isName_recordName hs.2) hunread
  have hunknown : recordAt f₁.disk f₁.directory t.id = none := by
    rw [hlost.records, Function.update_of_ne hne.symm, hfree]
  obtain ⟨number', d', d₂, hwrite', hshelf', hsets', -⟩ := writeRecord_accepted hlost ht.1 ht.2
  have hgone : recordAt d₂ f₁.directory s.id = none := by
    have hdir : d₂.find f₁.directory = .ok .directory := hsets'.find_eq.trans hshelf'.directory
    rw [Shelf.recordAt_congr hshelf'.directory hdir (hsets'.node?_of_ne (recordName_inj.not.2 hne)), hshelf'.records,
      Function.update_self]
  refine ⟨f₁, _, hput, get_of_missing (Cache.find?_put_of_room hroom hne.symm) hunknown,
    put_of_writeRecord hwrite', ?_⟩
  rw [get_of_missing (Cache.find?_put_of_room (c := f₁.cache) hroom hne) hgone]

end FileStore

end EventBroker
