/-
What the store of record files leaves alone.

An operation with an id touches the record of that id and its temporary file, and nothing else on the disk. Opening a
directory adds no file to it but the lock file.

- `Touches`: two stores differ on the disk in the files of one id at most. `put_touches`, `delete_touches` and
  `renew_touches` say so of the operations.
- `openAt_finds`: what is in a directory that was opened again has been there before.
-/
import EventBroker.Proofs.Store.Reopen

namespace EventBroker

/-! ## Files -/

namespace Disk

variable {d d' : Disk} {p q r : Path}

theorem node?_insert_of_ne (h : q ≠ p) (node : Node) (nextNumber : Nat) :
    node? { d with nodes := d.nodes.insert p node, nextNumber } q = d.node? q := by
  unfold node?
  rw [Table.find?_insert, if_neg h]

theorem node?_erase_of_ne (h : q ≠ p) : node? { d with nodes := d.nodes.erase p } q = d.node? q := by
  unfold node?
  rw [Table.find?_erase, if_neg h]

theorem write_node? {bytes : List UInt8} (hd : d.write p bytes = .ok d') (h : q ≠ p) : d'.node? q = d.node? q := by
  unfold write at hd
  split at hd
  · cases hd
  · cases hd
    exact node?_insert_of_ne h _ _
  · cases hd
    exact node?_insert_of_ne h _ _

theorem rename_node? (hd : d.rename p q = .ok d') (hp : r ≠ p) (hq : r ≠ q) : d'.node? r = d.node? r := by
  unfold rename at hd
  split at hd
  · cases hd
    exact (node?_insert_of_ne (d := { d with nodes := d.nodes.erase p }) hq _ _).trans (node?_erase_of_ne hp)
  · cases hd
  · cases hd
  · cases hd

theorem removeFile_node? (hd : d.removeFile p = .ok d') (h : q ≠ p) : d'.node? q = d.node? q := by
  unfold removeFile at hd
  split at hd
  · cases hd
    exact node?_erase_of_ne h
  · cases hd
  · cases hd

end Disk

namespace FileStore

/-! ## Changes -/

/-- nothing on the disk differs but the files of an id -/
structure Touches (f f' : FileStore) (id : String) : Prop where
  directory : f'.directory = f.directory
  nodes : ∀ p, p ≠ f.recordPath id → p ≠ f.temporaryPath id → f'.disk.node? p = f.disk.node? p

namespace Touches

variable {f f' f'' : FileStore} {id : String}

theorem of_disk_eq (hdir : f'.directory = f.directory) (hdisk : f'.disk = f.disk) (id : String) : f.Touches f' id :=
  ⟨hdir, fun p _ _ => congrArg (Disk.node? · p) hdisk⟩

/-- the cache has no part in it -/
theorem trans_disk_eq (h : f.Touches f' id) (hdir : f''.directory = f'.directory) (hdisk : f''.disk = f'.disk) :
    f.Touches f'' id :=
  ⟨hdir.trans h.directory, fun p hr ht => (congrArg (Disk.node? · p) hdisk).trans (h.nodes p hr ht)⟩

/-- records of other ids stay -/
theorem record_eq (h : f.Touches f' id) {k : String} (hk : k ≠ id) :
    f'.disk.node? (f.recordPath k) = f.disk.node? (f.recordPath k) := by
  refine h.nodes _ (fun heq => ?_) fun heq => ?_
  · exact hk (recordName_inj.1 (Disk.child_inj.1 heq))
  · exact temporaryName_ne_recordName (Disk.child_inj.1 heq).symm

end Touches

variable {f : FileStore}

theorem writeRecord_touches (f : FileStore) (s : Subscription) : f.Touches (f.writeRecord s).2 s.id := by
  unfold writeRecord
  split
  · exact .of_disk_eq rfl rfl _
  · split
    · exact .of_disk_eq rfl rfl _
    · rename_i d hwrite
      split
      · exact ⟨rfl, fun p _ ht => Disk.write_node? hwrite ht⟩
      · rename_i d' hrename
        exact ⟨rfl, fun p hr ht => (Disk.rename_node? hrename ht hr).trans (Disk.write_node? hwrite ht)⟩

theorem removeRecord_eq_ok {f' : FileStore} {id : String} (h : f.removeRecord id = .ok f') :
    ∃ d, f.disk.removeFile (f.recordPath id) = .ok d ∧ f' = { f with disk := d } := by
  unfold removeRecord onDisk at h
  cases hd : f.disk.removeFile (f.recordPath id) with
  | error e =>
    rw [hd] at h
    cases h
  | ok d =>
    rw [hd] at h
    cases h
    exact ⟨d, rfl, rfl⟩

theorem removeRecord_touches {f' : FileStore} {id : String} (h : f.removeRecord id = .ok f') : f.Touches f' id := by
  obtain ⟨d, hd, rfl⟩ := removeRecord_eq_ok h
  exact ⟨rfl, fun p hr _ => Disk.removeFile_node? hd hr⟩

theorem put_touches (f : FileStore) (s : Subscription) : f.Touches (f.put s).2 s.id := by
  have hwrite := f.writeRecord_touches s
  unfold put
  split
  · rename_i h
    rw [h] at hwrite
    exact hwrite.trans_disk_eq rfl rfl
  · rename_i h
    rw [h] at hwrite
    exact hwrite

/-- what is loaded was not touched before -/
theorem Touches.of_load {f' f'' : FileStore} {id k : String} (hload : (f.load id).2 = f') (h : f'.Touches f'' k) :
    f.Touches f'' k := by
  have heq := f.load_eq id
  rw [hload] at heq
  rw [heq] at h
  exact ⟨h.directory, h.nodes⟩

theorem delete_touches (f : FileStore) (id : String) : f.Touches (f.delete id).2 id := by
  have hsame : ∀ f' : FileStore, f'.Touches f' id := fun f' => .of_disk_eq rfl rfl id
  unfold delete
  split
  · rename_i h
    exact .of_load (congrArg Prod.snd h) (hsame _)
  · rename_i h
    exact .of_load (congrArg Prod.snd h) (hsame _)
  · rename_i h
    refine .of_load (congrArg Prod.snd h) ?_
    split
    · rename_i hremove
      exact removeRecord_touches hremove
    · exact hsame _
  · rename_i s f' h
    refine .of_load (congrArg Prod.snd h) ?_
    dsimp only
    split
    · rename_i hremove
      have hremoved := removeRecord_touches hremove
      exact ⟨hremoved.directory, hremoved.nodes⟩
    · exact ⟨rfl, fun _ _ _ => rfl⟩

/-- a renewal writes what was loaded, and so touches the files of its id -/
theorem renew_touches {id : String} (hid : ∀ s, (f.load id).1 = .ok (some s) → s.id = id) (t : Timestamp) :
    f.Touches (f.renew id t).2 id := by
  unfold renew
  split
  · rename_i s f' h
    refine .of_load (congrArg Prod.snd h) ?_
    have hwrite := f'.writeRecord_touches (s.renewed t)
    have hkey : (s.renewed t).id = id := hid s (congrArg Prod.fst h)
    rw [hkey] at hwrite
    split
    · rename_i h'
      rw [h'] at hwrite
      exact hwrite.trans_disk_eq rfl rfl
    · rename_i h'
      rw [h'] at hwrite
      exact hwrite
  · rename_i h
    exact .of_load (congrArg Prod.snd h) (.of_disk_eq rfl rfl id)

/-- a subscription that was taken out has no file any more -/
theorem delete_removes {id : String} {s : Subscription} (h : (f.delete id).1 = .ok s) :
    (f.delete id).2.disk.node? (f.recordPath id) = none := by
  have heq := f.load_eq id
  unfold delete at h ⊢
  split at h
  · cases h
  · cases h
  · split at h
    · cases h
    · cases h
  · rename_i s' f' hload
    rw [hload] at heq
    dsimp only at heq h ⊢
    split at h
    · rename_i f'' hremove
      obtain ⟨d, hd, rfl⟩ := removeRecord_eq_ok hremove
      have hpath : f'.recordPath id = f.recordPath id := by
        rw [heq]
        rfl
      exact hpath ▸ (Disk.removeFile_sets hd).node?_self
    · cases h

/-! ## Opening -/

variable {d d' : Disk} {dir : Path}

theorem removeTemporary_finds {ns : List String} {a : Except BrokerError Unit} (h : removeTemporary dir ns d = (a, d'))
    {p : Path} (hp : d'.node? p ≠ none) : d.node? p = d'.node? p := by
  induction ns generalizing d with
  | nil =>
    cases h
    rfl
  | cons n ns ih =>
    rw [removeTemporary] at h
    split at h
    · split at h
      · rename_i d₁ hremove
        have hrest := ih h
        have hsets := Disk.removeFile_sets hremove
        rw [← hrest, hsets.nodes, if_neg]
        rintro rfl
        rw [← hrest, hsets.node?_self] at hp
        exact hp rfl
      · cases h
        rfl
    · exact ih h

/-- no temporary file of these names is left -/
theorem removeTemporary_clears {ns : List String} (h : removeTemporary dir ns d = (.ok (), d')) {n : String}
    (hn : n ∈ ns) (htmp : (splitExtension n).2 = some temporaryExtension) : d'.node? (dir ++ [n]) = none := by
  by_contra hleft
  induction ns generalizing d with
  | nil => cases hn
  | cons m ms ih =>
    rw [removeTemporary] at h
    split at h
    · split at h
      · rename_i d₁ hremove
        rcases List.mem_cons.1 hn with rfl | hn
        · have hgone := (Disk.removeFile_sets hremove).node?_self
          rw [removeTemporary_finds h hleft] at hgone
          exact hleft hgone
        · exact ih h hn
      · cases h
    · rename_i hother
      rcases List.mem_cons.1 hn with rfl | hn
      · simp [htmp] at hother
      · exact ih h hn

/-- opening a directory that is there sees to the lock file, locks it and removes temporary files -/
theorem openAt_steps (hdir : d.find dir = .ok .directory) {cacheSize : Nat} {f : FileStore}
    (hf : (openAt d dir cacheSize).1 = .ok f) :
    ∃ d₁ d₂, lockFile d dir = .ok (f.lockNumber, d₁) ∧ (∀ p, d₂.node? p = d₁.node? p) ∧
      removeTemporary dir ((d₂.names dir).toOption.getD []) d₂ = (.ok (), f.disk) ∧
      f = ⟨f.disk, dir, f.lockNumber, Cache.ofCapacity cacheSize⟩ := by
  unfold openAt at hf
  rw [Disk.makeDirectories_eq hdir] at hf
  dsimp only at hf
  split at hf
  · cases hf
  · rename_i number d₁ hlock
    split at hf
    · cases hf
    · rename_i d₂ hlocked
      have hnodes : ∀ q, d₂.node? q = d₁.node? q := by
        unfold Disk.lock at hlocked
        split at hlocked
        · cases hlocked
        · cases hlocked
          exact fun _ => rfl
      split at hf
      · cases hf
      · rename_i hremove
        cases hf
        exact ⟨d₁, d₂, hlock, hnodes, hremove, rfl⟩

/-- opening a directory that was opened before removes temporary files -/
theorem openAt_removes (hdir : d.find dir = .ok .directory) {number : Nat} {bytes : List UInt8}
    (hlock : d.node? (dir ++ [lockName]) = some (.file number bytes)) {cacheSize : Nat} {f : FileStore}
    (hf : (openAt d dir cacheSize).1 = .ok f) :
    ∃ d₁, (∀ p, d₁.node? p = d.node? p) ∧
      removeTemporary dir ((d₁.names dir).toOption.getD []) d₁ = (.ok (), f.disk) := by
  obtain ⟨d₁, d₂, hlocked, hnodes, hremove, -⟩ := openAt_steps hdir hf
  rw [lockFile_eq hdir hlock] at hlocked
  cases hlocked
  exact ⟨d₂, hnodes, hremove⟩

/-- nothing is new in a directory that was opened before -/
theorem openAt_finds (hdir : d.find dir = .ok .directory) {number : Nat} {bytes : List UInt8}
    (hlock : d.node? (dir ++ [lockName]) = some (.file number bytes)) {cacheSize : Nat} {f : FileStore}
    (hf : (openAt d dir cacheSize).1 = .ok f) {p : Path} (hp : f.disk.node? p ≠ none) :
    d.node? p = f.disk.node? p := by
  obtain ⟨d₁, hnodes, hremove⟩ := openAt_removes hdir hlock hf
  rw [← hnodes p]
  exact removeTemporary_finds hremove hp

/-- no temporary file is left in a directory that was opened -/
theorem openAt_clears (hdir : d.find dir = .ok .directory) {number : Nat} {bytes : List UInt8}
    (hlock : d.node? (dir ++ [lockName]) = some (.file number bytes)) {cacheSize : Nat} {f : FileStore}
    (hf : (openAt d dir cacheSize).1 = .ok f) {n : String} (htmp : (splitExtension n).2 = some temporaryExtension) :
    f.disk.node? (dir ++ [n]) = none := by
  obtain ⟨d₁, hnodes, hremove⟩ := openAt_removes hdir hlock hf
  obtain ⟨ns, hnames, -, hmem⟩ := Disk.names_child ((Disk.find_congr hnodes).trans hdir)
  rw [hnames] at hremove
  by_contra hleft
  have hthere : d₁.node? (dir ++ [n]) ≠ none := by
    rw [removeTemporary_finds hremove hleft]
    exact hleft
  exact hleft (removeTemporary_clears hremove ((hmem n).2 hthere) htmp)

/-- a directory that is there and has nothing in it -/
structure Bare (d : Disk) (dir : Path) : Prop where
  directory : d.find dir = .ok .directory
  empty : ∀ n, d.node? (dir ++ [n]) = none
  /-- nobody holds a lock on a file that is yet to be made -/
  unlocked : d.nextNumber ∉ d.locks

/-- opening an empty directory puts the lock file there, and then it is a directory like any other -/
theorem openAt_bare (h : Bare d dir) (cacheSize : Nat) :
    ∃ f, (openAt d dir cacheSize).1 = .ok f ∧ f.directory = dir ∧ f.InOrder (fun _ => none) ∧
      ∀ n, f.disk.node? (dir ++ [n]) ≠ none → n = lockName := by
  let d₁ : Disk := { d with
    nodes := d.nodes.insert (dir ++ [lockName]) (.file d.nextNumber []), nextNumber := d.nextNumber + 1 }
  have hsets : Disk.Sets d d₁ dir lockName (some (.file d.nextNumber [])) := Disk.sets_insert _ _
  have hdir : d₁.find dir = .ok .directory := hsets.find_eq.trans h.directory
  have hbare : ∀ n, d₁.node? (dir ++ [n]) ≠ none → n = lockName := by
    intro n hn
    by_contra hne
    rw [hsets.node?_of_ne hne] at hn
    exact hn (h.empty n)
  have hlock : lockFile d dir = .ok (d.nextNumber, d₁) := by
    have hplace : d.place (dir ++ [lockName]) = .ok none := by
      rw [Disk.place_child h.directory isName_lockName, h.empty]
    unfold lockFile Disk.write
    dsimp only
    rw [hplace]
    rfl
  have hsame : openAt d dir cacheSize = openAt d₁ dir cacheSize := by
    unfold openAt
    rw [Disk.makeDirectories_eq h.directory, Disk.makeDirectories_eq hdir]
    dsimp only
    rw [hlock, lockFile_eq hdir hsets.node?_self]
  obtain ⟨f, hopen, hf, horder⟩ := openAt_spec (Shelf.of_bare hdir hbare) hsets.node?_self h.unlocked cacheSize
  have hok : (openAt d₁ dir cacheSize).1 = .ok f := congrArg Prod.fst hopen
  refine ⟨f, hsame ▸ hok, hf, horder, fun n hn => hbare n ?_⟩
  rw [openAt_finds hdir hsets.node?_self hok hn]
  exact hn

end FileStore

end EventBroker
