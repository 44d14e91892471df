/-
A directory opened again.

Opening removes temporary files and nothing else; the lock that a store held is free again when it is closed. So a
store that is closed and opened again, with whatever cache, has the same records.
-/
import EventBroker.Proofs.Store.File

namespace EventBroker

/-! ## Directories that are there -/

namespace Disk

variable {d d' : Disk} {dir : Path}

theorem walk_take {here : Path} {ns : List String} (h : d.walk here ns = .ok .directory) (k : Nat) :
    d.walk here (ns.take k) = .ok .directory := by
  induction ns generalizing here k with
  | nil => rwa [List.take_nil]
  | cons n ns ih =>
    rw [walk] at h
    cases hn : d.node? here with
    | none =>
      rw [hn] at h
      cases h
    | some node =>
      rw [hn] at h
      cases node with
      | file number bytes => cases h
      | directory =>
        dsimp only at h
        split at h
        · rename_i hname
          cases k with
          | zero =>
            rw [List.take_zero, walk, hn]
            rfl
          | succ k =>
            rw [List.take_succ_cons, walk, hn]
            dsimp only
            rw [if_pos hname]
            exact ih h k
        · cases h

theorem foldlM_eq_self {α β : Type} {f : β → α → Except DiskFault β} {b : β} {xs : List α}
    (h : ∀ x ∈ xs, f b x = .ok b) : xs.foldlM f b = .ok b := by
  induction xs with
  | nil => rfl
  | cons x xs ih =>
    rw [List.foldlM_cons, h x List.mem_cons_self]
    exact ih fun y hy => h y (List.mem_cons_of_mem x hy)

/-- a directory that is there need not be made -/
theorem makeDirectories_eq (h : d.find dir = .ok .directory) : d.makeDirectories dir = .ok d := by
  unfold makeDirectories
  refine foldlM_eq_self fun i _ => ?_
  have htaken : d.find (dir.take (i + 1)) = .ok .directory := walk_take h (i + 1)
  dsimp only
  rw [htaken]

theorem find_congr (h : ∀ p, d'.node? p = d.node? p) : d'.find dir = d.find dir := walk_congr fun p _ => h p

end Disk

namespace FileStore

variable {d d' : Disk} {dir : Path} {v : Records}

/-- locks have no part in what files tell -/
theorem Shelf.congr (h : Shelf d dir v) (hn : ∀ p, d'.node? p = d.node? p) : Shelf d' dir v := by
  have hdir : d'.find dir = .ok .directory := (Disk.find_congr hn).trans h.directory
  refine ⟨hdir, fun id => ?_, h.keyed, h.storable, h.roomy, fun n hne => ?_, fun n ext hext hor => ?_⟩
  · rw [recordAt_congr h.directory hdir (hn _)]
    exact h.records id
  · rw [hn] at hne
    exact h.named n hne
  · rw [hn]
    exact h.clear n ext hext hor

/-- a directory that has a lock file at most is in good order, and its files tell nothing -/
theorem Shelf.of_bare (hdir : d.find dir = .ok .directory) (hbare : ∀ n, d.node? (dir ++ [n]) ≠ none → n = lockName) :
    Shelf d dir fun _ => none := by
  refine ⟨hdir, fun id => ?_, by simp, by simp, fun id hid => absurd rfl hid, fun n hn => ?_, fun n ext hext _ => ?_⟩
  · unfold recordAt
    split
    · split
      · rename_i bytes hread
        obtain ⟨-, number, hnode⟩ := (Disk.read_child_eq_ok hdir).1 hread
        refine absurd (hbare (recordName id) ?_) recordName_ne_lockName
        rw [hnode]
        exact Option.some_ne_none _
      · rfl
    · rfl
  · rw [hbare n hn]
    exact isName_lockName
  · intro hnode
    have hlock : n = lockName := hbare n (by rw [hnode]; exact Option.some_ne_none _)
    rw [hlock, splitExtension_lockName] at hext
    cases hext

theorem lockFile_eq (h : d.find dir = .ok .directory) {number : Nat} {bytes : List UInt8}
    (hnode : d.node? (dir ++ [lockName]) = some (.file number bytes)) : lockFile d dir = .ok (number, d) := by
  unfold lockFile
  dsimp only
  rw [Disk.place_child h isName_lockName, hnode]
  rfl

/-- where no name is that of a temporary file, none is removed -/
theorem removeTemporary_of_none {ns : List String} (hns : ∀ n ∈ ns, (splitExtension n).2 ≠ some temporaryExtension) :
    removeTemporary dir ns d = (.ok (), d) := by
  induction ns with
  | nil => rfl
  | cons n ns ih =>
    rw [removeTemporary, if_neg (by simpa using hns n List.mem_cons_self)]
    exact ih fun m hm => hns m (List.mem_cons_of_mem n hm)

/-- removing temporary files removes no record -/
theorem removeTemporary_spec (h : Shelf d dir v) {ns : List String} (hnodup : ns.Nodup)
    (hns : ∀ n ∈ ns, d.node? (dir ++ [n]) ≠ none) :
    ∃ d', removeTemporary dir ns d = (.ok (), d') ∧ Shelf d' dir v ∧
      d'.node? (dir ++ [lockName]) = d.node? (dir ++ [lockName]) := by
  induction ns generalizing d with
  | nil => exact ⟨d, rfl, h, rfl⟩
  | cons n ns ih =>
    obtain ⟨hnot, hnodup⟩ := List.nodup_cons.1 hnodup
    rw [removeTemporary]
    by_cases htmp : (splitExtension n).2 = some temporaryExtension
    · rw [if_pos (by simpa using htmp)]
      have hnode := hns n List.mem_cons_self
      have hname := h.named n hnode
      have hclear := h.clear n temporaryExtension htmp (Or.inr rfl)
      obtain ⟨node, hsome⟩ := Option.ne_none_iff_exists'.1 hnode
      cases node with
      | directory => exact absurd hsome hclear
      | file number bytes =>
        obtain ⟨d₁, hremove, hsets⟩ := Disk.removeFile_child h.directory hname hsome
        have hrecord : ∀ id, n ≠ recordName id := by
          rintro id rfl
          exact splitExtension_recordName_ne id htmp
        have hlock : lockName ≠ n := by
          rintro rfl
          rw [splitExtension_lockName] at htmp
          cases htmp
        have h₁ : Shelf d₁ dir v := h.sets_other hsets hrecord (fun hne => absurd rfl hne) (by simp)
        obtain ⟨d', hrest, h', hlock'⟩ := ih h₁ hnodup fun m hm => by
          rw [hsets.node?_of_ne fun heq => hnot (heq ▸ hm)]
          exact hns m (List.mem_cons_of_mem n hm)
        refine ⟨d', ?_, h', hlock'.trans (hsets.node?_of_ne hlock)⟩
        rw [hremove]
        exact hrest
    · rw [if_neg (by simpa using htmp)]
      exact ih h hnodup fun m hm => hns m (List.mem_cons_of_mem n hm)

/-- a directory with a lock file that nobody has locked is opened, if what writes have left behind can be removed -/
theorem openAt_eq (hdir : d.find dir = .ok .directory) {number : Nat} {bytes : List UInt8}
    (hnode : d.node? (dir ++ [lockName]) = some (.file number bytes)) (hfree : number ∉ d.locks) {ns : List String}
    (hnames : { d with locks := number :: d.locks }.names dir = .ok ns) {d' : Disk}
    (hremove : removeTemporary dir ns { d with locks := number :: d.locks } = (.ok (), d')) (cacheSize : Nat) :
    openAt d dir cacheSize = (.ok ⟨d', dir, number, Cache.ofCapacity cacheSize⟩, d') := by
  have hlock : d.lock number = some { d with locks := number :: d.locks } := by
    unfold Disk.lock
    rw [if_neg (by simpa using hfree)]
  unfold openAt
  rw [Disk.makeDirectories_eq hdir]
  dsimp only
  rw [lockFile_eq hdir hnode]
  dsimp only
  rw [hlock]
  dsimp only
  rw [hnames]
  dsimp only [Except.toOption, Option.getD_some]
  rw [hremove]

/-- a directory in good order is opened, if nobody has it locked -/
theorem openAt_spec (h : Shelf d dir v) {number : Nat} {bytes : List UInt8}
    (hnode : d.node? (dir ++ [lockName]) = some (.file number bytes)) (hfree : number ∉ d.locks) (cacheSize : Nat) :
    ∃ f, openAt d dir cacheSize = (.ok f, f.disk) ∧ f.directory = dir ∧ f.InOrder v := by
  have hlocked : Shelf { d with locks := number :: d.locks } dir v := h.congr fun _ => rfl
  obtain ⟨ns, hnames, hnodup, hmem⟩ := Disk.names_child hlocked.directory
  obtain ⟨d', hremove, h', hlock'⟩ := removeTemporary_spec hlocked hnodup fun n hn => (hmem n).1 hn
  exact ⟨⟨d', dir, number, Cache.ofCapacity cacheSize⟩, openAt_eq h.directory hnode hfree hnames hremove cacheSize, rfl,
    h', ⟨bytes, hlock'.trans hnode⟩, fun id s hs => by cases hs⟩

/-- a store that was just opened has nothing at hand -/
theorem openAt_cache {f : FileStore} {cacheSize : Nat} (h : (openAt d dir cacheSize).1 = .ok f) :
    f.cache = Cache.ofCapacity cacheSize := by
  unfold openAt at h
  split at h
  · cases h
  · split at h
    · cases h
    · split at h
      · cases h
      · split at h
        · cases h
        · cases h
          rfl

/-- a directory can be opened again when its store is closed, whatever that store had at hand -/
theorem Shelf.reopen {f : FileStore} (h : Shelf f.disk f.directory v) {bytes : List UInt8}
    (hlock : f.disk.node? (f.directory ++ [lockName]) = some (.file f.lockNumber bytes)) (cacheSize : Nat) :
    ∃ f', openAt f.close f.directory cacheSize = (.ok f', f'.disk) ∧ f'.directory = f.directory ∧ f'.InOrder v := by
  have hclosed : Shelf f.close f.directory v := h.congr fun _ => rfl
  refine openAt_spec hclosed hlock (fun hmem => ?_) cacheSize
  simpa using (List.mem_filter.1 hmem).2

/-- **Reopening.** A store that is closed can be opened again, and has the same records. -/
theorem InOrder.reopen {f : FileStore} (h : f.InOrder v) (cacheSize : Nat) :
    ∃ f', openAt f.close f.directory cacheSize = (.ok f', f'.disk) ∧ f'.directory = f.directory ∧ f'.InOrder v := by
  obtain ⟨bytes, hlock⟩ := h.lockFile
  exact h.shelf.reopen hlock cacheSize

end FileStore

end EventBroker
