/-
What is done with an id stays in the files of that id.

Ids come from anywhere, and a record is in a file that is named after one. An id that is not safe is refused without a
look at the disk. An operation with any other changes the record of the id and its temporary file at most, and it is
blind for all the rest: on two disks that differ elsewhere it answers the same and does the same.

- `Disk.Agree`: two disks have the same at some names of a directory. `Agree.write`, `Agree.rename` and
  `Agree.removeFile` say that operations on these names cannot tell the disks apart.
- `Within`: an operation keeps to the files of an id; `Confined`: all that take an id do; `Refuses`: none does anything.
- `Named`, `Apart`: the names of the files of one id, and of two.
- `confined_to_id` puts them together.
-/
import Mathlib.Data.String.Basic
import EventBroker.Proofs.Store.Own

namespace EventBroker

/-! ## Disks that agree on some names -/

/-- what can be told of a node; the number of a file cannot -/
def Node.contents : Node → Option (List UInt8)
  | .directory => none
  | .file _ bytes => some bytes

namespace Disk

variable {d d' d₁ d₁' : Disk} {dir : Path} {n m : String} {ns : List String}

/-- the same is found at a path -/
def Alike (d d' : Disk) (p : Path) : Prop := (d'.find p).map Node.contents = (d.find p).map Node.contents

/-- what is found on one disk is found on the other -/
theorem alike_cases {p : Path} (h : d.Alike d' p) :
    (∃ e, d.find p = .error e ∧ d'.find p = .error e) ∨
      (d.find p = .ok .directory ∧ d'.find p = .ok .directory) ∨
      ∃ bytes number number', d.find p = .ok (.file number bytes) ∧ d'.find p = .ok (.file number' bytes) := by
  unfold Alike at h
  cases hd : d.find p with
  | error e =>
    rw [hd] at h
    cases hd' : d'.find p with
    | error e' =>
      rw [hd'] at h
      cases h
      exact Or.inl ⟨e, rfl, rfl⟩
    | ok node' =>
      rw [hd'] at h
      cases h
  | ok node =>
    rw [hd] at h
    cases hd' : d'.find p with
    | error e' =>
      rw [hd'] at h
      cases h
    | ok node' =>
      rw [hd'] at h
      have hsame : node'.contents = node.contents := Except.ok.inj h
      cases node with
      | directory =>
        cases node' with
        | directory => exact Or.inr (Or.inl ⟨rfl, rfl⟩)
        | file number' bytes' => cases hsame
      | file number bytes =>
        cases node' with
        | directory => cases hsame
        | file number' bytes' =>
          cases hsame
          exact Or.inr (Or.inr ⟨bytes, number, number', rfl, rfl⟩)

theorem Alike.read {p : Path} (h : d.Alike d' p) : d'.read p = d.read p := by
  unfold Disk.read
  rcases alike_cases h with ⟨e, hd, hd'⟩ | ⟨hd, hd'⟩ | ⟨bytes, number, number', hd, hd'⟩ <;> rw [hd, hd']

/-- two disks have the same at these names of a directory -/
structure Agree (d d' : Disk) (dir : Path) (ns : List String) : Prop where
  directory : d.Alike d' dir
  names : ∀ n ∈ ns, d.Alike d' (dir ++ [n])

namespace Agree

theorem find_directory (h : d.Agree d' dir ns) (hdir : d.find dir = .ok .directory) : d'.find dir = .ok .directory := by
  rcases alike_cases h.directory with ⟨e, hd, -⟩ | ⟨-, hd'⟩ | ⟨bytes, number, number', hd, -⟩
  · cases hdir.symm.trans hd
  · exact hd'
  · cases hdir.symm.trans hd

/-- a name is free or taken on both disks, or of no use on both -/
theorem place (h : d.Agree d' dir ns) (hn : n ∈ ns) :
    (∃ e, d.place (dir ++ [n]) = .error e ∧ d'.place (dir ++ [n]) = .error e) ∨
      ∃ other other', d.place (dir ++ [n]) = .ok other ∧ d'.place (dir ++ [n]) = .ok other' := by
  unfold Disk.place
  rw [parent_child]
  rcases alike_cases h.directory with ⟨e, hd, hd'⟩ | ⟨hd, hd'⟩ | ⟨bytes, number, number', hd, hd'⟩
  · rw [hd, hd']
    exact Or.inl ⟨e, rfl, rfl⟩
  · rw [hd, hd']
    rcases alike_cases (h.names n hn) with ⟨e, hn, hn'⟩ | ⟨hn, hn'⟩ | ⟨bytes, number, number', hn, hn'⟩
    · rw [hn, hn']
      cases e with
      | missing => exact Or.inr ⟨none, none, rfl, rfl⟩
      | unusable => exact Or.inl ⟨.unusable, rfl, rfl⟩
    · rw [hn, hn']
      exact Or.inl ⟨.unusable, rfl, rfl⟩
    · rw [hn, hn']
      exact Or.inr ⟨some number, some number', rfl, rfl⟩
  · rw [hd, hd']
    exact Or.inl ⟨.unusable, rfl, rfl⟩

/-- disks that agree still do after the same has come to a name on both, or has gone from it -/
theorem sets (h : d.Agree d' dir ns) (hdir : d.find dir = .ok .directory) {node node' : Option Node}
    (hs : Sets d d₁ dir n node) (hs' : Sets d' d₁' dir n node')
    (hnode : node'.map Node.contents = node.map Node.contents) : d₁.Agree d₁' dir ns := by
  have hdir' := h.find_directory hdir
  have hfound (x : Option Node) : (x.elim (.error .missing) .ok : Except DiskFault Node).map Node.contents =
      (x.map Node.contents).elim (.error .missing) .ok := by cases x <;> rfl
  refine ⟨?_, fun m hm => ?_⟩
  · unfold Alike
    rw [hs.find_eq, hs'.find_eq]
    exact h.directory
  · have hbefore := h.names m hm
    unfold Alike at hbefore ⊢
    rw [find_child (hs.find_eq.trans hdir), find_child (hs'.find_eq.trans hdir')]
    by_cases hmn : m = n
    · rw [hmn, hs.node?_self, hs'.node?_self]
      split
      · rw [hfound, hfound, hnode]
      · rfl
    · rw [hs.node?_of_ne hmn, hs'.node?_of_ne hmn, ← find_child hdir, ← find_child hdir']
      exact hbefore

theorem write (h : d.Agree d' dir ns) (hn : n ∈ ns) (bytes : List UInt8) :
    (∃ e, d.write (dir ++ [n]) bytes = .error e ∧ d'.write (dir ++ [n]) bytes = .error e) ∨
      ∃ d₁ d₁', d.write (dir ++ [n]) bytes = .ok d₁ ∧ d'.write (dir ++ [n]) bytes = .ok d₁' ∧
        d₁.Agree d₁' dir ns := by
  have hwrites {c : Disk} {other : Option Nat} (hc : c.place (dir ++ [n]) = .ok other) :
      ∃ number c₁, c.write (dir ++ [n]) bytes = .ok c₁ ∧ Sets c c₁ dir n (some (.file number bytes)) := by
    unfold Disk.write
    rw [hc]
    cases other with
    | none => exact ⟨_, _, rfl, sets_insert _ _⟩
    | some number => exact ⟨_, _, rfl, sets_insert _ _⟩
  rcases h.place hn with ⟨e, hd, hd'⟩ | ⟨other, other', hd, hd'⟩
  · refine Or.inl ⟨e, ?_, ?_⟩
    · unfold Disk.write
      rw [hd]
    · unfold Disk.write
      rw [hd']
  · obtain ⟨number, d₁, hwrite, hs⟩ := hwrites hd
    obtain ⟨number', d₁', hwrite', hs'⟩ := hwrites hd'
    exact Or.inr ⟨d₁, d₁', hwrite, hwrite', h.sets (place_parent hd) hs hs' rfl⟩

theorem rename (h : d.Agree d' dir ns) (hn : n ∈ ns) (hm : m ∈ ns) :
    (∃ e, d.rename (dir ++ [n]) (dir ++ [m]) = .error e ∧ d'.rename (dir ++ [n]) (dir ++ [m]) = .error e) ∨
      ∃ d₁ d₁', d.rename (dir ++ [n]) (dir ++ [m]) = .ok d₁ ∧ d'.rename (dir ++ [n]) (dir ++ [m]) = .ok d₁' ∧
        d₁.Agree d₁' dir ns := by
  unfold Disk.rename
  rcases alike_cases (h.names n hn) with ⟨e, hd, hd'⟩ | ⟨hd, hd'⟩ | ⟨bytes, number, number', hd, hd'⟩
  · rw [hd, hd']
    exact Or.inl ⟨e, rfl, rfl⟩
  · rw [hd, hd']
    exact Or.inl ⟨.unusable, rfl, rfl⟩
  · rw [hd, hd']
    rcases h.place hm with ⟨e, hp, hp'⟩ | ⟨other, other', hp, hp'⟩
    · rw [hp, hp']
      exact Or.inl ⟨e, rfl, rfl⟩
    · rw [hp, hp']
      have hdir := find_parent hd
      have hsets : Sets d { d with nodes := d.nodes.erase (dir ++ [n]) } dir n none := sets_erase
      have hgone := h.sets hdir hsets (sets_erase (d := d')) rfl
      exact Or.inr ⟨_, _, rfl, rfl, hgone.sets (hsets.find_eq.trans hdir) (sets_insert _ _) (sets_insert _ _) rfl⟩

theorem removeFile (h : d.Agree d' dir ns) (hn : n ∈ ns) :
    (∃ e, d.removeFile (dir ++ [n]) = .error e ∧ d'.removeFile (dir ++ [n]) = .error e) ∨
      ∃ d₁ d₁', d.removeFile (dir ++ [n]) = .ok d₁ ∧ d'.removeFile (dir ++ [n]) = .ok d₁' ∧ d₁.Agree d₁' dir ns := by
  unfold Disk.removeFile
  rcases alike_cases (h.names n hn) with ⟨e, hd, hd'⟩ | ⟨hd, hd'⟩ | ⟨bytes, number, number', hd, hd'⟩
  · rw [hd, hd']
    exact Or.inl ⟨e, rfl, rfl⟩
  · rw [hd, hd']
    exact Or.inl ⟨.unusable, rfl, rfl⟩
  · rw [hd, hd']
    exact Or.inr ⟨_, _, rfl, rfl, h.sets (find_parent hd) sets_erase sets_erase rfl⟩

end Agree

end Disk

namespace FileStore

variable {f f' g : FileStore} {id : String}

/-! ## What an operation looks at -/

/-- two stores have the same at hand, and their disks agree on the files of an id -/
structure SameFor (f g : FileStore) (id : String) : Prop where
  directory : g.directory = f.directory
  cache : g.cache = f.cache
  files : f.disk.Agree g.disk f.directory [recordName id, temporaryName id]

/-- the answer is the same, and so are the stores afterwards -/
def Answers {α : Type} (id : String) (x y : α × FileStore) : Prop := y.1 = x.1 ∧ x.2.SameFor y.2 id

theorem answers_cases {α : Type} {x y : α × FileStore} (h : Answers id x y) :
    ∃ a f' g', x = (a, f') ∧ y = (a, g') ∧ f'.SameFor g' id :=
  ⟨x.1, x.2, y.2, rfl, Prod.ext h.1 rfl, h.2⟩

namespace SameFor

theorem cached (h : f.SameFor g id) (c : Cache) : SameFor { f with cache := c } { g with cache := c } id :=
  ⟨h.directory, rfl, h.files⟩

theorem onDisk (h : f.SameFor g id) {d d' : Disk} (hd : d.Agree d' f.directory [recordName id, temporaryName id]) :
    SameFor { f with disk := d } { g with disk := d', directory := f.directory } id := ⟨rfl, h.cache, hd⟩

theorem readRecord (h : f.SameFor g id) : g.readRecord id = f.readRecord id := by
  have hread := (h.files.names (recordName id) (by simp)).read
  unfold FileStore.readRecord recordPath
  rw [h.directory, hread]

theorem load (h : f.SameFor g id) : Answers id (f.load id) (g.load id) := by
  unfold FileStore.load
  rw [h.cache, h.readRecord]
  split
  · exact ⟨rfl, h.cached _⟩
  · split
    · exact ⟨rfl, h.cached _⟩
    · exact ⟨rfl, h⟩

theorem writeRecord {s : Subscription} (h : f.SameFor g s.id) : Answers s.id (f.writeRecord s) (g.writeRecord s) := by
  unfold FileStore.writeRecord temporaryPath recordPath
  rw [h.directory]
  split
  · exact ⟨rfl, h⟩
  · rcases h.files.write (n := temporaryName s.id) (by simp) (RecordFile.encode s.toRecord) with
      ⟨e, hwrite, hwrite'⟩ | ⟨d, d', hwrite, hwrite', hwritten⟩
    · rw [hwrite, hwrite']
      exact ⟨rfl, h⟩
    · rw [hwrite, hwrite']
      dsimp only
      rcases hwritten.rename (n := temporaryName s.id) (m := recordName s.id) (by simp) (by simp) with
        ⟨e, hrename, hrename'⟩ | ⟨d₂, d₂', hrename, hrename', hrenamed⟩
      · rw [hrename, hrename']
        exact ⟨rfl, h.onDisk hwritten⟩
      · rw [hrename, hrename']
        exact ⟨rfl, h.onDisk hrenamed⟩

theorem removeRecord (h : f.SameFor g id) :
    (∃ e, f.removeRecord id = .error e ∧ g.removeRecord id = .error e) ∨
      ∃ f' g', f.removeRecord id = .ok f' ∧ g.removeRecord id = .ok g' ∧ f'.SameFor g' id := by
  unfold FileStore.removeRecord recordPath
  rw [h.directory]
  rcases h.files.removeFile (n := recordName id) (by simp) with ⟨e, hd, hd'⟩ | ⟨d, d', hd, hd', hagree⟩
  · rw [hd, hd']
    exact Or.inl ⟨foreignFault, rfl, rfl⟩
  · rw [hd, hd']
    exact Or.inr ⟨_, _, rfl, rfl, h.onDisk hagree⟩

theorem put {s : Subscription} (h : f.SameFor g s.id) : Answers s.id (f.put s) (g.put s) := by
  obtain ⟨a, f', g', hwrite, hwrite', hsame⟩ := answers_cases h.writeRecord
  unfold FileStore.put
  rw [hwrite, hwrite']
  cases a with
  | error e => exact ⟨rfl, hsame⟩
  | ok _ =>
    dsimp only
    rw [hsame.cache]
    exact ⟨rfl, hsame.cached _⟩

theorem get (h : f.SameFor g id) : Answers id (f.get id) (g.get id) := by
  obtain ⟨a, f', g', hload, hload', hsame⟩ := answers_cases h.load
  unfold FileStore.get
  rw [hload, hload']
  cases a with
  | error e => exact ⟨rfl, hsame⟩
  | ok s => exact ⟨rfl, hsame⟩

theorem delete (h : f.SameFor g id) : Answers id (f.delete id) (g.delete id) := by
  obtain ⟨a, f', g', hload, hload', hsame⟩ := answers_cases h.load
  unfold FileStore.delete
  rw [hload, hload']
  cases a with
  | error e =>
    cases e with
    | invalidSubscriptionId i => exact ⟨rfl, hsame⟩
    | _ =>
      dsimp only
      rcases hsame.removeRecord with ⟨e', hr, hr'⟩ | ⟨f'', g'', hr, hr', hremoved⟩
      · rw [hr, hr']
        exact ⟨rfl, hsame⟩
      · rw [hr, hr']
        exact ⟨rfl, hremoved⟩
  | ok found =>
    cases found with
    | none => exact ⟨rfl, hsame⟩
    | some s =>
      dsimp only
      rw [hsame.cache]
      have hwithout := hsame.cached (f'.cache.remove id)
      rcases hwithout.removeRecord with ⟨e', hr, hr'⟩ | ⟨f'', g'', hr, hr', hremoved⟩
      · rw [hr, hr']
        exact ⟨rfl, hwithout⟩
      · rw [hr, hr']
        exact ⟨rfl, hremoved⟩

/-- what is renewed is written under the id that was loaded, and so that has to be the id that was asked for -/
theorem renew (h : f.SameFor g id) (hown : ∀ s, (f.load id).1 = .ok (some s) → s.id = id) (t : Timestamp) :
    Answers id (f.renew id t) (g.renew id t) := by
  obtain ⟨a, f', g', hload, hload', hsame⟩ := answers_cases h.load
  rw [hload] at hown
  unfold FileStore.renew
  rw [hload, hload']
  cases a with
  | error e => exact ⟨rfl, hsame⟩
  | ok found =>
    cases found with
    | none => exact ⟨rfl, hsame⟩
    | some s =>
      have hid : (s.renewed t).id = id := hown s rfl
      rw [← hid] at hsame
      obtain ⟨b, f'', g'', hwrite, hwrite', hwritten⟩ := answers_cases hsame.writeRecord
      dsimp only
      rw [hwrite, hwrite']
      rw [hid] at hwritten
      cases b with
      | error e => exact ⟨rfl, hwritten⟩
      | ok _ =>
        dsimp only
        rw [hwritten.cache]
        exact ⟨rfl, hwritten.cached _⟩

end SameFor

/-- an operation keeps to the files of an id: it changes no others, and whatever others there are, it does the same -/
structure Within {α : Type} (f : FileStore) (id : String) (op : FileStore → α × FileStore) : Prop where
  touches : f.Touches (op f).2 id
  blind : ∀ g, f.SameFor g id → Answers id (op f) (op g)

/-- what is done with an id is done in its files -/
structure Confined (f : FileStore) (id : String) : Prop where
  put : ∀ s : Subscription, s.id = id → f.Within id (FileStore.put · s)
  get : f.Within id (FileStore.get · id)
  delete : f.Within id (FileStore.delete · id)
  renew : ∀ t, f.Within id (FileStore.renew · id t)

theorem get_touches (f : FileStore) (id : String) : f.Touches (f.get id).2 id := by
  refine .of_disk_eq ?_ ?_ id
  · rw [f.get_eq id]
  · rw [f.get_eq id]

theorem Clean.confined (h : f.Clean) (id : String) : f.Confined id := by
  have hown : ∀ s, (f.load id).1 = .ok (some s) → s.id = id := fun s hs => ((h.load rfl).2 s hs).2
  refine ⟨?_, ⟨f.get_touches id, fun g hg => hg.get⟩, ⟨f.delete_touches id, fun g hg => hg.delete⟩, fun t => ?_⟩
  · rintro s rfl
    exact ⟨f.put_touches s, fun g hg => hg.put⟩
  · exact ⟨renew_touches hown t, fun g hg => hg.renew hown t⟩

/-! ## Ids that are not safe -/

/-- an id is refused, whatever is on the disk: nothing is changed and nothing looked at -/
structure Refuses (f : FileStore) (id : String) : Prop where
  put : ∀ (d : Disk) (s : Subscription), s.id = id →
    FileStore.put { f with disk := d } s = (.error (.invalidSubscriptionId id), { f with disk := d })
  get : ∀ d : Disk, FileStore.get { f with disk := d } id = (none, { f with disk := d })
  delete : ∀ d : Disk,
    FileStore.delete { f with disk := d } id = (.error (.unknownSubscription id), { f with disk := d })
  renew : ∀ (d : Disk) (t : Timestamp),
    FileStore.renew { f with disk := d } id t = (.error (.unknownSubscription id), { f with disk := d })

theorem Clean.refuses (h : f.Clean) (hid : isValidId id = false) : f.Refuses id := by
  have hcache : f.cache.find? id = none := by
    by_contra hc
    obtain ⟨s, hs⟩ := Option.ne_none_iff_exists'.1 hc
    rw [(h.cache id s hs).1] at hid
    cases hid
  have hload (d : Disk) : FileStore.load { f with disk := d } id =
      (.error (.invalidSubscriptionId id), { f with disk := d }) := by
    unfold FileStore.load Cache.use FileStore.readRecord
    simp only [hcache, hid, Bool.not_false, if_true]
  refine ⟨?_, fun d => ?_, fun d => ?_, fun d t => ?_⟩
  · rintro d s rfl
    unfold FileStore.put FileStore.writeRecord
    simp only [hid, Bool.not_false, if_true]
  · unfold FileStore.get
    rw [hload]
  · unfold FileStore.delete
    rw [hload]
  · unfold FileStore.renew
    rw [hload]

end FileStore

/-! ## Names -/

/-- a text without a slash is not cut -/
theorem splitOnAux_slash {l r : List Char} (h : '/' ∉ r) :
    (String.ofList (l ++ r)).splitOnAux "/" 0 ⟨String.utf8Len l⟩ 0 [] = [String.ofList (l ++ r)] := by
  -- on what is left to scan; `l` has been passed over
  induction r generalizing l with
  | nil =>
    have hend : String.Pos.Raw.atEnd (String.ofList (l ++ [])) ⟨String.utf8Len l⟩ = true :=
      (String.atEnd_of_valid l []).2 rfl
    have hall := String.extract_of_valid [] l []
    rw [String.splitOnAux, if_pos hend]
    simpa using hall
  | cons c r ih =>
    obtain ⟨hc, hr⟩ := List.ne_and_not_mem_of_not_mem_cons h
    have hmore : ¬ String.Pos.Raw.atEnd (String.ofList (l ++ c :: r)) ⟨String.utf8Len l⟩ = true := by
      rw [String.atEnd_of_valid]
      exact List.cons_ne_nil c r
    have hget : String.Pos.Raw.get (String.ofList (l ++ c :: r)) ⟨String.utf8Len l⟩ = c := String.get_of_valid l (c :: r)
    have hsep : String.Pos.Raw.get "/" 0 = '/' := by decide
    have hnext := String.next_of_valid l c r
    rw [String.splitOnAux, if_neg hmore, hget, hsep, if_neg (by simpa using hc.symm)]
    have hstep := ih (l := l ++ [c]) hr
    rw [List.append_assoc, List.singleton_append, String.utf8Len_append, String.utf8Len_cons, String.utf8Len_nil] at hstep
    have hback : (⟨String.utf8Len l⟩ : String.Pos.Raw).unoffsetBy 0 = ⟨String.utf8Len l⟩ := rfl
    rw [hback, hnext]
    simpa using hstep

theorem splitOn_slash {s : String} (h : '/' ∉ s.toList) : s.splitOn "/" = [s] := by
  have haux := splitOnAux_slash (l := []) h
  rw [List.nil_append, String.ofList_toList] at haux
  exact haux

namespace Disk

/-- a text that is a name leads to that name in the directory -/
theorem pathFrom_name {dir : Path} {n : String} (h : '/' ∉ n.toList) (hne : n ≠ "") (hdot : n ≠ ".") (hdots : n ≠ "..") :
    pathFrom dir n = dir ++ [n] := by
  unfold pathFrom
  rw [splitOn_slash h]
  simp [hne, hdot, hdots]

end Disk

namespace FileStore

variable {f : FileStore} {id id' : String}

theorem isValidId_unslashed (h : isValidId id = true) : '/' ∉ id.toList := by
  unfold isValidId at h
  split at h
  · cases h
  · rename_i c cs heq
    rw [Bool.and_eq_true, List.all_eq_true] at h
    rw [heq]
    intro hmem
    exact absurd (h.2 '/' hmem) (by decide)

/-- the files of an id are in the directory itself, the record is none of the temporary files that are removed, and the
id is told by its name, and only by that -/
structure Named (id : String) : Prop where
  record_inside : ∀ dir, Disk.pathFrom dir (recordName id) = dir ++ [recordName id]
  temporary_inside : ∀ dir, Disk.pathFrom dir (temporaryName id) = dir ++ [temporaryName id]
  kept : ∀ dir ns d, (removeTemporary dir ns d).2.node? (dir ++ [recordName id]) = d.node? (dir ++ [recordName id])
  recovered : recordIds [recordName id] = [id]
  listed : ∀ ns, id ∈ recordIds ns ↔ recordName id ∈ ns

theorem named_of_valid (h : isValidId id = true) : Named id := by
  have hne := isValidId_ne_nil h
  have hrecord : '/' ∉ (recordName id).toList := by
    rw [recordName_toList]
    simp [isValidId_unslashed h, recordExtension]
  have htemporary : '/' ∉ (temporaryName id).toList := by
    rw [temporaryName_toList]
    simp [hrecord, temporaryExtension]
  -- a name that is longer than two dots is neither of the special ones
  have hlong {n : String} (hn : 3 ≤ n.toList.length) : n ≠ "" ∧ n ≠ "." ∧ n ≠ ".." := by
    refine ⟨?_, ?_, ?_⟩ <;>
    · rintro rfl
      revert hn
      decide
  have hrecordLength : 3 ≤ (recordName id).toList.length := by
    rw [recordName_toList]
    simp [recordExtension]
  have htemporaryLength : 3 ≤ (temporaryName id).toList.length := by
    rw [temporaryName_toList]
    simp [temporaryExtension]
  refine ⟨fun dir => ?_, fun dir => ?_, fun dir ns d => ?_, ?_, fun ns => ?_⟩
  · obtain ⟨hempty, hdot, hdots⟩ := hlong hrecordLength
    exact Disk.pathFrom_name hrecord hempty hdot hdots
  · obtain ⟨hempty, hdot, hdots⟩ := hlong htemporaryLength
    exact Disk.pathFrom_name htemporary hempty hdot hdots
  · refine removeTemporary_keeps rfl fun n htmp heq => ?_
    cases Disk.child_inj.1 heq
    exact splitExtension_recordName_ne id htmp
  · simp [recordIds, splitExtension_recordName hne]
  · rw [mem_recordIds]
    exact and_iff_left hne

/-- the files of two ids are four, and the lock file is none of them -/
def Apart (id id' : String) : Prop :=
  [recordName id, temporaryName id, recordName id', temporaryName id', lockName].Nodup

theorem temporaryName_inj : temporaryName id = temporaryName id' ↔ id = id' := by
  constructor
  · intro h
    have hsplit := congrArg splitExtension h
    rw [splitExtension_temporaryName, splitExtension_temporaryName] at hsplit
    exact recordName_inj.1 (congrArg Prod.fst hsplit)
  · exact congrArg temporaryName

theorem apart_of_ne (h : id ≠ id') : Apart id id' := by
  unfold Apart
  simp only [List.nodup_cons, List.mem_cons, List.not_mem_nil, or_false, not_or, not_false_iff, List.nodup_nil, and_true]
  refine ⟨⟨?_, ?_, ?_, ?_⟩, ⟨?_, ?_, ?_⟩, ⟨?_, ?_⟩, ?_⟩
  · exact temporaryName_ne_recordName.symm
  · exact recordName_inj.not.2 h
  · exact temporaryName_ne_recordName.symm
  · exact recordName_ne_lockName
  · exact temporaryName_ne_recordName
  · exact temporaryName_inj.not.2 h
  · exact temporaryName_ne_lockName
  · exact temporaryName_ne_recordName.symm
  · exact recordName_ne_lockName
  · exact temporaryName_ne_lockName

/-- **Confinement.** Let a directory be opened whose records have the ids that their files are named after, let anything
be called, and let others change the disk meanwhile, as long as the records of the directory stay so. Then whatever is
done with an id changes the record of the id and its temporary file at most, and depends on no other file. With an id
that is not safe nothing is changed and nothing is looked at: a subscription is not stored as its id is invalid, none is
found, and there is none to take out or to renew. The files of a safe id are in the directory itself; clearing temporary
files away spares its record, and the id is told by the name of the record. The names of two ids never clash. -/
theorem confined_to_id (h : f.Used) :
    (∀ id, f.Confined id) ∧ (∀ id, isValidId id = false → f.Refuses id) ∧
      (∀ id, isValidId id = true → Named id) ∧ ∀ id id', id ≠ id' → Apart id id' :=
  ⟨h.clean.confined, fun _ => h.clean.refuses, fun _ => named_of_valid, fun _ _ => apart_of_ne⟩

/-- an id that leads out of the directory is unknown, and when another is taken out, the file beside it stays -/
theorem confined_beside_unreadable :
    ∃ f, (openAt strayDisk ["d"] 4).1 = .ok f ∧ f.delete "../s" = (.error (.unknownSubscription "../s"), f) ∧
      (∃ s, (f.delete "s").1 = .ok s) ∧
      (f.delete "s").2.disk.node? (f.recordPath "x") = f.disk.node? (f.recordPath "x") := by
  have hlock : strayDisk.node? (["d"] ++ [lockName]) = some (.file 0 []) := by
    simp [strayDisk, Disk.node?, Table.find?_insert, recordName_ne_lockName.symm]
  obtain ⟨f, hopen, -, hf⟩ := openAt_spec strayDisk_shelf hlock (by decide) 4
  have hok : (openAt strayDisk ["d"] 4).1 = .ok f := congrArg Prod.fst hopen
  have hown : Own f.disk f.directory := by
    intro id r hr
    rw [hf.shelf.records id] at hr
    exact hf.shelf.keyed id r hr
  obtain ⟨hconfined, hrefuses, -, -⟩ := confined_to_id (.opened hok hown)
  refine ⟨f, hok, (hrefuses "../s" (by decide)).delete f.disk, ?_, (hconfined "s").delete.touches.record_eq (by decide)⟩
  obtain ⟨⟨s, hs, -⟩, -⟩ := hf.delete_known (r := plain.toRecord) (Function.update_self _ _ _)
  exact ⟨s, hs⟩

end FileStore

end EventBroker
