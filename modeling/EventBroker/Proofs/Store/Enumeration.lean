/-
Listing the subscriptions of a directory with anything in it.

- `Filed`: a file of a directory tells a record. It is named after an id that is safe, and what is in it can be decoded.
  Nothing else in the directory has a part in that.
- `openAt_files`: a directory of files can be opened, whatever they are named and whatever is in them.
- `Telling`: a store right after it was opened, and for as long as it is only read: what is at hand is what the files
  tell.
- `enumeration`: the list of all subscriptions is that of the files that tell a record, each once. Files that cannot be
  read are passed over, and reading changes no file.

The names in a directory are texts (`Disk`). A file whose name is not UTF-8 is no record, and is not represented.
-/
import EventBroker.Proofs.Store.Bounds
import EventBroker.Proofs.Store.Keyed
import EventBroker.Proofs.Store.Loyal

namespace EventBroker

namespace FileStore

variable {d d' : Disk} {dir : Path} {f : FileStore} {id : String} {r : SubscriptionRecord}

/-! ## What files tell -/

/-- the file that is named after this id tells this record -/
def Filed (d : Disk) (dir : Path) (id : String) (r : SubscriptionRecord) : Prop :=
  isValidId id = true ∧ ∃ number bytes, d.node? (dir ++ [recordName id]) = some (.file number bytes) ∧
    RecordFile.decode bytes = .ok r

theorem filed_iff (hdir : d.find dir = .ok .directory)
    (hnames : ∀ n, d.node? (dir ++ [n]) ≠ none → Disk.isName n = true) :
    Filed d dir id r ↔ recordAt d dir id = some r := by
  constructor
  · rintro ⟨hid, number, bytes, hnode, hdecode⟩
    have hname : Disk.isName (recordName id) = true := hnames _ (by rw [hnode]; exact Option.some_ne_none _)
    rw [Shelf.recordAt_of_node hdir hid hname hnode, hdecode]
    rfl
  · intro hr
    obtain ⟨hid, -, number, bytes, hnode, hdecode⟩ := recordAt_file hdir hr
    exact ⟨hid, number, bytes, hnode, hdecode⟩

/-! ## Opening -/

/-- temporary files can be removed if nothing else has such a name -/
theorem removeTemporary_files {ns : List String} (hdir : d.find dir = .ok .directory) (hnodup : ns.Nodup)
    (hfiles : ∀ n ∈ ns, Disk.isName n = true ∧ ∃ number bytes, d.node? (dir ++ [n]) = some (.file number bytes)) :
    ∃ d', removeTemporary dir ns d = (.ok (), d') := by
  induction ns generalizing d with
  | nil => exact ⟨d, rfl⟩
  | cons n ns ih =>
    obtain ⟨hnot, hnodup⟩ := List.nodup_cons.1 hnodup
    have hrest : ∀ m ∈ ns, Disk.isName m = true ∧ ∃ number bytes, d.node? (dir ++ [m]) = some (.file number bytes) :=
      fun m hm => hfiles m (List.mem_cons_of_mem n hm)
    rw [removeTemporary]
    split
    · obtain ⟨hname, number, bytes, hnode⟩ := hfiles n List.mem_cons_self
      obtain ⟨d₁, hremove, hsets⟩ := Disk.removeFile_child hdir hname hnode
      rw [hremove]
      refine ih (hsets.find_eq.trans hdir) hnodup fun m hm => ?_
      rw [hsets.node?_of_ne fun heq => hnot (heq ▸ hm)]
      exact hrest m hm
    · exact ih hdir hnodup hrest

/-- the lock file can be seen to if no directory has its name, and then it is there -/
theorem lockFile_files (hdir : d.find dir = .ok .directory) (hfree : d.node? (dir ++ [lockName]) ≠ some .directory) :
    ∃ number bytes d', lockFile d dir = .ok (number, d') ∧ d'.find dir = .ok .directory ∧
      d'.node? (dir ++ [lockName]) = some (.file number bytes) := by
  have hplace := Disk.place_child hdir isName_lockName
  unfold lockFile
  cases hnode : d.node? (dir ++ [lockName]) with
  | none =>
    rw [hnode] at hplace
    obtain ⟨number, d', hwrite, hsets⟩ := Disk.write_child hdir isName_lockName hfree []
    have hnumber : number = d.nextNumber := by
      unfold Disk.write at hwrite
      rw [hplace] at hwrite
      cases hwrite
      have hself := hsets.node?_self
      unfold Disk.node? at hself
      rw [if_neg (Disk.child_ne_nil dir lockName), Table.find?_insert, if_pos rfl] at hself
      cases hself
      rfl
    refine ⟨d.nextNumber, [], d', ?_, hsets.find_eq.trans hdir, hnumber ▸ hsets.node?_self⟩
    simp only [hplace, hwrite]
    rfl
  | some node =>
    cases node with
    | directory => exact absurd hnode hfree
    | file number bytes =>
      rw [hnode] at hplace
      refine ⟨number, bytes, d, ?_, hdir, hnode⟩
      simp only [hplace]
      rfl

theorem lockFile_locks {number : Nat} (h : lockFile d dir = .ok (number, d')) : d'.locks = d.locks := by
  unfold lockFile at h
  dsimp only at h
  cases hplace : d.place (dir ++ [lockName]) with
  | error e =>
    rw [hplace] at h
    cases h
  | ok other =>
    rw [hplace] at h
    cases other with
    | some m =>
      cases h
      rfl
    | none =>
      simp only [Disk.write, hplace] at h
      cases h
      rfl

/-- a directory of files can be opened, if nobody has it locked -/
theorem openAt_files (hdir : d.find dir = .ok .directory)
    (hfiles : ∀ n node, d.node? (dir ++ [n]) = some node → Disk.isName n = true ∧ node ≠ .directory)
    (hfree : ∀ number d', lockFile d dir = .ok (number, d') → number ∉ d.locks) (cacheSize : Nat) :
    ∃ f, (openAt d dir cacheSize).1 = .ok f := by
  have hnone : d.node? (dir ++ [lockName]) ≠ some .directory := fun hnode => (hfiles _ _ hnode).2 rfl
  obtain ⟨number, bytes, d₁, hlockFile, hdir₁, hnode₁⟩ := lockFile_files hdir hnone
  let d₂ : Disk := { d₁ with locks := number :: d₁.locks }
  have hlock : d₁.lock number = some d₂ := by
    unfold Disk.lock
    rw [if_neg]
    rw [lockFile_locks hlockFile]
    simpa using hfree number d₁ hlockFile
  have hdir₂ : d₂.find dir = .ok .directory := by
    rw [← hdir₁]
    exact Disk.find_congr fun _ => rfl
  obtain ⟨ns, hnames, hnodup, hmem⟩ := Disk.names_child hdir₂
  have hall : ∀ n ∈ ns, Disk.isName n = true ∧ ∃ number bytes, d₂.node? (dir ++ [n]) = some (.file number bytes) := by
    intro n hn
    by_cases hself : n = lockName
    · subst hself
      exact ⟨isName_lockName, number, bytes, hnode₁⟩
    · have hsame : d₂.node? (dir ++ [n]) = d.node? (dir ++ [n]) :=
        lockFile_keeps hlockFile (Disk.child_inj.not.2 hself)
      obtain ⟨node, hnode⟩ := Option.ne_none_iff_exists'.1 ((hmem n).1 hn)
      rw [hsame] at hnode ⊢
      obtain ⟨hname, hfile⟩ := hfiles n node hnode
      cases node with
      | directory => exact absurd rfl hfile
      | file number bytes => exact ⟨hname, number, bytes, hnode⟩
  obtain ⟨d₃, hremove⟩ := removeTemporary_files hdir₂ hnodup hall
  unfold openAt
  rw [Disk.makeDirectories_eq hdir]
  simp only [hlockFile, hlock, hnames, Except.toOption, Option.getD_some, hremove]
  exact ⟨_, rfl⟩

/-! ## Reading -/

/-- what is at hand was read from a record, with an address for its endpoint -/
def Afresh (_ : String) (s : Subscription) : Prop := s = Subscription.ofRecord s.toRecord

theorem afresh_lasting : Lasting Afresh where
  ofRecord _ _ := rfl
  renewed _ s t h := by
    show s.renewed t = Subscription.ofRecord (s.renewed t).toRecord
    conv_lhs => rw [h]
    rfl

/-- the files tell these records, and so does what is at hand, as it is read from a file -/
structure Telling (f : FileStore) (v : Records) : Prop where
  tells : f.Tells v
  afresh : f.Keeps Afresh

namespace Telling

variable {v : Records}

/-- what is read is what a record tells, and nothing of an endpoint -/
theorem get (h : f.Telling v) (id : String) :
    (f.get id).1 = (v id).map Subscription.ofRecord ∧ (f.get id).2.Telling v := by
  obtain ⟨hget, htells⟩ := h.tells.get_spec id
  obtain ⟨hfresh, hkeeps⟩ := h.afresh.get afresh_lasting id
  refine ⟨?_, htells, hkeeps⟩
  rw [← hget]
  cases hs : (f.get id).1 with
  | none => rfl
  | some s => exact congrArg some (hfresh s hs)

theorem all (h : f.Telling v) :
    ∃ ids : List String, ids.Nodup ∧ (∀ id, v id ≠ none → id ∈ ids) ∧
      f.all.1 = (ids.filterMap v).map Subscription.ofRecord ∧ f.all.2.Telling v := by
  obtain ⟨ids, hnodup, hids, hall, htells⟩ := h.tells.all_spec
  obtain ⟨hfresh, hkeeps⟩ := h.afresh.all afresh_lasting
  refine ⟨ids, hnodup, hids, ?_, htells, hkeeps⟩
  rw [← hall, List.map_map]
  refine (List.map_id _).symm.trans (List.map_congr_left fun s hs => ?_)
  obtain ⟨id, hs⟩ := hfresh s hs
  exact hs

/-- the list of all has what is told of every id, once -/
theorem listed (h : f.Telling v) :
    ∃ told : List (String × SubscriptionRecord), (told.map Prod.fst).Nodup ∧ (∀ id r, (id, r) ∈ told ↔ v id = some r) ∧
      f.all.1 = told.map fun e => Subscription.ofRecord e.2 := by
  obtain ⟨ids, hnodup, hids, hall, -⟩ := h.all
  let pair (id : String) : Option (String × SubscriptionRecord) := (v id).map fun r => (id, r)
  refine ⟨ids.filterMap pair, ?_, fun id r => ?_, ?_⟩
  · rw [List.map_filterMap]
    refine List.Nodup.filterMap (fun i j k hi hj => ?_) hnodup
    obtain ⟨-, rfl⟩ : _ ∧ i = k := by simpa [pair] using hi
    obtain ⟨-, rfl⟩ : _ ∧ j = i := by simpa [pair] using hj
    rfl
  · rw [List.mem_filterMap]
    constructor
    · rintro ⟨k, -, hk⟩
      obtain ⟨r', hr', heq⟩ := Option.map_eq_some_iff.1 hk
      cases heq
      exact hr'
    · intro hr
      refine ⟨id, hids id ?_, Option.map_eq_some_iff.2 ⟨r, hr, rfl⟩⟩
      rw [hr]
      exact Option.some_ne_none r
  · rw [hall, List.map_filterMap, List.map_filterMap]
    refine List.filterMap_congr fun id _ => ?_
    simp only [pair, Option.map_map]
    rfl

end Telling

theorem openAt_telling (hdir : d.find dir = .ok .directory) {cacheSize : Nat}
    (hf : (openAt d dir cacheSize).1 = .ok f) :
    f.Telling fun id => recordAt d dir id := by
  refine ⟨(openAt_tells hdir hf).2, fun id s hs => ?_⟩
  obtain ⟨-, -, -, -, -, hopened⟩ := openAt_steps hdir hf
  rw [hopened] at hs
  cases hs

/-! ## The list of all -/

/-- **Enumeration.** A directory of files, of any number, with any names and with anything in them, can be opened if it
is not locked. Right after a directory was opened, whatever is in it, the list of all subscriptions has the subscription
of each file that is named after a safe id and can be decoded, each such file once, and no other; a single subscription
is found just so, before the list is made and after it. Decoding breaks no bound, whatever the bytes are, and reading
changes nothing on the disk of any store. -/
theorem enumeration (hdir : d.find dir = .ok .directory)
    (hnames : ∀ n, d.node? (dir ++ [n]) ≠ none → Disk.isName n = true) :
    ((∀ n, d.node? (dir ++ [n]) ≠ some .directory) →
      (∀ number d', lockFile d dir = .ok (number, d') → number ∉ d.locks) →
      ∀ cacheSize, ∃ f, (openAt d dir cacheSize).1 = .ok f) ∧
    (∀ cacheSize f, (openAt d dir cacheSize).1 = .ok f →
      (∃ filed : List (String × SubscriptionRecord), (filed.map Prod.fst).Nodup ∧
        (∀ id r, (id, r) ∈ filed ↔ Filed d dir id r) ∧ f.all.1 = filed.map fun e => Subscription.ofRecord e.2) ∧
      (∀ id s, (f.get id).1 = some s ↔ ∃ r, Filed d dir id r ∧ s = Subscription.ofRecord r) ∧
      ∀ id, (f.all.2.get id).1 = (f.get id).1) ∧
    (∀ bytes : List UInt8, bytes.length < 2 ^ 64 → RecordFile.decode? bytes = some (RecordFile.decode bytes)) ∧
    ∀ (g : FileStore) (id : String), (g.get id).2.disk = g.disk ∧ g.all.2.disk = g.disk := by
  refine ⟨fun hfiles hfree cacheSize => ?_, fun cacheSize f hf => ?_, fun _ => RecordFile.decode?_eq, fun g id => ?_⟩
  · refine openAt_files hdir (fun n node hnode => ⟨hnames n ?_, ?_⟩) hfree cacheSize
    · rw [hnode]
      exact Option.some_ne_none _
    · rintro rfl
      exact hfiles n hnode
  · have htelling := openAt_telling hdir hf
    obtain ⟨filed, hnodup, hmem, hall⟩ := htelling.listed
    obtain ⟨-, -, -, -, hafter⟩ := htelling.all
    refine ⟨⟨filed, hnodup, fun id r => ?_, hall⟩, fun id s => ?_, fun id => ?_⟩
    · rw [filed_iff hdir hnames]
      exact hmem id r
    · rw [(htelling.get id).1, Option.map_eq_some_iff]
      simp only [filed_iff hdir hnames, eq_comm]
    · rw [(hafter.get id).1, (htelling.get id).1]
  · rw [g.get_eq id, g.all_eq]
    exact ⟨rfl, rfl⟩

/-- a directory with these files in it, one written after the other -/
def filled (dir : Path) (files : List (String × List UInt8)) (d : Disk) : Disk :=
  files.foldl (fun d e =>
    { d with nodes := d.nodes.insert (dir ++ [e.1]) (.file d.nextNumber e.2), nextNumber := d.nextNumber + 1 }) d

theorem filled_find {files : List (String × List UInt8)} : (filled dir files d).find dir = d.find dir := by
  induction files generalizing d with
  | nil => rfl
  | cons e files ih => exact ih.trans (Disk.sets_insert _ _).find_eq

/-- what is in such a directory is one of the files, or was there before -/
theorem filled_node? {files : List (String × List UInt8)} {n : String} {node : Node}
    (h : (filled dir files d).node? (dir ++ [n]) = some node) :
    (∃ number bytes, (n, bytes) ∈ files ∧ node = .file number bytes) ∨ d.node? (dir ++ [n]) = some node := by
  induction files generalizing d with
  | nil => exact Or.inr h
  | cons e files ih =>
    rcases ih h with ⟨number, bytes, hmem, hnode⟩ | hnode
    · exact Or.inl ⟨number, bytes, List.mem_cons_of_mem e hmem, hnode⟩
    · have hsets : Disk.Sets d _ dir e.1 _ := Disk.sets_insert (.file d.nextNumber e.2) (d.nextNumber + 1)
      by_cases hn : n = e.1
      · subst hn
        rw [hsets.node?_self] at hnode
        cases hnode
        exact Or.inl ⟨_, e.2, List.mem_cons_self, rfl⟩
      · rw [hsets.node?_of_ne hn] at hnode
        exact Or.inr hnode

/-- the file written last is there -/
theorem filled_last (dir : Path) (d : Disk) (files : List (String × List UInt8)) (n : String) (bytes : List UInt8) :
    ∃ number, (filled dir (files ++ [(n, bytes)]) d).node? (dir ++ [n]) = some (.file number bytes) := by
  refine ⟨(filled dir files d).nextNumber, ?_⟩
  rw [filled, List.foldl_append]
  exact (Disk.sets_insert _ _).node?_self

/-- files that cannot be read, that have a wrong length in their header, or that are named after no id that is safe, and
among them a subscription -/
def litter : List (String × List UInt8) :=
  [(recordName "x", [1, 2, 3]), (recordName "y", RecordFile.mark ++ RecordFile.version :: List.replicate 12 255),
    (recordName "a b", RecordFile.encode plain.toRecord), (recordName "", RecordFile.encode plain.toRecord),
    ("notes", [])] ++ [(recordName "s", RecordFile.encode plain.toRecord)]

def litteredDisk : Disk := filled ["d"] litter bareDisk

theorem litteredDisk_node? {n : String} {node : Node} (h : litteredDisk.node? (["d"] ++ [n]) = some node) :
    ∃ number bytes, (n, bytes) ∈ litter ∧ node = .file number bytes := by
  rcases filled_node? h with hfile | hnode
  · exact hfile
  · rw [bareDisk_bare.empty n] at hnode
    cases hnode

theorem litteredDisk_filed : Filed litteredDisk ["d"] id r ↔ id = "s" ∧ r = plain.toRecord := by
  have hdecode : RecordFile.decode (RecordFile.encode plain.toRecord) = .ok plain.toRecord :=
    plain_storable.decode_encode (isName_iff.2 (by decide))
  constructor
  · rintro ⟨hid, number, bytes, hnode, hr⟩
    obtain ⟨number', bytes', hmem, heq⟩ := litteredDisk_node? hnode
    cases heq
    simp only [litter, List.cons_append, List.nil_append, List.mem_cons, Prod.mk.injEq, recordName_inj,
      List.not_mem_nil, or_false] at hmem
    rcases hmem with ⟨-, rfl⟩ | ⟨-, rfl⟩ | ⟨rfl, -⟩ | ⟨rfl, -⟩ | ⟨hnotes, -⟩ | ⟨rfl, rfl⟩
    · cases hr
    · cases hr
    · exact absurd hid (by decide)
    · exact absurd hid (by decide)
    · have hlast := congrArg (fun n => n.toList.getLast?) hnotes
      simp [recordName_toList, recordExtension] at hlast
    · rw [hdecode] at hr
      exact ⟨rfl, (Except.ok.inj hr).symm⟩
  · rintro ⟨rfl, rfl⟩
    obtain ⟨number, hnode⟩ := filled_last ["d"] bareDisk litter.dropLast (recordName "s")
      (RecordFile.encode plain.toRecord)
    exact ⟨by decide, number, _, hnode, hdecode⟩

/-- only the subscription is listed -/
theorem enumeration_of_litter :
    ∃ f, (openAt litteredDisk ["d"] 4).1 = .ok f ∧ f.all.1 = [Subscription.ofRecord plain.toRecord] ∧
      (f.get "y").1 = none := by
  have hnames : ∀ n, litteredDisk.node? (["d"] ++ [n]) ≠ none → Disk.isName n = true := by
    intro n hn
    obtain ⟨node, hnode⟩ := Option.ne_none_iff_exists'.1 hn
    obtain ⟨number, bytes, hmem, -⟩ := litteredDisk_node? hnode
    have hall : ∀ n ∈ litter.map Prod.fst, n.utf8ByteSize ≤ Disk.maxNameLength ∧ '\x00' ∉ n.toList := by decide
    exact isName_iff.2 (hall n (List.mem_map_of_mem hmem))
  have hfiles : ∀ n, litteredDisk.node? (["d"] ++ [n]) ≠ some .directory := by
    intro n hn
    obtain ⟨number, bytes, -, hfile⟩ := litteredDisk_node? hn
    cases hfile
  have hdir : litteredDisk.find ["d"] = .ok .directory := filled_find.trans bareDisk_bare.directory
  have hlocks : litteredDisk.locks = [] := rfl
  obtain ⟨hopens, hlists, -, -⟩ := enumeration hdir hnames
  obtain ⟨f, hf⟩ := hopens hfiles (fun number d' _ => by simp [hlocks]) 4
  obtain ⟨⟨filed, hnodup, hmem, hall⟩, hget, -⟩ := hlists 4 f hf
  have honly : filed = [("s", plain.toRecord)] := by
    refine (List.perm_singleton.1 ?_)
    refine (List.perm_ext_iff_of_nodup hnodup.of_map (by simp)).2 ?_
    rintro ⟨id, r⟩
    rw [hmem, litteredDisk_filed]
    simp
  refine ⟨f, hf, by rw [hall, honly]; rfl, ?_⟩
  cases hy : (f.get "y").1 with
  | none => rfl
  | some s =>
    obtain ⟨r, hfiled, -⟩ := (hget "y" s).1 hy
    exact absurd (litteredDisk_filed.1 hfiled).1 (by decide)

end FileStore

end EventBroker
