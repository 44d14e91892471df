/-
Record files that come to harm.

The directory of a store is open to others. `Harm` is what may befall a record file from outside: it is removed, or
other bytes are in it that are no record. The store does not notice. What it has at hand it goes on telling, and what
it reads afresh is gone.

`Bears R` says that what a store finds under an id, at hand or in a file, is as `R` tells of the id. Harm keeps it, for
harm takes records away and makes none; so do reading and taking out. Putting in and renewing may bring in what another
`R` tells of that id, if they are not refused.
-/
import EventBroker.Proofs.Store.Keyed

namespace EventBroker

open Function (update)

namespace FileStore

/-- what may befall the file of a record from outside -/
inductive Harm where
  | removed (id : String)
  /-- the file gets other bytes, if they are no record -/
  | damaged (id : String) (bytes : List UInt8)

def Harm.befall (f : FileStore) : Harm → FileStore
  | .removed id =>
    match f.disk.removeFile (f.recordPath id) with
    | .ok d => { f with disk := d }
    | .error _ => f
  | .damaged id bytes =>
    match f.disk.read (f.recordPath id), RecordFile.decode bytes, f.disk.write (f.recordPath id) bytes with
    | .ok _, .error _, .ok d => { f with disk := d }
    | _, _, _ => f

/-- what the store finds under an id is as `R` tells of the id -/
structure Bears (R : String → SubscriptionRecord → Prop) (f : FileStore) : Prop where
  directory : f.disk.find f.directory = .ok .directory
  records : ∀ id r, recordAt f.disk f.directory id = some r → R id r
  cache : ∀ id s, f.cache.find? id = some s → R id s.toRecord

variable {R R' : String → SubscriptionRecord → Prop} {f : FileStore} {id : String} {s : Subscription} {d : Disk}

theorem InOrder.bears {v : Records} (h : f.InOrder v) (hR : ∀ id r, v id = some r → R id r) : f.Bears R where
  directory := h.shelf.directory
  records id r hr := hR id r ((h.shelf.records id).symm.trans hr)
  cache id s hs := hR id s.toRecord (h.cache id s hs)

namespace Bears

/-! ## Harm -/

/-- with nothing told that was not told before -/
theorem fewer (h : f.Bears R) (hdir : d.find f.directory = .ok .directory)
    (hsub : ∀ k r, recordAt d f.directory k = some r → recordAt f.disk f.directory k = some r) :
    Bears R { f with disk := d } :=
  ⟨hdir, fun k r hr => h.records k r (hsub k r hr), h.cache⟩

/-- a file of an id that tells no record adds nothing -/
theorem spoilt (h : f.Bears R) (hdir : d.find f.directory = .ok .directory)
    (hothers : ∀ k, k ≠ id → d.node? (f.recordPath k) = f.disk.node? (f.recordPath k))
    (hnone : recordAt d f.directory id = none) : Bears R { f with disk := d } := by
  refine h.fewer hdir fun k r hr => ?_
  by_cases hk : k = id
  · rw [hk, hnone] at hr
    cases hr
  · rw [← hr]
    exact (Shelf.recordAt_congr h.directory hdir (hothers k hk)).symm

/-- **Harm** takes records away and makes none. -/
theorem befall (h : f.Bears R) (x : Harm) : (x.befall f).Bears R := by
  cases x with
  | removed id =>
    unfold Harm.befall
    dsimp only
    split
    · rename_i d hd
      have hsets := Disk.removeFile_sets hd
      have hdir : d.find f.directory = .ok .directory := hsets.find_eq.trans h.directory
      exact h.spoilt hdir (fun k hk => hsets.node?_of_ne (recordName_inj.not.2 hk))
        (Shelf.recordAt_of_missing hdir hsets.node?_self)
    · exact h
  | damaged id bytes =>
    unfold Harm.befall
    dsimp only
    split
    · rename_i e d _ hdecode hwrite
      have hothers : ∀ q, q ≠ f.recordPath id → d.node? q = f.disk.node? q := fun q hq => Disk.write_node? hwrite hq
      have hdir : d.find f.directory = .ok .directory := by
        rw [← h.directory]
        exact Disk.find_above fun p hp => hothers p (Disk.child_not_above hp)
      obtain ⟨number, hnode⟩ := Disk.write_self (Disk.child_ne_nil _ _) hwrite
      refine h.spoilt hdir (fun k hk => hothers _ (Disk.child_inj.not.2 (recordName_inj.not.2 hk))) ?_
      by_contra hsome
      obtain ⟨r, hr⟩ := Option.ne_none_iff_exists'.1 hsome
      obtain ⟨-, -, number', bytes', hnode', hdecode'⟩ := recordAt_file hdir hr
      rw [hnode] at hnode'
      cases hnode'
      rw [hdecode] at hdecode'
      cases hdecode'
    · exact h

end Bears

/-- the store does not notice -/
theorem Harm.befall_cache (f : FileStore) (x : Harm) : (x.befall f).cache = f.cache := by
  unfold befall
  split
  · split <;> rfl
  · split <;> rfl

/-! ## Reading -/

/-- nothing is found under an id that is not at hand and that no file tells -/
theorem get_eq_none (f : FileStore) (id : String) :
    (f.get id).1 = none ↔ f.cache.find? id = none ∧ recordAt f.disk f.directory id = none := by
  unfold FileStore.get load Cache.use
  cases hc : f.cache.find? id with
  | some s => simp
  | none =>
    dsimp only
    rcases f.readRecord_cases id with ⟨r, hread, hr⟩ | ⟨hread | ⟨e, hread⟩, hnone⟩
    · rw [hread, hr]
      simp
    · rw [hread, hnone]
      simp
    · rw [hread, hnone]
      simp

namespace Bears

theorem cachePut (h : f.Bears R) (hs : R id s.toRecord) : Bears R { f with cache := f.cache.put id s } := by
  refine ⟨h.directory, h.records, fun k t ht => ?_⟩
  rcases Cache.find?_put ht with ⟨rfl, rfl⟩ | ⟨-, ht⟩
  · exact hs
  · exact h.cache k t ht

/-- what is loaded is as `R` tells, or nothing is at hand and the file tells nothing -/
theorem load_spec (h : f.Bears R) (id : String) :
    (∃ s f', f.load id = (.ok (some s), f') ∧ R id s.toRecord ∧ f'.Bears R ∧ f' = { f with cache := f'.cache }) ∨
      (f.load id = (.ok none, f) ∨ ∃ e, f.load id = (.error e, f)) ∧
        f.cache.find? id = none ∧ recordAt f.disk f.directory id = none := by
  unfold load Cache.use
  cases hc : f.cache.find? id with
  | some s => exact Or.inl ⟨s, _, rfl, h.cache id s hc, h.cachePut (h.cache id s hc), rfl⟩
  | none =>
    dsimp only
    rcases f.readRecord_cases id with ⟨r, hread, hr⟩ | ⟨hread | ⟨e, hread⟩, hnone⟩
    · rw [hread]
      exact Or.inl ⟨.ofRecord r, _, rfl, h.records id r hr, h.cachePut (h.records id r hr), rfl⟩
    · rw [hread]
      exact Or.inr ⟨Or.inl rfl, rfl, hnone⟩
    · rw [hread]
      exact Or.inr ⟨Or.inr ⟨e, rfl⟩, rfl, hnone⟩

theorem get (h : f.Bears R) (id : String) :
    (∀ s, (f.get id).1 = some s → R id s.toRecord) ∧ (f.get id).2.Bears R := by
  unfold FileStore.get
  rcases h.load_spec id with ⟨s, f', hload, hs, hf', -⟩ | ⟨hload | ⟨e, hload⟩, -, -⟩
  · rw [hload]
    refine ⟨fun t ht => ?_, hf'⟩
    cases ht
    exact hs
  · rw [hload]
    exact ⟨fun t ht => (by cases ht), h⟩
  · rw [hload]
    exact ⟨fun t ht => (by cases ht), h⟩

theorem loadAll (h : f.Bears R) (ids : List String) :
    (∀ s ∈ (FileStore.loadAll ids f).1, ∃ id, R id s.toRecord) ∧ (FileStore.loadAll ids f).2.Bears R := by
  induction ids generalizing f with
  | nil => exact ⟨fun s hs => (by cases hs), h⟩
  | cons id ids ih =>
    obtain ⟨hfirst, hget⟩ := h.get id
    obtain ⟨hrest, hbears⟩ := ih hget
    refine ⟨fun s hs => ?_, hbears⟩
    rcases List.mem_append.1 hs with hs | hs
    · exact ⟨id, hfirst s (Option.mem_toList.1 hs)⟩
    · exact hrest s hs

theorem all (h : f.Bears R) : (∀ s ∈ f.all.1, ∃ id, R id s.toRecord) ∧ f.all.2.Bears R := by
  unfold FileStore.all
  split
  · exact h.loadAll _
  · exact ⟨fun s hs => (by cases hs), h⟩

/-! ## Taking out -/

/-- nothing is found under an id any more, and `R'` may tell anything of it -/
theorem without (h : f.Bears R) (hR : ∀ k r, k ≠ id → R k r → R' k r) (hdir : d.find f.directory = .ok .directory)
    (hothers : ∀ k, k ≠ id → d.node? (f.recordPath k) = f.disk.node? (f.recordPath k))
    (hnone : recordAt d f.directory id = none) {c : Cache}
    (hc : ∀ k t, c.find? k = some t → k ≠ id ∧ f.cache.find? k = some t) :
    Bears R' { f with disk := d, cache := c } := by
  refine ⟨hdir, fun k r hr => ?_, fun k t ht => ?_⟩
  · by_cases hk : k = id
    · have hr : recordAt d f.directory k = some r := hr
      rw [hk, hnone] at hr
      cases hr
    · refine hR k r hk (h.records k r ?_)
      rw [← hr]
      exact (Shelf.recordAt_congr h.directory hdir (hothers k hk)).symm
  · obtain ⟨hk, ht⟩ := hc k t ht
    exact hR k t.toRecord hk (h.cache k t ht)

/-- a record that has no file any more, or a file that cannot be removed, tells nothing -/
theorem removeFile_refused (hdir : d.find f.directory = .ok .directory) {e : DiskFault}
    (he : d.removeFile (f.recordPath id) = .error e) : recordAt d f.directory id = none := by
  by_contra hsome
  obtain ⟨r, hr⟩ := Option.ne_none_iff_exists'.1 hsome
  obtain ⟨-, hname, number, bytes, hnode, -⟩ := recordAt_file hdir hr
  obtain ⟨d', hd', -⟩ := Disk.removeFile_child hdir hname hnode
  have hsame : d.removeFile (f.recordPath id) = .ok d' := hd'
  rw [he] at hsame
  cases hsame

/-- with nothing found under an id, `R'` may tell anything of it -/
theorem blank (h : f.Bears R) (hR : ∀ k r, k ≠ id → R k r → R' k r) (hc : f.cache.find? id = none)
    (hnone : recordAt f.disk f.directory id = none) : f.Bears R' := by
  refine h.without hR h.directory (fun _ _ => rfl) hnone fun k t ht => ⟨?_, ht⟩
  rintro rfl
  cases hc.symm.trans ht

/-- **Taking out** leaves nothing under the id, whatever has become of the record, and whatever is answered. -/
theorem delete (h : f.Bears R) (hR : ∀ k r, k ≠ id → R k r → R' k r) : (f.delete id).2.Bears R' := by
  -- the file goes, or there is none that tells anything
  have hgone {g : FileStore} (hg : g.Bears R) (hdir : g.directory = f.directory) {c : Cache}
      (hc : ∀ k t, c.find? k = some t → k ≠ id ∧ g.cache.find? k = some t) :
      (∀ g', removeRecord { g with cache := c } id = .ok g' → g'.Bears R') ∧
        ∀ e, removeRecord { g with cache := c } id = .error e → Bears R' { g with cache := c } := by
    refine ⟨fun g' hg' => ?_, fun e he => ?_⟩
    · obtain ⟨d, hd, rfl⟩ := removeRecord_eq_ok hg'
      have hsets := Disk.removeFile_sets hd
      have hd' : d.find g.directory = .ok .directory := hsets.find_eq.trans hg.directory
      exact hg.without hR hd' (fun k hk => hsets.node?_of_ne (recordName_inj.not.2 hk))
        (Shelf.recordAt_of_missing hd' hsets.node?_self) hc
    · refine hg.without hR hg.directory (fun _ _ => rfl) ?_ hc
      unfold removeRecord at he
      cases hd : g.disk.removeFile (g.recordPath id) with
      | error fault => exact removeFile_refused hg.directory hd
      | ok d =>
        have hpath : recordPath { g with cache := c } id = g.recordPath id := rfl
        dsimp only at he
        rw [hpath, hd] at he
        cases he
  have hforgotten (c : Cache) : ∀ k t, (c.remove id).find? k = some t → k ≠ id ∧ c.find? k = some t :=
    fun k t ht => Cache.find?_remove ht
  unfold FileStore.delete
  rcases h.load_spec id with ⟨s, f', hload, -, hf', hsame⟩ | ⟨hload | ⟨e, hload⟩, hc, hnone⟩
  · rw [hload]
    obtain ⟨hok, herror⟩ := hgone hf' (by rw [hsame]) (hforgotten f'.cache)
    dsimp only
    split
    · rename_i g hremove
      exact hok g hremove
    · rename_i e hremove
      exact herror e hremove
  · rw [hload]
    exact h.blank hR hc hnone
  · rw [hload]
    have habsent : ∀ k t, f.cache.find? k = some t → k ≠ id ∧ f.cache.find? k = some t := by
      rintro k t ht
      refine ⟨?_, ht⟩
      rintro rfl
      cases hc.symm.trans ht
    obtain ⟨hok, -⟩ := hgone h rfl habsent
    cases e with
    | invalidSubscriptionId i => exact h.blank hR hc hnone
    | _ =>
      dsimp only
      split
      · rename_i g hremove
        exact hok g hremove
      · exact h.blank hR hc hnone

end Bears

/-! ## Putting in and renewing -/

/-- what is at hand has no part in writing -/
theorem writeRecord_withCache (f : FileStore) (c : Cache) (s : Subscription) :
    writeRecord { f with cache := c } s = ((f.writeRecord s).1, { (f.writeRecord s).2 with cache := c }) := by
  unfold writeRecord
  have hpaths : temporaryPath { f with cache := c } s.id = f.temporaryPath s.id ∧
      recordPath { f with cache := c } s.id = f.recordPath s.id := ⟨rfl, rfl⟩
  rw [hpaths.1, hpaths.2]
  split
  · rfl
  · dsimp only
    split
    · rfl
    · split <;> rfl

/-- a record that is written takes the place of what its file told; the files of other ids tell what they told -/
theorem writeRecord_marks (hdir : f.disk.find f.directory = .ok .directory) (hs : Storable s.toRecord) :
    (∃ e d, f.writeRecord s = (.error e, { f with disk := d }) ∧ d.find f.directory = .ok .directory ∧
      ∀ k, recordAt d f.directory k = recordAt f.disk f.directory k) ∨
    ∃ d, f.writeRecord s = (.ok (), { f with disk := d }) ∧ d.find f.directory = .ok .directory ∧
      ∀ k, recordAt d f.directory k = update (recordAt f.disk f.directory) s.id (some s.toRecord) k := by
  let g : FileStore := { f with cache := ⟨f.cache.capacity, []⟩ }
  have hg : g.Tells (recordAt f.disk f.directory) := ⟨hdir, fun _ => rfl, fun id s hs => by cases hs⟩
  have hsame : f.writeRecord s = ((g.writeRecord s).1, { (g.writeRecord s).2 with cache := f.cache }) :=
    writeRecord_withCache g f.cache s
  rw [hsame]
  rcases writeRecord_tells hg hs with ⟨e, d, hwrite, htells⟩ | ⟨d, hwrite, hfind, hd⟩
  · rw [hwrite]
    exact Or.inl ⟨e, d, rfl, htells.directory, htells.records⟩
  · rw [hwrite]
    exact Or.inr ⟨d, rfl, hfind, hd⟩

namespace Bears

/-- what was written is as `R'` tells, with the same at hand -/
theorem written (h : f.Bears R) (hR : ∀ k r, k ≠ s.id → R k r → R' k r) (hs : R' s.id s.toRecord)
    (hdir : d.find f.directory = .ok .directory)
    (hd : ∀ k, recordAt d f.directory k = update (recordAt f.disk f.directory) s.id (some s.toRecord) k) :
    Bears R' { f with disk := d, cache := f.cache.put s.id s } := by
  refine ⟨hdir, fun k r hr => ?_, fun k t ht => ?_⟩
  · have hr : recordAt d f.directory k = some r := hr
    rw [hd] at hr
    rcases update_some_eq_some.1 hr with ⟨rfl, rfl⟩ | ⟨hk, hr⟩
    · exact hs
    · exact hR k r hk (h.records k r hr)
  · rcases Cache.find?_put ht with ⟨rfl, rfl⟩ | ⟨hk, ht⟩
    · exact hs
    · exact hR k t.toRecord hk (h.cache k t ht)

theorem put (h : f.Bears R) (hR : ∀ k r, k ≠ s.id → R k r → R' k r) (hstorable : Storable s.toRecord)
    (hs : R' s.id s.toRecord) :
    ((∃ e, (f.put s).1 = .error e) ∧ (f.put s).2.Bears R) ∨ ((f.put s).1 = .ok () ∧ (f.put s).2.Bears R') := by
  unfold FileStore.put
  rcases writeRecord_marks h.directory hstorable with ⟨e, d, hwrite, hdir, hd⟩ | ⟨d, hwrite, hdir, hd⟩
  · rw [hwrite]
    exact Or.inl ⟨⟨e, rfl⟩, h.fewer hdir fun k r hr => (hd k).symm.trans hr⟩
  · rw [hwrite]
    exact Or.inr ⟨rfl, h.written hR hs hdir hd⟩

/-- what was found under its own id is written with another end -/
theorem renew (h : f.Bears R) {t : Timestamp} (hR : ∀ k r, k ≠ id → R k r → R' k r)
    (hown : ∀ r, R id r → r.id = id ∧ Storable r ∧ R' id (r.renewed t)) :
    ((∃ e, (f.renew id t).1 = .error e) ∧ (f.renew id t).2.Bears R) ∨
      ((∃ s, (f.renew id t).1 = .ok s ∧ s.id = id) ∧ (f.renew id t).2.Bears R') := by
  unfold FileStore.renew
  rcases h.load_spec id with ⟨s, f', hload, hs, hf', hsame⟩ | ⟨hload | ⟨e, hload⟩, -, -⟩
  · obtain ⟨hid, hstorable, hrenewed⟩ := hown s.toRecord hs
    have hkey : (s.renewed t).id = id := hid
    rw [hload]
    dsimp only
    rcases writeRecord_marks hf'.directory (s := s.renewed t) (hstorable.renewed t) with
      ⟨e, d, hwrite, hdir, hd⟩ | ⟨d, hwrite, hdir, hd⟩
    · rw [hwrite]
      exact Or.inl ⟨⟨e, rfl⟩, hf'.fewer hdir fun k r hr => (hd k).symm.trans hr⟩
    · have hdone := hf'.written (s := s.renewed t) (hkey.symm ▸ hR) (hkey.symm ▸ hrenewed) hdir hd
      rw [hkey] at hdone
      rw [hwrite]
      exact Or.inr ⟨⟨_, rfl, hkey⟩, hdone⟩
  · rw [hload]
    exact Or.inl ⟨⟨_, rfl⟩, h⟩
  · rw [hload]
    exact Or.inl ⟨⟨_, rfl⟩, h⟩

end Bears

end FileStore

end EventBroker
