/-
Records that do not do what a manager takes for granted.

A manager asks its store for a record by an id, and takes it that what it has stored can be found again and has the id
that it was asked for. Over files neither is so for every record: one with parameters nested too deep cannot be read
back, and a file may be named after another id than the one in its record. The store accepts both without a failure.

- `subscribe_accepted`, `restore_accepted`, `renew_accepted`: what operations come to if nothing refuses them.
- `deep_pushed_out`: a subscription that stays active when its record is lost.
- `misled_eq`: a renewal that plans the end of one id, and is found under another.
-/
import EventBroker.Proofs.Manager.Broker
import EventBroker.Proofs.Store.Keyed

namespace EventBroker

open FileStore (bareDisk deep plainOptions)

/-! ## Operations that nothing refuses -/

namespace Manager

variable {σ : Type} {m m' : Manager σ} {e : Endpoint} {id : String} {store : σ} {engine : Engine}

/-- an operation goes on from what its first part has come to -/
theorem bind_of {α β : Type} {a : Act σ α} {f : α → Act σ β} {x : α} (h : a m = (x, m')) : (a >>= f) m = f x m' := by
  show f (a m).1 (a m).2 = f x m'
  rw [h]

theorem onStore_of {α : Type} {f : σ → α × σ} {x : α} (h : f m.store = (x, store)) :
    onStore f m = (x, { m with store }) := by
  show ((f m.store).1, { m with store := (f m.store).2 }) = (x, { m with store })
  rw [h]

theorem onHub_of {α : Type} {f : Hub → α × Hub} {x : α} {hub : Hub} (h : f m.hub = (x, hub)) :
    onHub f m = (x, { m with hub }) := by
  show ((f m.hub).1, { m with hub := (f m.hub).2 }) = (x, { m with hub })
  rw [h]

theorem register_of {s : Subscription} (h : m.engine.register s e = .ok engine) :
    register s e m = (.ok (), { m with engine }) := by
  simp only [register, modifyGet, MonadStateOf.modifyGet, StateT.modifyGet, h]
  rfl

theorem schedule_of_endless {s : Subscription} (h : s.terminationTime = none) : schedule s m = ((), m) := by
  simp only [schedule, modify, modifyGet, MonadStateOf.modifyGet, StateT.modifyGet, h]
  rfl

variable [SubscriptionStore σ]

/-- options without an end lead to a subscription if the next id is free -/
theorem subscribe_accepted {o : SubscribeOptions} (hmade : prepare o m = (.ok e, m')) (hid : m'.ids m'.idsDrawn = id)
    (hunstored : SubscriptionStore.get m'.store id = (none, m'.store)) (hunruled : m'.engine.contains id = false)
    (hput : SubscriptionStore.put m'.store ⟨id, o, e⟩ = (.ok (), store))
    (hregister : m'.engine.register ⟨id, o, e⟩ e = .ok engine) (hend : o.terminationTime = none) :
    subscribe o m = some (.ok ⟨id, o, e⟩, { m' with store, engine, idsDrawn := m'.idsDrawn + 1 }) := by
  have htry : tryId m' = ((id, true), { m' with idsDrawn := m'.idsDrawn + 1 }) := by
    show ((_, (SubscriptionStore.get m'.store _).1.isNone && !m'.engine.contains _),
      { m' with store := (SubscriptionStore.get m'.store _).2, idsDrawn := m'.idsDrawn + 1 }) = _
    rw [hid, hunstored, hunruled]
    rfl
  have hdraw : drawId m' = some (id, { m' with idsDrawn := m'.idsDrawn + 1 }) := by
    unfold drawId
    rw [htry]
  have hactivate : activateNew id o e { m' with idsDrawn := m'.idsDrawn + 1 } =
      (.ok ⟨id, o, e⟩, { m' with store, engine, idsDrawn := m'.idsDrawn + 1 }) := by
    unfold activateNew
    rw [bind_of (onStore_of hput)]
    dsimp only
    rw [bind_of (register_of (m := { m' with store, idsDrawn := m'.idsDrawn + 1 }) hregister)]
    dsimp only
    rw [bind_of (schedule_of_endless (s := ⟨id, o, e⟩) hend)]
    rfl
  unfold subscribe
  rw [hmade]
  dsimp only
  rw [hdraw, Option.map_some, hactivate]

/-- a restore without a record changes nothing -/
theorem restore_nothing (hall : SubscriptionStore.all m.store = ([], m.store)) : (restore m).2 = m := by
  unfold restore
  rw [bind_of (onStore_of hall)]
  rfl

/-- one dormant record comes to life -/
theorem restore_accepted {s : Subscription} {d : DeliveryDefinition} {hub : Hub} {listed : σ}
    (hall : SubscriptionStore.all m.store = ([s], listed)) (hunruled : m.engine.contains s.id = false)
    (hd : s.options.delivery = some d) (hmade : m.hub.create d = (.ok e, hub))
    (hregister : m.engine.register ⟨s.id, s.options, e⟩ e = .ok engine)
    (hput : SubscriptionStore.put listed ⟨s.id, s.options, e⟩ = (.ok (), store)) :
    (restore m).2 = (schedule ⟨s.id, s.options, e⟩ { m with store, hub, engine }).2 := by
  have hactivate : activate s { m with store := listed } =
      (.ok (), (schedule ⟨s.id, s.options, e⟩ { m with store, hub, engine }).2) := by
    unfold activate
    rw [hd]
    dsimp only
    rw [bind_of (onHub_of (m := { m with store := listed }) hmade)]
    dsimp only
    rw [bind_of (register_of (m := { m with store := listed, hub }) hregister)]
    dsimp only
    rw [bind_of (onStore_of (m := { m with store := listed, hub, engine }) hput)]
    rfl
  have hvisit : activateAll [s] { m with store := listed } =
      (1, (schedule ⟨s.id, s.options, e⟩ { m with store, hub, engine }).2) := by
    have hget : (get : Act σ (Manager σ)) { m with store := listed } =
      ({ m with store := listed }, { m with store := listed }) := rfl
    unfold activateAll
    rw [bind_of hget]
    simp only [hunruled, Bool.false_eq_true, if_false]
    rw [bind_of hactivate]
    rfl
  unfold restore
  rw [bind_of (onStore_of hall), hvisit]

theorem renew_accepted {t : Timestamp} {s : Subscription} (hrunning : m.scheduler.isShutDown = false)
    (hrenew : SubscriptionStore.renew m.store id t = (.ok s, store)) :
    renew id t m = (.ok t, (schedule s { m with store }).2) := by
  have hrun : isRunning m = (true, m) := by
    show (!m.scheduler.isShutDown, m) = _
    rw [hrunning]
    rfl
  unfold renew
  rw [bind_of hrun]
  simp only [Bool.not_true, Bool.false_eq_true, if_false]
  rw [bind_of (onStore_of hrenew)]
  rfl

theorem getSubscription_eq_none (h : (SubscriptionStore.get m.store id).1 = none) :
    (getSubscription id m).1 = none := by
  show (SubscriptionStore.get m.store id).1.map _ = none
  rw [h]
  rfl

end Manager

namespace Broker

/-- a hub with a local queue that alerts go to -/
def alertsHub : Hub := ((Hub.empty (fun _ => .done) (fun n => toString n) 4 [.queues]).openQueue "alerts").2

/-- options for the queue, with an end or without one -/
def alerts (t : Option Timestamp) : SubscribeOptions :=
  { plainOptions with delivery := some ⟨"local", "alerts", "weather", [], false⟩, terminationTime := t }

/-- a manager over a store before anything is done, which is going to draw two ids -/
def alertsManager (f : FileStore) : Manager FileStore :=
  .assemble f alertsHub (.ofCompiler Compiler.regex .standard) ⟨⟨0⟩⟩ fun n => if n = 0 then "s" else "t"

/-- the broker that is opened over the store -/
def openedOver (f : FileStore) : Broker FileStore :=
  opened f alertsHub Compiler.regex .standard ⟨⟨0⟩⟩ (alertsManager f).ids

/-! ## A record that cannot be read back -/

/-- over no records, with room for one at hand: a subscription stays active when the next one has pushed it out -/
theorem deep_pushed_out {f : FileStore} (hf : f.InOrder fun _ => none) (hroom : f.cache.capacity = 1) :
    ∃ s m, Manager.subscribe deep.options (openedOver f).manager = some (.ok s, m) ∧ s.id = "s" ∧
      let b := (openedOver f).run [.subscribe deep.options, .subscribe (alerts none)]
      b.manager.engine.contains "s" = true ∧ (SubscriptionStore.get b.manager.store "s").1 = none := by
  have hopened : (openedOver f).manager = alertsManager f := Manager.restore_nothing hf.all_missing
  have hvalid : ∀ id ∈ ["s", "t"],
      FileStore.isValidId id = true ∧ Disk.isName (FileStore.temporaryName id) = true := by
    simp only [FileStore.isName_iff]
    decide
  obtain ⟨f₁, f₂, hput, hfree, hput', hgone⟩ := hf.put_pushed_out hroom
    (s := ⟨"s", deep.options, .bound 0 "local:alerts"⟩) (t := ⟨"t", alerts none, .bound 1 "local:alerts"⟩)
    (hvalid _ (by simp)) (hvalid _ (by simp)) (by decide) rfl FileStore.deep_unreadable
  have hunstored : f.get "s" = (none, f) := hf.get_missing rfl
  obtain ⟨m₁, m₂, hfirst, hsecond, hactive, hmissing⟩ : ∃ m₁ m₂,
      Manager.subscribe deep.options (alertsManager f) = some (.ok ⟨"s", deep.options, .bound 0 "local:alerts"⟩, m₁) ∧
      Manager.subscribe (alerts none) m₁ = some (.ok ⟨"t", alerts none, .bound 1 "local:alerts"⟩, m₂) ∧
      m₂.engine.contains "s" = true ∧ (SubscriptionStore.get m₂.store "s").1 = none :=
    ⟨_, _, Manager.subscribe_accepted rfl rfl hunstored rfl hput rfl rfl,
      Manager.subscribe_accepted rfl rfl hfree rfl hput' rfl rfl, rfl, hgone⟩
  rw [← hopened] at hfirst
  refine ⟨_, m₁, hfirst, rfl, ?_⟩
  rw [run_cons, step_subscribe_some hfirst, run_cons, step_subscribe_some (b := ⟨m₁, _⟩) hsecond, run_nil]
  exact ⟨hactive, hmissing⟩

/-! ## A record in another file -/

/-- the record of a subscription with an end -/
def strayRecord : SubscriptionRecord := ⟨"a", alerts (some ⟨5⟩), "local:alerts"⟩

theorem strayRecord_storable : FileStore.Storable strayRecord := by
  have hoptions : (alerts (some ⟨5⟩)).Fits := by
    refine ⟨?_, by simp [alerts, plainOptions], by simp [alerts, plainOptions], fun d hd => ?_, by decide,
      fun e he => (by cases he), by simp [alerts, plainOptions]⟩
    · unfold Short
      decide
    · cases hd
      refine ⟨?_, ?_, ?_, by decide, by simp⟩ <;> unfold Short <;> decide
  exact FileStore.Storable.of_options hoptions (by decide) (by unfold Short; decide) "a"

/-- a directory with that record in a file that is named after another id -/
def strayDisk : Disk :=
  let nodes := bareDisk.nodes.insert (["d"] ++ [FileStore.lockName]) (.file 0 [])
  ⟨nodes.insert (["d"] ++ [FileStore.recordName "b"]) (.file 1 (RecordFile.encode strayRecord)), 2, []⟩

/-- the store that is opened over it -/
def stray (room : Nat) : FileStore := ⟨{ strayDisk with locks := [0] }, ["d"], 0, .ofCapacity room⟩

theorem stray_node? (room : Nat) (n : String) : (stray room).disk.node? ((stray room).directory ++ [n]) =
    if n = FileStore.recordName "b" then some (.file 1 (RecordFile.encode strayRecord))
    else if n = FileStore.lockName then some (.file 0 []) else none := by
  have hdir : (["d", n] : Path) ≠ ["d"] := by simp
  simp [stray, strayDisk, bareDisk, Disk.node?, Table.find?_insert, Table.find?_empty, hdir]

theorem stray_flat (room : Nat) : (stray room).Flat := by
  refine ⟨?_, fun n => ?_⟩
  · have hname : Disk.isName "d" = true := FileStore.isName_iff.2 (by decide)
    simp [Disk.find, Disk.walk, Disk.node?, hname, stray, strayDisk, bareDisk, Table.find?_insert]
  · rw [stray_node?]
    split
    · simp
    · split <;> simp

theorem stray_names (room : Nat) : ∃ ns, (stray room).disk.names (stray room).directory = .ok ns ∧
    ns.Perm [FileStore.recordName "b", FileStore.lockName] := by
  obtain ⟨ns, hnames, hnodup, hmem⟩ := Disk.names_child (stray_flat room).directory
  have htwo : [FileStore.recordName "b", FileStore.lockName].Nodup := by decide
  refine ⟨ns, hnames, (List.perm_ext_iff_of_nodup hnodup htwo).2 fun n => ?_⟩
  rw [hmem, stray_node?]
  simp only [List.mem_cons, List.not_mem_nil, or_false]
  split
  · simp [*]
  · split <;> simp [*]

theorem stray_recordAt (room : Nat) (id : String) : FileStore.recordAt (stray room).disk (stray room).directory id =
    if id = "b" then some strayRecord else none := by
  have hname : ∀ id ∈ ["a", "b"], Disk.isName (FileStore.recordName id) = true := by
    simp only [FileStore.isName_iff]
    decide
  split
  · rename_i hid
    subst hid
    rw [FileStore.Shelf.recordAt_of_node (stray_flat room).directory (by decide) (hname "b" (by simp))
      ((stray_node? room _).trans (if_pos rfl)), strayRecord_storable.decode_encode (hname "a" (by simp))]
    rfl
  · rename_i hid
    refine FileStore.Shelf.recordAt_of_missing (stray_flat room).directory ?_
    rw [stray_node?, if_neg (FileStore.recordName_inj.not.2 hid), if_neg FileStore.recordName_ne_lockName]

theorem stray_opened (room : Nat) : (FileStore.openAt strayDisk ["d"] room).1 = .ok (stray room) := by
  obtain ⟨ns, hnames, hperm⟩ := stray_names room
  have hdir : strayDisk.find ["d"] = .ok .directory := (stray_flat room).directory
  have hlock : strayDisk.node? (["d"] ++ [FileStore.lockName]) = some (.file 0 []) :=
    (stray_node? room _).trans (by simp [FileStore.recordName_ne_lockName.symm])
  have htemporary : ∀ n ∈ ns, (splitExtension n).2 ≠ some FileStore.temporaryExtension := by
    intro n hn
    have hn := hperm.mem_iff.1 hn
    simp only [List.mem_cons, List.not_mem_nil, or_false] at hn
    rcases hn with rfl | rfl
    · exact FileStore.splitExtension_recordName_ne "b"
    · simp [FileStore.splitExtension_lockName]
  have hopen := FileStore.openAt_eq hdir hlock (by decide) hnames (FileStore.removeTemporary_of_none htemporary) room
  exact congrArg Prod.fst hopen

theorem stray_all (room : Nat) : (stray room).all = ([Subscription.ofRecord strayRecord],
    { stray room with cache := (stray room).cache.put "b" (.ofRecord strayRecord) }) := by
  obtain ⟨ns, hnames, hperm⟩ := stray_names room
  have hids : FileStore.recordIds ns = ["b"] := by
    have hboth : FileStore.recordIds [FileStore.recordName "b", FileStore.lockName] = ["b"] := by
      simp [FileStore.recordIds, FileStore.splitExtension_recordName, FileStore.splitExtension_lockName]
    exact List.perm_singleton.1 (hboth ▸ hperm.filterMap _)
  have hload := FileStore.load_told ((stray_recordAt room "b").trans (if_pos rfl)) fun s hs => by cases hs
  unfold FileStore.all
  rw [hnames]
  dsimp only
  rw [hids]
  simp [FileStore.loadAll, FileStore.get, hload]

/-- what is found when the renewal is over, and was found before -/
def renewedStray : Subscription := (Subscription.ofRecord strayRecord).renewed ⟨9⟩

/-- the subscription that the record came to life as -/
def liveStray : Subscription := ⟨"a", alerts (some ⟨5⟩), .bound 0 "local:alerts"⟩

/-- what is at hand when the directory was opened and the other id renewed -/
def misledCache (room : Nat) : Cache :=
  ((((Cache.ofCapacity room).put "b" (.ofRecord strayRecord)).put "a" liveStray).put "b" (.ofRecord strayRecord)).put
    "b" renewedStray

/-- a manager over a store, with the rule and the plan of the live subscription -/
def awakened (f : FileStore) : Manager FileStore :=
  let hub := (alertsHub.create ⟨"local", "alerts", "weather", [], false⟩).2
  let rules := Table.empty.insert "a" ⟨"a", .always, liveStray.endpoint, false⟩
  (Manager.schedule liveStray { alertsManager f with hub, engine := ⟨Compiler.regex, .standard, rules⟩ }).2

/-- the same manager with the plan of the renewal -/
def misled (f : FileStore) : Manager FileStore := (Manager.schedule renewedStray (awakened f)).2

/-- the broker is opened, and renews the id that the file is named after -/
theorem misled_eq (room : Nat) :
    ∃ f : FileStore, (openedOver (stray room)).step (.renew "b" ⟨9⟩) = ⟨misled f, []⟩ ∧ f.Flat ∧
      f.cache = misledCache room ∧ FileStore.recordAt f.disk f.directory "b" = some strayRecord ∧
      FileStore.recordAt f.disk f.directory "s" = none := by
  have hid : FileStore.isValidId "a" = true := by decide
  have hname : Disk.isName (FileStore.temporaryName "a") = true := FileStore.isName_iff.2 (by decide)
  let f₀ : FileStore := { stray room with cache := (stray room).cache.put "b" (.ofRecord strayRecord) }
  have hflat₀ : f₀.Flat := (stray_flat room).cached _
  obtain ⟨d, hwrite, hflat₁, hothers⟩ := hflat₀.writeRecord (s := liveStray) hid hname
  let f₁ : FileStore := { f₀ with disk := d, cache := f₀.cache.put "a" liveStray }
  have hput : f₀.put liveStray = (.ok (), f₁) := FileStore.put_of_writeRecord hwrite
  have hb : FileStore.recordAt f₁.disk f₁.directory "b" = some strayRecord :=
    (hothers "b" (by decide)).trans ((stray_recordAt room "b").trans (if_pos rfl))
  have hcached : ∀ s, f₁.cache.find? "b" = some s → s = Subscription.ofRecord strayRecord := by
    intro s hs
    rcases Cache.find?_put hs with ⟨hab, -⟩ | ⟨-, hs⟩
    · exact absurd hab (by decide)
    · rcases Cache.find?_put hs with ⟨-, rfl⟩ | ⟨hbb, -⟩
      · rfl
      · exact absurd rfl hbb
  obtain ⟨d', hrenew, hb', hflat', hlater⟩ :=
    (hflat₁.cached f₁.cache).renew_misfiled hb (by decide) hid hname hcached ⟨9⟩
  have hopened : openedOver (stray room) = ⟨awakened f₁, []⟩ := by
    have hrestored := Manager.restore_accepted (m := alertsManager (stray room)) (e := liveStray.endpoint)
      (stray_all room) rfl rfl rfl rfl hput
    exact congrArg (fun m => Broker.mk m []) hrestored
  refine ⟨⟨d', ["d"], 0, misledCache room⟩, ?_, hflat'.cached _, rfl, hb', ?_⟩
  · have hrenewed := Manager.renew_accepted (m := awakened f₁) (t := ⟨9⟩) rfl hrenew
    rw [hopened]
    exact congrArg (fun r => Broker.mk (Prod.snd r) []) hrenewed
  · exact (hlater "s" (by decide)).trans
      ((hothers "s" (by decide)).trans ((stray_recordAt room "s").trans (if_neg (by decide))))

/-- with room for one at hand: what is found under the other id is the renewal, until a subscription pushes it out -/
theorem misled_pushed_out : ∃ s m,
    Manager.subscribe (alerts none) ((openedOver (stray 1)).step (.renew "b" ⟨9⟩)).manager = some (.ok s, m) ∧
      s.id = "s" ∧
      SubscriptionStore.told ((openedOver (stray 1)).step (.renew "b" ⟨9⟩)).manager.store "b" =
        some renewedStray.toRecord ∧
      SubscriptionStore.told m.store "b" = some strayRecord := by
  obtain ⟨f, hmisled, hflat, hcache, hb, hs⟩ := misled_eq 1
  have hathand : f.cache.find? "b" = some renewedStray := by
    rw [hcache]
    rfl
  have hroom : f.cache.capacity = 1 := congrArg Cache.capacity hcache
  have hfree : f.get "s" = (none, f) := by
    refine FileStore.get_of_missing ?_ hs
    rw [hcache]
    exact Cache.find?_put_of_room rfl (by decide)
  let new : Subscription := ⟨"s", alerts none, .bound 1 "local:alerts"⟩
  obtain ⟨d, hwrite, -, hothers⟩ := hflat.writeRecord (s := new) (by decide) (FileStore.isName_iff.2 (by decide))
  have hput := FileStore.put_of_writeRecord hwrite
  have hmade := Manager.subscribe_accepted (m := misled f) (o := alerts none) rfl rfl hfree rfl hput rfl rfl
  rw [hmisled]
  refine ⟨new, _, hmade, rfl, ?_, ?_⟩
  · show (f.get "b").1.map Subscription.toRecord = _
    rw [FileStore.get_of_cache hathand]
    rfl
  · have hpushed : (f.cache.put "s" new).find? "b" = none := Cache.find?_put_of_room hroom (by decide)
    let g : FileStore := { f with disk := d, cache := f.cache.put "s" new }
    show (g.get "b").1.map Subscription.toRecord = _
    rw [FileStore.get_told ((hothers "b" (by decide)).trans hb) fun t ht => by cases hpushed.symm.trans ht]
    rfl

end Broker

end EventBroker
