/-
The store of record files answers as the store in memory.

A session is a list of calls on a store, with the store of record files closed and opened again in between, each time
with another cache. If the calls are such that the files can have their names and the records can be written, all
answers are those of the store in memory, which is never closed: neither the cache nor what has gone from it shows.

- `StoreCall.serve`: a call and its answer, for any store. Subscriptions in answers are told apart by what is kept of
  them, and a list of all has no order.
- `Mirrors`: both stores have the same records, and no file has the name of a record that they do not have.
- `Mirrors.serve` is the step and `Mirrors.session` the run; `session_eq_answers` is the main result.
-/
import Mathlib.Data.Multiset.AddSub
import EventBroker.Proofs.Store.Frame
import EventBroker.Proofs.Store.Limits

namespace EventBroker

open Function (update)

/-! ## Calls and answers -/

inductive StoreCall where
  | put (s : Subscription)
  | get (id : String)
  | all
  | delete (id : String)
  | renew (id : String) (t : Timestamp)

inductive StoreAnswer where
  | stored (result : Except BrokerError Unit)
  | found (record : Option SubscriptionRecord)
  | listed (records : Multiset SubscriptionRecord)
  | taken (result : Except BrokerError SubscriptionRecord)
  | renewed (result : Except BrokerError SubscriptionRecord)

/-- the call answered an error -/
def StoreAnswer.failed : StoreAnswer → Bool
  | .stored (.error _) => true
  | .taken (.error _) => true
  | .renewed (.error _) => true
  | _ => false

namespace StoreCall

variable {σ : Type} [SubscriptionStore σ]

/-- a call of a store, and the store as it is afterwards -/
def serve (st : σ) : StoreCall → StoreAnswer × σ
  | .put s =>
    let r := SubscriptionStore.put st s
    (.stored r.1, r.2)
  | .get id =>
    let r := SubscriptionStore.get st id
    (.found (r.1.map Subscription.toRecord), r.2)
  | .all =>
    let r := SubscriptionStore.all st
    (.listed (Multiset.ofList (r.1.map Subscription.toRecord)), r.2)
  | .delete id =>
    let r := SubscriptionStore.delete st id
    (.taken (r.1.map Subscription.toRecord), r.2)
  | .renew id t =>
    let r := SubscriptionStore.renew st id t
    (.renewed (r.1.map Subscription.toRecord), r.2)

theorem serve_delete {st st' : σ} {id : String} {a : Except BrokerError Subscription}
    (h : SubscriptionStore.delete st id = (a, st')) :
    (delete id).serve st = (.taken (a.map Subscription.toRecord), st') := by
  simp only [serve, h]

theorem serve_renew {st st' : σ} {id : String} {t : Timestamp} {a : Except BrokerError Subscription}
    (h : SubscriptionStore.renew st id t = (a, st')) :
    (renew id t).serve st = (.renewed (a.map Subscription.toRecord), st') := by
  simp only [serve, h]

/-- the answers to calls one after the other -/
def answers (st : σ) : List StoreCall → List StoreAnswer
  | [] => []
  | c :: cs => (serve st c).1 :: answers (serve st c).2 cs

/-- the files of a call can have their names, and its record can be written -/
def Fits : StoreCall → Prop
  | .put s => FileStore.isValidId s.id = true ∧ Disk.isName (FileStore.temporaryName s.id) = true ∧
      FileStore.Storable s.toRecord
  | .delete id => FileStore.isValidId id = true → Disk.isName (FileStore.recordName id) = true
  | _ => True

/-- the record of a call can be read back -/
def Kept : StoreCall → Prop
  | .put s => FileStore.Storable s.toRecord
  | _ => True

/-- what a call makes of the records if it succeeds -/
def effect (v : Records) : StoreCall → Records
  | .put s => update v s.id (some s.toRecord)
  | .get _ => v
  | .all => v
  | .delete id => update v id none
  | .renew id t => update v id ((v id).map (SubscriptionRecord.renewed · t))

end StoreCall

/-- what is done to a store of record files -/
inductive Visit where
  | call (c : StoreCall)
  /-- the store is closed, and its directory opened again -/
  | reopen (cacheSize : Nat)

def Visit.call? : Visit → Option StoreCall
  | .call c => some c
  | .reopen _ => none

namespace FileStore

/-- the answers of a store that is closed and opened again in between, as long as it can be opened -/
def session (f : FileStore) : List Visit → Except BrokerError (List StoreAnswer)
  | [] => .ok []
  | .call c :: vs => ((c.serve f).2.session vs).map ((c.serve f).1 :: ·)
  | .reopen cacheSize :: vs => (openAt f.close f.directory cacheSize).1.bind fun f => f.session vs

/-! ## Two stores with the same records -/

section Faithful

variable {σ τ : Type} [SubscriptionStore σ] [FaithfulStore σ] [SubscriptionStore τ] [FaithfulStore τ]
variable {st : σ} {st' : τ} {v : Records}

theorem mem_listed (h : FaithfulStore.Holds st v) {r : SubscriptionRecord} :
    r ∈ (SubscriptionStore.all st).1.map Subscription.toRecord ↔ v r.id = some r := by
  rw [List.mem_map]
  constructor
  · rintro ⟨s, hs, rfl⟩
    exact FaithfulStore.all_sound h s hs
  · intro hr
    obtain ⟨s, hs, hid⟩ := FaithfulStore.all_complete h hr
    have hsame := FaithfulStore.all_sound h s hs
    rw [hid, hr] at hsame
    exact ⟨s, hs, (Option.some.inj hsame).symm⟩

theorem listed_nodup (h : FaithfulStore.Holds st v) :
    ((SubscriptionStore.all st).1.map Subscription.toRecord).Nodup := by
  have hids := FaithfulStore.all_nodup h
  refine List.Nodup.of_map SubscriptionRecord.id ?_
  rw [List.map_map]
  exact hids

/-- two stores with the same records list the same -/
theorem listed_eq (h : FaithfulStore.Holds st v) (h' : FaithfulStore.Holds st' v) :
    Multiset.ofList ((SubscriptionStore.all st).1.map Subscription.toRecord) =
      Multiset.ofList ((SubscriptionStore.all st').1.map Subscription.toRecord) := by
  refine Multiset.coe_eq_coe.2 ((List.perm_ext_iff_of_nodup (listed_nodup h) (listed_nodup h')).2 fun r => ?_)
  rw [mem_listed h, mem_listed h']

end Faithful

theorem same_records {a b : Except BrokerError Subscription} {s t : Subscription} (ha : a = .ok s) (hb : b = .ok t)
    (h : s.toRecord = t.toRecord) : a.map Subscription.toRecord = b.map Subscription.toRecord := by
  rw [ha, hb]
  exact congrArg Except.ok h

/-- every file that has the name of a record is the file of a record -/
def Tidy (f : FileStore) (v : Records) : Prop := ∀ id, f.disk.node? (f.recordPath id) ≠ none → v id ≠ none

namespace Tidy

variable {f f' : FileStore} {v v' : Records} {id : String}

/-- whatever is done to one id leaves the files of others in order -/
theorem touched (h : f.Tidy v) (ht : f.Touches f' id)
    (hself : f'.disk.node? (f.recordPath id) ≠ none → v' id ≠ none) (hothers : ∀ k, k ≠ id → v' k = v k) :
    f'.Tidy v' := by
  intro k hk
  have hpath : f'.recordPath k = f.recordPath k := congrArg (· ++ [recordName k]) ht.directory
  rw [hpath] at hk
  by_cases heq : k = id
  · subst heq
    exact hself hk
  · rw [hothers k heq]
    refine h k ?_
    rwa [ht.record_eq heq] at hk

/-- the cache has no part in it -/
theorem of_cache (h : f.Tidy v) (hf : f' = { f with cache := f'.cache }) : f'.Tidy v := by
  rw [hf]
  exact h

end Tidy

/-! ## What is not there -/

namespace InOrder

variable {f : FileStore} {v : Records} {id : String}

/-- a load finds no subscription of another id -/
theorem load_id (h : f.InOrder v) {s : Subscription} (hs : (f.load id).1 = .ok (some s)) : s.id = id := by
  rcases h.load_spec id with ⟨s', f', hload, hr, -, -⟩ | ⟨hload | ⟨e, hload⟩, -⟩
  · rw [hload] at hs
    cases hs
    exact h.shelf.keyed id _ hr
  · rw [hload] at hs
    cases hs
  · rw [hload] at hs
    cases hs

/-- where no file is in the way, an id without a record is unknown, and nothing is done -/
theorem delete_missing (h : f.InOrder v) (htidy : f.Tidy v) (hid : (StoreCall.delete id).Fits) (hv : v id = none) :
    f.delete id = (.error (.unknownSubscription id), f) := by
  have hfile : f.disk.node? (f.recordPath id) = none := by
    by_contra hne
    exact htidy id hne hv
  by_cases hvalid : isValidId id = true
  · have hread : f.disk.read (f.recordPath id) = .error .missing := by
      unfold recordPath at hfile ⊢
      rw [Disk.read_child h.shelf.directory (hid hvalid), hfile]
    have hnone : f.readRecord id = .ok none := by
      unfold readRecord
      rw [hvalid, hread]
      rfl
    unfold FileStore.delete
    rw [h.load_missing hv, hnone]
  · rw [Bool.not_eq_true] at hvalid
    have hinvalid : f.readRecord id = .error (.invalidSubscriptionId id) := by
      unfold readRecord
      rw [hvalid]
      rfl
    unfold FileStore.delete
    rw [h.load_missing hv, hinvalid]

theorem renew_missing (h : f.InOrder v) (hv : v id = none) (t : Timestamp) :
    f.renew id t = (.error (.unknownSubscription id), f) := by
  unfold FileStore.renew
  rcases h.load_spec id with ⟨s, f', -, hs, -, -⟩ | ⟨hload | ⟨e, hload⟩, -⟩
  · cases hv.symm.trans hs
  · rw [hload]
  · rw [hload]

end InOrder

/-! ## Mirrors -/

/-- a store of record files that has the same records as a store in memory -/
structure Mirrors (f : FileStore) (m : MemoryStore) (v : Records) : Prop where
  files : f.InOrder v
  memory : FaithfulStore.Holds m v
  tidy : f.Tidy v

namespace Mirrors

variable {f : FileStore} {m : MemoryStore} {v : Records}

theorem not_in_table (h : f.Mirrors m v) {id : String} (hv : v id = none) : m.table.find? id = none :=
  MemoryStore.records_eq_none (by rw [h.memory.2]; exact hv)

/-! ### Calls -/

theorem put (h : f.Mirrors m v) {s : Subscription} (hs : (StoreCall.put s).Fits) :
    ((StoreCall.put s).serve f).1 = ((StoreCall.put s).serve m).1 ∧
      Mirrors ((StoreCall.put s).serve f).2 ((StoreCall.put s).serve m).2 (update v s.id (some s.toRecord)) := by
  obtain ⟨hid, hname, hstorable⟩ := hs
  obtain ⟨number, d, d', hwrite, -⟩ := writeRecord_accepted h.files.shelf hid hname
  have hok : (f.put s).1 = .ok () := by
    unfold FileStore.put
    rw [hwrite]
  have hfiles := FaithfulStore.put_accepted (σ := FileStore) h.files hstorable hok
  have hmemory := FaithfulStore.put_accepted (σ := MemoryStore) h.memory (s := s) trivial rfl
  refine ⟨congrArg StoreAnswer.stored hok, hfiles, hmemory, ?_⟩
  refine h.tidy.touched (f.put_touches s) (fun _ => ?_) fun k hk => Function.update_of_ne hk _ _
  rw [Function.update_self]
  exact Option.some_ne_none _

theorem get (h : f.Mirrors m v) (id : String) :
    ((StoreCall.get id).serve f).1 = ((StoreCall.get id).serve m).1 ∧
      Mirrors ((StoreCall.get id).serve f).2 ((StoreCall.get id).serve m).2 v := by
  obtain ⟨hanswer, hfiles⟩ := h.files.get_spec id
  have hmemory := FaithfulStore.get_answer h.memory id
  exact ⟨congrArg StoreAnswer.found (hanswer.trans hmemory.symm), hfiles, FaithfulStore.get_holds h.memory id,
    h.tidy.of_cache (f.get_eq id)⟩

theorem all (h : f.Mirrors m v) :
    (StoreCall.all.serve f).1 = (StoreCall.all.serve m).1 ∧
      Mirrors (StoreCall.all.serve f).2 (StoreCall.all.serve m).2 v :=
  ⟨congrArg StoreAnswer.listed (listed_eq (σ := FileStore) h.files h.memory),
    FaithfulStore.all_holds (σ := FileStore) h.files, FaithfulStore.all_holds h.memory, h.tidy.of_cache f.all_eq⟩

theorem delete (h : f.Mirrors m v) {id : String} (hid : (StoreCall.delete id).Fits) :
    ((StoreCall.delete id).serve f).1 = ((StoreCall.delete id).serve m).1 ∧
      Mirrors ((StoreCall.delete id).serve f).2 ((StoreCall.delete id).serve m).2 (update v id none) := by
  cases hv : v id with
  | none =>
    have hf : f.delete id = (.error (.unknownSubscription id), f) := h.files.delete_missing h.tidy hid hv
    have hm : m.delete id = (.error (.unknownSubscription id), m) := by
      unfold MemoryStore.delete
      rw [h.not_in_table hv]
    have hsame : update v id none = v := by rw [← hv, Function.update_eq_self]
    rw [StoreCall.serve_delete hf, StoreCall.serve_delete hm, hsame]
    exact ⟨rfl, h⟩
  | some r =>
    obtain ⟨⟨s, hs, hr⟩, hfiles⟩ := h.files.delete_known hv
    obtain ⟨⟨s', hs', hr'⟩, hmemory⟩ := FaithfulStore.delete_known h.memory hv
    refine ⟨congrArg StoreAnswer.taken (same_records hs hs' (hr.trans hr'.symm)), hfiles, hmemory, ?_⟩
    exact h.tidy.touched (f.delete_touches id) (fun hne => absurd (delete_removes hs) hne)
      fun k hk => Function.update_of_ne hk _ _

theorem renew (h : f.Mirrors m v) (id : String) (t : Timestamp) :
    ((StoreCall.renew id t).serve f).1 = ((StoreCall.renew id t).serve m).1 ∧
      Mirrors ((StoreCall.renew id t).serve f).2 ((StoreCall.renew id t).serve m).2
        (update v id ((v id).map (SubscriptionRecord.renewed · t))) := by
  cases hv : v id with
  | none =>
    have hf : f.renew id t = (.error (.unknownSubscription id), f) := h.files.renew_missing hv t
    have hm : m.renew id t = (.error (.unknownSubscription id), m) := by
      unfold MemoryStore.renew
      rw [h.not_in_table hv]
    have hsame : update v id none = v := by rw [← hv, Function.update_eq_self]
    rw [StoreCall.serve_renew hf, StoreCall.serve_renew hm, Option.map_none, hsame]
    exact ⟨rfl, h⟩
  | some r =>
    obtain ⟨⟨s, hs, hr⟩, hfiles⟩ := h.files.renew_known hv t
    obtain ⟨⟨s', hs', hr'⟩, hmemory⟩ := FaithfulStore.renew_known h.memory hv t
    refine ⟨congrArg StoreAnswer.renewed (same_records hs hs' (hr.trans hr'.symm)), hfiles, hmemory, ?_⟩
    refine h.tidy.touched (renew_touches (fun s hs => h.files.load_id hs) t) (fun _ => ?_)
      fun k hk => Function.update_of_ne hk _ _
    rw [Function.update_self]
    exact Option.some_ne_none _

/-- **Step.** A call has the same answer from both stores, and then they have the same records again. -/
theorem serve (h : f.Mirrors m v) {c : StoreCall} (hc : c.Fits) :
    (c.serve f).1 = (c.serve m).1 ∧ Mirrors (c.serve f).2 (c.serve m).2 (c.effect v) := by
  cases c with
  | put s => exact h.put hc
  | get id => exact h.get id
  | all => exact h.all
  | delete id => exact h.delete hc
  | renew id t => exact h.renew id t

/-! ### Sessions -/

/-- a store that is opened again has the same records -/
theorem reopen (h : f.Mirrors m v) (cacheSize : Nat) :
    ∃ f', (openAt f.close f.directory cacheSize).1 = .ok f' ∧ Mirrors f' m v := by
  obtain ⟨f', hopen, hdir, hfiles⟩ := h.files.reopen cacheSize
  have hok : (openAt f.close f.directory cacheSize).1 = .ok f' := congrArg Prod.fst hopen
  obtain ⟨bytes, hlock⟩ := h.files.lockFile
  refine ⟨f', hok, hfiles, h.memory, fun id hid => h.tidy id ?_⟩
  have hpath : f'.recordPath id = f.recordPath id := congrArg (· ++ [recordName id]) hdir
  rw [hpath] at hid
  have hclosed : Shelf f.close f.directory v := h.files.shelf.congr fun _ => rfl
  have hfound := openAt_finds hclosed.directory hlock hok hid
  rw [← hfound] at hid
  exact hid

/-- **Run.** In a session all answers are those of the store in memory. -/
theorem session (h : f.Mirrors m v) {vs : List Visit} (hvs : ∀ c, .call c ∈ vs → c.Fits) :
    f.session vs = .ok (StoreCall.answers m (vs.filterMap Visit.call?)) := by
  induction vs generalizing f m v with
  | nil => rfl
  | cons visit vs ih =>
    have hrest : ∀ c, .call c ∈ vs → c.Fits := fun c hc => hvs c (List.mem_cons_of_mem visit hc)
    cases visit with
    | call c =>
      obtain ⟨hanswer, hnext⟩ := h.serve (hvs c List.mem_cons_self)
      rw [FileStore.session, ih hnext hrest, hanswer]
      rfl
    | reopen cacheSize =>
      obtain ⟨f', hopen, hnext⟩ := h.reopen cacheSize
      rw [FileStore.session, hopen]
      exact ih hnext hrest

end Mirrors

/-- an empty directory mirrors an empty store -/
theorem Mirrors.of_bare {d : Disk} {dir : Path} (h : Bare d dir) (cacheSize : Nat) :
    ∃ f, (openAt d dir cacheSize).1 = .ok f ∧ f.Mirrors .empty fun _ => none := by
  obtain ⟨f, hopen, hdir, hfiles, hlock⟩ := openAt_bare h cacheSize
  refine ⟨f, hopen, hfiles, ⟨MemoryStore.keyed_empty, rfl⟩, fun id hid => ?_⟩
  unfold recordPath at hid
  rw [hdir] at hid
  exact absurd (hlock (recordName id) hid) recordName_ne_lockName

/-- **Refinement.** In an empty directory, whatever is asked of the store of record files, however often it is closed and
opened again, and whatever the sizes of its caches, it answers as the store in memory does. -/
theorem session_eq_answers {d : Disk} {dir : Path} (h : Bare d dir) (cacheSize : Nat) {vs : List Visit}
    (hvs : ∀ c, .call c ∈ vs → c.Fits) :
    ((openAt d dir cacheSize).1.bind fun f => f.session vs) =
      .ok (StoreCall.answers MemoryStore.empty (vs.filterMap Visit.call?)) := by
  obtain ⟨f, hopen, hf⟩ := Mirrors.of_bare h cacheSize
  rw [hopen]
  exact hf.session hvs

/-- a directory with nothing in it -/
def bareDisk : Disk := ⟨Table.empty.insert ["d"] .directory, 0, []⟩

theorem bareDisk_bare : Bare bareDisk ["d"] := by
  have hname : Disk.isName "d" = true := isName_iff.2 (by decide)
  refine ⟨?_, fun n => ?_, by decide⟩
  · simp [Disk.find, Disk.walk, Disk.node?, hname, bareDisk, Table.find?_insert]
  · have hdir : (["d", n] : Path) ≠ ["d"] := by simp
    simp [Disk.node?, bareDisk, Table.find?_insert, Table.find?_empty, hdir]

/-- options that can be stored -/
def plainOptions : SubscribeOptions := ⟨"weather", none, none, none, none, .empty, none⟩

theorem plainOptions_fit : plainOptions.Fits := by
  refine ⟨?_, by simp [plainOptions], by simp [plainOptions], by simp [plainOptions], by decide, ?_,
    by simp [plainOptions]⟩
  · unfold Short
    decide
  · intro e he
    cases he

def plain : Subscription := ⟨"s", plainOptions, .detached "local:alerts"⟩

theorem plain_storable : Storable plain.toRecord :=
  Storable.of_options plainOptions_fit (by decide) (by unfold Short; decide) "s"

/-- a subscription is found again and taken out, with caches of whatever size in between -/
theorem session_of_plain :
    let vs : List Visit := [.call (.put plain), .reopen 0, .call (.get "s"), .reopen 1, .call (.delete "s"),
      .call (.delete "s"), .call .all]
    Bare bareDisk ["d"] ∧ (∀ c, .call c ∈ vs → c.Fits) ∧
      ((openAt bareDisk ["d"] 4).1.bind fun f => f.session vs) =
        .ok [.stored (.ok ()), .found (some plain.toRecord), .taken (.ok plain.toRecord),
          .taken (.error (.unknownSubscription "s")), .listed 0] := by
  intro vs
  have hvs : ∀ c, .call c ∈ vs → c.Fits := by
    intro c hc
    have hname : Disk.isName (recordName "s") = true := isName_iff.2 (by decide)
    simp only [vs, List.mem_cons, List.not_mem_nil, or_false, reduceCtorEq, false_or, Visit.call.injEq] at hc
    rcases hc with rfl | rfl | rfl | rfl | rfl
    · exact ⟨by decide, isName_iff.2 (by decide), plain_storable⟩
    · exact trivial
    · exact fun _ => hname
    · exact fun _ => hname
    · exact trivial
  refine ⟨bareDisk_bare, hvs, ?_⟩
  rw [session_eq_answers bareDisk_bare 4 hvs]
  rfl

/-- a subscription with one level of parameters too many -/
def deep : Subscription :=
  ⟨"s", { plainOptions with delivery := some ⟨"local", "alerts", "weather", [.nested maxNesting], false⟩ },
    .detached "local:alerts"⟩

theorem deep_toDatum_fits : deep.toRecord.toDatum.Fits (2 * (maxNesting + 1) + 4) := by
  have hshort : ∀ s ∈ ["s", "weather", "local", "alerts", "local:alerts"], Short s := by
    unfold Short
    decide
  have hnested : ∀ p ∈ [DeliveryParameter.nested maxNesting], p.Fits (maxNesting + 1) := by
    intro p hp
    rw [List.mem_singleton.1 hp]
    exact DeliveryParameter.nested_fits_iff.2 (Nat.lt_succ_self maxNesting)
  refine SubscriptionRecord.toDatum_fits_of (hshort "s" (by simp)) (hshort "local:alerts" (by simp))
    (SubscribeOptions.toDatum_fits_of plainOptions_fit fun d hd => ?_)
  cases hd
  exact DeliveryDefinition.toDatum_fits_of (hshort "local" (by simp)) (hshort "alerts" (by simp))
    (hshort "weather" (by simp)) (by simp) hnested

theorem deep_unreadable :
    RecordFile.decode (RecordFile.encode deep.toRecord) = .error (.deserialization .foreign) := by
  have hlen : (MessagePack.write deep.toRecord.toDatum).length < 2 ^ 64 := by
    simp only [deep, plainOptions, Subscription.toRecord, Subscription.location, SubscriptionRecord.toDatum,
      SubscribeOptions.toDatum, optionDatum, DeliveryDefinition.toDatum, DeliveryParameter.listToData,
      MessagePack.write, MessagePack.writeItems, List.length_append, DeliveryParameter.write_nested_length]
    decide
  refine RecordFile.decode_encode_deep deep_toDatum_fits hlen rfl List.mem_cons_self fun hfits => ?_
  exact absurd (DeliveryParameter.nested_fits_iff.1 hfits) (Nat.lt_irrefl maxNesting)

/-- an id that leaves no room for the extension in the name of its record -/
def longId : String := letters 252

/-- a subscription whose id leaves no room in the name of its temporary file -/
def long : Subscription := { plain with id := letters 248 }

/-- **Limits.** A subscription with parameters nested too deep is stored and then lost, one with a long id is not stored,
and an id that is too long is not just unknown; from a store in memory the answers would be other ones. -/
theorem session_beyond_limits :
    (((openAt bareDisk ["d"] 4).1.bind fun f => f.session [.call (.put deep), .reopen 4, .call (.get "s")]) =
        .ok [.stored (.ok ()), .found none] ∧
      StoreCall.answers MemoryStore.empty [.put deep, .get "s"] = [.stored (.ok ()), .found (some deep.toRecord)]) ∧
    (((openAt bareDisk ["d"] 4).1.bind fun f => f.session [.call (.put long)]) = .ok [.stored (.error foreignFault)] ∧
      StoreCall.answers MemoryStore.empty [.put long] = [.stored (.ok ())]) ∧
    (((openAt bareDisk ["d"] 4).1.bind fun f => f.session [.call (.delete longId)]) =
        .ok [.taken (.error foreignFault)] ∧
      StoreCall.answers MemoryStore.empty [.delete longId] = [.taken (.error (.unknownSubscription longId))]) ∧
    ∀ id ∈ [deep.id, long.id, longId], isValidId id = true := by
  obtain ⟨f, hopen, -, hf, -⟩ := openAt_bare bareDisk_bare 4
  have hvalid : ∀ id ∈ [deep.id, long.id, longId], isValidId id = true := by
    intro id hid
    simp only [List.mem_cons, List.not_mem_nil, or_false] at hid
    rcases hid with rfl | rfl | rfl
    · decide
    · exact isValidId_letters 247
    · exact isValidId_letters 251
  rw [hopen]
  refine ⟨⟨?_, rfl⟩, ⟨?_, rfl⟩, ⟨?_, rfl⟩, hvalid⟩
  · obtain ⟨hput, f', hreopen, hget⟩ := hf.put_unreadable (s := deep) (hvalid _ (by simp)) (isName_iff.2 (by decide))
      deep_unreadable 4
    have hstored : ((StoreCall.put deep).serve f).1 = .stored (.ok ()) := congrArg StoreAnswer.stored hput
    have hreopen : (openAt ((StoreCall.put deep).serve f).2.close ((StoreCall.put deep).serve f).2.directory 4).1 =
        .ok f' := hreopen
    have hfound : ((StoreCall.get "s").serve f').1 = .found none :=
      congrArg (fun s : Option Subscription => StoreAnswer.found (s.map Subscription.toRecord)) hget
    show f.session [.call (.put deep), .reopen 4, .call (.get "s")] = _
    rw [session, session, hreopen, hstored]
    show Except.ok [_, ((StoreCall.get "s").serve f').1] = _
    rw [hfound]
  · have hlong : Disk.isName (temporaryName long.id) = false :=
      isName_eq_false (by rw [show long.id = letters 248 from rfl, temporaryName_letters_utf8ByteSize]; decide)
    have hput := hf.put_too_long (hvalid _ (by simp)) hlong
    have hstored : ((StoreCall.put long).serve f).1 = .stored (.error foreignFault) :=
      congrArg (fun r : Except BrokerError Unit × FileStore => StoreAnswer.stored r.1) hput
    show Except.ok [((StoreCall.put long).serve f).1] = _
    rw [hstored]
  · have hlong : Disk.isName (recordName longId) = false :=
      isName_eq_false (by rw [show longId = letters 252 from rfl, recordName_letters_utf8ByteSize]; decide)
    have hdelete := hf.delete_too_long (hvalid longId (by simp)) hlong
    show f.session [.call (.delete longId)] = _
    rw [session, StoreCall.serve_delete hdelete]
    rfl

end FileStore

end EventBroker
