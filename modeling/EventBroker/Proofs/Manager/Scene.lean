/-
What a step of a broker can do.

A `Scene` is the picture of a manager together with the claimed expiries. `Turn` lists all that an op can do to a scene,
what it asks for beforehand included, and which end it sets; whatever holds of every turn holds of every step
(`step_turn`). So invariants of runs are shown on turns, store and endpoints out of sight: `run_preserves`.
-/
import EventBroker.Proofs.Manager.Broker

namespace EventBroker

structure Scene where
  picture : Picture
  /-- expiries that no worker has run yet -/
  claimed : List (Claimed Unit)

namespace Broker

/-- an op that may leave everything as it is, be it that it was refused -/
def Op.mayIdle : Op → Bool
  | .restore | .shutdown | .queue _ | .pass _ _ | .takeUp | .claim => false
  | _ => true

/-- the store can keep what the op puts in -/
def Op.Keepable (σ : Type) [SubscriptionStore σ] [FaithfulStore σ] (supply : Supply) : Op → Prop
  | .subscribe o => EventBroker.Keepable σ supply o
  | _ => True

/-- memory keeps everything -/
theorem Op.keepable_memory (supply : Supply) (op : Op) : op.Keepable MemoryStore supply := by
  cases op with
  | subscribe o => exact fun _ _ _ => trivial
  | _ => exact trivial

theorem sampleStore_holds : FaithfulStore.Holds sampleStore sampleStore.records :=
  ⟨MemoryStore.keyed_empty.insert rfl, rfl⟩

/-- all that an op can do, with the end that it sets -/
inductive Turn (s : Scene) : Op → Option (String × Option Timestamp) → Scene → Prop where
  | idle {op : Op} : op.mayIdle → Turn s op none s
  | subscribed {r : SubscriptionRecord} {rule : Rule} :
      s.picture.scheduler.isShutDown = false → s.picture.records r.id = none → s.picture.Admits r rule →
      Turn s (.subscribe r.options) (some (r.id, r.options.terminationTime))
        { s with picture := s.picture.activate r rule }
  | renewed {r : SubscriptionRecord} {t : Timestamp} :
      s.picture.scheduler.isShutDown = false → s.picture.records r.id = some r →
      Turn s (.renew r.id t) (some (r.id, some t)) { s with picture := s.picture.prolong r t }
  | unsubscribed {id : String} :
      s.picture.records id ≠ none ∨ s.picture.rules id ≠ none →
      Turn s (.unsubscribe id) none { s with picture := s.picture.remove id }
  | restored {p : Picture} : s.picture.Restores p → Turn s .restore none { s with picture := p }
  | closed : Turn s .shutdown none { s with picture := s.picture.close }
  | queued {q : QueueOp} (queues : Table String Nat) :
      Turn s (.queue q) none { s with picture := { s.picture with queues } }
  | passed {micros : Nat} {reading : Timestamp} :
      Turn s (.pass micros reading) none
        { s with picture := { s.picture with elapsed := s.picture.elapsed + micros, now := reading } }
  | tookUp : Turn s .takeUp none { s with picture := { s.picture with scheduler := s.picture.scheduler.takeUp } }
  | claimed :
      Turn s .claim none
        ⟨{ s.picture with scheduler := (s.picture.scheduler.claimNext s.picture.elapsed).2 },
          s.claimed ++ (s.picture.scheduler.claimNext s.picture.elapsed).1.toList⟩
  | expired {i : Nat} {c : Claimed Unit} {r : SubscriptionRecord} :
      s.claimed[i]? = some c → s.picture.records c.identity = some r →
      r.options.terminationTime = some c.endOfLife →
      Turn s (.expire i) none ⟨s.picture.remove c.identity, s.claimed.eraseIdx i⟩
  | stale {i : Nat} {c : Claimed Unit} :
      s.claimed[i]? = some c →
      (∀ r, s.picture.records c.identity = some r → r.options.terminationTime ≠ some c.endOfLife) →
      Turn s (.expire i) none ⟨s.picture, s.claimed.eraseIdx i⟩

theorem QueueOp.apply_supply (q : QueueOp) (h : Hub) : (q.apply h).supply = h.supply := by
  cases q with
  | openUp name => rfl
  | close name => rfl
  | empty serial =>
    simp only [apply, Hub.receiveAll]
    split <;> rfl
  | dropReceiver serial =>
    simp only [apply, Hub.dropReceiver]
    split <;> rfl

theorem Revives.sameSetting {p p' : Picture} {ids : List String} (h : p.Revives ids p') :
    p'.supply = p.supply ∧ p'.compiler = p.compiler ∧ p'.elapsed = p.elapsed ∧ p'.now = p.now := by
  induction h with
  | done p => exact ⟨rfl, rfl, rfl, rfl⟩
  | active _ _ ih => exact ih
  | revived _ _ _ ih => exact ih
  | dropped _ _ _ _ ih => exact ih

theorem Turn.supply {s s' : Scene} {op : Op} {e : Option (String × Option Timestamp)} (h : Turn s op e s') :
    s'.picture.supply = s.picture.supply := by
  cases h with
  | restored hres =>
    obtain ⟨ids, -, -, hrev⟩ := hres
    exact (Revives.sameSetting hrev).1
  | _ => rfl

theorem Turn.compiler {s s' : Scene} {op : Op} {e : Option (String × Option Timestamp)} (h : Turn s op e s') :
    s'.picture.compiler = s.picture.compiler := by
  cases h with
  | restored hres =>
    obtain ⟨ids, -, -, hrev⟩ := hres
    exact (Revives.sameSetting hrev).2.1
  | _ => rfl

variable {σ : Type} [SubscriptionStore σ] [FaithfulStore σ]

structure Shows (b : Broker σ) (s : Scene) : Prop where
  manager : b.manager.Shows s.picture
  claimed : b.claimed = s.claimed

/-- **Every step is a turn.** -/
theorem step_turn {b : Broker σ} {s : Scene} (h : b.Shows s) {op : Op} (hop : op.Keepable σ s.picture.supply) :
    ∃ s', Turn s op (b.setEnd? op) s' ∧ (b.step op).Shows s' := by
  obtain ⟨hm, hc⟩ := h
  cases op with
  | subscribe o =>
    have hends := Manager.subscribe_ensures hm hop
    cases ha : Manager.subscribe o b.manager with
    | none =>
      -- the search for an id has no end
      simp only [setEnd?, step, ha, Option.elim_none]
      exact ⟨s, .idle rfl, hm, hc⟩
    | some r =>
      obtain ⟨a, m'⟩ := r
      rw [step_subscribe_some ha]
      simp only [setEnd?, ha]
      rcases hends a m' ha with ⟨⟨f, rfl⟩, hm'⟩ | ⟨t, rule, rfl, rfl, hopen, hfree, hadm, hm'⟩
      · exact ⟨s, .idle rfl, hm', hc⟩
      · exact ⟨_, .subscribed (r := t.toRecord) hopen hfree hadm, hm', hc⟩
  | renew id t =>
    rcases Manager.renew_ensures hm id t with ⟨⟨f, ha⟩, hm'⟩ | ⟨r, ha, hopen, hr, hm'⟩
    · simp only [setEnd?, ha]
      exact ⟨s, .idle rfl, hm', hc⟩
    · have hid : r.id = id := FaithfulStore.keyed hm.holds hr
      subst hid
      simp only [setEnd?, ha]
      exact ⟨_, .renewed hopen hr, hm', hc⟩
  | unsubscribe id =>
    rcases Manager.unsubscribe_ensures hm id with ⟨-, -, -, hm'⟩ | ⟨hknown, hm'⟩
    · exact ⟨s, .idle rfl, hm', hc⟩
    · exact ⟨_, .unsubscribed hknown, hm', hc⟩
  | restore =>
    obtain ⟨p, hp, hm'⟩ := Manager.restore_ensures hm
    exact ⟨_, .restored hp, hm', hc⟩
  | shutdown => exact ⟨_, .closed, Manager.shutdown_ensures hm, hc⟩
  | receive message => exact ⟨s, .idle rfl, Manager.receive_ensures hm message, hc⟩
  | look id => exact ⟨s, .idle rfl, (Manager.getSubscription_ensures hm id).2, hc⟩
  | list => exact ⟨s, .idle rfl, (Manager.subscriptions_ensures hm).2.2, hc⟩
  | queue q =>
    refine ⟨_, .queued (q.apply b.manager.hub).queues, ?_, hc⟩
    exact { hm with
      supply := (q.apply_supply b.manager.hub).trans hm.supply
      queues := rfl }
  | pass micros reading =>
    refine ⟨_, .passed, ?_, hc⟩
    exact { hm with
      elapsed := congrArg (· + micros) hm.elapsed
      now := rfl }
  | takeUp => exact ⟨_, .tookUp, { hm with scheduler := congrArg Scheduler.takeUp hm.scheduler }, hc⟩
  | claim =>
    have hnext : b.manager.scheduler.claimNext b.manager.elapsed =
        s.picture.scheduler.claimNext s.picture.elapsed := by
      rw [hm.scheduler, hm.elapsed]
    refine ⟨_, .claimed, { hm with scheduler := congrArg Prod.snd hnext }, ?_⟩
    show b.claimed ++ (b.manager.scheduler.claimNext b.manager.elapsed).1.toList = _
    rw [hc, hnext]
  | expire i =>
    simp only [step, hc]
    cases hi : s.claimed[i]? with
    | none => exact ⟨s, .idle rfl, hm, hc⟩
    | some c =>
      rcases Manager.expire_ensures hm c.identity c.endOfLife with ⟨r, hr, ht, hm'⟩ | ⟨hnot, hm'⟩
      · exact ⟨_, .expired hi hr ht, hm', rfl⟩
      · exact ⟨_, .stale hi hnot, hm', rfl⟩

/-- what every turn keeps is kept by runs -/
theorem run_preserves (Q : Scene → Prop) (allowed : Op → Prop) {supply : Supply}
    (hstep : ∀ s op e s', allowed op → Turn s op e s' → Q s → Q s') {b : Broker σ} {s : Scene} (h : b.Shows s)
    (hsupply : s.picture.supply = supply) (hQ : Q s) {ops : List Op} (hkeep : ∀ op ∈ ops, op.Keepable σ supply)
    (hops : ∀ op ∈ ops, allowed op) : ∃ s', (b.run ops).Shows s' ∧ s'.picture.supply = supply ∧ Q s' := by
  induction ops generalizing b s with
  | nil => exact ⟨s, h, hsupply, hQ⟩
  | cons op ops ih =>
    have hop : op.Keepable σ s.picture.supply := by
      rw [hsupply]
      exact hkeep op List.mem_cons_self
    obtain ⟨s', hturn, hs'⟩ := step_turn h hop
    exact ih hs' (hturn.supply.trans hsupply) (hstep s op _ s' (hops op List.mem_cons_self) hturn hQ)
      (fun o ho => hkeep o (List.mem_cons_of_mem op ho)) (fun o ho => hops o (List.mem_cons_of_mem op ho))

end Broker

/-! ## Beginnings -/

/-- records with neither rules nor plans -/
def Picture.dormant (v : Records) (c : Compiler) (hub : Hub) (clock : Clock) : Picture :=
  ⟨v, fun _ => none, .start, 0, clock.now, c, hub.supply, hub.queues⟩

section Beginnings

variable {σ : Type} [SubscriptionStore σ] [FaithfulStore σ] {store : σ} {v : Records} {hub : Hub}

/-- before anything is done all records are dormant -/
theorem Broker.assemble_shows (hv : FaithfulStore.Holds store v)
    (hk : ∀ id r, v id = some r → Keepable σ hub.supply r.options) (c : Compiler) (t : Transformer) (clock : Clock)
    (ids : Nat → String) :
    (Manager.assemble store hub (Engine.ofCompiler c t) clock ids).Shows (Picture.dormant v c hub clock) :=
  ⟨hv, hk, by funext id; simp [Manager.assemble, Engine.ofCompiler, Picture.dormant], rfl, rfl, rfl, rfl, rfl, rfl⟩

/-- a broker begins with a restore -/
theorem Broker.opened_shows (hv : FaithfulStore.Holds store v)
    (hk : ∀ id r, v id = some r → Keepable σ hub.supply r.options) (c : Compiler) (t : Transformer) (clock : Clock)
    (ids : Nat → String) :
    ∃ p, (Picture.dormant v c hub clock).Restores p ∧
      (Broker.opened store hub c t clock ids).Shows ⟨p, []⟩ := by
  obtain ⟨p, hp, hm⟩ := Manager.restore_ensures (assemble_shows hv hk c t clock ids)
  exact ⟨p, hp, hm, rfl⟩

end Beginnings

end EventBroker
