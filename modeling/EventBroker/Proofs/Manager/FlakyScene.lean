/-
What a step of a broker can do when changes of its store may fail.

A broker over a flaky store is looked at through the store behind, which shows a scene (`Broker.sound`). `Slip` lists
all that an op can make of the scene, whichever changes fail, and `Op.Touches` the ids that the op is about. Every step
is a slip (`step_slip`), and an id that an op is not about keeps its record, and its rule too unless the broker is shut
down (`Slip.spares`).
-/
import EventBroker.Proofs.Manager.Scene
import EventBroker.Proofs.Manager.Slips

namespace EventBroker

open Function (update)

namespace Manager

variable {σ : Type} [SubscriptionStore σ] [FaithfulStore σ] {m : Manager (FlakyStore σ)} {p : Picture}

theorem destroyAll_flaky (h : m.sound.Shows p) (rs : List Rule) :
    Ensures (destroyAll rs) m fun _ m' => m'.sound.Shows p := by
  induction rs generalizing m with
  | nil => exact h
  | cons r rs ih => exact Ensures.bind (destroy_flaky h r.endpoint) fun _ m₁ h₁ => ih h₁

theorem shutdown_flaky (h : m.sound.Shows p) : Ensures shutdown m fun _ m' => m'.sound.Shows p.close := by
  have hclosed : Shows { m.sound with
      scheduler := m.scheduler.shutdown
      engine := { m.engine with rules := .empty } } p.close := by
    refine { h with rules := ?_, scheduler := congrArg Scheduler.shutdown h.scheduler }
    funext id
    simp [Picture.close]
  exact destroyAll_flaky hclosed _

end Manager

namespace Broker

/-- the ids that an op is about: one that it names, one that it will use, those that are dormant, or one that expires -/
def Op.Touches (s : Scene) : Op → String → Prop
  | .subscribe _, id => s.picture.Unused id
  | .renew k _, id => id = k
  | .unsubscribe k, id => id = k
  | .restore, id => s.picture.rules id = none
  | .expire i, id => ∃ c, s.claimed[i]? = some c ∧ id = c.identity
  | _, _ => False

/-- all that an op can do if changes of the store may fail -/
inductive Slip (s : Scene) : Op → Scene → Prop where
  | operated {op : Op} {p : Picture} :
      op.mayIdle ∨ op = .restore → s.picture.Slips (op.Touches s) p → Slip s op { s with picture := p }
  | closed : Slip s .shutdown { s with picture := s.picture.close }
  | queued {q : QueueOp} (queues : Table String Nat) :
      Slip s (.queue q) { s with picture := { s.picture with queues } }
  | passed {micros : Nat} {reading : Timestamp} :
      Slip s (.pass micros reading)
        { s with picture := { s.picture with elapsed := s.picture.elapsed + micros, now := reading } }
  | tookUp : Slip s .takeUp { s with picture := { s.picture with scheduler := s.picture.scheduler.takeUp } }
  | claimed :
      Slip s .claim
        ⟨{ s.picture with scheduler := (s.picture.scheduler.claimNext s.picture.elapsed).2 },
          s.claimed ++ (s.picture.scheduler.claimNext s.picture.elapsed).1.toList⟩
  | expired {i : Nat} {c : Claimed Unit} :
      s.claimed[i]? = some c → Slip s (.expire i) ⟨s.picture.remove c.identity, s.claimed.eraseIdx i⟩
  | silenced {i : Nat} {c : Claimed Unit} :
      s.claimed[i]? = some c → Slip s (.expire i) ⟨s.picture.silence c.identity, s.claimed.eraseIdx i⟩
  | stale {i : Nat} {c : Claimed Unit} :
      s.claimed[i]? = some c →
      (∀ r, s.picture.records c.identity = some r → r.options.terminationTime ≠ some c.endOfLife) →
      Slip s (.expire i) ⟨s.picture, s.claimed.eraseIdx i⟩

theorem Slip.supply {s s' : Scene} {op : Op} (h : Slip s op s') : s'.picture.supply = s.picture.supply := by
  cases h with
  | operated _ hp => exact hp.supply
  | _ => rfl

/-- an id that an op is not about keeps its record; it keeps its rule too, unless the broker is shut down -/
theorem Slip.spares {s s' : Scene} {op : Op} (h : Slip s op s') {id : String} (hid : ¬ op.Touches s id) :
    s'.picture.records id = s.picture.records id ∧
      (s'.picture.rules id = s.picture.rules id ∨ op = .shutdown ∧ s'.picture.rules id = none) := by
  have hexpired {i : Nat} {c : Claimed Unit} (hop : op = .expire i) (hi : s.claimed[i]? = some c) :
      id ≠ c.identity := by
    rintro rfl
    rw [hop] at hid
    exact hid ⟨c, hi, rfl⟩
  cases h with
  | operated _ hp =>
    obtain ⟨hrecords, hrules⟩ := hp.spares hid
    exact ⟨hrecords, Or.inl hrules⟩
  | closed => exact ⟨rfl, Or.inr ⟨rfl, rfl⟩⟩
  | expired hi =>
    have hne := hexpired rfl hi
    exact ⟨Function.update_of_ne hne _ _, Or.inl (Function.update_of_ne hne _ _)⟩
  | silenced hi => exact ⟨rfl, Or.inl (Function.update_of_ne (hexpired rfl hi) _ _)⟩
  | _ => exact ⟨rfl, Or.inl rfl⟩

variable {σ : Type}

/-- the same broker over the store behind -/
def sound (b : Broker (FlakyStore σ)) : Broker σ := ⟨b.manager.sound, b.claimed⟩

variable [SubscriptionStore σ] [FaithfulStore σ]

/-- **Every step is a slip**, whichever changes fail. -/
theorem step_slip {b : Broker (FlakyStore σ)} {s : Scene} (h : b.sound.Shows s) {op : Op}
    (hop : op.Keepable σ s.picture.supply) : ∃ s', Slip s op s' ∧ (b.step op).sound.Shows s' := by
  obtain ⟨hm, hc⟩ := h
  -- an operation of the manager leaves the claims alone
  have hslips {op : Op} (hkind : op.mayIdle ∨ op = .restore) {m : Manager (FlakyStore σ)}
      (hm : ∃ p, s.picture.Slips (op.Touches s) p ∧ m.sound.Shows p) :
      ∃ s', Slip s op s' ∧ Shows ⟨m.sound, b.claimed⟩ s' := by
    obtain ⟨p, hp, hm⟩ := hm
    exact ⟨⟨p, s.claimed⟩, .operated hkind hp, hm, hc⟩
  cases op with
  | subscribe o =>
    have hends := Manager.subscribe_slips hm hop
    cases ha : Manager.subscribe o b.manager with
    | none =>
      simp only [step, ha, Option.elim_none]
      exact hslips (Or.inl rfl) ⟨s.picture, .done _, hm⟩
    | some r =>
      rw [step_subscribe_some ha]
      exact hslips (Or.inl rfl) (hends r.1 r.2 ha)
  | renew id t => exact hslips (Or.inl rfl) (Manager.renew_flaky hm id t)
  | unsubscribe id => exact hslips (Or.inl rfl) (Manager.unsubscribe_flaky hm id)
  | restore => exact hslips (Or.inr rfl) (Manager.restore_flaky hm)
  | shutdown => exact ⟨_, .closed, Manager.shutdown_flaky hm, hc⟩
  | receive message => exact hslips (Or.inl rfl) ⟨s.picture, .done _, Manager.receive_ensures hm message⟩
  | look id => exact hslips (Or.inl rfl) ⟨s.picture, .done _, (Manager.lookUp_ensures hm id).2⟩
  | list => exact hslips (Or.inl rfl) ⟨s.picture, .done _, (Manager.all_flaky hm).2⟩
  | queue q =>
    refine ⟨_, .queued (q.apply b.manager.hub).queues, ?_, hc⟩
    exact { hm with
      supply := (q.apply_supply b.manager.hub).trans hm.supply
      queues := rfl }
  | pass micros reading =>
    refine ⟨_, .passed, ?_, hc⟩
    exact { hm with
      elapsed := congrArg (· + micros) hm.elapsed
      now := rfl }
  | takeUp => exact ⟨_, .tookUp, { hm with scheduler := congrArg Scheduler.takeUp hm.scheduler }, hc⟩
  | claim =>
    have hnext : b.manager.scheduler.claimNext b.manager.elapsed =
        s.picture.scheduler.claimNext s.picture.elapsed :=
      congrArg₂ (fun s e => Scheduler.claimNext s e) hm.scheduler hm.elapsed
    refine ⟨_, .claimed, { hm with scheduler := congrArg Prod.snd hnext }, ?_⟩
    show b.claimed ++ (b.manager.scheduler.claimNext b.manager.elapsed).1.toList = _
    rw [hnext]
    exact congrArg (· ++ _) hc
  | expire i =>
    have hclaimed : b.claimed = s.claimed := hc
    cases hi : s.claimed[i]? with
    | none =>
      rw [step_expire_none (hclaimed ▸ hi)]
      exact hslips (Or.inl rfl) ⟨s.picture, .done _, hm⟩
    | some c =>
      rw [step_expire_some (hclaimed ▸ hi)]
      have herase : b.claimed.eraseIdx i = s.claimed.eraseIdx i := congrArg (·.eraseIdx i) hclaimed
      rcases Manager.expire_flaky hm c.identity c.endOfLife with hm' | hm' | ⟨hstale, hm'⟩
      · exact ⟨_, .expired hi, hm', herase⟩
      · exact ⟨_, .silenced hi, hm', herase⟩
      · exact ⟨_, .stale hi hstale, hm', herase⟩

/-- a run is a row of slips -/
theorem run_flaky {b : Broker (FlakyStore σ)} {s : Scene} (h : b.sound.Shows s) {ops : List Op}
    (hkeep : ∀ op ∈ ops, op.Keepable σ s.picture.supply) :
    ∃ s', (b.run ops).sound.Shows s' ∧ s'.picture.supply = s.picture.supply := by
  induction ops generalizing b s with
  | nil => exact ⟨s, h, rfl⟩
  | cons op ops ih =>
    obtain ⟨s₁, hslip, h₁⟩ := step_slip h (hkeep op List.mem_cons_self)
    have hrest : ∀ o ∈ ops, o.Keepable σ s₁.picture.supply := by
      intro o ho
      rw [hslip.supply]
      exact hkeep o (List.mem_cons_of_mem op ho)
    obtain ⟨s', h', hsupply⟩ := ih h₁ hrest
    exact ⟨s', h', hsupply.trans hslip.supply⟩

/-- before anything is done all records are dormant -/
theorem assembled_flaky {base : σ} {v : Records} {hub : Hub} (hv : FaithfulStore.Holds base v)
    (hk : ∀ id r, v id = some r → EventBroker.Keepable σ hub.supply r.options) (failures : Nat → Option BrokerError)
    (c : Compiler) (t : Transformer) (clock : Clock) (ids : Nat → String) :
    (assembled (FlakyStore.mk base failures 0) hub c t clock ids).sound.Shows ⟨Picture.dormant v c hub clock, []⟩ :=
  ⟨assemble_shows hv hk c t clock ids, rfl⟩

end Broker

end EventBroker
