/-
Which subscriptions can still end.

An active subscription with an end is mortal if the end is planned or its expiry was claimed. While a manager runs that
is part of the agreement of its parts. A shutdown takes all plans and rules, and afterwards the scheduler takes no plans
any more; subscribing and renewing are refused then, but a restore is not. It brings records to life whose ends can no
longer be planned.

- `Scene.Lapsed`: the scheduler has no plans and takes none. Nothing leads out of it (`Turn.lapsed`).
- `mortal_run` says when all that is active can end, for every run; `restore_after_shutdown` is a run in which one that
  is active cannot.
-/
import EventBroker.Proofs.Manager.Agreement

namespace EventBroker

/-! ## After a shutdown -/

/-- nothing is planned and nothing will be -/
structure Scene.Lapsed (s : Scene) : Prop where
  isShutDown : s.picture.scheduler.isShutDown = true
  unplanned : ∀ id, s.picture.scheduler.endOfLife? id = none

namespace Scene.Lapsed

variable {p : Picture} {cs : List (Claimed Unit)}

theorem planned_eq (h : p.scheduler.isShutDown = true) (id : String) (t : Option Timestamp) :
    p.planned id t = p.scheduler := by
  cases t with
  | none => rfl
  | some t =>
    unfold Picture.planned Scheduler.schedule
    rw [h]
    rfl

theorem activate (h : Lapsed ⟨p, cs⟩) (r : SubscriptionRecord) (rule : Rule) : Lapsed ⟨p.activate r rule, cs⟩ := by
  have hplan : (p.activate r rule).scheduler = p.scheduler := planned_eq h.isShutDown r.id r.options.terminationTime
  constructor
  · show (p.activate r rule).scheduler.isShutDown = true
    rw [hplan]
    exact h.isShutDown
  · intro id
    show (p.activate r rule).scheduler.endOfLife? id = none
    rw [hplan]
    exact h.unplanned id

theorem remove (h : Lapsed ⟨p, cs⟩) (id : String) (cs' : List (Claimed Unit)) : Lapsed ⟨p.remove id, cs'⟩ := by
  refine ⟨(p.scheduler.cancel_isShutDown id).trans h.isShutDown, fun k => ?_⟩
  show (p.unplanned id).endOfLife? k = none
  rw [Picture.unplanned, Scheduler.cancel_endOfLife?]
  split
  · rfl
  · exact h.unplanned k

theorem close (h : Lapsed ⟨p, cs⟩) : Lapsed ⟨p.close, cs⟩ := by
  have hsame : p.scheduler.shutdown = p.scheduler := by
    unfold Scheduler.shutdown
    rw [if_pos h.isShutDown]
  have hclose : p.close.scheduler = p.scheduler := hsame
  constructor
  · show p.close.scheduler.isShutDown = true
    rw [hclose]
    exact h.isShutDown
  · intro id
    show p.close.scheduler.endOfLife? id = none
    rw [hclose]
    exact h.unplanned id

theorem claim (h : Lapsed ⟨p, cs⟩) :
    Lapsed ⟨{ p with scheduler := (p.scheduler.claimNext p.elapsed).2 },
      cs ++ (p.scheduler.claimNext p.elapsed).1.toList⟩ := by
  have hrun : (p.scheduler.claimNext p.elapsed).2.isShutDown = p.scheduler.isShutDown :=
    Scheduler.claimNext_isShutDown _ _
  refine ⟨hrun.trans h.isShutDown, fun id => ?_⟩
  show (p.scheduler.claimNext p.elapsed).2.endOfLife? id = none
  rcases Scheduler.claimNext_endOfLife? p.scheduler p.elapsed with ⟨-, hend⟩ | ⟨c, -, -, hend⟩
  · rw [hend]
    exact h.unplanned id
  · rw [hend]
    split
    · rfl
    · exact h.unplanned id

theorem revives {p' : Picture} {ids : List String} (h : Lapsed ⟨p, cs⟩) (hrev : p.Revives ids p') :
    Lapsed ⟨p', cs⟩ := by
  induction hrev with
  | done p => exact h
  | active _ _ ih => exact ih h
  | revived _ _ _ ih => exact ih (h.activate _ _)
  | dropped _ _ _ _ ih => exact ih ⟨h.isShutDown, h.unplanned⟩

/-- a shutdown of what was running -/
theorem of_close {p : Picture} (h : p.scheduler.isShutDown = false) (cs : List (Claimed Unit)) :
    Lapsed ⟨p.close, cs⟩ := by
  have hclose : p.close.scheduler = { p.scheduler with jobs := .empty, isShutDown := true } := by
    show p.scheduler.shutdown = _
    unfold Scheduler.shutdown
    rw [h]
    rfl
  constructor
  · show p.close.scheduler.isShutDown = true
    rw [hclose]
  · intro id
    show p.close.scheduler.endOfLife? id = none
    rw [hclose]
    simp [Scheduler.endOfLife?]

end Scene.Lapsed

namespace Broker

theorem Turn.lapsed {s s' : Scene} {op : Op} {e : Option (String × Option Timestamp)} (ht : Turn s op e s')
    (h : s.Lapsed) : s'.Lapsed := by
  cases ht with
  | idle _ => exact h
  | subscribed hopen _ _ => cases hopen.symm.trans h.isShutDown
  | renewed hopen _ => cases hopen.symm.trans h.isShutDown
  | unsubscribed _ => exact h.remove _ _
  | restored hres =>
    obtain ⟨ids, -, -, hrev⟩ := hres
    exact h.revives hrev
  | closed => exact h.close
  | queued _ => exact ⟨h.isShutDown, h.unplanned⟩
  | passed => exact ⟨h.isShutDown, h.unplanned⟩
  | tookUp =>
    refine ⟨(Scheduler.takeUp_isShutDown _).trans h.isShutDown, fun id => ?_⟩
    exact (Scheduler.endOfLife?_eq_of_jobs (Scheduler.takeUp_jobs _) id).trans (h.unplanned id)
  | claimed => exact h.claim
  | expired _ _ _ => exact h.remove _ _
  | stale _ _ => exact ⟨h.isShutDown, h.unplanned⟩

/-- after a shutdown only a restore makes rules -/
theorem Turn.ruleless {s s' : Scene} {op : Op} {e : Option (String × Option Timestamp)} (ht : Turn s op e s')
    (hop : op ≠ .restore) (h : s.Lapsed) (hnone : ∀ id, s.picture.rules id = none) :
    ∀ id, s'.picture.rules id = none := by
  have hupdate : ∀ id k, Function.update s.picture.rules id none k = none := by
    intro id k
    rw [Function.update_apply]
    split
    · rfl
    · exact hnone k
  cases ht with
  | subscribed hopen _ _ => cases hopen.symm.trans h.isShutDown
  | restored _ => exact absurd rfl hop
  | closed => exact fun _ => rfl
  | unsubscribed _ => exact hupdate _
  | expired _ _ _ => exact hupdate _
  | idle _ => exact hnone
  | renewed _ _ => exact hnone
  | queued _ => exact hnone
  | passed => exact hnone
  | tookUp => exact hnone
  | claimed => exact hnone
  | stale _ _ => exact hnone

/-! ## Brokers -/

variable {σ : Type} [SubscriptionStore σ]

/-- an expiry of this id at this end was claimed and not yet run -/
def IsClaimed (b : Broker σ) (id : String) (t : Timestamp) : Prop :=
  ∃ c ∈ b.claimed, c.identity = id ∧ c.endOfLife = t

/-- an id that is active, and its stored end -/
def ActiveUntil (b : Broker σ) (id : String) (t : Timestamp) : Prop :=
  b.manager.engine.contains id = true ∧
    ∃ s, (SubscriptionStore.get b.manager.store id).1 = some s ∧ s.terminationTime = some t

/-- whatever is active and has an end can still end -/
def Mortal (b : Broker σ) : Prop :=
  ∀ id t, b.ActiveUntil id t → b.manager.scheduler.endOfLife? id = some t ∨ b.IsClaimed id t

/-- somewhere in these ops a restore comes after a shutdown -/
def RestoredAfterShutdown (ops : List Op) : Prop := ∃ pre post, ops = pre ++ .shutdown :: post ∧ .restore ∈ post

variable [FaithfulStore σ]

/-- what a run comes to after its first shutdown -/
theorem run_lapsed {b : Broker σ} {s : Scene} (h : b.Shows s) (hco : s.Coherent) (hactive : s.picture.AllActive)
    {ops : List Op} (hkeep : ∀ op ∈ ops, op.Keepable σ s.picture.supply) (hops : .shutdown ∈ ops) :
    ∃ s', (b.run ops).Shows s' ∧ s'.Lapsed ∧
      (¬ RestoredAfterShutdown ops → ∀ id, s'.picture.rules id = none) := by
  obtain ⟨pre, post, rfl, hpre⟩ := List.eq_append_cons_of_mem hops
  have hkeepPre : ∀ op ∈ pre, op.Keepable σ s.picture.supply := fun op hop =>
    hkeep op (List.mem_append_left _ hop)
  have hkeepPost : ∀ op ∈ post, op.Keepable σ s.picture.supply := fun op hop =>
    hkeep op (List.mem_append_right _ (List.mem_cons_of_mem _ hop))
  -- up to the shutdown the parts agree, and the scheduler runs
  obtain ⟨s₁, h₁, hps₁, hco₁, -⟩ := run_coherent h rfl hco hactive hkeepPre hpre
  have h₂ : ((b.run pre).step .shutdown).Shows { s₁ with picture := s₁.picture.close } :=
    ⟨Manager.shutdown_ensures h₁.manager, h₁.claimed⟩
  have hlapsed := Scene.Lapsed.of_close hco₁.running s₁.claimed
  have hrun : b.run (pre ++ .shutdown :: post) = ((b.run pre).step .shutdown).run post := run_append b pre _
  rw [hrun]
  by_cases hrest : .restore ∈ post
  · obtain ⟨s₃, h₃, -, hlapsed₃⟩ := run_preserves Scene.Lapsed (fun _ => True)
      (fun s op e s' _ ht hQ => ht.lapsed hQ) h₂ hps₁ hlapsed hkeepPost fun _ _ => trivial
    exact ⟨s₃, h₃, hlapsed₃, fun hnot => absurd ⟨pre, post, rfl, hrest⟩ hnot⟩
  · obtain ⟨s₃, h₃, -, hlapsed₃, hnone₃⟩ := run_preserves
      (fun s => s.Lapsed ∧ ∀ id, s.picture.rules id = none) (· ≠ .restore)
      (fun s op e s' hop ht hQ => ⟨ht.lapsed hQ.1, ht.ruleless hop hQ.1 hQ.2⟩) h₂ hps₁ ⟨hlapsed, fun _ => rfl⟩
      hkeepPost fun op hop heq => hrest (heq ▸ hop)
    exact ⟨s₃, h₃, hlapsed₃, fun _ => hnone₃⟩

theorem Shows.activeUntil {b : Broker σ} {s : Scene} (h : b.Shows s) {id : String} {t : Timestamp}
    (ha : b.ActiveUntil id t) :
    s.picture.rules id ≠ none ∧ ∃ r, s.picture.records id = some r ∧ r.options.terminationTime = some t := by
  obtain ⟨hactive, u, hu, ht⟩ := ha
  rw [h.manager.contains] at hactive
  exact ⟨Option.isSome_iff_ne_none.1 hactive, u.toRecord, h.get_eq_some hu, ht⟩

/-- with no plans left, only claims can end anything -/
theorem Shows.mortal_iff_claimed {b : Broker σ} {s : Scene} (h : b.Shows s) (hlapsed : s.Lapsed) :
    b.Mortal ↔ ∀ id t, b.ActiveUntil id t → b.IsClaimed id t := by
  constructor
  · intro hm id t ha
    rcases hm id t ha with hplan | hclaim
    · rw [h.manager.scheduler, hlapsed.unplanned] at hplan
      cases hplan
    · exact hclaim
  · exact fun hc id t ha => Or.inr (hc id t ha)

/-- while the parts agree, everything that is active can end -/
theorem Shows.mortal {b : Broker σ} {s : Scene} (h : b.Shows s) (hco : s.Coherent) : b.Mortal := by
  intro id t ha
  obtain ⟨hactive, r, hr, ht⟩ := h.activeUntil ha
  rw [IsClaimed, h.manager.scheduler, h.claimed]
  exact hco.ends id r t hr hactive ht

/-- a restore leaves no record dormant -/
theorem Shows.restore_active {b : Broker σ} {s : Scene} (h : b.Shows s) {id : String} {u : Subscription}
    (hu : (SubscriptionStore.get (b.step .restore).manager.store id).1 = some u) :
    (b.step .restore).manager.engine.contains id = true := by
  have hkeep : Op.Keepable σ s.picture.supply .restore := trivial
  obtain ⟨s', ht, h'⟩ := step_turn h hkeep
  cases ht with
  | idle hidle => cases hidle
  | restored hres =>
    rw [h'.manager.contains, Option.isSome_iff_ne_none]
    refine hres.allActive id ?_
    rw [h'.get_eq_some hu]
    exact Option.some_ne_none _

/-- **Mortality.** Whatever is active can end, as long as no restore comes after a shutdown. After a shutdown the only
ends that can still come about are those that were claimed; and a restore then makes everything active that is
stored, so that every stored end that is not claimed makes an active subscription that cannot end. -/
theorem mortal_run {store : σ} {v : Records} {hub : Hub} (hv : FaithfulStore.Holds store v)
    (hk : ∀ id r, v id = some r → EventBroker.Keepable σ hub.supply r.options) (c : Compiler) (t : Transformer)
    (clock : Clock) (ids : Nat → String) {ops : List Op} (hkeep : ∀ op ∈ ops, op.Keepable σ hub.supply) :
    let b := (opened store hub c t clock ids).run ops
    (¬ RestoredAfterShutdown ops → b.Mortal) ∧
    (.shutdown ∈ ops → (b.Mortal ↔ ∀ id t, b.ActiveUntil id t → b.IsClaimed id t) ∧
      ∀ id s, (SubscriptionStore.get (b.step .restore).manager.store id).1 = some s →
        (b.step .restore).manager.engine.contains id = true) := by
  intro b
  obtain ⟨p, hp, hshows⟩ := opened_shows hv hk c t clock ids
  have hsetting : p.supply = hub.supply := by
    obtain ⟨_, -, -, hrev⟩ := hp
    exact (Revives.sameSetting hrev).1
  have hkeep' : ∀ op ∈ ops, op.Keepable σ p.supply := by
    rw [hsetting]
    exact hkeep
  have hco : Scene.Coherent ⟨p, []⟩ := Restores.coherent (fun id r => FaithfulStore.keyed hv) hp
  by_cases hops : .shutdown ∈ ops
  · obtain ⟨s, hs, hlapsed, hnone⟩ := run_lapsed hshows hco hp.allActive hkeep' hops
    refine ⟨fun hnot => ?_, fun _ => ⟨hs.mortal_iff_claimed hlapsed, fun id u hu => hs.restore_active hu⟩⟩
    intro id t ha
    exact absurd (hnone hnot id) (hs.activeUntil ha).1
  · obtain ⟨s, hs, -, hco', -⟩ := run_coherent hshows rfl hco hp.allActive hkeep' hops
    exact ⟨fun _ => hs.mortal hco', fun h => absurd h hops⟩

/-- a subscription is brought to life after a shutdown, and nothing will end it -/
theorem restore_after_shutdown :
    ¬ (sample.run [.subscribe (sampleOptions (some ⟨5⟩)), .shutdown, .restore]).Mortal := by
  intro hm
  set b := sample.run [.subscribe (sampleOptions (some ⟨5⟩)), .shutdown, .restore]
  have hdown : Op.shutdown ∈ [.subscribe (sampleOptions (some ⟨5⟩)), .shutdown, .restore] := by simp
  obtain ⟨hiff, -⟩ := (mortal_run sampleStore_holds (fun _ _ _ _ _ _ => trivial) Compiler.regex .standard ⟨⟨0⟩⟩
    (fun n => toString n) fun op _ => op.keepable_memory sampleHub.supply).2 hdown
  have hend : (SubscriptionStore.get b.manager.store "0").1.bind Subscription.terminationTime = some ⟨5⟩ := by
    decide +kernel
  have hactive : b.ActiveUntil "0" ⟨5⟩ := ⟨by decide +kernel, Option.bind_eq_some_iff.1 hend⟩
  have hnone : b.claimed = [] := List.length_eq_zero_iff.1 (by decide +kernel)
  obtain ⟨c, hc, -⟩ : b.IsClaimed "0" ⟨5⟩ := hiff.1 hm "0" ⟨5⟩ hactive
  rw [hnone] at hc
  cases hc

end Broker

end EventBroker
