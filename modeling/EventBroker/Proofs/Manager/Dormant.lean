/-
Dormant records have no jobs of their own.

A record without a rule has a job only if it has an end: whoever gives it one plans it. A record can also come to
stand under an id that has a job left over, but only one whose filter does not compile (`Picture.Unburdened`). So a
record that comes to life has a job just if it has an end.

- `Slip.unburdened`, `run_unburdened`: every op but a shutdown keeps this, whichever changes of the store fail.
-/
import EventBroker.Proofs.Manager.Agreement
import EventBroker.Proofs.Manager.FlakyScene

namespace EventBroker

open Function (update)

namespace Picture

variable {p p' : Picture}

/-- while the scheduler runs, a dormant record has no job unless it has an end, or a filter that does not compile -/
structure Unburdened (p : Picture) : Prop where
  running : p.scheduler.isShutDown = false
  idle : ∀ id r f, p.records id = some r → p.rules id = none → compiled p.compiler r.options = .ok f →
    r.options.terminationTime = none → p.scheduler.endOfLife? id = none

namespace Unburdened

theorem activate (h : p.Unburdened) (r : SubscriptionRecord) (rule : Rule) : (p.activate r rule).Unburdened where
  running := (p.planned_isShutDown r.id r.options.terminationTime).trans h.running
  idle id s f hs hrule hf hend := by
    have hid : id ≠ r.id := by
      rintro rfl
      have hnone : update p.rules r.id (some rule) r.id = none := hrule
      rw [Function.update_self] at hnone
      cases hnone
    have hs : p.records id = some s := (Function.update_of_ne hid _ _).symm.trans hs
    have hrule : p.rules id = none := (Function.update_of_ne hid _ _).symm.trans hrule
    exact (Picture.planned_endOfLife?_of_ne h.running hid _).trans (h.idle id s f hs hrule hf hend)

theorem prolong (h : p.Unburdened) {r : SubscriptionRecord} (t : Timestamp) : (p.prolong r t).Unburdened where
  running := (p.planned_isShutDown r.id (some t)).trans h.running
  idle id s f hs hrule hf hend := by
    rcases update_some_eq_some.1 hs with ⟨-, rfl⟩ | ⟨hid, hs⟩
    · cases hend
    · exact (Picture.planned_endOfLife?_of_ne h.running hid _).trans (h.idle id s f hs hrule hf hend)

/-- the rule and the job of an id go, and maybe its record -/
theorem silence (h : p.Unburdened) {id : String} {v : Records} (hv : ∀ k, k ≠ id → v k = p.records k) :
    Unburdened { p.silence id with records := v } where
  running := (p.scheduler.cancel_isShutDown id).trans h.running
  idle k s f hs hrule hf hend := by
    show (p.unplanned id).endOfLife? k = none
    rw [Picture.unplanned, Scheduler.cancel_endOfLife?]
    split
    · rfl
    · rename_i hk
      have hs : p.records k = some s := (hv k hk).symm.trans hs
      have hrule : p.rules k = none := (Function.update_of_ne hk _ _).symm.trans hrule
      exact h.idle k s f hs hrule hf hend

theorem remove (h : p.Unburdened) (id : String) : (p.remove id).Unburdened :=
  h.silence fun _ hk => Function.update_of_ne hk none p.records

theorem drop (h : p.Unburdened) (id : String) : (p.drop id).Unburdened :=
  ⟨h.running, fun k s f hs => h.idle k s f (update_none_eq_some.1 hs).2⟩

theorem lay (h : p.Unburdened) {r : SubscriptionRecord} (hwhy : ∀ f, compiled p.compiler r.options ≠ .ok f) :
    (p.lay r).Unburdened where
  running := h.running
  idle k s f hs hrule hf hend := by
    rcases update_some_eq_some.1 hs with ⟨-, rfl⟩ | ⟨-, hs⟩
    · exact absurd hf (hwhy f)
    · exact h.idle k s f hs hrule hf hend

theorem slips (h : p.Unburdened) {ids : String → Prop} (hp : p.Slips ids p') : p'.Unburdened := by
  induction hp with
  | done p => exact h
  | activated _ _ ih => exact ih (h.activate _ _)
  | prolonged _ _ _ ih => exact ih (h.prolong _)
  | removed _ _ ih => exact ih (h.remove _)
  | silenced _ _ ih => exact ih (h.silence fun _ _ => rfl)
  | dropped _ _ _ ih => exact ih (h.drop _)
  | laid _ _ hwhy _ ih => exact ih (h.lay hwhy)

/-- the scheduler may change as long as no job comes -/
theorem scheduler (h : p.Unburdened) {s : Scheduler Unit} (hrun : s.isShutDown = p.scheduler.isShutDown)
    (hend : ∀ id, p.scheduler.endOfLife? id = none → s.endOfLife? id = none) :
    Unburdened { p with scheduler := s } :=
  ⟨hrun.trans h.running, fun id r f hr hrule hf ht => hend id (h.idle id r f hr hrule hf ht)⟩

end Unburdened

end Picture

namespace Broker

/-- every slip but a shutdown keeps dormant records without jobs -/
theorem Slip.unburdened {s s' : Scene} {op : Op} (h : Slip s op s') (hne : op ≠ .shutdown)
    (hs : s.picture.Unburdened) : s'.picture.Unburdened := by
  cases h with
  | operated _ hp => exact hs.slips hp
  | closed => exact absurd rfl hne
  | queued queues => exact ⟨hs.running, hs.idle⟩
  | passed => exact ⟨hs.running, hs.idle⟩
  | tookUp =>
    refine hs.scheduler (Scheduler.takeUp_isShutDown _) fun id hid => ?_
    exact (Scheduler.endOfLife?_eq_of_jobs (Scheduler.takeUp_jobs _) id).trans hid
  | claimed =>
    refine hs.scheduler (Scheduler.claimNext_isShutDown _ _) fun id hid => ?_
    rcases Scheduler.claimNext_endOfLife? s.picture.scheduler s.picture.elapsed with ⟨-, hsame⟩ | ⟨c, -, -, hless⟩
    · exact (hsame id).trans hid
    · rw [hless id, hid, ite_self]
  | expired _ => exact hs.remove _
  | silenced _ => exact hs.silence fun _ _ => rfl
  | stale _ _ => exact hs

variable {σ : Type} [SubscriptionStore σ] [FaithfulStore σ]

theorem run_unburdened {b : Broker (FlakyStore σ)} {s : Scene} (h : b.sound.Shows s) (hs : s.picture.Unburdened)
    {ops : List Op} (hkeep : ∀ op ∈ ops, op.Keepable σ s.picture.supply) (hops : Op.shutdown ∉ ops) :
    ∃ s', (b.run ops).sound.Shows s' ∧ s'.picture.Unburdened := by
  induction ops generalizing b s with
  | nil => exact ⟨s, h, hs⟩
  | cons op ops ih =>
    have hne : op ≠ .shutdown := fun heq => hops (heq ▸ List.mem_cons_self)
    obtain ⟨s', hslip, hs'⟩ := step_slip h (hkeep op List.mem_cons_self)
    refine ih hs' (hslip.unburdened hne hs) (fun o ho => ?_) fun ho => hops (List.mem_cons_of_mem op ho)
    rw [hslip.supply]
    exact hkeep o (List.mem_cons_of_mem op ho)

end Broker

end EventBroker
