/-
Store, engine and scheduler agree.

While a manager runs, the stored ids are those that have a rule, a rule's endpoint has the address that is recorded, and
plans are for stored ends only. An end that is stored is planned, or its expiry was claimed and has not been run: a
renewal or an end that comes between claim and run makes the claim stale, and then there is a new plan or no record.

- `Scene.Coherent` is the invariant, with records that are still dormant allowed for; that none is dormant is
  `Picture.AllActive`. Both are kept by every turn but a shutdown (`Turn.coherent`, `Turn.allActive`), and so by runs
  without one (`run_coherent`).
- `Agreement` says it of a broker's own parts, and `run_agreement` is the main result.
-/
import EventBroker.Proofs.Manager.Scene

namespace EventBroker

open Function (update)

/-! ## Plans -/

namespace Scheduler

variable {α : Type}

theorem endOfLife?_eq_some {s : Scheduler α} {id : String} {t : Timestamp} :
    s.endOfLife? id = some t ↔ ∃ j, s.jobs.find? id = some j ∧ j.endOfLife = t := Option.map_eq_some_iff

theorem endOfLife?_eq_of_jobs {s s' : Scheduler α} (h : s'.jobs = s.jobs) (id : String) :
    s'.endOfLife? id = s.endOfLife? id := by
  unfold endOfLife?
  rw [h]

theorem schedule_endOfLife? {s s' : Scheduler α} {elapsed : Nat} {now t : Timestamp} {id : String} {a : α}
    (h : s.schedule elapsed now id t a = .ok s') (k : String) :
    s'.endOfLife? k = if k = id then some t else s.endOfLife? k := by
  obtain ⟨-, rfl⟩ := schedule_eq_ok_iff.1 h
  unfold endOfLife?
  rw [Table.find?_insert]
  split <;> rfl

theorem cancel_endOfLife? (s : Scheduler α) (id k : String) :
    ((s.cancel id).toOption.getD s).endOfLife? k = if k = id then none else s.endOfLife? k := by
  unfold cancel
  split
  · show Option.map _ ((s.jobs.erase id).find? k) = _
    rw [Table.find?_erase]
    split <;> rfl
  · rename_i hnot
    show s.endOfLife? k = _
    split
    · rename_i hk
      subst hk
      have hnone : s.jobs.find? k = none := by simpa [Table.contains] using hnot
      unfold endOfLife?
      rw [hnone]
      rfl
    · rfl

theorem cancel_isShutDown (s : Scheduler α) (id : String) :
    ((s.cancel id).toOption.getD s).isShutDown = s.isShutDown := by
  unfold cancel
  split <;> rfl

/-- a step of the timer moves at most one job, from the pending to the claimed -/
theorem claimNext_endOfLife? (s : Scheduler α) (elapsed : Nat) :
    ((s.claimNext elapsed).1 = none ∧ ∀ k, (s.claimNext elapsed).2.endOfLife? k = s.endOfLife? k) ∨
      ∃ c, (s.claimNext elapsed).1 = some c ∧ s.endOfLife? c.identity = some c.endOfLife ∧
        ∀ k, (s.claimNext elapsed).2.endOfLife? k = if k = c.identity then none else s.endOfLife? k := by
  rcases claimNext_cases s elapsed with ⟨hnone, hjobs⟩ | ⟨t, -, j, hj, -, -, hc, hjobs⟩
  · exact Or.inl ⟨hnone, endOfLife?_eq_of_jobs hjobs⟩
  · refine Or.inr ⟨_, hc, endOfLife?_eq_some.2 ⟨j, hj, rfl⟩, fun k => ?_⟩
    unfold endOfLife?
    rw [hjobs, Table.find?_erase]
    split <;> rfl

end Scheduler

namespace Picture

variable {p : Picture}

theorem planned_isShutDown (p : Picture) (id : String) (t : Option Timestamp) :
    (p.planned id t).isShutDown = p.scheduler.isShutDown := by
  cases t with
  | none => rfl
  | some t =>
    unfold planned Scheduler.schedule
    dsimp only
    split <;> rfl

theorem planned_endOfLife? (h : p.scheduler.isShutDown = false) (id : String) (t : Timestamp) (k : String) :
    (p.planned id (some t)).endOfLife? k = if k = id then some t else p.scheduler.endOfLife? k := by
  obtain ⟨s, hs⟩ : ∃ s, p.scheduler.schedule p.elapsed p.now id t () = .ok s :=
    ⟨_, Scheduler.schedule_eq_ok_iff.2 ⟨h, rfl⟩⟩
  have hplan : p.planned id (some t) = (p.scheduler.schedule p.elapsed p.now id t ()).toOption.getD p.scheduler := rfl
  rw [hplan, hs]
  exact Scheduler.schedule_endOfLife? hs k

theorem planned_endOfLife?_of_ne (h : p.scheduler.isShutDown = false) {id k : String} (hk : k ≠ id)
    (t : Option Timestamp) : (p.planned id t).endOfLife? k = p.scheduler.endOfLife? k := by
  cases t with
  | none => rfl
  | some t => rw [planned_endOfLife? h, if_neg hk]

/-- no record is dormant -/
def AllActive (p : Picture) : Prop := ∀ id, p.records id ≠ none → p.rules id ≠ none

end Picture

/-! ## The invariant -/

namespace Scene

/-- the end of an id is planned, or its expiry was claimed and not yet run -/
def Ends (s : Scene) (id : String) (t : Timestamp) : Prop :=
  s.picture.scheduler.endOfLife? id = some t ∨ ∃ c ∈ s.claimed, c.identity = id ∧ c.endOfLife = t

/-- an end that is planned stays so as long as its plan and its claims stay -/
theorem Ends.mono {s s' : Scene} {id : String} {t : Timestamp} (h : s.Ends id t)
    (hplan : s.picture.scheduler.endOfLife? id = some t → s'.picture.scheduler.endOfLife? id = some t)
    (hclaims : ∀ c ∈ s.claimed, c.identity = id → c.endOfLife = t → c ∈ s'.claimed) : s'.Ends id t := by
  rcases h with hplanned | ⟨c, hc, hid, hend⟩
  · exact Or.inl (hplan hplanned)
  · exact Or.inr ⟨c, hclaims c hc hid hend, hid, hend⟩

/-- a plan may become a claim -/
theorem Ends.claim {p : Picture} {cs : List (Claimed Unit)} {id : String} {t : Timestamp} (h : Ends ⟨p, cs⟩ id t) :
    Ends ⟨{ p with scheduler := (p.scheduler.claimNext p.elapsed).2 },
      cs ++ (p.scheduler.claimNext p.elapsed).1.toList⟩ id t := by
  rcases Scheduler.claimNext_endOfLife? p.scheduler p.elapsed with ⟨-, hend⟩ | ⟨c, hc, hplan, hend⟩
  · refine h.mono (fun hplanned => ?_) fun d hd _ _ => List.mem_append_left _ hd
    exact (hend id).trans hplanned
  · show (p.scheduler.claimNext p.elapsed).2.endOfLife? id = some t ∨ ∃ d ∈ _, _
    rw [hc, hend]
    rcases h with hplanned | ⟨d, hd, hid, hdend⟩
    · split
      · rename_i hk
        subst hk
        refine Or.inr ⟨c, List.mem_append_right _ List.mem_cons_self, rfl, ?_⟩
        exact Option.some.inj (hplan.symm.trans hplanned)
      · exact Or.inl hplanned
    · exact Or.inr ⟨d, List.mem_append_left _ hd, hid, hdend⟩

structure Coherent (s : Scene) : Prop where
  running : s.picture.scheduler.isShutDown = false
  keyed : ∀ id r, s.picture.records id = some r → r.id = id
  served : ∀ id rule, s.picture.rules id = some rule → ∃ r, s.picture.records id = some r ∧
    rule.Serves s.picture.compiler r ∧ Resolves s.picture.supply r.options r.location
  planned : ∀ id t, s.picture.scheduler.endOfLife? id = some t → s.picture.rules id ≠ none ∧
    ∃ r, s.picture.records id = some r ∧ r.options.terminationTime = some t
  ends : ∀ id r t, s.picture.records id = some r → s.picture.rules id ≠ none →
    r.options.terminationTime = some t → s.Ends id t

end Scene

theorem Rule.Serves.renewed {rule : Rule} {c : Compiler} {r : SubscriptionRecord} (h : rule.Serves c r)
    (t : Timestamp) : rule.Serves c (r.renewed t) := ⟨h.predicate, h.raw, h.location⟩

theorem Resolves.renewed {supply : Supply} {r : SubscriptionRecord} (h : Resolves supply r.options r.location)
    (t : Timestamp) : Resolves supply (r.renewed t).options (r.renewed t).location := h

/-- only the element at the place goes -/
theorem mem_eraseIdx_of_ne {α : Type} {l : List α} {i : Nat} {a b : α} (ha : a ∈ l) (hi : l[i]? = some b)
    (hne : b ≠ a) : a ∈ l.eraseIdx i := by
  obtain ⟨j, hj⟩ := List.mem_iff_getElem?.1 ha
  refine List.mem_eraseIdx_iff_getElem?.2 ⟨j, fun hji => hne ?_, hj⟩
  subst hji
  exact Option.some.inj (hi.symm.trans hj)

namespace Scene.Coherent

variable {p : Picture} {cs : List (Claimed Unit)}

theorem activate (h : Coherent ⟨p, cs⟩) {r : SubscriptionRecord} {rule : Rule} (hadm : p.Admits r rule) :
    Coherent ⟨p.activate r rule, cs⟩ where
  running := (p.planned_isShutDown r.id r.options.terminationTime).trans h.running
  keyed id s hs := by
    rcases update_some_eq_some.1 hs with ⟨rfl, rfl⟩ | ⟨-, hs⟩
    · rfl
    · exact h.keyed id s hs
  served id s hs := by
    rcases update_some_eq_some.1 hs with ⟨rfl, rfl⟩ | ⟨hid, hs⟩
    · exact ⟨r, Function.update_self _ _ _, hadm.serves, hadm.resolves⟩
    · obtain ⟨t, ht, hserved⟩ := h.served id s hs
      exact ⟨t, update_some_eq_some.2 (Or.inr ⟨hid, ht⟩), hserved⟩
  planned id t ht := by
    show update p.rules r.id (some rule) id ≠ none ∧ ∃ s, update p.records r.id (some r) id = some s ∧ _
    have ht : (p.planned r.id r.options.terminationTime).endOfLife? id = some t := ht
    rw [Function.update_apply, Function.update_apply]
    by_cases hid : id = r.id
    · rw [if_pos hid, if_pos hid]
      refine ⟨Option.some_ne_none _, r, rfl, ?_⟩
      cases hend : r.options.terminationTime with
      | none =>
        -- what was planned for the id before would have had a rule
        rw [hend] at ht
        exact absurd (hid ▸ hadm.free) (h.planned id t ht).1
      | some u =>
        rw [hend, Picture.planned_endOfLife? h.running, if_pos hid] at ht
        exact ht
    · rw [if_neg hid, if_neg hid]
      rw [Picture.planned_endOfLife?_of_ne h.running hid] at ht
      exact h.planned id t ht
  ends id s t hs hrule ht := by
    have hrule : update p.rules r.id (some rule) id ≠ none := hrule
    show (p.planned r.id r.options.terminationTime).endOfLife? id = some t ∨ _
    rcases update_some_eq_some.1 hs with ⟨rfl, rfl⟩ | ⟨hid, hs⟩
    · rw [ht, Picture.planned_endOfLife? h.running, if_pos rfl]
      exact Or.inl rfl
    · rw [Function.update_of_ne hid] at hrule
      rw [Picture.planned_endOfLife?_of_ne h.running hid]
      exact h.ends id s t hs hrule ht

theorem prolong (h : Coherent ⟨p, cs⟩) {r : SubscriptionRecord} (hr : p.records r.id = some r)
    (hrule : p.rules r.id ≠ none) (t : Timestamp) : Coherent ⟨p.prolong r t, cs⟩ where
  running := (p.planned_isShutDown r.id (some t)).trans h.running
  keyed id s hs := by
    rcases update_some_eq_some.1 hs with ⟨rfl, rfl⟩ | ⟨-, hs⟩
    · rfl
    · exact h.keyed id s hs
  served id rule hs := by
    obtain ⟨s, hs, hserves, hres⟩ := h.served id rule hs
    show ∃ u, update p.records r.id (some (r.renewed t)) id = some u ∧ _
    rw [Function.update_apply]
    split
    · rename_i hid
      have hsame : r = s := Option.some.inj (hr.symm.trans (hid ▸ hs))
      subst hsame
      exact ⟨_, rfl, hserves.renewed t, hres.renewed t⟩
    · exact ⟨s, hs, hserves, hres⟩
  planned id u hu := by
    have hu : (p.planned r.id (some t)).endOfLife? id = some u := hu
    show p.rules id ≠ none ∧ ∃ s, update p.records r.id (some (r.renewed t)) id = some s ∧ _
    rw [Picture.planned_endOfLife? h.running] at hu
    rw [Function.update_apply]
    split at hu
    · rename_i hid
      rw [if_pos hid]
      exact ⟨hid ▸ hrule, _, rfl, hu⟩
    · rename_i hid
      rw [if_neg hid]
      exact h.planned id u hu
  ends id s u hs hactive hu := by
    show (p.planned r.id (some t)).endOfLife? id = some u ∨ _
    rw [Picture.planned_endOfLife? h.running]
    rcases update_some_eq_some.1 hs with ⟨hid, rfl⟩ | ⟨hid, hs⟩
    · rw [if_pos hid]
      exact Or.inl hu
    · rw [if_neg hid]
      exact h.ends id s u hs hactive hu

/-- an id goes, and with it any of its claims -/
theorem remove (h : Coherent ⟨p, cs⟩) (id : String) {cs' : List (Claimed Unit)}
    (hcs : ∀ c ∈ cs, c.identity ≠ id → c ∈ cs') : Coherent ⟨p.remove id, cs'⟩ where
  running := (p.scheduler.cancel_isShutDown id).trans h.running
  keyed k s hs := h.keyed k s (update_none_eq_some.1 hs).2
  served k rule hs := by
    obtain ⟨hk, hs⟩ := update_none_eq_some.1 hs
    obtain ⟨s, hr, hserved⟩ := h.served k rule hs
    exact ⟨s, update_none_eq_some.2 ⟨hk, hr⟩, hserved⟩
  planned k t ht := by
    have ht : (p.unplanned id).endOfLife? k = some t := ht
    show update p.rules id none k ≠ none ∧ ∃ s, update p.records id none k = some s ∧ _
    rw [Picture.unplanned, Scheduler.cancel_endOfLife?] at ht
    rw [Function.update_apply, Function.update_apply]
    split at ht
    · cases ht
    · rename_i hk
      rw [if_neg hk, if_neg hk]
      exact h.planned k t ht
  ends k s t hs hrule ht := by
    obtain ⟨hk, hs⟩ := update_none_eq_some.1 hs
    have hrule : update p.rules id none k ≠ none := hrule
    rw [Function.update_of_ne hk] at hrule
    refine (h.ends k s t hs hrule ht).mono (fun hplan => ?_) fun c hc hid _ => hcs c hc (hid ▸ hk)
    show (p.unplanned id).endOfLife? k = some t
    rw [Picture.unplanned, Scheduler.cancel_endOfLife?, if_neg hk]
    exact hplan

theorem drop (h : Coherent ⟨p, cs⟩) {id : String} (hrule : p.rules id = none) : Coherent ⟨p.drop id, cs⟩ where
  running := h.running
  keyed k s hs := h.keyed k s (update_none_eq_some.1 hs).2
  served k rule hs := by
    have hs : p.rules k = some rule := hs
    have hk : k ≠ id := by
      intro hk
      rw [hk, hrule] at hs
      cases hs
    show ∃ s, update p.records id none k = some s ∧ _
    rw [Function.update_of_ne hk]
    exact h.served k rule hs
  planned k t ht := by
    have hk : k ≠ id := fun hk => (h.planned k t ht).1 (hk ▸ hrule)
    show p.rules k ≠ none ∧ ∃ s, update p.records id none k = some s ∧ _
    rw [Function.update_of_ne hk]
    exact h.planned k t ht
  ends k s t hs hactive ht := by
    have hk : k ≠ id := fun hk => hactive (hk ▸ hrule)
    have hs : update p.records id none k = some s := hs
    rw [Function.update_of_ne hk] at hs
    exact h.ends k s t hs hactive ht

/-- the scheduler may change as long as no plan changes -/
theorem scheduler (h : Coherent ⟨p, cs⟩) {s : Scheduler Unit} (hrun : s.isShutDown = p.scheduler.isShutDown)
    (hend : ∀ id, s.endOfLife? id = p.scheduler.endOfLife? id) : Coherent ⟨{ p with scheduler := s }, cs⟩ where
  running := hrun.trans h.running
  keyed := h.keyed
  served := h.served
  planned id t ht := h.planned id t ((hend id).symm.trans ht)
  ends id r t hr hrule ht := by
    show s.endOfLife? id = some t ∨ _
    rw [hend]
    exact h.ends id r t hr hrule ht

/-- a job becomes a claim -/
theorem claim (h : Coherent ⟨p, cs⟩) :
    Coherent ⟨{ p with scheduler := (p.scheduler.claimNext p.elapsed).2 },
      cs ++ (p.scheduler.claimNext p.elapsed).1.toList⟩ where
  running := (Scheduler.claimNext_isShutDown _ _).trans h.running
  keyed := h.keyed
  served := h.served
  planned id t ht := by
    have ht : (p.scheduler.claimNext p.elapsed).2.endOfLife? id = some t := ht
    rcases Scheduler.claimNext_endOfLife? p.scheduler p.elapsed with ⟨-, hend⟩ | ⟨c, -, -, hend⟩
    · exact h.planned id t ((hend id).symm.trans ht)
    · rw [hend] at ht
      split at ht
      · cases ht
      · exact h.planned id t ht
  ends id r t hr hrule ht := (h.ends id r t hr hrule ht).claim

/-- a stale claim may go -/
theorem stale (h : Coherent ⟨p, cs⟩) {i : Nat} {c : Claimed Unit} (hi : cs[i]? = some c)
    (hstale : ∀ r, p.records c.identity = some r → r.options.terminationTime ≠ some c.endOfLife) :
    Coherent ⟨p, cs.eraseIdx i⟩ where
  running := h.running
  keyed := h.keyed
  served := h.served
  planned := h.planned
  ends id r t hr hrule ht := by
    refine (h.ends id r t hr hrule ht).mono (fun hplan => hplan) fun d hd hid hend => ?_
    subst hid hend
    exact mem_eraseIdx_of_ne hd hi fun hcd => hstale r (hcd ▸ hr) (hcd ▸ ht)

theorem revives {p' : Picture} {ids : List String} (h : Coherent ⟨p, cs⟩) (hrev : p.Revives ids p') :
    Coherent ⟨p', cs⟩ := by
  induction hrev with
  | done p => exact h
  | active _ _ ih => exact ih h
  | revived _ hadm _ ih => exact ih (h.activate hadm)
  | dropped _ hrule _ _ ih => exact ih (h.drop hrule)

end Scene.Coherent

namespace Picture

variable {p : Picture}

theorem AllActive.activate (h : p.AllActive) (r : SubscriptionRecord) (rule : Rule) :
    (p.activate r rule).AllActive := by
  intro id hid
  have hid : update p.records r.id (some r) id ≠ none := hid
  show update p.rules r.id (some rule) id ≠ none
  rw [Function.update_apply] at hid ⊢
  split
  · exact Option.some_ne_none _
  · rename_i hne
    rw [if_neg hne] at hid
    exact h id hid

theorem AllActive.prolong (h : p.AllActive) {r : SubscriptionRecord} (hr : p.records r.id = some r)
    (t : Timestamp) : (p.prolong r t).AllActive := by
  intro id hid
  have hid : update p.records r.id (some (r.renewed t)) id ≠ none := hid
  refine h id ?_
  rw [Function.update_apply] at hid
  split at hid
  · rename_i heq
    rw [heq, hr]
    exact Option.some_ne_none _
  · exact hid

theorem AllActive.remove (h : p.AllActive) (id : String) : (p.remove id).AllActive := by
  intro k hk
  have hk : update p.records id none k ≠ none := hk
  show update p.rules id none k ≠ none
  rw [Function.update_apply] at hk ⊢
  split at hk
  · exact absurd rfl hk
  · rename_i hne
    rw [if_neg hne]
    exact h k hk

/-- no record that was visited is dormant -/
theorem Revives.allActive {p' : Picture} {ids : List String} (hrev : p.Revives ids p')
    (h : ∀ id, p.records id ≠ none → p.rules id ≠ none ∨ id ∈ ids) : p'.AllActive := by
  induction hrev with
  | done p =>
    intro id hid
    rcases h id hid with hrule | hmem
    · exact hrule
    · cases hmem
  | active hrule _ ih =>
    refine ih fun id hid => ?_
    rcases h id hid with hr | hmem
    · exact Or.inl hr
    · rcases List.mem_cons.1 hmem with rfl | hmem
      · exact Or.inl (by simp [hrule])
      · exact Or.inr hmem
  | @revived p p' r location ids rule hr hadm _ ih =>
    refine ih fun id hid => ?_
    have hid : update p.records r.id (some ⟨r.id, r.options, location⟩) id ≠ none := hid
    show update p.rules r.id (some rule) id ≠ none ∨ _
    rw [Function.update_apply] at hid ⊢
    by_cases hk : id = r.id
    · rw [if_pos hk]
      exact Or.inl (by simp)
    · rw [if_neg hk] at hid ⊢
      exact (h id hid).imp_right fun hmem => (List.mem_cons.1 hmem).resolve_left hk
  | @dropped p p' r ids hr hrule _ _ ih =>
    refine ih fun id hid => ?_
    have hid : update p.records r.id none id ≠ none := hid
    show p.rules id ≠ none ∨ _
    rw [Function.update_apply] at hid
    split at hid
    · exact absurd rfl hid
    · rename_i hk
      exact (h id hid).imp_right fun hmem => (List.mem_cons.1 hmem).resolve_left hk

theorem Restores.allActive {p' : Picture} (h : p.Restores p') : p'.AllActive := by
  obtain ⟨ids, -, hids, hrev⟩ := h
  exact hrev.allActive fun id hid => Or.inr ((hids id).2 hid)

end Picture

namespace Broker

/-- a turn leaves no record dormant, unless it is a shutdown -/
theorem Turn.allActive {s s' : Scene} {op : Op} {e : Option (String × Option Timestamp)} (ht : Turn s op e s')
    (hop : op ≠ .shutdown) (h : s.picture.AllActive) : s'.picture.AllActive := by
  cases ht with
  | idle _ => exact h
  | subscribed _ _ _ => exact h.activate _ _
  | renewed _ hr => exact h.prolong hr _
  | unsubscribed _ => exact h.remove _
  | restored hres => exact hres.allActive
  | closed => exact absurd rfl hop
  | queued _ => exact h
  | passed => exact h
  | tookUp => exact h
  | claimed => exact h
  | expired _ _ _ => exact h.remove _
  | stale _ _ => exact h

/-- a turn keeps the parts in agreement, unless it is a shutdown -/
theorem Turn.coherent {s s' : Scene} {op : Op} {e : Option (String × Option Timestamp)} (ht : Turn s op e s')
    (hop : op ≠ .shutdown) (hactive : s.picture.AllActive) (h : s.Coherent) : s'.Coherent := by
  cases ht with
  | idle _ => exact h
  | subscribed _ _ hadm => exact h.activate hadm
  | @renewed r t _ hr => exact h.prolong hr (hactive r.id (by simp [hr])) t
  | unsubscribed _ => exact h.remove _ fun c hc _ => hc
  | restored hres =>
    obtain ⟨ids, -, -, hrev⟩ := hres
    exact h.revives hrev
  | closed => exact absurd rfl hop
  | queued _ => exact ⟨h.running, h.keyed, h.served, h.planned, h.ends⟩
  | passed => exact ⟨h.running, h.keyed, h.served, h.planned, h.ends⟩
  | tookUp =>
    exact h.scheduler (Scheduler.takeUp_isShutDown _)
      (Scheduler.endOfLife?_eq_of_jobs (Scheduler.takeUp_jobs _))
  | claimed => exact h.claim
  | expired hi _ _ => exact h.remove _ fun c hc hne => mem_eraseIdx_of_ne hc hi fun heq => hne (heq ▸ rfl)
  | stale hi hstale => exact h.stale hi hstale

/-! ## Brokers -/

variable {σ : Type} [SubscriptionStore σ]

/-- what the parts of a broker have to say about the same ids -/
structure Agreement (b : Broker σ) : Prop where
  same_ids : ∀ id, (SubscriptionStore.get b.manager.store id).1.isSome = b.manager.engine.contains id
  listed : ∀ id, id ∈ (SubscriptionStore.all b.manager.store).1.map Subscription.id ↔ b.manager.engine.contains id
  same_location : ∀ id s e, (SubscriptionStore.get b.manager.store id).1 = some s →
    b.manager.engine.endpoint? id = some e → s.location = e.location
  planned : ∀ id t, b.manager.scheduler.endOfLife? id = some t →
    ∃ s, (SubscriptionStore.get b.manager.store id).1 = some s ∧ s.terminationTime = some t
  ends : ∀ id s t, (SubscriptionStore.get b.manager.store id).1 = some s → s.terminationTime = some t →
    b.manager.scheduler.endOfLife? id = some t ∨ ∃ c ∈ b.claimed, c.identity = id ∧ c.endOfLife = t

variable [FaithfulStore σ]

theorem Shows.get_eq_some {b : Broker σ} {s : Scene} (h : b.Shows s) {id : String} {t : Subscription}
    (ht : (SubscriptionStore.get b.manager.store id).1 = some t) : s.picture.records id = some t.toRecord := by
  rw [← FaithfulStore.get_answer h.manager.holds id, ht]
  rfl

theorem Shows.get_of_record {b : Broker σ} {s : Scene} (h : b.Shows s) {id : String} {r : SubscriptionRecord}
    (hr : s.picture.records id = some r) :
    ∃ t, (SubscriptionStore.get b.manager.store id).1 = some t ∧ t.toRecord = r := by
  rw [← FaithfulStore.get_answer h.manager.holds id] at hr
  exact Option.map_eq_some_iff.1 hr

theorem Shows.agreement {b : Broker σ} {s : Scene} (h : b.Shows s) (hco : s.Coherent)
    (hactive : s.picture.AllActive) : b.Agreement := by
  have hboth : ∀ id, s.picture.records id ≠ none ↔ s.picture.rules id ≠ none := by
    refine fun id => ⟨hactive id, fun hrule => ?_⟩
    obtain ⟨rule, hrule⟩ := Option.ne_none_iff_exists'.1 hrule
    obtain ⟨r, hr, -⟩ := hco.served id rule hrule
    rw [hr]
    exact Option.some_ne_none _
  have hcontains : ∀ id, b.manager.engine.contains id ↔ s.picture.records id ≠ none := by
    intro id
    rw [h.manager.contains, hboth, Option.isSome_iff_ne_none]
  refine ⟨fun id => ?_, fun id => ?_, fun id t e ht he => ?_, fun id t ht => ?_, fun id t u ht hu => ?_⟩
  · rw [Bool.eq_iff_iff, hcontains, ← FaithfulStore.get_answer h.manager.holds id, Option.isSome_iff_ne_none]
    simp
  · rw [hcontains]
    constructor
    · intro hid
      obtain ⟨t, ht, rfl⟩ := List.mem_map.1 hid
      rw [FaithfulStore.all_sound h.manager.holds t ht]
      exact Option.some_ne_none _
    · intro hid
      obtain ⟨r, hr⟩ := Option.ne_none_iff_exists'.1 hid
      obtain ⟨t, ht, rfl⟩ := FaithfulStore.all_complete h.manager.holds hr
      exact List.mem_map_of_mem ht
  · rw [h.manager.endpoint] at he
    obtain ⟨rule, hrule, rfl⟩ := Option.map_eq_some_iff.1 he
    obtain ⟨r, hr, hserves, -⟩ := hco.served id rule hrule
    have hsame : t.toRecord = r := Option.some.inj ((h.get_eq_some ht).symm.trans hr)
    rw [hserves.location, ← hsame]
    rfl
  · rw [h.manager.scheduler] at ht
    obtain ⟨-, r, hr, hend⟩ := hco.planned id t ht
    obtain ⟨u, hu, rfl⟩ := h.get_of_record hr
    exact ⟨u, hu, hend⟩
  · rw [h.manager.scheduler, h.claimed]
    have hr := h.get_eq_some ht
    exact hco.ends id t.toRecord u hr (hactive id (by simp [hr])) hu

/-- as long as nobody shuts the manager down, its parts agree and no record is dormant -/
theorem run_coherent {b : Broker σ} {s : Scene} (h : b.Shows s) {supply : Supply} (hsupply : s.picture.supply = supply)
    (hco : s.Coherent) (hactive : s.picture.AllActive) {ops : List Op} (hkeep : ∀ op ∈ ops, op.Keepable σ supply)
    (hops : Op.shutdown ∉ ops) :
    ∃ s', (b.run ops).Shows s' ∧ s'.picture.supply = supply ∧ s'.Coherent ∧ s'.picture.AllActive :=
  run_preserves (fun s => s.Coherent ∧ s.picture.AllActive) (· ≠ .shutdown)
    (fun _ _ _ _ hop ht hQ => ⟨ht.coherent hop hQ.2 hQ.1, ht.allActive hop hQ.2⟩) h hsupply ⟨hco, hactive⟩ hkeep
    fun _ hop heq => hops (heq ▸ hop)

/-- a broker begins in agreement -/
theorem Restores.coherent {v : Records} {c : Compiler} {hub : Hub} {clock : Clock} {p : Picture}
    (hv : ∀ id r, v id = some r → r.id = id) (h : (Picture.dormant v c hub clock).Restores p) :
    Scene.Coherent ⟨p, []⟩ := by
  obtain ⟨ids, -, -, hrev⟩ := h
  refine Scene.Coherent.revives ⟨rfl, hv, fun id rule hrule => ?_, fun id t ht => ?_,
    fun _ _ _ _ hactive => absurd rfl hactive⟩ hrev
  · simp [Picture.dormant] at hrule
  · simp [Picture.dormant, Scheduler.start, Scheduler.endOfLife?] at ht

/-- **Agreement.** Whatever a store has in it, and whatever is done to a broker that was opened over it, in whatever
order, timer and workers included: as long as nobody shuts the manager down, store, engine and scheduler agree. This
needs options that the store can keep (`Keepable`); it loses others without a failure. -/
theorem run_agreement {store : σ} {v : Records} {hub : Hub} (hv : FaithfulStore.Holds store v)
    (hk : ∀ id r, v id = some r → EventBroker.Keepable σ hub.supply r.options) (c : Compiler) (t : Transformer)
    (clock : Clock) (ids : Nat → String) {ops : List Op} (hkeep : ∀ op ∈ ops, op.Keepable σ hub.supply)
    (hops : Op.shutdown ∉ ops) : ((opened store hub c t clock ids).run ops).Agreement := by
  obtain ⟨p, hp, hshows⟩ := opened_shows hv hk c t clock ids
  have hsetting : p.supply = hub.supply := by
    obtain ⟨_, -, -, hrev⟩ := hp
    exact (Revives.sameSetting hrev).1
  have hstart : Scene.Coherent ⟨p, []⟩ := Restores.coherent (fun id r => FaithfulStore.keyed hv) hp
  obtain ⟨s, hs, -, hco, hactive⟩ := run_coherent hshows hsetting hstart hp.allActive hkeep hops
  exact hs.agreement hco hactive

/-- an expiry was claimed, and a renewal comes before a worker gets to it -/
theorem agreement_between_claim_and_run :
    let b := sample.run [.subscribe (sampleOptions (some ⟨5⟩)), .takeUp, .pass 7 ⟨7⟩, .claim, .renew "0" ⟨9⟩]
    b.claimed.length = 1 ∧ b.manager.engine.contains "old" = true ∧ b.Agreement := by
  refine ⟨by decide, by decide, ?_⟩
  exact run_agreement sampleStore_holds (fun _ _ _ _ _ _ => trivial) _ _ _ _ (fun op _ => op.keepable_memory _)
    (by simp)

end Broker

end EventBroker
