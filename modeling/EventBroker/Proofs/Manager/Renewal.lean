/-
Renewing changes an end, and nothing else.

A renewal is an update of the store and then a job in place of the one before. The store looks for the id that is asked
for, and writes under the id of what it finds; the job is planned for that one, too. Where the two are one, the end is
all that changes.

- `renew_cases`: what is answered and what is left, as equations.
- `Prolonged`: a manager differs from another in the end of one subscription only.
- `expires_at_once`: with an end that has passed, the next round of the timer claims the job, and running it takes the
  subscription out.
- `renew_changes_end`: what renewing does in every state that a broker can reach, whatever fails.
-/
import EventBroker.Proofs.Manager.Stable
import EventBroker.Proofs.Manager.Unsubscribe
import EventBroker.Proofs.Store.Renewal

namespace EventBroker

namespace Manager

variable {σ : Type} [SubscriptionStore σ] [SteadyStore σ] [RenewingStore σ] {m m' : Manager σ} {id : String}
  {t : Timestamp} {s : Subscription}

/-! ## What is left of a manager -/

/-- a renewal that fails has changed the store at most; one that succeeds has planned a job for what was renewed -/
theorem renew_cases (m : Manager σ) (id : String) (t : Timestamp) : Ensures (renew id t) m fun a m' =>
    ((∃ e, a = .error e) ∧ m' = m) ∨
    (∃ e, a = .error e ∧ (SubscriptionStore.renew m.store id t).1 = .error e ∧
      m' = { m with store := (SubscriptionStore.renew m.store id t).2 }) ∨
    ∃ s scheduler, a = .ok t ∧ (SubscriptionStore.renew m.store id t).1 = .ok s ∧
      m.scheduler.schedule m.elapsed m.clock.now s.id t () = .ok scheduler ∧
      m' = { m with store := (SubscriptionStore.renew m.store id t).2, scheduler } := by
  unfold renew
  refine Ensures.bind (P := fun running m' => running = !m.scheduler.isShutDown ∧ m' = m) ⟨rfl, rfl⟩
    fun running m₁ hpost₁ => ?_
  obtain ⟨hrunning, rfl⟩ := hpost₁
  cases hshut : m₁.scheduler.isShutDown with
  | true =>
    rw [hrunning, hshut]
    exact Or.inl ⟨⟨_, rfl⟩, rfl⟩
  | false =>
    rw [hrunning, hshut]
    refine Ensures.bind (P := fun a m' => a = (SubscriptionStore.renew m₁.store id t).1 ∧
      m' = { m₁ with store := (SubscriptionStore.renew m₁.store id t).2 }) ⟨rfl, rfl⟩ fun a m₂ hpost₂ => ?_
    obtain ⟨rfl, rfl⟩ := hpost₂
    cases hr : (SubscriptionStore.renew m₁.store id t).1 with
    | error e => exact Or.inr (Or.inl ⟨e, rfl, rfl, rfl⟩)
    | ok s =>
      obtain ⟨s₀, -, rfl⟩ := RenewingStore.renew_answer hr
      obtain ⟨scheduler, hplan⟩ : ∃ scheduler,
          m₁.scheduler.schedule m₁.elapsed m₁.clock.now (s₀.renewed t).id t () = .ok scheduler :=
        ⟨_, Scheduler.schedule_eq_ok_iff.2 ⟨hshut, rfl⟩⟩
      have hplanned : Ensures (schedule (s₀.renewed t)) { m₁ with store := (SubscriptionStore.renew m₁.store id t).2 }
          fun _ m' => m' = { m₁ with store := (SubscriptionStore.renew m₁.store id t).2, scheduler } := by
        refine Ensures.modify ?_
        have hend : (s₀.renewed t).terminationTime = some t := rfl
        rw [hend]
        dsimp only
        rw [hplan]
      refine Ensures.bind hplanned fun _ m₃ hpost₃ => ?_
      exact Or.inr (Or.inr ⟨s₀.renewed t, scheduler, rfl, rfl, hplan, hpost₃⟩)

/-- one manager differs from another in the end of the subscription that it found for an id, and in what its store has
at hand; the job for that end has taken the place of the one before -/
structure Prolonged (m m' : Manager σ) (id : String) (t : Timestamp) (s : Subscription) : Prop where
  hub : m'.hub = m.hub
  engine : m'.engine = m.engine
  found : (SubscriptionStore.get m.store id).1 = some s
  answered : (getSubscription id m').1 = (getSubscription id m).1.map (·.renewed t)
  planned : m'.scheduler.endOfLife? s.id = some t
  /-- all other jobs are as they were -/
  jobs : ∀ k, k ≠ s.id → m'.scheduler.jobs.find? k = m.scheduler.jobs.find? k
  /-- what lasts of the subscription is the same with the new end -/
  kept : s.id = id → ∃ x, SteadyStore.kept? m'.store id = some x ∧ x.Of (s.renewed t)
  others : s.id = id → ∀ k, k ≠ id → SteadyStore.kept? m'.store k = SteadyStore.kept? m.store k

/-- nothing differs but what the store has at hand -/
structure Untouched (m m' : Manager σ) (id : String) : Prop where
  hub : m'.hub = m.hub
  engine : m'.engine = m.engine
  scheduler : m'.scheduler = m.scheduler
  kept : SteadyStore.kept? m'.store = SteadyStore.kept? m.store
  answered : (getSubscription id m').1 = (getSubscription id m).1

omit [SteadyStore σ] [RenewingStore σ] in
/-- what is answered depends on what is found and on the rules -/
theorem getSubscription_eq (m : Manager σ) (id : String) :
    (getSubscription id m).1 = (SubscriptionStore.get m.store id).1.map m.withLiveEndpoint := rfl

omit [SubscriptionStore σ] [SteadyStore σ] [RenewingStore σ] in
/-- a new end changes nothing of the endpoint that is shown -/
theorem withLiveEndpoint_renewed (m : Manager σ) (s : Subscription) (t : Timestamp) :
    m.withLiveEndpoint (s.renewed t) = (m.withLiveEndpoint s).renewed t := by
  unfold withLiveEndpoint
  have hid : (s.renewed t).id = s.id := rfl
  rw [hid]
  cases m.engine.endpoint? s.id <;> rfl

theorem renew_untouched (hroom : RenewingStore.Roomy m.store) {e : BrokerError} (h : (renew id t m).1 = .error e) :
    m.Untouched (renew id t m).2 id := by
  rcases renew_cases m id t with ⟨-, hm'⟩ | ⟨e, -, hr, hm'⟩ | ⟨s, scheduler, ha, -⟩
  · rw [hm']
    exact ⟨rfl, rfl, rfl, rfl, rfl⟩
  · obtain ⟨hkept, hget⟩ := RenewingStore.renew_refused hr
    rw [hm']
    refine ⟨rfl, rfl, rfl, hkept, ?_⟩
    rw [getSubscription_eq, getSubscription_eq]
    exact congrArg _ (hget hroom)
  · rw [h] at ha
    cases ha

theorem renew_prolonged (hroom : RenewingStore.Roomy m.store) {u : Timestamp} (h : (renew id t m).1 = .ok u) :
    u = t ∧ ∃ s, m.Prolonged (renew id t m).2 id t s := by
  rcases renew_cases m id t with ⟨⟨e, ha⟩, -⟩ | ⟨e, ha, -, -⟩ | ⟨s', scheduler, ha, hr, hplan, hm'⟩
  · rw [h] at ha
    cases ha
  · rw [h] at ha
    cases ha
  · rw [h] at ha
    obtain ⟨s, hs, rfl⟩ := RenewingStore.renew_answer hr
    have hid : (s.renewed t).id = s.id := rfl
    refine ⟨Except.ok.inj ha, s, ?_⟩
    rw [hm']
    obtain ⟨-, rfl⟩ := Scheduler.schedule_eq_ok_iff.1 hplan
    refine ⟨rfl, rfl, hs, ?_, ?_, fun k hk => ?_, fun hown => RenewingStore.renew_writes hr hown,
      fun hown k hk => RenewingStore.renew_spares hr hown hk⟩
    · have hfound : (SubscriptionStore.get (SubscriptionStore.renew m.store id t).2 id).1 = some (s.renewed t) :=
        RenewingStore.renew_finds hroom hr
      rw [getSubscription_eq, getSubscription_eq, hfound, hs, Option.map_some, Option.map_some, Option.map_some,
        ← withLiveEndpoint_renewed]
      rfl
    · unfold Scheduler.endOfLife?
      rw [Table.find?_insert, if_pos hid.symm]
      rfl
    · rw [Table.find?_insert, if_neg (hid ▸ hk)]

/-! ## An end that has passed -/

/-- a job that was planned for an end that has passed waits for the next round -/
theorem waits_of_schedule {s s' : Scheduler Unit} {elapsed : Nat} {now t : Timestamp} {id : String} (htr : s.Tracked)
    (hs : s.schedule elapsed now id t () = .ok s') (ht : t.micros.toInt ≤ now.micros.toInt) :
    s'.Waits elapsed ⟨id, t, ()⟩ := by
  obtain ⟨-, rfl⟩ := Scheduler.schedule_eq_ok_iff.1 hs
  refine ⟨⟨s.nextGeneration, t, ()⟩, by rw [Table.find?_insert, if_pos rfl], rfl, rfl, fun e he _ hgen => ?_⟩
  rw [Scheduler.entries, ← List.append_assoc] at he
  rcases List.mem_append.1 he with he | he
  · -- entries of earlier jobs have older generations
    exact absurd hgen (Nat.ne_of_lt (htr.entry_old e he))
  · rw [List.mem_singleton.1 he, Scheduler.delay_eq_zero ht]
    exact Nat.le_refl _

/-- **An end that has passed.** The next round of the timer claims the job of what was renewed, and the expiry that it
claims takes rule and job out, and the record unless the store does not delete it. -/
structure ExpiresAtOnce (m : Manager σ) (id : String) (t : Timestamp) : Prop where
  claimed : ⟨id, t, ()⟩ ∈ (m.scheduler.advance m.elapsed).1
  silent : ∀ scheduler, (expire id t { m with scheduler }).2.engine.contains id = false
  unplanned : ∀ scheduler, (expire id t { m with scheduler }).2.scheduler.isScheduled id = false
  deleted : ∀ scheduler r, (SubscriptionStore.delete (SubscriptionStore.get m.store id).2 id).1 = .ok r →
    SteadyStore.kept? (expire id t { m with scheduler }).2.store id = none

theorem expires_at_once (hroom : RenewingStore.Roomy m.store) (htimed : m.scheduler.Timed) {u : Timestamp}
    (h : (renew id t m).1 = .ok u) (hs : (SubscriptionStore.get m.store id).1 = some s) (hid : s.id = id)
    (ht : t.micros.toInt ≤ m.clock.now.micros.toInt) : (renew id t m).2.ExpiresAtOnce id t := by
  rcases renew_cases m id t with ⟨⟨e, ha⟩, -⟩ | ⟨e, ha, -, -⟩ | ⟨s', scheduler, ha, hr, hplan, hm'⟩
  · rw [h] at ha
    cases ha
  · rw [h] at ha
    cases ha
  · obtain ⟨s₀, hs₀, rfl⟩ := RenewingStore.renew_answer hr
    have hown : (s₀.renewed t).id = id := by
      rw [hs] at hs₀
      cases hs₀
      exact hid
    rw [hown] at hplan
    have hopen : scheduler.isShutDown = false := by
      obtain ⟨hopen, rfl⟩ := Scheduler.schedule_eq_ok_iff.1 hplan
      exact hopen
    have hfound : (SubscriptionStore.get (SubscriptionStore.renew m.store id t).2 id).1 = some (s₀.renewed t) :=
      RenewingStore.renew_finds hroom hr
    rw [hm']
    have hended : ∀ scheduler', ∃ e, (expire id t
        { m with store := (SubscriptionStore.renew m.store id t).2, scheduler := scheduler' }).2 =
          (asked { m with store := (SubscriptionStore.renew m.store id t).2, scheduler := scheduler' } id).ended id e :=
      fun scheduler' => by
        obtain ⟨e, -, he⟩ := expire_ended (t := t)
          (m := { m with store := (SubscriptionStore.renew m.store id t).2, scheduler := scheduler' }) hfound rfl
        exact ⟨e, he⟩
    refine ⟨?_, fun scheduler' => ?_, fun scheduler' => ?_, fun scheduler' r hr => ?_⟩
    · exact Scheduler.advance_claims (htimed.schedule hplan) hopen (waits_of_schedule htimed.tracked hplan ht)
    · obtain ⟨e, he⟩ := hended scheduler'
      rw [he]
      exact (ended_clears _ id e).1
    · obtain ⟨e, he⟩ := hended scheduler'
      rw [he]
      exact (ended_clears _ id e).2
    · obtain ⟨e, he⟩ := hended scheduler'
      rw [he]
      exact (SteadyStore.delete_clears hr).1

end Manager

namespace Broker

variable {σ : Type} [SubscriptionStore σ]

section Room

variable [SteadyStore σ] [RenewingStore σ]

/-- a store that has room for what was used last keeps it -/
theorem enduring_roomy : Enduring fun m : Manager σ => RenewingStore.Roomy m.store where
  get h id := RenewingStore.get_roomy h id
  all h := RenewingStore.all_roomy h
  put h s := RenewingStore.put_roomy h s
  delete h id := RenewingStore.delete_roomy h id
  renew h id t := RenewingStore.renew_roomy h id t
  create h _ := h
  destroy h _ := h
  engine h _ := h
  drawn h _ := h
  schedule h _ _ _ _ := h
  cancel h _ _ _ := h
  close h := h
  queue h _ := h
  pass h _ _ := h
  takeUp h := h
  claim h := h

end Room

section Keyed

variable [FaithfulStore σ] {m : Manager (FlakyStore σ)} {p : Picture}

/-- a store in good order finds under an id what has this id -/
theorem found_id (h : m.sound.Shows p) {id : String} {s : Subscription}
    (hs : (SubscriptionStore.get m.store id).1 = some s) : s.id = id := by
  have hfound : (SubscriptionStore.get m.sound.store id).1 = some s := hs
  have hrecord := FaithfulStore.get_answer h.holds id
  rw [hfound] at hrecord
  exact FaithfulStore.keyed h.holds hrecord.symm

/-- and a renewal changes what it tells of that id only -/
theorem renew_told (h : m.sound.Shows p) (id : String) (t : Timestamp) {k : String} (hk : k ≠ id) :
    SubscriptionStore.told (Manager.renew id t m).2.store k = SubscriptionStore.told m.store k := by
  obtain ⟨p', hslips, h'⟩ := Manager.renew_flaky h id t
  have hbefore : SubscriptionStore.told m.store k = p.records k := FaithfulStore.get_answer h.holds k
  have hafter : SubscriptionStore.told (Manager.renew id t m).2.store k = p'.records k :=
    FaithfulStore.get_answer h'.holds k
  rw [hbefore, hafter]
  exact (hslips.spares hk).1

end Keyed

variable [SteadyStore σ] [RenewingStore σ] [FaithfulStore σ]

/-- **Renewing changes an end.** In every state that a broker can reach, over memory or files with anything in them and
whatever changes fail: a renewal that fails leaves all as it was. One that succeeds answers with the new end; what was
found for the id has it then, and all else of it, its rule and its endpoint are as before; the one job of what was found
has the new end, and all others are as they were. If what was found has the id that was asked for, it is kept with the
new end, what lasts of other ids stays, and with an end that has passed it expires at once. A store that was in good
order at the beginning finds nothing else, and tells of other ids what it told before. -/
theorem renew_changes_end {base : σ} (hroom : RenewingStore.Roomy base) (failures : Nat → Option BrokerError)
    (hub : Hub) (c : Compiler) (t : Transformer) (clock : Clock) (ids : Nat → String) (ops : List Op) (id : String)
    (end' : Timestamp) :
    let m := ((assembled (FlakyStore.mk base failures 0) hub c t clock ids).run ops).manager
    let answer := (Manager.renew id end' m).1
    let m' := (Manager.renew id end' m).2
    (∀ e, answer = .error e → m.Untouched m' id) ∧
    (∀ u, answer = .ok u → u = end' ∧ ∃ s, m.Prolonged m' id end' s ∧
      (s.id = id → end'.micros.toInt ≤ m.clock.now.micros.toInt → m'.ExpiresAtOnce id end')) ∧
    ∀ v, FaithfulStore.Holds base v →
      (∀ id r, v id = some r → EventBroker.Keepable σ hub.supply r.options) →
      (∀ op ∈ ops, op.Keepable σ hub.supply) →
      (∀ s, (SubscriptionStore.get m.store id).1 = some s → s.id = id) ∧
      ∀ k, k ≠ id → SubscriptionStore.told m'.store k = SubscriptionStore.told m.store k := by
  intro m answer m'
  have hroomy : RenewingStore.Roomy m.store :=
    enduring_roomy.run (b := assembled (FlakyStore.mk base failures 0) hub c t clock ids) (fun _ _ h => h) hroom ops
  have htimed : m.scheduler.Timed :=
    enduring_timed.run (fun _ _ h => h) (assembled_timed _ hub _ clock ids) ops
  refine ⟨fun e he => Manager.renew_untouched hroomy he, fun u hu => ?_, fun v hv hk hkeep => ?_⟩
  · obtain ⟨hanswer, s, hs⟩ := Manager.renew_prolonged hroomy hu
    exact ⟨hanswer, s, hs, fun hown hpassed => Manager.expires_at_once hroomy htimed hu hs.found hown hpassed⟩
  · obtain ⟨s, hshows, -⟩ := run_flaky (assembled_flaky hv hk failures c t clock ids) hkeep
    exact ⟨fun s hs => found_id hshows.manager hs, fun k hk => renew_told hshows.manager id end' hk⟩

/-- a subscription without an end is given one that has passed -/
theorem renew_changes_end_passed :
    let m := ((assembled (FlakyStore.mk sampleStore (fun _ => none) 0) sampleHub Compiler.regex .standard ⟨⟨0⟩⟩
      fun n => toString n).run [.restore, .pass 7 ⟨7⟩]).manager
    let m' := (Manager.renew "old" ⟨5⟩ m).2
    m.engine.contains "old" = true ∧ RenewingStore.Roomy sampleStore ∧ m'.engine = m.engine ∧
      m'.scheduler.endOfLife? "old" = some ⟨5⟩ ∧ m'.ExpiresAtOnce "old" ⟨5⟩ := by
  intro m m'
  have hdone : (Manager.renew "old" ⟨5⟩ m).1.toBool = true := by decide +kernel
  have hpassed : (5 : Int64).toInt ≤ m.clock.now.micros.toInt := by decide +kernel
  have hroom : RenewingStore.Roomy sampleStore := trivial
  obtain ⟨-, hok, hkeyed⟩ := renew_changes_end hroom (fun _ => none) sampleHub Compiler.regex .standard ⟨⟨0⟩⟩
    (fun n => toString n) [.restore, .pass 7 ⟨7⟩] "old" ⟨5⟩
  obtain ⟨u, hanswer⟩ : ∃ u, (Manager.renew "old" ⟨5⟩ m).1 = .ok u := by
    cases ha : (Manager.renew "old" ⟨5⟩ m).1 with
    | ok u => exact ⟨u, rfl⟩
    | error e =>
      rw [ha] at hdone
      cases hdone
  obtain ⟨-, s, hs, hexpires⟩ := hok u hanswer
  obtain ⟨hown, -⟩ := hkeyed _ sampleStore_holds (fun _ _ _ _ _ _ => trivial)
    fun op _ => op.keepable_memory sampleHub.supply
  have hid : s.id = "old" := hown s hs.found
  exact ⟨by decide +kernel, hroom, hs.engine, hid ▸ hs.planned, hexpires hid hpassed⟩

end Broker

end EventBroker
