/-
Expiries, never early and never missed.

Clock and timer tell one time: the clock reads an origin, not before the epoch, and on top of it what the timer has
counted. `Scene.OnTime` is what the timer's entries and the claimed expiries then keep to, `Scene.Remembers` that a
stored end is the one that was last set, whatever became of the jobs of earlier ends.

- `Turn.onTime`, `Turn.remembers`: every turn keeps both.
- `expiry_on_time`: a run of an expiry takes out what is at its end, and else nothing; and when neither an entry is due
  nor an expiry claimed, nothing that is stored is past its end.
-/
import EventBroker.Proofs.Manager.Agreement
import EventBroker.Proofs.Time

namespace EventBroker

open Function (update)

/-! ## On time -/

/-- an entry is not due before the end of its job, and not later than that, unless the time it is due has passed -/
def Due (origin : Int) (elapsed due : Nat) (t : Timestamp) : Prop :=
  t.micros.toInt ≤ origin + due ∧ (origin + due ≤ t.micros.toInt ∨ due ≤ elapsed)

structure Scene.OnTime (origin : Int) (s : Scene) : Prop where
  clock : s.picture.now.micros.toInt = origin + s.picture.elapsed
  tracked : s.picture.scheduler.Tracked
  punctual : s.picture.scheduler.Punctual (Due origin s.picture.elapsed)
  /-- what was claimed has come to its end -/
  claims : ∀ c ∈ s.claimed, c.endOfLife.micros.toInt ≤ origin + s.picture.elapsed

namespace Scene.OnTime

variable {origin : Int} {p : Picture} {cs : List (Claimed Unit)}

/-- records and rules have no part in it -/
theorem congr (h : OnTime origin ⟨p, cs⟩) {p' : Picture} (hs : p'.scheduler = p.scheduler)
    (he : p'.elapsed = p.elapsed) (hn : p'.now = p.now) : OnTime origin ⟨p', cs⟩ := by
  obtain ⟨hclock, htracked, hpunctual, hclaims⟩ := h
  dsimp only at hclock htracked hpunctual hclaims
  rw [← hs] at htracked hpunctual
  rw [← he] at hclock hpunctual hclaims
  rw [← hn] at hclock
  exact ⟨hclock, htracked, hpunctual, hclaims⟩

theorem thinner (h : OnTime origin ⟨p, cs⟩) {s : Scheduler Unit} (hs : Scheduler.Thinner p.scheduler s) :
    OnTime origin ⟨{ p with scheduler := s }, cs⟩ :=
  ⟨h.clock, h.tracked.thinner hs, h.punctual.thinner hs, h.claims⟩

theorem unplanned (h : OnTime origin ⟨p, cs⟩) (id : String) :
    OnTime origin ⟨{ p with scheduler := p.unplanned id }, cs⟩ := by
  unfold Picture.unplanned
  cases hs : p.scheduler.cancel id with
  | ok s => exact h.thinner (Scheduler.cancel_thinner hs)
  | error f => exact h

/-- a job that is planned now is due when its end comes, or at once -/
theorem planned (h : OnTime origin ⟨p, cs⟩) (horigin : 0 ≤ origin) (id : String) (t : Option Timestamp) :
    OnTime origin ⟨{ p with scheduler := p.planned id t }, cs⟩ := by
  cases t with
  | none => exact h
  | some t =>
    have hclock : p.now.micros.toInt = origin + p.elapsed := h.clock
    have hdelay := Scheduler.delay_eq p.now t (by omega)
    have hplan : p.planned id (some t) =
      (p.scheduler.schedule p.elapsed p.now id t ()).toOption.getD p.scheduler := rfl
    rw [hplan]
    cases hs : p.scheduler.schedule p.elapsed p.now id t () with
    | error f => exact h
    | ok s =>
      refine ⟨h.clock, h.tracked.schedule hs, h.punctual.schedule h.tracked hs ?_, h.claims⟩
      show Due origin p.elapsed (p.elapsed + Scheduler.delay p.now t) t
      rw [hdelay]
      unfold Due
      omega

theorem activate (h : OnTime origin ⟨p, cs⟩) (horigin : 0 ≤ origin) (r : SubscriptionRecord) (rule : Rule) :
    OnTime origin ⟨p.activate r rule, cs⟩ :=
  (h.planned horigin r.id r.options.terminationTime).congr rfl rfl rfl

theorem prolong (h : OnTime origin ⟨p, cs⟩) (horigin : 0 ≤ origin) (r : SubscriptionRecord) (t : Timestamp) :
    OnTime origin ⟨p.prolong r t, cs⟩ :=
  (h.planned horigin r.id (some t)).congr rfl rfl rfl

theorem remove (h : OnTime origin ⟨p, cs⟩) (id : String) : OnTime origin ⟨p.remove id, cs⟩ :=
  (h.unplanned id).congr rfl rfl rfl

theorem close (h : OnTime origin ⟨p, cs⟩) : OnTime origin ⟨p.close, cs⟩ :=
  (h.thinner (Scheduler.shutdown_thinner p.scheduler)).congr rfl rfl rfl

theorem claims_eraseIdx (h : OnTime origin ⟨p, cs⟩) (i : Nat) : OnTime origin ⟨p, cs.eraseIdx i⟩ :=
  ⟨h.clock, h.tracked, h.punctual, fun c hc => h.claims c (List.mem_of_mem_eraseIdx hc)⟩

/-- a claim is for an end that has come -/
theorem claim (h : OnTime origin ⟨p, cs⟩) :
    OnTime origin ⟨{ p with scheduler := (p.scheduler.claimNext p.elapsed).2 },
      cs ++ (p.scheduler.claimNext p.elapsed).1.toList⟩ := by
  have hthin := Scheduler.claimNext_thinner p.scheduler p.elapsed
  refine ⟨h.clock, h.tracked.thinner hthin, h.punctual.thinner hthin, fun c hc => ?_⟩
  rcases List.mem_append.1 hc with hc | hc
  · exact h.claims c hc
  · rcases Scheduler.claimNext_cases p.scheduler p.elapsed with ⟨hnone, -⟩ | ⟨e, he, j, hj, hgen, hdue, hsome, -⟩
    · rw [hnone] at hc
      cases hc
    · rw [hsome] at hc
      obtain rfl := List.mem_singleton.1 hc
      have hpast := (h.punctual e (List.mem_append_left _ he) j hj hgen).1
      show j.endOfLife.micros.toInt ≤ origin + p.elapsed
      omega

theorem revives {p' : Picture} {ids : List String} (h : OnTime origin ⟨p, cs⟩) (horigin : 0 ≤ origin)
    (hrev : p.Revives ids p') : OnTime origin ⟨p', cs⟩ := by
  induction hrev with
  | done p => exact h
  | active _ _ ih => exact ih h
  | revived _ _ _ ih => exact ih (h.activate horigin _ _)
  | dropped _ _ _ _ ih => exact ih (h.congr rfl rfl rfl)

/-- when time passes, more entries are due -/
theorem pass (h : OnTime origin ⟨p, cs⟩) {micros : Nat} {reading : Timestamp}
    (hclock : reading.micros.toInt = origin + (p.elapsed + micros : Nat)) :
    OnTime origin ⟨{ p with elapsed := p.elapsed + micros, now := reading }, cs⟩ := by
  refine ⟨hclock, h.tracked, h.punctual.imp fun due t hdue => ?_, fun c hc => ?_⟩
  · obtain ⟨hearly, hlate⟩ := hdue
    exact ⟨hearly, hlate.imp_right fun hpast => Nat.le_trans hpast (Nat.le_add_right _ micros)⟩
  · have := h.claims c hc
    show c.endOfLife.micros.toInt ≤ origin + (p.elapsed + micros : Nat)
    have hsame : (⟨p, cs⟩ : Scene).picture.elapsed = p.elapsed := rfl
    omega

end Scene.OnTime

/-! ## What was last set -/

/-- a stored end is the one that was last set -/
def Scene.Remembers (last : String → Option Timestamp) (s : Scene) : Prop :=
  ∀ id r, s.picture.records id = some r → last id = r.options.terminationTime

/-- the ends after one of them was set -/
def noteEnd (last : String → Option Timestamp) : Option (String × Option Timestamp) → String → Option Timestamp
  | some (id, t) => update last id t
  | none => last

namespace Scene.Remembers

variable {last : String → Option Timestamp} {p : Picture} {cs : List (Claimed Unit)}

theorem put (h : Remembers last ⟨p, cs⟩) (id : String) (r : SubscriptionRecord) {p' : Picture}
    {cs' : List (Claimed Unit)} (hp : p'.records = update p.records id (some r)) :
    Remembers (update last id r.options.terminationTime) ⟨p', cs'⟩ := by
  intro k s hs
  have hs : p'.records k = some s := hs
  rw [hp] at hs
  rcases update_some_eq_some.1 hs with ⟨rfl, rfl⟩ | ⟨hk, hs⟩
  · exact Function.update_self _ _ _
  · rw [Function.update_of_ne hk]
    exact h k s hs

theorem erase (h : Remembers last ⟨p, cs⟩) (id : String) {p' : Picture} {cs' : List (Claimed Unit)}
    (hp : p'.records = update p.records id none) : Remembers last ⟨p', cs'⟩ := by
  intro k s hs
  have hs : p'.records k = some s := hs
  rw [hp] at hs
  exact h k s (update_none_eq_some.1 hs).2

/-- records that come to life keep their ends -/
theorem revives {p' : Picture} {ids : List String} (h : Remembers last ⟨p, cs⟩) (hrev : p.Revives ids p') :
    Remembers last ⟨p', cs⟩ := by
  induction hrev with
  | done p => exact h
  | active _ _ ih => exact ih h
  | @revived p p' r location ids rule hr _ _ ih =>
    have hend : last r.id = r.options.terminationTime := h r.id r hr
    have hput : Remembers (update last r.id r.options.terminationTime)
        ⟨p.activate ⟨r.id, r.options, location⟩ rule, cs⟩ := h.put r.id ⟨r.id, r.options, location⟩ rfl
    have hsame : update last r.id r.options.terminationTime = last := by rw [← hend, Function.update_eq_self]
    rw [hsame] at hput
    exact ih hput
  | dropped _ _ _ _ ih => exact ih (h.erase _ rfl)

end Scene.Remembers

namespace Broker

theorem Turn.remembers {s s' : Scene} {op : Op} {e : Option (String × Option Timestamp)} (ht : Turn s op e s')
    {last : String → Option Timestamp} (h : s.Remembers last) : s'.Remembers (noteEnd last e) := by
  cases ht with
  | idle _ => exact h
  | @subscribed r rule _ _ _ => exact h.put r.id r rfl
  | @renewed r t _ _ => exact h.put r.id (r.renewed t) rfl
  | unsubscribed _ => exact h.erase _ rfl
  | restored hres =>
    obtain ⟨ids, -, -, hrev⟩ := hres
    exact h.revives hrev
  | closed => exact h
  | queued _ => exact h
  | passed => exact h
  | tookUp => exact h
  | claimed => exact h
  | expired _ _ _ => exact h.erase _ rfl
  | stale _ _ => exact h

theorem Turn.onTime {s s' : Scene} {op : Op} {e : Option (String × Option Timestamp)} (ht : Turn s op e s')
    {origin : Int} (horigin : 0 ≤ origin) (h : s.OnTime origin)
    (hclock : s'.picture.now.micros.toInt = origin + s'.picture.elapsed) : s'.OnTime origin := by
  cases ht with
  | idle _ => exact h
  | subscribed _ _ _ => exact h.activate horigin _ _
  | renewed _ _ => exact h.prolong horigin _ _
  | unsubscribed _ => exact h.remove _
  | restored hres =>
    obtain ⟨ids, -, -, hrev⟩ := hres
    exact h.revives horigin hrev
  | closed => exact h.close
  | queued _ => exact h.congr rfl rfl rfl
  | passed => exact h.pass hclock
  | tookUp => exact h.thinner (Scheduler.takeUp_thinner _)
  | claimed => exact h.claim
  | @expired i _ _ _ _ _ => exact (h.remove _).claims_eraseIdx i
  | @stale i _ _ _ => exact h.claims_eraseIdx i

/-! ## Brokers -/

variable {σ : Type} [SubscriptionStore σ]

/-- the clock reads what the timer has counted since the origin -/
def InTime (origin : Int) (b : Broker σ) : Prop :=
  b.manager.clock.now.micros.toInt = origin + b.manager.elapsed

instance (origin : Int) (b : Broker σ) : Decidable (b.InTime origin) := inferInstanceAs (Decidable (_ = _))

/-- the end that was last set for every id, by an op of a run or before it -/
def lastEnd (b : Broker σ) (last : String → Option Timestamp) : List Op → String → Option Timestamp
  | [] => last
  | op :: ops => (b.step op).lastEnd (noteEnd last (b.setEnd? op)) ops

/-- nothing differs but what the store keeps at hand -/
structure Unmoved (b b' : Broker σ) : Prop where
  hub : b'.manager.hub = b.manager.hub
  engine : b'.manager.engine = b.manager.engine
  scheduler : b'.manager.scheduler = b.manager.scheduler
  records : ∀ id, (SubscriptionStore.get b'.manager.store id).1.map Subscription.toRecord =
    (SubscriptionStore.get b.manager.store id).1.map Subscription.toRecord

/-- an id is gone from store, engine and scheduler, and no other is touched -/
structure Removed (b b' : Broker σ) (id : String) : Prop where
  stored : (SubscriptionStore.get b.manager.store id).1 ≠ none
  notStored : (SubscriptionStore.get b'.manager.store id).1 = none
  notActive : b'.manager.engine.contains id = false
  notPlanned : b'.manager.scheduler.endOfLife? id = none
  records : ∀ k, k ≠ id → (SubscriptionStore.get b'.manager.store k).1.map Subscription.toRecord =
    (SubscriptionStore.get b.manager.store k).1.map Subscription.toRecord
  endpoints : ∀ k, k ≠ id → b'.manager.engine.endpoint? k = b.manager.engine.endpoint? k
  plans : ∀ k, k ≠ id → b'.manager.scheduler.endOfLife? k = b.manager.scheduler.endOfLife? k

theorem expire_stale (m : Manager σ) (id : String) (t : Timestamp)
    (h : ∀ s, (SubscriptionStore.get m.store id).1 = some s → s.terminationTime ≠ some t) :
    (Manager.expire id t m).2 = { m with store := (SubscriptionStore.get m.store id).2 } := by
  show Manager.Ensures (Manager.expire id t) m fun _ m' => m' = { m with store := (SubscriptionStore.get m.store id).2 }
  unfold Manager.expire
  refine Manager.Ensures.bind (P := fun s m' => s = (SubscriptionStore.get m.store id).1 ∧
    m' = { m with store := (SubscriptionStore.get m.store id).2 }) ⟨rfl, rfl⟩ fun s m' hlook => ?_
  obtain ⟨rfl, rfl⟩ := hlook
  cases hs : (SubscriptionStore.get m.store id).1 with
  | none => exact Manager.Ensures.pure rfl
  | some s =>
    dsimp only
    rw [if_neg (by simpa using h s hs)]
    exact Manager.Ensures.pure rfl

variable [FaithfulStore σ]

/-- a step that keeps clock and timer together keeps the scene on time -/
theorem step_onTime {origin : Int} (horigin : 0 ≤ origin) {b : Broker σ} {s : Scene} (h : b.Shows s)
    (hot : s.OnTime origin) {op : Op} (hop : op.Keepable σ s.picture.supply) (hclock : (b.step op).InTime origin) :
    ∃ s', Turn s op (b.setEnd? op) s' ∧ (b.step op).Shows s' ∧ s'.OnTime origin := by
  obtain ⟨s', ht, hs'⟩ := step_turn h hop
  have hnow : s'.picture.now.micros.toInt = origin + s'.picture.elapsed := by
    unfold InTime at hclock
    rw [← hs'.manager.now, ← hs'.manager.elapsed]
    exact hclock
  exact ⟨s', ht, hs', ht.onTime horigin hot hnow⟩

/-- what holds of a run that tells one time -/
theorem run_onTime {origin : Int} (horigin : 0 ≤ origin) {b : Broker σ} {s : Scene} (h : b.Shows s)
    (hco : s.Coherent) (hactive : s.picture.AllActive) (hot : s.OnTime origin) {last : String → Option Timestamp}
    (hlast : s.Remembers last) {ops : List Op} (hkeep : ∀ op ∈ ops, op.Keepable σ s.picture.supply)
    (hops : .shutdown ∉ ops) (hclock : ∀ pre, pre <+: ops → (b.run pre).InTime origin) :
    ∃ s', (b.run ops).Shows s' ∧ s'.Coherent ∧ s'.picture.AllActive ∧ s'.OnTime origin ∧
      s'.Remembers (b.lastEnd last ops) := by
  induction ops generalizing b s last with
  | nil => exact ⟨s, h, hco, hactive, hot, hlast⟩
  | cons op ops ih =>
    have hop : op ≠ .shutdown := fun heq => hops (heq ▸ List.mem_cons_self)
    obtain ⟨s', ht, hs', hot'⟩ := step_onTime horigin h hot (hkeep op List.mem_cons_self)
      (hclock [op] (List.prefix_append [op] ops))
    refine ih hs' (ht.coherent hop hactive hco) (ht.allActive hop hactive) hot' (ht.remembers hlast) ?_
      (fun hmem => hops (List.mem_cons_of_mem op hmem)) fun pre hpre => ?_
    · rw [ht.supply]
      exact fun o ho => hkeep o (List.mem_cons_of_mem op ho)
    · exact hclock (op :: pre) (List.cons_prefix_cons.2 ⟨rfl, hpre⟩)

/-- a broker begins on time -/
theorem Restores.onTime {v : Records} {c : Compiler} {hub : Hub} {clock : Clock} {p : Picture}
    (horigin : 0 ≤ clock.now.micros.toInt) (h : (Picture.dormant v c hub clock).Restores p) :
    Scene.OnTime clock.now.micros.toInt ⟨p, []⟩ := by
  obtain ⟨_, -, -, hrev⟩ := h
  have hdormant : Scene.OnTime clock.now.micros.toInt ⟨Picture.dormant v c hub clock, []⟩ :=
    ⟨by simp [Picture.dormant], Scheduler.tracked_start, Scheduler.punctual_start _, by simp⟩
  exact hdormant.revives horigin hrev

theorem Shows.removed {b b' : Broker σ} {s : Scene} (h : b.Shows s) {id : String}
    (h' : b'.manager.Shows (s.picture.remove id)) (hr : s.picture.records id ≠ none) : b.Removed b' id := by
  have hbefore := FaithfulStore.get_answer h.manager.holds
  have hafter := FaithfulStore.get_answer h'.holds
  have hrecords : ∀ k, (s.picture.remove id).records k = if k = id then none else s.picture.records k :=
    fun k => Function.update_apply _ _ _ _
  have hrules : ∀ k, (s.picture.remove id).rules k = if k = id then none else s.picture.rules k :=
    fun k => Function.update_apply _ _ _ _
  have hplans : ∀ k, (s.picture.remove id).scheduler.endOfLife? k =
      if k = id then none else s.picture.scheduler.endOfLife? k :=
    fun k => Scheduler.cancel_endOfLife? _ _ _
  refine ⟨fun hnone => hr ?_, ?_, ?_, ?_, fun k hk => ?_, fun k hk => ?_, fun k hk => ?_⟩
  · rw [← hbefore id, hnone]
    rfl
  · have hgone := hafter id
    rw [hrecords, if_pos rfl] at hgone
    exact Option.map_eq_none_iff.1 hgone
  · rw [h'.contains, hrules, if_pos rfl]
    rfl
  · rw [h'.scheduler, hplans, if_pos rfl]
  · rw [hafter, hbefore, hrecords, if_neg hk]
  · rw [h'.endpoint, h.manager.endpoint, hrules, if_neg hk]
  · rw [h'.scheduler, h.manager.scheduler, hplans, if_neg hk]

/-- a run of an expiry takes out a subscription that is past the end last set for it, or nothing -/
theorem Shows.expire_due {origin : Int} {b : Broker σ} {s : Scene} (h : b.Shows s) (hot : s.OnTime origin)
    {last : String → Option Timestamp} (hlast : s.Remembers last) (i : Nat) :
    b.Unmoved (b.step (.expire i)) ∨ ∃ id t, last id = some t ∧
      t.micros.toInt ≤ b.manager.clock.now.micros.toInt ∧ b.Removed (b.step (.expire i)) id := by
  cases hi : b.claimed[i]? with
  | none =>
    rw [step_expire_none hi]
    exact Or.inl ⟨rfl, rfl, rfl, fun _ => rfl⟩
  | some c =>
    rw [step_expire_some hi]
    rcases Manager.expire_ensures h.manager c.identity c.endOfLife with ⟨r, hr, ht, hm'⟩ | ⟨hnot, hm'⟩
    · refine Or.inr ⟨c.identity, c.endOfLife, (hlast _ r hr).trans ht, ?_, h.removed hm' (by simp [hr])⟩
      have hmem : c ∈ s.claimed := h.claimed ▸ List.mem_of_getElem? hi
      rw [h.manager.now, hot.clock]
      exact hot.claims c hmem
    · -- the record has another end by now, or there is none
      have hstale := expire_stale b.manager c.identity c.endOfLife fun u hu => hnot u.toRecord (h.get_eq_some hu)
      refine Or.inl ⟨?_, ?_, ?_, fun k => ?_⟩
      · rw [hstale]
      · rw [hstale]
      · rw [hstale]
      · exact (FaithfulStore.get_answer hm'.holds k).trans (FaithfulStore.get_answer h.manager.holds k).symm

/-- with no entry due and nothing claimed, no stored end has come -/
theorem Shows.end_ahead {origin : Int} {b : Broker σ} {s : Scene} (h : b.Shows s) (hco : s.Coherent)
    (hactive : s.picture.AllActive) (hot : s.OnTime origin) (hclaimed : b.claimed = [])
    (hentries : ∀ e ∈ b.manager.scheduler.entries, b.manager.elapsed < e.due) {id : String} {u : Subscription}
    {t : Timestamp} (hu : (SubscriptionStore.get b.manager.store id).1 = some u) (ht : u.terminationTime = some t) :
    b.manager.clock.now.micros.toInt < t.micros.toInt := by
  have hr := h.get_eq_some hu
  rcases hco.ends id u.toRecord t hr (hactive id (by simp [hr])) ht with hplan | ⟨c, hc, -⟩
  · obtain ⟨j, hj, rfl⟩ := Scheduler.endOfLife?_eq_some.1 hplan
    obtain ⟨e, he, rfl, hgen⟩ := hot.tracked.entry id j hj
    have hahead : s.picture.elapsed < e.due := by
      rw [← h.manager.elapsed]
      exact hentries e (by rw [h.manager.scheduler]; exact he)
    obtain ⟨-, hlate⟩ := hot.punctual e he j hj hgen.symm
    have hclock := hot.clock
    rw [h.manager.now]
    omega
  · rw [← h.claimed, hclaimed] at hc
    cases hc

/-- **Expiry on time.** Clock and timer tell one time, from an origin not before the epoch. Whatever is done to a broker
then, short of a shutdown: (a) running a claimed expiry takes out a subscription that is past the end last set for it,
and nothing else, or it changes nothing; (b) while no entry is due and nothing is claimed, no stored end has come. The
options that are subscribed to are such that the store can keep them (`Keepable`). -/
theorem expiry_on_time {store : σ} {v : Records} {hub : Hub} (hv : FaithfulStore.Holds store v)
    (hk : ∀ id r, v id = some r → EventBroker.Keepable σ hub.supply r.options) (c : Compiler) (t : Transformer)
    (clock : Clock) (ids : Nat → String) {ops : List Op} (hkeep : ∀ op ∈ ops, op.Keepable σ hub.supply)
    (hops : .shutdown ∉ ops) (horigin : 0 ≤ clock.now.micros.toInt)
    (hclock : ∀ pre, pre <+: ops → ((opened store hub c t clock ids).run pre).InTime clock.now.micros.toInt) :
    let b := (opened store hub c t clock ids).run ops
    let last := (opened store hub c t clock ids).lastEnd (fun id => (v id).bind (·.options.terminationTime)) ops
    (∀ i, b.Unmoved (b.step (.expire i)) ∨ ∃ id t, last id = some t ∧
      t.micros.toInt ≤ b.manager.clock.now.micros.toInt ∧ b.Removed (b.step (.expire i)) id) ∧
    (b.claimed = [] → (∀ e ∈ b.manager.scheduler.entries, b.manager.elapsed < e.due) →
      ∀ id s t, (SubscriptionStore.get b.manager.store id).1 = some s → s.terminationTime = some t →
        b.manager.clock.now.micros.toInt < t.micros.toInt) := by
  intro b last
  obtain ⟨p, hp, hshows⟩ := opened_shows hv hk c t clock ids
  have hco : Scene.Coherent ⟨p, []⟩ := Restores.coherent (fun id r => FaithfulStore.keyed hv) hp
  have hot := Restores.onTime horigin hp
  have hactive := hp.allActive
  obtain ⟨_, -, -, hrev⟩ := hp
  have hlast : Scene.Remembers (fun id => (v id).bind (·.options.terminationTime))
      ⟨Picture.dormant v c hub clock, []⟩ := by
    intro id r hr
    have hr : v id = some r := hr
    simp only [hr, Option.bind_some]
  have hsetting : p.supply = hub.supply := (Revives.sameSetting hrev).1
  obtain ⟨s, hs, hco', hactive', hot', hrem⟩ := run_onTime horigin hshows hco hactive hot (hlast.revives hrev)
    (by rw [hsetting]; exact hkeep) hops hclock
  exact ⟨fun i => hs.expire_due hot' hrem i, fun hc he id u t hu ht => hs.end_ahead hco' hactive' hot' hc he hu ht⟩

/-- an end that is moved twice, back to where it was, while the first expiry waits for a worker -/
theorem expiry_on_time_moved_back :
    let ops := [.subscribe (sampleOptions (some ⟨5⟩)), .takeUp, .pass 7 ⟨7⟩, .claim, .renew "0" ⟨9⟩, .renew "0" ⟨5⟩]
    let b := sample.run ops
    b.claimed.length = 1 ∧
    (∀ i, b.Unmoved (b.step (.expire i)) ∨ ∃ id t, sample.lastEnd (fun id => (sampleStore.records id).bind
      (·.options.terminationTime)) ops id = some t ∧
      t.micros.toInt ≤ b.manager.clock.now.micros.toInt ∧ b.Removed (b.step (.expire i)) id) := by
  refine ⟨by decide, ?_⟩
  refine (expiry_on_time sampleStore_holds (fun _ _ _ _ _ _ => trivial) Compiler.regex .standard ⟨⟨0⟩⟩
    (fun n => toString n) (fun op _ => op.keepable_memory sampleHub.supply) (by simp) (by decide) ?_).1
  intro pre hpre
  rw [List.prefix_iff_eq_take.1 hpre]
  match pre.length with
  | 0 | 1 | 2 | 3 | 4 | 5 => decide +kernel
  | n + 6 =>
    rw [List.take_of_length_le (Nat.le_add_left 6 n)]
    decide +kernel

end Broker

end EventBroker
