/-
The scheduler keeps a timetable.

A `Timetable` is a plain map from identities to what is due and when. It knows of no generations, queues or stale
entries: scheduling overwrites the entry of an identity, cancelling removes it, and firing removes an entry whose time
has come. `Clockwork` is a scheduler at work, with its timer and its workers taking one small step at a time between the
calls. A worker's job may call the scheduler in turn, and that is a later op of the row.

- `Keeps`: what ties a scheduler to the timetable that it keeps. Every entry that belongs to a pending job is due when
  the timetable says so, and so a claim is a firing of the same job.
- `step_simulates`: an op answers as the timetable does on the move that the op makes, and `Keeps` stays.
- `run_simulates`: so does a row of ops. Jobs run in the order in which they fired, whatever the jobs before them
  replied, and the timer can at any time by itself fire all that is due.
-/
import EventBroker.Delivery.Endpoint
import EventBroker.Proofs.Scheduler.Timer
import EventBroker.Proofs.Time

namespace EventBroker

/-- what is to be done for an identity, and the microsecond of the timer in which it is due -/
structure Appointment (α : Type) where
  due : Nat
  endOfLife : Timestamp
  action : α

structure Timetable (α : Type) where
  entries : Table String (Appointment α)
  closed : Bool

/-- what is heard of a step -/
inductive Answer (α : Type) where
  | done
  | refused (e : BrokerError)
  /-- a job goes to the workers -/
  | fired (c : Claimed α)
  | silent

/-- the job that goes to the workers -/
def Answer.job? {α : Type} : Answer α → Option (Claimed α)
  | .fired c => some c
  | _ => none

namespace Timetable

variable {α : Type}

inductive Move (α : Type) where
  | schedule (id : String) (endOfLife : Timestamp) (action : α)
  | cancel (id : String)
  | shutdown
  | fire (id : String)
  | rest

def empty : Timetable α := ⟨.empty, false⟩

/-- the microseconds from now until an end, none if it has passed; they are counted as far as a word goes -/
def remaining (now endOfLife : Timestamp) : Nat :=
  (min (endOfLife.micros.toInt - now.micros.toInt) (2 ^ 63 - 1)).toNat

def step (elapsed : Nat) (now : Timestamp) (t : Timetable α) : Move α → Answer α × Timetable α
  | .schedule id endOfLife action =>
    if t.closed then (.refused .schedulerShutdown, t)
    else
      let due := elapsed + remaining now endOfLife
      (.done, { t with entries := t.entries.insert id ⟨due, endOfLife, action⟩ })
  | .cancel id =>
    if t.entries.contains id then (.done, { t with entries := t.entries.erase id })
    else (.refused (.unknownTerminatable id), t)
  | .shutdown => (.done, ⟨.empty, true⟩)
  | .fire id =>
    match t.entries.find? id with
    | some a =>
      if a.due ≤ elapsed then (.fired ⟨id, a.endOfLife, a.action⟩, { t with entries := t.entries.erase id })
      else (.silent, t)
    | none => (.silent, t)
  | .rest => (.silent, t)

end Timetable

/-- a scheduler with its timer and its workers -/
structure Clockwork (α : Type) where
  scheduler : Scheduler α
  elapsed : Nat
  clock : Timestamp
  /-- jobs that no worker has taken, the oldest first -/
  handed : List (Claimed α)
  /-- jobs that were run, and how they ended -/
  ran : List (Claimed α × Reply)

namespace Clockwork

open Timetable (Move)

variable {α : Type}

inductive Op (α : Type) where
  | schedule (id : String) (endOfLife : Timestamp) (action : α)
  | cancel (id : String)
  | shutdown
  /-- time passes on the timer, and then the clock has this reading -/
  | pass (micros : Nat) (reading : Timestamp)
  /-- the timer takes up an entry -/
  | takeUp
  /-- the timer claims a job that is due -/
  | claim
  /-- a worker runs the oldest job, which ends so -/
  | work (reply : Reply)

/-- an op of the timer -/
def Op.ofTimer : Op α → Bool
  | .takeUp | .claim => true
  | _ => false

def begun (now : Timestamp) : Clockwork α := ⟨.start, 0, now, [], []⟩

def step (w : Clockwork α) : Op α → Answer α × Clockwork α
  | .schedule id endOfLife action =>
    match w.scheduler.schedule w.elapsed w.clock id endOfLife action with
    | .ok s => (.done, { w with scheduler := s })
    | .error e => (.refused e, w)
  | .cancel id =>
    match w.scheduler.cancel id with
    | .ok s => (.done, { w with scheduler := s })
    | .error e => (.refused e, w)
  | .shutdown => (.done, { w with scheduler := w.scheduler.shutdown })
  | .pass micros reading => (.silent, { w with elapsed := w.elapsed + micros, clock := reading })
  | .takeUp => (.silent, { w with scheduler := w.scheduler.takeUp })
  | .claim =>
    let (c?, s) := w.scheduler.claimNext w.elapsed
    match c? with
    | some c => (.fired c, { w with scheduler := s, handed := w.handed ++ [c] })
    | none => (.silent, { w with scheduler := s })
  | .work reply =>
    match w.handed with
    | [] => (.silent, w)
    | c :: cs => (.silent, { w with handed := cs, ran := w.ran ++ [(c, reply)] })

/-- what an op is to the timetable: a claim fires the job that it claims, other steps of timer and workers are none of
its business -/
def move (w : Clockwork α) : Op α → Move α
  | .schedule id endOfLife action => .schedule id endOfLife action
  | .cancel id => .cancel id
  | .shutdown => .shutdown
  | .claim =>
    match (w.scheduler.claimNext w.elapsed).1 with
    | some c => .fire c.identity
    | none => .rest
  | .pass _ _ | .takeUp | .work _ => .rest

/-- the answers to a row of ops, and what it leaves -/
def run (w : Clockwork α) : List (Op α) → List (Answer α) × Clockwork α
  | [] => ([], w)
  | op :: ops =>
    let (a, w) := w.step op
    let (as, w) := w.run ops
    (a :: as, w)

/-- what a timetable answers to the moves of a row of ops, and what they leave of it -/
def follow (w : Clockwork α) (t : Timetable α) : List (Op α) → List (Answer α) × Timetable α
  | [] => ([], t)
  | op :: ops =>
    let (a, t) := t.step w.elapsed w.clock (w.move op)
    let (as, t) := (w.step op).2.follow t ops
    (a :: as, t)

/-- scheduler and timetable show the same to those who ask -/
structure Agrees (s : Scheduler α) (t : Timetable α) : Prop where
  scheduled : ∀ id, s.isScheduled id = t.entries.contains id
  endOfLife : ∀ id, s.endOfLife? id = (t.entries.find? id).map Appointment.endOfLife
  pending : s.pendingCount = t.entries.size
  shutDown : s.isShutDown = t.closed

/-! ## What ties them -/

/-- the pending jobs are the appointments, in the same order, and the entries that belong to a job are due when the
appointment is -/
structure Keeps (s : Scheduler α) (t : Timetable α) : Prop where
  tracked : s.Tracked
  shutDown : s.isShutDown = t.closed
  dropped : t.closed = true → t.entries.keys = []
  keys : s.jobs.keys = t.entries.keys
  appointment : ∀ id j, s.jobs.find? id = some j → ∃ a, t.entries.find? id = some a ∧
    a.endOfLife = j.endOfLife ∧ a.action = j.action ∧
    ∀ e ∈ s.entries, e.identity = id → e.generation = j.generation → e.due = a.due

theorem keeps_start : Keeps (.start : Scheduler α) .empty where
  tracked := Scheduler.tracked_start
  shutDown := rfl
  dropped h := by cases h
  keys := rfl
  appointment id j h := by simp [Scheduler.start] at h

/-- an identity has a job if it has an appointment -/
theorem Keeps.find?_none {s : Scheduler α} {t : Timetable α} (h : Keeps s t) (id : String)
    (hid : s.jobs.find? id = none) : t.entries.find? id = none := by
  by_contra hsome
  obtain ⟨a, ha⟩ := Option.ne_none_iff_exists'.1 hsome
  have hmem : id ∈ s.jobs.keys := h.keys ▸ Table.mem_keys_iff.2 ⟨a, ha⟩
  obtain ⟨j, hj⟩ := Table.mem_keys_iff.1 hmem
  rw [hid] at hj
  cases hj

theorem Keeps.agrees {s : Scheduler α} {t : Timetable α} (h : Keeps s t) : Agrees s t := by
  refine ⟨fun id => ?_, fun id => ?_, ?_, h.shutDown⟩
  · cases hj : s.jobs.find? id with
    | none => simp [Scheduler.isScheduled, Table.contains, hj, h.find?_none id hj]
    | some j =>
      obtain ⟨a, ha, -⟩ := h.appointment id j hj
      simp [Scheduler.isScheduled, Table.contains, hj, ha]
  · cases hj : s.jobs.find? id with
    | none => simp [Scheduler.endOfLife?, hj, h.find?_none id hj]
    | some j =>
      obtain ⟨a, ha, hend, -⟩ := h.appointment id j hj
      simp [Scheduler.endOfLife?, hj, ha, hend]
  · have hlen := congrArg List.length h.keys
    simpa [Table.keys, Scheduler.pendingCount, Table.size] using hlen

/-- an appointment is due when an entry of the timer is -/
theorem Keeps.exists_entry {s : Scheduler α} {t : Timetable α} (h : Keeps s t) {id : String} {a : Appointment α}
    (ha : t.entries.find? id = some a) : ∃ e ∈ s.entries, e.due = a.due := by
  cases hj : s.jobs.find? id with
  | none =>
    rw [h.find?_none id hj] at ha
    cases ha
  | some j =>
    obtain ⟨a', ha', -, -, hdue⟩ := h.appointment id j hj
    obtain ⟨e, he, hid, hgen⟩ := h.tracked.entry id j hj
    rw [ha] at ha'
    cases ha'
    exact ⟨e, he, hdue e he hid hgen⟩

/-! ## Steps that lose only what is stale -/

theorem Keeps.thinner {s s' : Scheduler α} {t : Timetable α} (h : Keeps s t) (hthin : s.Thinner s')
    (hjobs : s'.jobs = s.jobs) (hshut : s'.isShutDown = s.isShutDown) : Keeps s' t where
  tracked := h.tracked.thinner hthin
  shutDown := hshut.trans h.shutDown
  dropped := h.dropped
  keys := hjobs ▸ h.keys
  appointment id j hj := by
    obtain ⟨a, ha, hend, haction, hdue⟩ := h.appointment id j (hjobs ▸ hj)
    exact ⟨a, ha, hend, haction, fun e he => hdue e (hthin.entries e he)⟩

/-- a job goes, and so does its appointment -/
theorem Keeps.erase {s s' : Scheduler α} {t : Timetable α} {id : String} (h : Keeps s t) (hthin : s.Thinner s')
    (hjobs : s'.jobs = s.jobs.erase id) (hshut : s'.isShutDown = s.isShutDown) :
    Keeps s' { t with entries := t.entries.erase id } where
  tracked := h.tracked.thinner hthin
  shutDown := hshut.trans h.shutDown
  dropped hc := by simp [Table.keys_erase, h.dropped hc]
  keys := by rw [hjobs, Table.keys_erase, Table.keys_erase, h.keys]
  appointment k j hj := by
    rw [hjobs] at hj
    obtain ⟨hk, hj⟩ := Scheduler.erase_sub s id k j hj
    obtain ⟨a, ha, hend, haction, hdue⟩ := h.appointment k j hj
    refine ⟨a, ?_, hend, haction, fun e he => hdue e (hthin.entries e he)⟩
    rw [Table.find?_erase, if_neg hk]
    exact ha

theorem Keeps.shutdown {s : Scheduler α} {t : Timetable α} (h : Keeps s t) : Keeps s.shutdown ⟨.empty, true⟩ := by
  have hthin := Scheduler.shutdown_thinner s
  unfold Scheduler.shutdown at hthin ⊢
  split
  · rename_i hs
    have hclosed : t.closed = true := h.shutDown ▸ hs
    have hkeys : s.jobs.keys = [] := h.keys.trans (h.dropped hclosed)
    refine ⟨h.tracked, hs, fun _ => rfl, hkeys, fun id j hj => ?_⟩
    have hmem : id ∈ s.jobs.keys := Table.mem_keys_iff.2 ⟨j, hj⟩
    rw [hkeys] at hmem
    cases hmem
  · rename_i hs
    rw [if_neg hs] at hthin
    exact ⟨h.tracked.thinner hthin, rfl, fun _ => rfl, rfl, fun id j hj => by simp at hj⟩

theorem Keeps.schedule {s s' : Scheduler α} {t : Timetable α} {elapsed : Nat} {now endOfLife : Timestamp}
    {id : String} {action : α} (h : Keeps s t) (hs : s.schedule elapsed now id endOfLife action = .ok s') :
    Keeps s' { t with
      entries := t.entries.insert id ⟨elapsed + Timetable.remaining now endOfLife, endOfLife, action⟩ } := by
  have htracked := h.tracked.schedule hs
  obtain ⟨hopen, rfl⟩ := Scheduler.schedule_eq_ok_iff.1 hs
  refine ⟨htracked, h.shutDown, fun hc => ?_, ?_, fun k j hj => ?_⟩
  · have hclosed : t.closed = false := h.shutDown ▸ hopen
    exact absurd hc (by simp [hclosed])
  · rw [Table.keys_insert, Table.keys_insert, h.keys]
  · rw [Table.find?_insert] at hj
    simp only [Scheduler.entries, ← List.append_assoc, List.mem_append, List.mem_singleton]
    split at hj
    · -- entries of the jobs before have older generations
      rename_i hk
      cases hj
      refine ⟨_, by rw [Table.find?_insert, if_pos hk], rfl, rfl, fun e he _ hgen => ?_⟩
      rcases he with he | rfl
      · have hold := h.tracked.entry_old e (List.mem_append.2 he)
        exact absurd hgen (Nat.ne_of_lt hold)
      · exact congrArg (elapsed + ·) (Scheduler.delay_eq_toNat now endOfLife)
    · rename_i hk
      obtain ⟨a, ha, hend, haction, hdue⟩ := h.appointment k j hj
      refine ⟨a, by rw [Table.find?_insert, if_neg hk]; exact ha, hend, haction, fun e he hid hgen => ?_⟩
      rcases he with he | rfl
      · exact hdue e (List.mem_append.2 he) hid hgen
      · exact absurd hid (fun hid => hk hid.symm)

/-! ## Simulation -/

/-- an op answers as the timetable does on its move, and leaves a scheduler that keeps what the move leaves -/
theorem step_simulates {w : Clockwork α} {t : Timetable α} (h : Keeps w.scheduler t) (op : Op α) :
    (w.step op).1 = (t.step w.elapsed w.clock (w.move op)).1 ∧
      Keeps (w.step op).2.scheduler (t.step w.elapsed w.clock (w.move op)).2 := by
  cases op with
  | schedule id endOfLife action =>
    simp only [step, move, Timetable.step]
    by_cases hs : w.scheduler.isShutDown = true
    · have hc : t.closed = true := h.shutDown ▸ hs
      simp only [Scheduler.schedule, hs, hc, if_true]
      exact ⟨trivial, h⟩
    · rw [Bool.not_eq_true] at hs
      have hc : t.closed = false := h.shutDown ▸ hs
      have hok : w.scheduler.schedule w.elapsed w.clock id endOfLife action = .ok _ :=
        Scheduler.schedule_eq_ok_iff.2 ⟨hs, rfl⟩
      rw [hok, if_neg (by simp [hc])]
      exact ⟨rfl, h.schedule hok⟩
  | cancel id =>
    simp only [step, move, Timetable.step]
    have hsame : w.scheduler.jobs.contains id = t.entries.contains id := h.agrees.scheduled id
    by_cases hj : t.entries.contains id = true
    · have hok : w.scheduler.cancel id = .ok { w.scheduler with jobs := w.scheduler.jobs.erase id } := by
        simp only [Scheduler.cancel, hsame, hj, if_true]
      simp only [hok, hj, if_true]
      exact ⟨trivial, h.erase (Scheduler.cancel_thinner hok) rfl rfl⟩
    · have herror : w.scheduler.cancel id = .error (.unknownTerminatable id) := by
        simp only [Scheduler.cancel, hsame, hj]
        rfl
      simp only [herror, hj, Bool.false_eq_true, if_false]
      exact ⟨trivial, h⟩
  | shutdown => exact ⟨rfl, h.shutdown⟩
  | pass micros reading => exact ⟨rfl, h⟩
  | takeUp =>
    exact ⟨rfl, h.thinner (Scheduler.takeUp_thinner _) (Scheduler.takeUp_jobs _) (Scheduler.takeUp_isShutDown _)⟩
  | claim =>
    have hthin := Scheduler.claimNext_thinner w.scheduler w.elapsed
    have hshut := Scheduler.claimNext_isShutDown w.scheduler w.elapsed
    rcases Scheduler.claimNext_cases w.scheduler w.elapsed with
      ⟨hnone, hjobs⟩ | ⟨e, he, j, hj, hgen, hdue, hsome, hjobs⟩
    · simp only [step, move, hnone, Timetable.step]
      exact ⟨trivial, h.thinner hthin hjobs hshut⟩
    · obtain ⟨a, ha, hend, haction, hdues⟩ := h.appointment e.identity j hj
      have hwhen : a.due ≤ w.elapsed := hdues e (List.mem_append_left _ he) rfl hgen.symm ▸ hdue
      simp only [step, move, hsome, Timetable.step, ha, hwhen, if_true, hend, haction]
      exact ⟨trivial, h.erase hthin hjobs hshut⟩
  | work reply =>
    simp only [step, move, Timetable.step]
    cases w.handed with
    | nil => exact ⟨rfl, h⟩
    | cons c cs => exact ⟨rfl, h⟩

theorem run_keeps {w : Clockwork α} {t : Timetable α} (h : Keeps w.scheduler t) (ops : List (Op α)) :
    (w.run ops).1 = (w.follow t ops).1 ∧ Keeps (w.run ops).2.scheduler (w.follow t ops).2 := by
  induction ops generalizing w t with
  | nil => exact ⟨rfl, h⟩
  | cons op ops ih =>
    obtain ⟨hanswer, hkeeps⟩ := step_simulates h op
    obtain ⟨hanswers, hend⟩ := ih hkeeps
    exact ⟨congrArg₂ List.cons hanswer hanswers, hend⟩

/-! ## Workers -/

/-- jobs that were run and jobs that wait are what was there before, and then what the op fired -/
theorem step_jobs (w : Clockwork α) (op : Op α) :
    (w.step op).2.ran.map Prod.fst ++ (w.step op).2.handed =
      w.ran.map Prod.fst ++ w.handed ++ ((w.step op).1.job?).toList := by
  cases op with
  | schedule id endOfLife action =>
    simp only [step]
    split <;> simp [Answer.job?]
  | cancel id =>
    simp only [step]
    split <;> simp [Answer.job?]
  | claim =>
    simp only [step]
    split <;> simp [Answer.job?]
  | work reply =>
    simp only [step]
    split
    · simp [Answer.job?]
    · rename_i c cs hhanded
      simp [Answer.job?, hhanded]
  | shutdown | pass | takeUp => simp [step, Answer.job?]

theorem run_jobs (w : Clockwork α) (ops : List (Op α)) :
    (w.run ops).2.ran.map Prod.fst ++ (w.run ops).2.handed =
      w.ran.map Prod.fst ++ w.handed ++ (w.run ops).1.filterMap Answer.job? := by
  induction ops generalizing w with
  | nil => simp [run]
  | cons op ops ih =>
    simp only [run, ih, step_jobs, List.append_assoc]
    cases hjob : (w.step op).1.job? with
    | none => simp [hjob]
    | some c => simp [hjob]

/-! ## Nothing that is due is lost -/

/-- the entries of the timer are in the order in which they are due -/
def Ordered (s : Scheduler α) : Prop := s.timers.Pairwise fun a b => a.due ≤ b.due

theorem pairwise_place {t : TimerEntry} {us : List TimerEntry} (h : us.Pairwise fun a b => a.due ≤ b.due) :
    (Scheduler.place t us).Pairwise fun a b => a.due ≤ b.due := by
  induction us with
  | nil => simp [Scheduler.place]
  | cons u us ih =>
    rw [List.pairwise_cons] at h
    simp only [Scheduler.place]
    split
    · rename_i hbefore
      have hle : t.due ≤ u.due := by
        simp only [Scheduler.before, Bool.or_eq_true, Bool.and_eq_true, decide_eq_true_eq, beq_iff_eq] at hbefore
        omega
      refine List.pairwise_cons.2 ⟨fun v hv => ?_, List.pairwise_cons.2 h⟩
      rcases List.mem_cons.1 hv with rfl | hv
      · exact hle
      · exact Nat.le_trans hle (h.1 v hv)
    · rename_i hbefore
      have hle : u.due ≤ t.due := by
        simp only [Scheduler.before, Bool.or_eq_true, Bool.and_eq_true, decide_eq_true_eq, beq_iff_eq] at hbefore
        omega
      refine List.pairwise_cons.2 ⟨fun v hv => ?_, ih h.2⟩
      rcases Scheduler.mem_place.1 hv with rfl | hv
      · exact hle
      · exact h.1 v hv

theorem claimNext_timers (s : Scheduler α) (elapsed : Nat) :
    (s.claimNext elapsed).2.timers.Sublist s.timers ∧ (s.claimNext elapsed).2.commands = s.commands := by
  unfold Scheduler.claimNext
  split
  · exact ⟨List.Sublist.refl _, rfl⟩
  · split
    · exact ⟨List.Sublist.refl _, rfl⟩
    · rename_i t ts ht
      split
      · have hrest : ts.Sublist s.timers := ht ▸ List.sublist_cons_self t ts
        unfold Scheduler.claim
        split
        · split
          · exact ⟨hrest, rfl⟩
          · exact ⟨hrest, rfl⟩
        · exact ⟨hrest, rfl⟩
      · exact ⟨List.Sublist.refl _, rfl⟩

theorem Ordered.takeUp {s : Scheduler α} (h : Ordered s) : Ordered s.takeUp := by
  unfold Scheduler.takeUp
  split
  · exact h
  · split
    · exact h
    · unfold Scheduler.compact
      split
      · exact pairwise_place h
      · exact (pairwise_place h).filter _

theorem step_ordered {w : Clockwork α} (h : Ordered w.scheduler) (op : Op α) : Ordered (w.step op).2.scheduler := by
  cases op with
  | schedule id endOfLife action =>
    simp only [step]
    split
    · rename_i s hs
      obtain ⟨-, rfl⟩ := Scheduler.schedule_eq_ok_iff.1 hs
      exact h
    · exact h
  | cancel id =>
    simp only [step, Scheduler.cancel]
    split
    · rename_i s hs
      split at hs
      · cases hs
        exact h
      · cases hs
    · exact h
  | shutdown =>
    simp only [step, Scheduler.shutdown]
    split <;> exact h
  | takeUp => exact h.takeUp
  | claim =>
    have hsub := (claimNext_timers w.scheduler w.elapsed).1
    simp only [step]
    split <;> exact h.sublist hsub
  | work reply =>
    simp only [step]
    split <;> exact h
  | pass => exact h

theorem run_ordered {w : Clockwork α} (h : Ordered w.scheduler) (ops : List (Op α)) :
    Ordered (w.run ops).2.scheduler := by
  induction ops generalizing w with
  | nil => exact h
  | cons op ops ih => exact ih (step_ordered h op)

theorem run_append (w : Clockwork α) (ops ops' : List (Op α)) :
    (w.run (ops ++ ops')).2 = ((w.run ops).2.run ops').2 := by
  induction ops generalizing w with
  | nil => rfl
  | cons op ops ih => exact ih (w.step op).2

/-- the timer takes up all that it was told of -/
theorem exists_commands_nil (w : Clockwork α) (hs : w.scheduler.isShutDown = false) :
    ∃ ops : List (Op α), (∀ op ∈ ops, op.ofTimer) ∧ (w.run ops).2.elapsed = w.elapsed ∧
      (w.run ops).2.scheduler.isShutDown = false ∧ (w.run ops).2.scheduler.commands = [] := by
  induction hc : w.scheduler.commands generalizing w with
  | nil => exact ⟨[], by simp, rfl, hs, hc⟩
  | cons e es ih =>
    have hcommands : w.scheduler.takeUp.commands = es := by
      simp only [Scheduler.takeUp, hs, hc, Scheduler.compact, Bool.false_eq_true, if_false]
      split <;> rfl
    obtain ⟨ops, hops, helapsed, hopen, hdone⟩ :=
      ih (w.step .takeUp).2 (by simpa [step] using hs) (by simpa [step] using hcommands)
    refine ⟨.takeUp :: ops, fun op hop => ?_, helapsed, hopen, hdone⟩
    rcases List.mem_cons.1 hop with rfl | hop
    · rfl
    · exact hops op hop

/-- the timer takes out all that is due -/
theorem exists_timers_later (w : Clockwork α) (hs : w.scheduler.isShutDown = false) (hord : Ordered w.scheduler) :
    ∃ ops : List (Op α), (∀ op ∈ ops, op.ofTimer) ∧ (w.run ops).2.elapsed = w.elapsed ∧
      (w.run ops).2.scheduler.commands = w.scheduler.commands ∧
      ∀ e ∈ (w.run ops).2.scheduler.timers, w.elapsed < e.due := by
  induction ht : w.scheduler.timers generalizing w with
  | nil => exact ⟨[], by simp, rfl, rfl, by simp [run, ht]⟩
  | cons e es ih =>
    by_cases hdue : e.due ≤ w.elapsed
    · have hclaim : w.scheduler.claimNext w.elapsed = { w.scheduler with timers := es }.claim e := by
        simp only [Scheduler.claimNext, hs, ht, hdue, Bool.false_eq_true, if_false, if_true]
      have hsched : (w.step .claim).2.scheduler = (w.scheduler.claimNext w.elapsed).2 := by
        simp only [step]
        split <;> rfl
      have helapsed : (w.step .claim).2.elapsed = w.elapsed := by
        simp only [step]
        split <;> rfl
      have htimers : (w.step .claim).2.scheduler.timers = es := by
        rw [hsched, hclaim, Scheduler.claim_timers]
      have hopen : (w.step .claim).2.scheduler.isShutDown = false := by
        rw [hsched, Scheduler.claimNext_isShutDown]
        exact hs
      obtain ⟨ops, hops, hsame, hcommands, hlater⟩ := ih _ hopen (step_ordered hord .claim) htimers
      rw [hsched, (claimNext_timers w.scheduler w.elapsed).2] at hcommands
      rw [helapsed] at hsame hlater
      refine ⟨.claim :: ops, fun op hop => ?_, hsame, hcommands, hlater⟩
      rcases List.mem_cons.1 hop with rfl | hop
      · rfl
      · exact hops op hop
    · -- what comes later in the order is due later
      refine ⟨[], by simp, rfl, rfl, fun u hu => ?_⟩
      have hu : u ∈ e :: es := ht ▸ hu
      have hle : e.due ≤ u.due := by
        rcases List.mem_cons.1 hu with rfl | hu
        · exact Nat.le_refl _
        · rw [Ordered, ht, List.pairwise_cons] at hord
          exact hord.1 u hu
      omega

/-- with steps of the timer alone, nothing is left that is due -/
theorem exists_nothing_due {w : Clockwork α} {t : Timetable α} (h : Keeps w.scheduler t) (hord : Ordered w.scheduler) :
    ∃ ops : List (Op α), (∀ op ∈ ops, op.ofTimer) ∧ (w.run ops).2.elapsed = w.elapsed ∧
      ∀ id a, (w.follow t ops).2.entries.find? id = some a → w.elapsed < a.due := by
  by_cases hs : w.scheduler.isShutDown = true
  · refine ⟨[], by simp, rfl, fun id a ha => ?_⟩
    have hmem : id ∈ t.entries.keys := Table.mem_keys_iff.2 ⟨a, ha⟩
    rw [h.dropped (h.shutDown ▸ hs)] at hmem
    cases hmem
  · rw [Bool.not_eq_true] at hs
    obtain ⟨ops, hops, helapsed, hopen, hcommands⟩ := exists_commands_nil w hs
    obtain ⟨ops', hops', helapsed', hcommands', hlater⟩ :=
      exists_timers_later (w.run ops).2 hopen (run_ordered hord ops)
    refine ⟨ops ++ ops', fun op hop => ?_, ?_, fun id a ha => ?_⟩
    · rcases List.mem_append.1 hop with hop | hop
      · exact hops op hop
      · exact hops' op hop
    · rw [run_append, helapsed', helapsed]
    · obtain ⟨e, he, hdue⟩ := (run_keeps h (ops ++ ops')).2.exists_entry ha
      rw [run_append, Scheduler.entries, hcommands', hcommands, List.append_nil] at he
      rw [← hdue, ← helapsed]
      exact hlater e he

theorem follow_append (w : Clockwork α) (t : Timetable α) (ops ops' : List (Op α)) :
    (w.follow t (ops ++ ops')).2 = ((w.run ops).2.follow (w.follow t ops).2 ops').2 := by
  induction ops generalizing w t with
  | nil => rfl
  | cons op ops ih => exact ih (w.step op).2 _

/-- A scheduler at work simulates a timetable. Whatever is asked of it and however its timer and its workers get on in
between, it answers as the timetable does on the same calls, and each job that goes to the workers is fired in the
timetable at that moment. It shows what the timetable shows. The jobs that were run, however they ended, and those that
still wait are the fired ones in order. And the timer can by itself get to where nothing in the timetable is due. -/
theorem run_simulates (now : Timestamp) (ops : List (Op α)) :
    ((begun now).run ops).1 = ((begun now).follow .empty ops).1 ∧
      Agrees ((begun now).run ops).2.scheduler ((begun now).follow .empty ops).2 ∧
      ((begun now).run ops).2.ran.map Prod.fst ++ ((begun now).run ops).2.handed =
        ((begun now).follow .empty ops).1.filterMap Answer.job? ∧
      ∃ more : List (Op α), (∀ op ∈ more, op.ofTimer) ∧
        ((begun now).run (ops ++ more)).2.elapsed = ((begun now).run ops).2.elapsed ∧
        ∀ id a, ((begun now).follow .empty (ops ++ more)).2.entries.find? id = some a →
          ((begun now).run ops).2.elapsed < a.due := by
  have hstart : Keeps (begun now : Clockwork α).scheduler .empty := keeps_start
  obtain ⟨hanswers, hkeeps⟩ := run_keeps hstart ops
  have hord : Ordered ((begun now).run ops).2.scheduler := run_ordered (w := begun now) List.Pairwise.nil ops
  obtain ⟨more, htimer, helapsed, hlater⟩ := exists_nothing_due hkeeps hord
  refine ⟨hanswers, hkeeps.agrees, ?_, more, htimer, ?_, ?_⟩
  · rw [run_jobs, hanswers]
    simp [begun]
  · rw [run_append]
    exact helapsed
  · rw [follow_append]
    exact hlater

end Clockwork

end EventBroker
