/-
The timer, one step at a time, and what its entries tell of the jobs.

A turn of the timer is a row of two kinds of steps: `claimNext` takes the first entry out if it is due and claims its
job, `takeUp` takes up one entry that the timer was told of. `turn_eq_steps` says so. Between these steps anything may
happen to the scheduler, and so invariants are stated for the steps.

- `Tracked`: every pending job has an entry with its identity and generation, and no generation is given out twice.
- `Punctual R`: wherever an entry belongs to the pending job of its identity, `R` holds between the time at which the
  entry is due and the end that the job was scheduled for.
Both are kept by every operation of the scheduler and by both steps; `claimNext_cases` is what a claim can be.
-/
import Mathlib.Tactic.Common
import EventBroker.Scheduler

namespace EventBroker.Scheduler

variable {α : Type}

/-! ## Steps -/

/-- take the first entry out if it is due, and claim its job -/
def claimNext (s : Scheduler α) (elapsed : Nat) : Option (Claimed α) × Scheduler α :=
  if s.isShutDown then (none, s)
  else
    match s.timers with
    | [] => (none, s)
    | t :: ts => if t.due ≤ elapsed then { s with timers := ts }.claim t else (none, s)

/-- take up the oldest entry that the timer was told of -/
def takeUp (s : Scheduler α) : Scheduler α :=
  if s.isShutDown then s
  else
    match s.commands with
    | [] => { s with queuedTimers := s.timers.length }
    | t :: ts =>
      { s with queuedTimers := s.timers.length, commands := ts, timers := place t s.timers }.compact

/-- take out so many entries one after the other, as far as they are due -/
def claimMany (elapsed : Nat) : (n : Nat) → Scheduler α → List (Claimed α) × Scheduler α
  | 0, s => ([], s)
  | n + 1, s =>
    let (c, s) := s.claimNext elapsed
    let (cs, s) := claimMany elapsed n s
    (c.toList ++ cs, s)

/-- all entries, those that the timer has not taken up included -/
def entries (s : Scheduler α) : List TimerEntry := s.timers ++ s.commands

theorem claim_timers (s : Scheduler α) (t : TimerEntry) (ts : List TimerEntry) :
    { s with timers := ts }.claim t = ((s.claim t).1, { (s.claim t).2 with timers := ts }) := by
  simp only [claim]
  split
  · split <;> rfl
  · rfl

theorem claimAll_timers (s : Scheduler α) (us ts : List TimerEntry) :
    { s with timers := ts }.claimAll us = ((s.claimAll us).1, { (s.claimAll us).2 with timers := ts }) := by
  induction us generalizing s with
  | nil => rfl
  | cons u us ih =>
    simp only [claimAll, claim_timers, ih]

theorem claim_isShutDown (s : Scheduler α) (t : TimerEntry) : (s.claim t).2.isShutDown = s.isShutDown := by
  simp only [claim]
  split
  · split <;> rfl
  · rfl

theorem claimAll_isShutDown (s : Scheduler α) (ts : List TimerEntry) :
    (s.claimAll ts).2.isShutDown = s.isShutDown := by
  induction ts generalizing s with
  | nil => rfl
  | cons t ts ih => exact (ih _).trans (claim_isShutDown s t)

/-- due entries at the front are taken out by so many steps -/
theorem claimMany_eq_claimAll (elapsed : Nat) (us rest : List TimerEntry) (s : Scheduler α)
    (hs : s.isShutDown = false) (ht : s.timers = us ++ rest) (hdue : ∀ t ∈ us, t.due ≤ elapsed) :
    claimMany elapsed us.length s = { s with timers := rest }.claimAll us := by
  induction us generalizing s with
  | nil =>
    rw [List.nil_append] at ht
    simp only [List.length_nil, claimMany, claimAll, ← ht]
  | cons u us ih =>
    have hstep : s.claimNext elapsed = { s with timers := us ++ rest }.claim u := by
      simp only [claimNext, hs, ht, List.cons_append, hdue u List.mem_cons_self, Bool.false_eq_true, if_false,
        if_true]
    have hnext := ih (s.claimNext elapsed).2 (by rw [hstep, claim_isShutDown]; exact hs)
      (by rw [hstep, claim_timers]) (fun t ht => hdue t (List.mem_cons_of_mem u ht))
    simp only [List.length_cons, claimMany, hnext, claimAll]
    simp only [hstep, claim_timers, claimAll_timers]

/-- a turn of the timer is a row of steps -/
theorem turn_eq_steps (s : Scheduler α) (elapsed : Nat) :
    ∃ n, s.turn elapsed = ((claimMany elapsed n s).1, (claimMany elapsed n s).2.takeUp) := by
  by_cases hs : s.isShutDown
  · exact ⟨0, by simp [turn, claimMany, takeUp, hs]⟩
  · rw [Bool.not_eq_true] at hs
    obtain ⟨rest, hsplit⟩ := List.takeWhile_prefix (l := s.timers) (fun t => decide (t.due ≤ elapsed))
    set due := s.timers.takeWhile fun t => decide (t.due ≤ elapsed) with hdue
    have hall : ∀ t ∈ due, t.due ≤ elapsed := by
      have h := List.all_takeWhile (l := s.timers) (p := fun t => decide (t.due ≤ elapsed))
      rw [← hdue] at h
      simpa using h
    have hrest : s.timers.drop due.length = rest := by rw [← hsplit, List.drop_left]
    refine ⟨due.length, ?_⟩
    rw [claimMany_eq_claimAll elapsed due rest s hs hsplit.symm hall]
    have hafter : ({ s with timers := rest }.claimAll due).2.isShutDown = false := by
      rw [claimAll_isShutDown]
      exact hs
    simp only [turn, fireDue, ← hdue, hrest, hs, takeUp, Bool.false_eq_true, if_false]
    split <;> simp_all

/-! ## What the steps do to jobs -/

@[simp] theorem claimNext_isShutDown (s : Scheduler α) (elapsed : Nat) :
    (s.claimNext elapsed).2.isShutDown = s.isShutDown := by
  simp only [claimNext]
  split
  · rfl
  · split
    · rfl
    · split
      · exact claim_isShutDown _ _
      · rfl

theorem compact_jobs (s : Scheduler α) : s.compact.jobs = s.jobs := by
  unfold compact
  split <;> rfl

theorem compact_isShutDown (s : Scheduler α) : s.compact.isShutDown = s.isShutDown := by
  unfold compact
  split <;> rfl

@[simp] theorem takeUp_jobs (s : Scheduler α) : s.takeUp.jobs = s.jobs := by
  unfold takeUp
  split
  · rfl
  · split
    · rfl
    · exact compact_jobs _

@[simp] theorem takeUp_isShutDown (s : Scheduler α) : s.takeUp.isShutDown = s.isShutDown := by
  unfold takeUp
  split
  · rfl
  · split
    · rfl
    · exact compact_isShutDown _

/-- a step claims at most the job of the first entry, whose generation is that of the entry and which is due -/
theorem claimNext_cases (s : Scheduler α) (elapsed : Nat) :
    ((s.claimNext elapsed).1 = none ∧ (s.claimNext elapsed).2.jobs = s.jobs) ∨
      ∃ t ∈ s.timers, ∃ j, s.jobs.find? t.identity = some j ∧ j.generation = t.generation ∧ t.due ≤ elapsed ∧
        (s.claimNext elapsed).1 = some ⟨t.identity, j.endOfLife, j.action⟩ ∧
        (s.claimNext elapsed).2.jobs = s.jobs.erase t.identity := by
  unfold claimNext
  split
  · exact Or.inl ⟨rfl, rfl⟩
  · split
    · exact Or.inl ⟨rfl, rfl⟩
    · rename_i t ts ht
      split
      · rename_i hdue
        unfold claim
        split
        · rename_i j hj
          split
          · rename_i hgen
            have hmem : t ∈ s.timers := by rw [ht]; exact List.mem_cons_self
            exact Or.inr ⟨t, hmem, j, hj, by simpa using hgen, hdue, rfl, rfl⟩
          · exact Or.inl ⟨rfl, rfl⟩
        · exact Or.inl ⟨rfl, rfl⟩
      · exact Or.inl ⟨rfl, rfl⟩

/-! ## Entries and jobs -/

/-- every pending job has an entry, and generations are not given out twice -/
structure Tracked (s : Scheduler α) : Prop where
  entry_old : ∀ e ∈ s.entries, e.generation < s.nextGeneration
  job_old : ∀ id j, s.jobs.find? id = some j → j.generation < s.nextGeneration
  entry : ∀ id j, s.jobs.find? id = some j → ∃ e ∈ s.entries, e.identity = id ∧ e.generation = j.generation

/-- `R` holds between the time at which an entry is due and the end of the job that it belongs to -/
def Punctual (R : Nat → Timestamp → Prop) (s : Scheduler α) : Prop :=
  ∀ e ∈ s.entries, ∀ j, s.jobs.find? e.identity = some j → j.generation = e.generation → R e.due j.endOfLife

/-- `t` has lost nothing of `s` but jobs, and entries that belong to no job it still has -/
structure Thinner (s t : Scheduler α) : Prop where
  generation : t.nextGeneration = s.nextGeneration
  jobs : ∀ id j, t.jobs.find? id = some j → s.jobs.find? id = some j
  entries : ∀ e ∈ t.entries, e ∈ s.entries
  kept : ∀ e ∈ s.entries, ∀ j, t.jobs.find? e.identity = some j → j.generation = e.generation → e ∈ t.entries

theorem Tracked.thinner {s t : Scheduler α} (h : s.Tracked) (ht : Thinner s t) : t.Tracked where
  entry_old e he := ht.generation ▸ h.entry_old e (ht.entries e he)
  job_old id j hj := ht.generation ▸ h.job_old id j (ht.jobs id j hj)
  entry id j hj := by
    obtain ⟨e, he, hid, hgen⟩ := h.entry id j (ht.jobs id j hj)
    exact ⟨e, ht.kept e he j (hid ▸ hj) hgen.symm, hid, hgen⟩

theorem Punctual.thinner {R : Nat → Timestamp → Prop} {s t : Scheduler α} (h : s.Punctual R) (ht : Thinner s t) :
    t.Punctual R :=
  fun e he j hj hgen => h e (ht.entries e he) j (ht.jobs _ j hj) hgen

theorem Punctual.imp {R R' : Nat → Timestamp → Prop} {s : Scheduler α} (h : s.Punctual R)
    (himp : ∀ due t, R due t → R' due t) : s.Punctual R' :=
  fun e he j hj hgen => himp _ _ (h e he j hj hgen)

theorem tracked_start : (start : Scheduler α).Tracked where
  entry_old e he := by simp [entries, start] at he
  job_old id j hj := by simp [start] at hj
  entry id j hj := by simp [start] at hj

theorem punctual_start (R : Nat → Timestamp → Prop) : (start : Scheduler α).Punctual R :=
  fun e he => by simp [entries, start] at he

theorem mem_place {t e : TimerEntry} {us : List TimerEntry} : e ∈ place t us ↔ e = t ∨ e ∈ us := by
  induction us with
  | nil => simp [place]
  | cons u us ih =>
    simp only [place]
    split
    · simp
    · simp only [List.mem_cons, ih]
      tauto

theorem erase_sub (s : Scheduler α) (id k : String) (j : Job α) (h : (s.jobs.erase id).find? k = some j) :
    k ≠ id ∧ s.jobs.find? k = some j := by
  rw [Table.find?_erase] at h
  split at h
  · cases h
  · rename_i hk
    exact ⟨hk, h⟩

theorem cancel_thinner {s t : Scheduler α} {id : String} (h : s.cancel id = .ok t) : Thinner s t := by
  unfold cancel at h
  split at h
  · cases h
    exact ⟨rfl, fun k j hj => (erase_sub s id k j hj).2, fun e he => he, fun e he _ _ _ => he⟩
  · cases h

theorem shutdown_thinner (s : Scheduler α) : Thinner s s.shutdown := by
  unfold shutdown
  split
  · exact ⟨rfl, fun _ _ h => h, fun e he => he, fun e he _ _ _ => he⟩
  · exact ⟨rfl, fun _ _ h => by simp at h, fun e he => he, fun e he _ _ _ => he⟩

theorem compact_thinner (s : Scheduler α) : Thinner s s.compact := by
  unfold compact
  split
  · exact ⟨rfl, fun _ _ h => h, fun e he => he, fun e he _ _ _ => he⟩
  · refine ⟨rfl, fun _ _ h => h, fun e he => ?_, fun e he j hj hgen => ?_⟩
    · rcases List.mem_append.1 he with he | he
      · exact List.mem_append_left _ (List.mem_filter.1 he).1
      · exact List.mem_append_right _ he
    · rcases List.mem_append.1 he with he | he
      · refine List.mem_append_left _ (List.mem_filter.2 ⟨he, ?_⟩)
        have hj' : s.jobs.find? e.identity = some j := hj
        simp [isCurrent, hj', hgen]
      · exact List.mem_append_right _ he

theorem Thinner.trans {s t u : Scheduler α} (h₁ : Thinner s t) (h₂ : Thinner t u) : Thinner s u where
  generation := h₂.generation.trans h₁.generation
  jobs id j hj := h₁.jobs id j (h₂.jobs id j hj)
  entries e he := h₁.entries e (h₂.entries e he)
  kept e he j hj hgen := h₂.kept e (h₁.kept e he j (h₂.jobs _ j hj) hgen) j hj hgen

theorem takeUp_thinner (s : Scheduler α) : Thinner s s.takeUp := by
  unfold takeUp
  split
  · exact ⟨rfl, fun _ _ h => h, fun e he => he, fun e he _ _ _ => he⟩
  · split
    · exact ⟨rfl, fun _ _ h => h, fun e he => he, fun e he _ _ _ => he⟩
    · rename_i t ts hc
      refine Thinner.trans ?_ (compact_thinner _)
      have hmem : ∀ e, e ∈ place t s.timers ++ ts ↔ e ∈ s.entries := by
        intro e
        simp only [entries, hc, List.mem_append, List.mem_cons, mem_place]
        tauto
      exact ⟨rfl, fun _ _ h => h, fun e he => (hmem e).1 he, fun e he _ _ _ => (hmem e).2 he⟩

theorem claimNext_thinner (s : Scheduler α) (elapsed : Nat) : Thinner s (s.claimNext elapsed).2 := by
  unfold claimNext
  split
  · exact ⟨rfl, fun _ _ h => h, fun e he => he, fun e he _ _ _ => he⟩
  · split
    · exact ⟨rfl, fun _ _ h => h, fun e he => he, fun e he _ _ _ => he⟩
    · rename_i t ts ht
      have hsub : ∀ e, e ∈ ts ++ s.commands → e ∈ s.entries := by
        intro e he
        rw [entries, ht, List.cons_append]
        exact List.mem_cons_of_mem t he
      have hcases : ∀ e ∈ s.entries, e = t ∨ e ∈ ts ++ s.commands := by
        intro e he
        rwa [entries, ht, List.cons_append, List.mem_cons] at he
      split
      · unfold claim
        split
        · rename_i j hj
          split
          · -- the entry's job goes with it
            refine ⟨rfl, fun k i hi => (erase_sub s t.identity k i hi).2, hsub, fun e he i hi hgen => ?_⟩
            rcases hcases e he with rfl | he
            · exact absurd rfl (erase_sub s e.identity e.identity i hi).1
            · exact he
          · rename_i hne
            refine ⟨rfl, fun _ _ h => h, hsub, fun e he i hi hgen => ?_⟩
            rcases hcases e he with rfl | he
            · have hji : some j = some i := hj.symm.trans hi
              cases hji
              exact absurd (by simpa using hgen) hne
            · exact he
        · rename_i hj
          refine ⟨rfl, fun _ _ h => h, hsub, fun e he i hi hgen => ?_⟩
          rcases hcases e he with rfl | he
          · have hji : none = some i := hj.symm.trans hi
            cases hji
          · exact he
      · exact ⟨rfl, fun _ _ h => h, fun e he => he, fun e he _ _ _ => he⟩

/-! ## Scheduling -/

theorem schedule_eq_ok_iff {s t : Scheduler α} {elapsed : Nat} {now endOfLife : Timestamp} {id : String} {a : α} :
    s.schedule elapsed now id endOfLife a = .ok t ↔ s.isShutDown = false ∧
      t = { s with
        jobs := s.jobs.insert id ⟨s.nextGeneration, endOfLife, a⟩
        commands := s.commands ++ [⟨elapsed + delay now endOfLife, s.nextGeneration, id⟩]
        nextGeneration := s.nextGeneration + 1 } := by
  unfold schedule
  split
  · rename_i hs
    simp [hs]
  · rename_i hs
    simp [hs, eq_comm]

theorem Tracked.schedule {s t : Scheduler α} {elapsed : Nat} {now endOfLife : Timestamp} {id : String} {a : α}
    (h : s.Tracked) (ht : s.schedule elapsed now id endOfLife a = .ok t) : t.Tracked := by
  obtain ⟨-, rfl⟩ := schedule_eq_ok_iff.1 ht
  constructor
  · intro e he
    rw [entries, ← List.append_assoc] at he
    rcases List.mem_append.1 he with he | he
    · exact Nat.lt_succ_of_lt (h.entry_old e he)
    · rw [List.mem_singleton] at he
      subst he
      exact Nat.lt_succ_self _
  · intro k j hj
    rw [Table.find?_insert] at hj
    split at hj
    · cases hj
      exact Nat.lt_succ_self _
    · exact Nat.lt_succ_of_lt (h.job_old k j hj)
  · intro k j hj
    rw [Table.find?_insert] at hj
    rw [entries, ← List.append_assoc]
    split at hj
    · rename_i hk
      cases hj
      exact ⟨_, List.mem_append_right _ (List.mem_singleton.2 rfl), hk.symm, rfl⟩
    · obtain ⟨e, he, hid, hgen⟩ := h.entry k j hj
      exact ⟨e, List.mem_append_left _ he, hid, hgen⟩

theorem Punctual.schedule {R : Nat → Timestamp → Prop} {s t : Scheduler α} {elapsed : Nat}
    {now endOfLife : Timestamp} {id : String} {a : α} (h : s.Punctual R) (htr : s.Tracked)
    (ht : s.schedule elapsed now id endOfLife a = .ok t) (hR : R (elapsed + delay now endOfLife) endOfLife) :
    t.Punctual R := by
  obtain ⟨-, rfl⟩ := schedule_eq_ok_iff.1 ht
  intro e he j hj hgen
  rw [entries, ← List.append_assoc] at he
  rw [Table.find?_insert] at hj
  rcases List.mem_append.1 he with he | he
  · split at hj
    · -- an older entry does not belong to the new job
      cases hj
      exact absurd hgen (Nat.ne_of_gt (htr.entry_old e he))
    · exact h e he j hj hgen
  · rw [List.mem_singleton] at he
    subst he
    rw [if_pos rfl] at hj
    cases hj
    exact hR

end EventBroker.Scheduler
