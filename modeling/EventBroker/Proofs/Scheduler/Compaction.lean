/-
Compaction drops what is stale and nothing else.

Cancelled and replaced jobs leave entries behind, which the timer drops when they prevail. Generations tell the entries
apart: no two entries have the same, neither those that the timer holds nor those that it has not yet taken up. So a
pending job has one entry and no more, and the entries that survive a compaction are no more than the pending jobs.

- `Scheduler.Distinct`: the generations of all entries differ. Every operation and both steps of the timer keep it,
  since they lose entries and put them into another order, or add one of a generation that is new.
- `Scheduler.compact_cases`: what a compaction does; `current_length_le`: how many entries can survive it.
- `Clockwork.run_compacts`: of every run, each pending job has its one entry, a compaction keeps it, and whenever the
  timer has taken up an entry it holds at most 64 more than twice the pending jobs.
-/
import Mathlib.Data.List.Nodup
import Mathlib.Data.List.Perm.Subperm
import EventBroker.Proofs.Scheduler.Prompt

namespace EventBroker

namespace Scheduler

variable {α : Type} {s t : Scheduler α}

/-! ## Generations differ -/

/-- no two entries have the same generation -/
def Distinct (s : Scheduler α) : Prop := (s.entries.map TimerEntry.generation).Nodup

theorem distinct_start : (start : Scheduler α).Distinct := List.nodup_nil

/-- entries may be lost and change their order -/
theorem Distinct.subperm (h : s.Distinct) (ht : t.entries.Subperm s.entries) : t.Distinct := by
  obtain ⟨kept, hperm, hsub⟩ := ht
  have hkept : (kept.map TimerEntry.generation).Nodup := h.sublist (hsub.map _)
  exact (hperm.map TimerEntry.generation).nodup_iff.1 hkept

theorem Distinct.schedule {elapsed : Nat} {now endOfLife : Timestamp} {id : String} {a : α} (h : s.Distinct)
    (htr : s.Tracked) (ht : s.schedule elapsed now id endOfLife a = .ok t) : t.Distinct := by
  obtain ⟨-, rfl⟩ := schedule_eq_ok_iff.1 ht
  unfold Distinct entries
  rw [← List.append_assoc, List.map_append, List.nodup_append]
  refine ⟨h, List.nodup_singleton _, fun g hg g' hg' => ?_⟩
  -- the entry that is added is younger than all others
  obtain ⟨e, he, rfl⟩ := List.mem_map.1 hg
  rw [List.map_singleton, List.mem_singleton] at hg'
  rw [hg']
  exact Nat.ne_of_lt (htr.entry_old e he)

theorem place_perm (t : TimerEntry) (us : List TimerEntry) : (place t us).Perm (t :: us) := by
  induction us with
  | nil => exact List.Perm.refl _
  | cons u us ih =>
    simp only [place]
    split
    · exact List.Perm.refl _
    · exact (ih.cons u).trans (List.Perm.swap t u us)

theorem compact_timers (s : Scheduler α) : s.compact.timers.Sublist s.timers := by
  unfold compact
  split
  · exact List.Sublist.refl _
  · exact List.filter_sublist

theorem compact_commands (s : Scheduler α) : s.compact.commands = s.commands := by
  unfold compact
  split <;> rfl

/-- an entry that is put in its place is still there -/
theorem placed_perm {e : TimerEntry} {es : List TimerEntry} (hc : s.commands = e :: es) :
    (place e s.timers ++ es).Perm s.entries := by
  rw [entries, hc]
  exact ((place_perm e s.timers).append_right es).trans List.perm_middle.symm

theorem takeUp_entries (s : Scheduler α) : s.takeUp.entries.Subperm s.entries := by
  unfold takeUp
  split
  · exact List.Subperm.refl _
  · split
    · exact List.Subperm.refl _
    · rename_i hc
      refine List.Subperm.trans (List.Sublist.subperm ?_) (placed_perm hc).subperm
      rw [entries, compact_commands]
      exact (compact_timers _).append_right _

theorem claimNext_entries (s : Scheduler α) (elapsed : Nat) : (s.claimNext elapsed).2.entries.Sublist s.entries := by
  obtain ⟨htimers, hcommands⟩ := Clockwork.claimNext_timers s elapsed
  rw [entries, hcommands]
  exact htimers.append_right s.commands

theorem Distinct.claimMany (h : s.Distinct) (elapsed n : Nat) : (claimMany elapsed n s).2.Distinct := by
  induction n generalizing s with
  | zero => exact h
  | succ n ih => exact ih (h.subperm (claimNext_entries s elapsed).subperm)

/-! ## Entries of pending jobs -/

theorem isCurrent_iff {e : TimerEntry} :
    s.isCurrent e = true ↔ ∃ j, s.jobs.find? e.identity = some j ∧ j.generation = e.generation := by
  unfold isCurrent
  cases s.jobs.find? e.identity with
  | none => simp
  | some j => simp

/-- a pending job has one entry -/
theorem Tracked.exists_entry (h : s.Tracked) (hd : s.Distinct) {id : String} {j : Job α}
    (hj : s.jobs.find? id = some j) :
    ∃ e, s.entries.filter (fun e => e.identity = id ∧ e.generation = j.generation) = [e] := by
  obtain ⟨e, he, hid, hgen⟩ := h.entry id j hj
  refine ⟨e, List.perm_singleton.1 ((List.perm_ext_iff_of_nodup ?_ (List.nodup_singleton e)).2 fun u => ?_)⟩
  · exact (List.Nodup.of_map _ hd).filter _
  · simp only [List.mem_filter, decide_eq_true_eq, List.mem_singleton]
    constructor
    · rintro ⟨hu, -, hsame⟩
      exact List.inj_on_of_nodup_map hd hu he (hsame.trans hgen.symm)
    · rintro rfl
      exact ⟨he, hid, hgen⟩

/-- there are no more entries of pending jobs than there are pending jobs -/
theorem current_length_le (hd : s.Distinct) : (s.timers.filter s.isCurrent).length ≤ s.jobs.size := by
  have htimers : (s.timers.map TimerEntry.generation).Nodup :=
    hd.sublist ((List.sublist_append_left s.timers s.commands).map _)
  have hnodup : ((s.timers.filter s.isCurrent).map TimerEntry.identity).Nodup := by
    refine List.Nodup.map_on (fun e he u hu hid => ?_) ((List.Nodup.of_map _ htimers).filter _)
    obtain ⟨he, hcurrent⟩ := List.mem_filter.1 he
    obtain ⟨hu, hcurrent'⟩ := List.mem_filter.1 hu
    obtain ⟨j, hj, hgen⟩ := isCurrent_iff.1 hcurrent
    obtain ⟨j', hj', hgen'⟩ := isCurrent_iff.1 hcurrent'
    -- one identity has one job, and so one generation
    have hsame : j = j' := Option.some.inj (hj.symm.trans (hid ▸ hj'))
    exact List.inj_on_of_nodup_map htimers he hu (hgen.symm.trans (hsame ▸ hgen'))
  have hkeys : (s.timers.filter s.isCurrent).map TimerEntry.identity ⊆ s.jobs.keys := by
    intro id hid
    obtain ⟨e, he, rfl⟩ := List.mem_map.1 hid
    obtain ⟨j, hj, -⟩ := isCurrent_iff.1 (List.mem_filter.1 he).2
    exact Table.mem_keys_iff.2 ⟨j, hj⟩
  have hle := (hnodup.subperm hkeys).length_le
  simpa [Table.keys, Table.size] using hle

/-! ## Compaction -/

/-- a compaction does nothing as long as stale entries do not prevail, and else it keeps the entries of pending jobs -/
theorem compact_cases (s : Scheduler α) :
    s.compact.timers = s.timers ∧ s.timers.length ≤ 2 * s.jobs.size + compactSlack ∨
      s.compact.timers = s.timers.filter s.isCurrent := by
  unfold compact
  split
  · exact Or.inl ⟨rfl, ‹_›⟩
  · exact Or.inr rfl

/-- no entry of a pending job goes -/
theorem compact_filter (s : Scheduler α) : s.compact.timers.filter s.isCurrent = s.timers.filter s.isCurrent := by
  rcases s.compact_cases with ⟨hsame, -⟩ | hfilter
  · rw [hsame]
  · rw [hfilter, List.filter_filter]
    simp only [Bool.and_self]

theorem compact_length_le (hd : s.Distinct) : s.compact.timers.length ≤ 2 * s.jobs.size + compactSlack := by
  rcases s.compact_cases with ⟨hsame, hle⟩ | hfilter
  · rwa [hsame]
  · have hle := current_length_le hd
    rw [hfilter]
    omega

/-- taking up an entry is putting it in its place and then a compaction -/
theorem takeUp_eq_compact (hs : s.isShutDown = false) {e : TimerEntry} {es : List TimerEntry}
    (hc : s.commands = e :: es) :
    s.takeUp = { s with queuedTimers := s.timers.length, commands := es, timers := place e s.timers }.compact := by
  simp only [takeUp, hs, hc, Bool.false_eq_true, if_false]

theorem takeUp_length_le (hd : s.Distinct) (hs : s.isShutDown = false) (hc : s.commands ≠ []) :
    s.takeUp.timers.length ≤ 2 * s.takeUp.pendingCount + compactSlack := by
  obtain ⟨e, es, hc⟩ := List.exists_cons_of_ne_nil hc
  rw [pendingCount, takeUp_jobs, takeUp_eq_compact hs hc]
  exact compact_length_le (hd.subperm (placed_perm hc).subperm)

/-- what is claimed before an entry is taken up makes no difference -/
theorem turn_length_le (hd : s.Distinct) (hs : s.isShutDown = false) (hc : s.commands ≠ []) (elapsed : Nat) :
    (s.turn elapsed).2.timers.length ≤ 2 * (s.turn elapsed).2.pendingCount + compactSlack := by
  obtain ⟨n, hn⟩ := s.turn_eq_steps elapsed
  obtain ⟨hcommands, hshut⟩ := s.claimMany_commands elapsed n
  rw [hn]
  exact takeUp_length_le (hd.claimMany elapsed n) (hshut.trans hs) (hcommands ▸ hc)

end Scheduler

/-! ## Runs -/

namespace Clockwork

open Scheduler

variable {α : Type}

theorem step_distinct {w : Clockwork α} (htr : w.scheduler.Tracked) (h : w.scheduler.Distinct) (op : Op α) :
    (w.step op).2.scheduler.Distinct := by
  cases op with
  | schedule id endOfLife action =>
    simp only [step]
    split
    · rename_i s hs
      exact h.schedule htr hs
    · exact h
  | cancel id =>
    simp only [step, Scheduler.cancel]
    split
    · rename_i s hs
      split at hs
      · cases hs
        exact h
      · cases hs
    · exact h
  | shutdown =>
    simp only [step, Scheduler.shutdown]
    split <;> exact h
  | takeUp => exact h.subperm (takeUp_entries w.scheduler)
  | claim =>
    have hclaimed := h.subperm (claimNext_entries w.scheduler w.elapsed).subperm
    simp only [step]
    split <;> exact hclaimed
  | work reply =>
    simp only [step]
    split <;> exact h
  | pass => exact h

theorem run_distinct {w : Clockwork α} {t : Timetable α} (hk : Keeps w.scheduler t) (h : w.scheduler.Distinct)
    (ops : List (Op α)) : (w.run ops).2.scheduler.Distinct := by
  induction ops generalizing w t with
  | nil => exact h
  | cons op ops ih => exact ih (step_simulates hk op).2 (step_distinct hk.tracked h op)

/-- **Compaction is sound, and bounds the timer.** Whatever is scheduled, cancelled and replaced, and wherever the timer
stands in between, every pending job has one entry with its identity and generation, be it with the timer or not yet
taken up. Taking up an entry loses no entry of a pending job. It leaves at most twice as many entries as there are
pending jobs then, and 64, and so does a whole turn of the timer that takes one up. -/
theorem run_compacts (now : Timestamp) (ops : List (Op α)) :
    let s := ((begun now).run ops).2.scheduler
    (∀ id j, s.jobs.find? id = some j →
      ∃ e, s.entries.filter (fun e => e.identity = id ∧ e.generation = j.generation) = [e]) ∧
    ∀ e rest, s.isShutDown = false → s.commands = e :: rest →
      s.takeUp.timers.filter s.isCurrent = (place e s.timers).filter s.isCurrent ∧
      s.takeUp.timers.length ≤ 2 * s.takeUp.pendingCount + 64 ∧
      ∀ elapsed, (s.turn elapsed).2.timers.length ≤ 2 * (s.turn elapsed).2.pendingCount + 64 := by
  intro s
  have hstart : Keeps (begun now : Clockwork α).scheduler .empty := keeps_start
  have htracked : s.Tracked := (run_keeps hstart ops).2.tracked
  have hdistinct : s.Distinct := run_distinct hstart distinct_start ops
  refine ⟨fun id j hj => htracked.exists_entry hdistinct hj, fun e rest hopen hcommands => ?_⟩
  have hsome : s.commands ≠ [] := by simp [hcommands]
  refine ⟨?_, takeUp_length_le hdistinct hopen hsome, fun elapsed => turn_length_le hdistinct hopen hsome elapsed⟩
  rw [takeUp_eq_compact hopen hcommands]
  exact compact_filter { s with
    queuedTimers := s.timers.length, commands := rest, timers := place e s.timers }

end Clockwork

end EventBroker
