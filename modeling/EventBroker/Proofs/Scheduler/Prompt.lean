/-
A job that is due is claimed by the timer's next round.

In a round the timer takes up every entry that it was told of, and between them it takes out those that are due. A
pending job whose entries are due (`Waits`) is claimed by a step or waits on. The last turn leaves no entry that is due
(`turn_later`), and so a job that has waited until then is claimed (`advance_claims`). An end that has passed makes a
job due at once, wherever the clock stands (`delay_eq_zero`).
-/
import EventBroker.Proofs.Scheduler.Timetable

namespace EventBroker.Scheduler

variable {α : Type} {s : Scheduler α} {elapsed : Nat} {c : Claimed α}

/-- what has passed by the clock is due at once -/
theorem delay_eq_zero {now t : Timestamp} (h : t.micros.toInt ≤ now.micros.toInt) : delay now t = 0 := by
  rw [delay_eq_toNat]
  omega

/-! ## Waiting to be claimed -/

/-- the job is pending, and all entries that belong to it are due -/
def Waits (s : Scheduler α) (elapsed : Nat) (c : Claimed α) : Prop :=
  ∃ j, s.jobs.find? c.identity = some j ∧ j.endOfLife = c.endOfLife ∧ j.action = c.action ∧
    ∀ e ∈ s.entries, e.identity = c.identity → e.generation = j.generation → e.due ≤ elapsed

namespace Waits

theorem takeUp (h : s.Waits elapsed c) : s.takeUp.Waits elapsed c := by
  obtain ⟨j, hj, hend, haction, hdue⟩ := h
  exact ⟨j, s.takeUp_jobs ▸ hj, hend, haction, fun e he => hdue e (s.takeUp_thinner.entries e he)⟩

theorem claimNext (h : s.Waits elapsed c) :
    (s.claimNext elapsed).1 = some c ∨ (s.claimNext elapsed).2.Waits elapsed c := by
  obtain ⟨j, hj, hend, haction, hdue⟩ := h
  have hkept := fun e he => hdue e ((s.claimNext_thinner elapsed).entries e he)
  rcases s.claimNext_cases elapsed with ⟨-, hjobs⟩ | ⟨t, -, i, hi, -, -, hclaimed, hjobs⟩
  · exact Or.inr ⟨j, hjobs ▸ hj, hend, haction, hkept⟩
  · by_cases hid : t.identity = c.identity
    · rw [hid, hj] at hi
      cases hi
      refine Or.inl (hclaimed.trans (congrArg some ?_))
      rw [hid, hend, haction]
    · refine Or.inr ⟨j, ?_, hend, haction, hkept⟩
      rw [hjobs, Table.find?_erase, if_neg fun heq => hid heq.symm]
      exact hj

theorem claimMany (h : s.Waits elapsed c) (n : Nat) :
    c ∈ (claimMany elapsed n s).1 ∨ (Scheduler.claimMany elapsed n s).2.Waits elapsed c := by
  induction n generalizing s with
  | zero => exact Or.inr h
  | succ n ih =>
    rcases h.claimNext with hclaimed | hwaits
    · exact Or.inl (List.mem_append_left _ (Option.mem_toList.2 hclaimed))
    · exact (ih hwaits).imp_left (List.mem_append_right _)

theorem turn (h : s.Waits elapsed c) : c ∈ (s.turn elapsed).1 ∨ (s.turn elapsed).2.Waits elapsed c := by
  obtain ⟨n, hn⟩ := s.turn_eq_steps elapsed
  rw [hn]
  exact (h.claimMany n).imp_right takeUp

end Waits

/-! ## Rounds of the timer -/

/-- the timer has an entry for each pending job, and its entries in the order in which they are due -/
structure Timed (s : Scheduler α) : Prop where
  tracked : s.Tracked
  ordered : Clockwork.Ordered s

namespace Timed

theorem schedule {s' : Scheduler α} {now t : Timestamp} {id : String} {a : α} (h : s.Timed)
    (hs : s.schedule elapsed now id t a = .ok s') : s'.Timed := by
  refine ⟨h.tracked.schedule hs, ?_⟩
  obtain ⟨-, rfl⟩ := schedule_eq_ok_iff.1 hs
  exact h.ordered

theorem claimMany (h : s.Timed) (elapsed n : Nat) : (claimMany elapsed n s).2.Timed := by
  induction n generalizing s with
  | zero => exact h
  | succ n ih =>
    have hordered := h.ordered.sublist (Clockwork.claimNext_timers s elapsed).1
    exact ih ⟨h.tracked.thinner (s.claimNext_thinner elapsed), hordered⟩

theorem turn (h : s.Timed) (elapsed : Nat) : (s.turn elapsed).2.Timed := by
  obtain ⟨n, hn⟩ := s.turn_eq_steps elapsed
  rw [hn]
  have hclaimed := h.claimMany elapsed n
  exact ⟨hclaimed.tracked.thinner (takeUp_thinner _), hclaimed.ordered.takeUp⟩

end Timed

theorem claimMany_commands (s : Scheduler α) (elapsed n : Nat) :
    (claimMany elapsed n s).2.commands = s.commands ∧ (claimMany elapsed n s).2.isShutDown = s.isShutDown := by
  induction n generalizing s with
  | zero => exact ⟨rfl, rfl⟩
  | succ n ih =>
    obtain ⟨hcommands, hshut⟩ := ih (s.claimNext elapsed).2
    exact ⟨hcommands.trans (Clockwork.claimNext_timers s elapsed).2, hshut.trans (s.claimNext_isShutDown elapsed)⟩

theorem takeUp_commands (hs : s.isShutDown = false) : s.takeUp.commands = s.commands.tail := by
  cases hc : s.commands with
  | nil => simp only [takeUp, hs, hc, Bool.false_eq_true, if_false, List.tail_nil]
  | cons t ts =>
    simp only [takeUp, hs, hc, compact, Bool.false_eq_true, if_false]
    split <;> rfl

/-- a turn takes up one entry -/
theorem turn_commands (hs : s.isShutDown = false) (elapsed : Nat) :
    (s.turn elapsed).2.isShutDown = false ∧ (s.turn elapsed).2.commands = s.commands.tail := by
  obtain ⟨n, hn⟩ := s.turn_eq_steps elapsed
  obtain ⟨hcommands, hshut⟩ := s.claimMany_commands elapsed n
  rw [hn]
  exact ⟨(takeUp_isShutDown _).trans (hshut.trans hs), hcommands ▸ takeUp_commands (hshut.trans hs)⟩

theorem claimAll_commands (s : Scheduler α) (ts : List TimerEntry) : (s.claimAll ts).2.commands = s.commands := by
  have hclaim : ∀ (s : Scheduler α) t, (s.claim t).2.commands = s.commands := by
    intro s t
    unfold claim
    split
    · split <;> rfl
    · rfl
  induction ts generalizing s with
  | nil => rfl
  | cons t ts ih => exact (ih (s.claim t).2).trans (hclaim s t)

/-- what is due is taken out, and of entries in order the others are due later -/
theorem fireDue_later (hord : Clockwork.Ordered s) : ∀ e ∈ (s.fireDue elapsed).2.timers, elapsed < e.due := by
  have hrest : (s.fireDue elapsed).2.timers = s.timers.dropWhile fun t => decide (t.due ≤ elapsed) := by
    have hdrop := List.prefix_iff_eq_append.1 (List.takeWhile_prefix (l := s.timers) fun t => decide (t.due ≤ elapsed))
    refine Eq.trans ?_ (List.append_cancel_left (hdrop.trans List.takeWhile_append_dropWhile.symm))
    unfold fireDue
    dsimp only
    rw [claimAll_timers]
  have hord : (s.timers.dropWhile fun t => decide (t.due ≤ elapsed)).Pairwise fun a b => a.due ≤ b.due :=
    List.Pairwise.sublist (List.dropWhile_sublist _) hord
  intro e he
  rw [hrest] at he
  have hsome := List.ne_nil_of_mem he
  have hfirst : elapsed < ((s.timers.dropWhile fun t => decide (t.due ≤ elapsed)).head hsome).due := by
    simpa using List.head_dropWhile_not (fun t : TimerEntry => decide (t.due ≤ elapsed)) hsome
  obtain ⟨t, ts, hleft⟩ := List.exists_cons_of_ne_nil hsome
  simp only [hleft, List.head_cons] at hfirst
  rw [hleft] at he hord
  rcases List.mem_cons.1 he with rfl | he
  · exact hfirst
  · exact Nat.lt_of_lt_of_le hfirst ((List.pairwise_cons.1 hord).1 e he)

/-- with nothing to take up, a turn leaves no entry that is due -/
theorem turn_later (hs : s.isShutDown = false) (hord : Clockwork.Ordered s) (hnone : s.commands = []) :
    ∀ e ∈ (s.turn elapsed).2.entries, elapsed < e.due := by
  have hcommands : (s.fireDue elapsed).2.commands = [] := (claimAll_commands _ _).trans hnone
  have hturn : s.turn elapsed = s.fireDue elapsed := by
    unfold turn
    rw [if_neg (Bool.eq_false_iff.1 hs)]
    dsimp only
    rw [hcommands]
  intro e he
  rw [hturn, entries, hcommands, List.append_nil] at he
  exact fireDue_later hord e he

theorem turns_claim (h : s.Timed) (hs : s.isShutDown = false) (hc : s.Waits elapsed c) {n : Nat}
    (hn : s.commands.length ≤ n) : c ∈ (turns elapsed (n + 1) s).1 := by
  induction n generalizing s with
  | zero =>
    rcases hc.turn with hclaimed | ⟨j, hj, -, -, hdue⟩
    · exact List.mem_append_left _ hclaimed
    · -- no entry is left that could be the job's
      have hnone : s.commands = [] := List.eq_nil_of_length_eq_zero (Nat.le_zero.1 hn)
      obtain ⟨e, he, hid, hgen⟩ := (h.turn elapsed).tracked.entry c.identity j hj
      exact absurd (hdue e he hid hgen) (Nat.not_le.2 (turn_later hs h.ordered hnone e he))
  | succ n ih =>
    rcases hc.turn with hclaimed | hwaits
    · exact List.mem_append_left _ hclaimed
    · obtain ⟨hopen, hcommands⟩ := turn_commands hs elapsed
      have hfewer : (s.turn elapsed).2.commands.length ≤ n := by
        rw [hcommands, List.length_tail]
        omega
      exact List.mem_append_right _ (ih (h.turn elapsed) hopen hwaits hfewer)

/-- **Prompt.** A round of the timer claims every job that is due. -/
theorem advance_claims (h : s.Timed) (hs : s.isShutDown = false) (hc : s.Waits elapsed c) :
    c ∈ (s.advance elapsed).1 :=
  turns_claim h hs hc (Nat.le_refl _)

end EventBroker.Scheduler
