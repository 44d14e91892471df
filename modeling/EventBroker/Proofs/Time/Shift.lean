/-
How far time can be shifted.

Sums and differences of times stop at the ends of the word, but the microseconds of a span are cut to the word before
they are added, and what is cut off is a number of whole turns of the word (`Span.exists_turns`). So a shift is exact
for spans of less than `2 ^ 63` microseconds, some 292,000 years. A longer one counts as a shorter one, which may lead
the other way. A clock that is advanced does not stop at the ends either.

- `Timestamp.plus_exact_iff`, `Timestamp.minus_exact_iff`: just which shifts are exact.
- `Clock.advance_eq_plus_iff`: just when a clock is moved to where a shift leads.
- `Timestamp.le_plus_iff`, `Timestamp.minus_le_iff`: just which shifts lead the right way.
- `Timestamp.remainingSince_exact`: what remains until a time leads there, and is cut off at the end of the word.
- `Timestamp.shifts_saturate` puts them together.
-/
import EventBroker.Proofs.Time

namespace EventBroker

/-! ## Spans -/

namespace Span

/-- what a word cuts off is a number of whole turns -/
theorem exists_turns (d : Span) : ∃ turns : Nat, (d.wholeMicros : Int) = d.microsWord.toInt + 2 ^ 64 * turns := by
  have hword : d.microsWord.toInt = (d.wholeMicros : Int).bmod (2 ^ 64) := Int64.toInt_ofNat'
  have hlo := Int64.le_toInt d.microsWord
  have hhi := Int64.toInt_lt d.microsWord
  have hsplit := Int.bmod_add_bdiv (d.wholeMicros : Int) (2 ^ 64)
  rw [← hword] at hsplit
  refine ⟨((d.wholeMicros : Int).bdiv (2 ^ 64)).toNat, ?_⟩
  omega

/-- the word has all of a span just if the span is not too long -/
theorem microsWord_exact_iff (d : Span) : d.microsWord.toInt = d.wholeMicros ↔ d.wholeMicros < 2 ^ 63 := by
  obtain ⟨turns, hturns⟩ := d.exists_turns
  have hlo := Int64.le_toInt d.microsWord
  have hhi := Int64.toInt_lt d.microsWord
  omega

end Span

/-! ## Shifts -/

namespace Timestamp

variable (t now : Timestamp) (d d' : Span)

theorem toInt_plus : (t.plus d).micros.toInt = nearestInWord (t.micros.toInt + d.microsWord.toInt) :=
  toInt_clampWord _

theorem toInt_minus : (t.minus d).micros.toInt = nearestInWord (t.micros.toInt - d.microsWord.toInt) :=
  toInt_clampWord _

/-- a shift forward is exact for spans that are not too long, and where it happens to stop at the end all the same -/
theorem plus_exact_iff : (t.plus d).micros.toInt = nearestInWord (t.micros.toInt + d.wholeMicros) ↔
    d.wholeMicros < 2 ^ 63 ∨ 2 ^ 63 - 1 ≤ t.micros.toInt + d.microsWord.toInt := by
  obtain ⟨turns, hturns⟩ := d.exists_turns
  have hword := Int64.toInt_lt d.microsWord
  have hlo := Int64.le_toInt d.microsWord
  have ht := Int64.le_toInt t.micros
  rw [toInt_plus]
  unfold nearestInWord
  omega

theorem minus_exact_iff : (t.minus d).micros.toInt = nearestInWord (t.micros.toInt - d.wholeMicros) ↔
    d.wholeMicros < 2 ^ 63 ∨ t.micros.toInt - d.microsWord.toInt ≤ -2 ^ 63 := by
  obtain ⟨turns, hturns⟩ := d.exists_turns
  have hword := Int64.toInt_lt d.microsWord
  have hlo := Int64.le_toInt d.microsWord
  have ht := Int64.toInt_lt t.micros
  rw [toInt_minus]
  unfold nearestInWord
  omega

/-- a shift forward does not lead back, unless the word of the span is negative -/
theorem le_plus_iff : t.micros ≤ (t.plus d).micros ↔ 0 ≤ d.microsWord.toInt ∨ t.micros.toInt = -2 ^ 63 := by
  have hlo := Int64.le_toInt t.micros
  have hhi := Int64.toInt_lt t.micros
  rw [Int64.le_iff_toInt_le, toInt_plus]
  unfold nearestInWord
  omega

theorem minus_le_iff : (t.minus d).micros ≤ t.micros ↔ 0 ≤ d.microsWord.toInt ∨ t.micros.toInt = 2 ^ 63 - 1 := by
  have hlo := Int64.le_toInt t.micros
  have hhi := Int64.toInt_lt t.micros
  rw [Int64.le_iff_toInt_le, toInt_minus]
  unfold nearestInWord
  omega

/-- a span leads further than another one if its word is greater, or one of them leads to an end -/
theorem plus_le_plus_iff : (t.plus d).micros ≤ (t.plus d').micros ↔
    d.microsWord.toInt ≤ d'.microsWord.toInt ∨ t.micros.toInt + d.microsWord.toInt ≤ -2 ^ 63 ∨
      2 ^ 63 - 1 ≤ t.micros.toInt + d'.microsWord.toInt := by
  rw [Int64.le_iff_toInt_le, toInt_plus, toInt_plus]
  unfold nearestInWord
  omega

theorem minus_le_minus_iff : (t.minus d').micros ≤ (t.minus d).micros ↔
    d.microsWord.toInt ≤ d'.microsWord.toInt ∨ t.micros.toInt - d'.microsWord.toInt ≤ -2 ^ 63 ∨
      2 ^ 63 - 1 ≤ t.micros.toInt - d.microsWord.toInt := by
  rw [Int64.le_iff_toInt_le, toInt_minus, toInt_minus]
  unfold nearestInWord
  omega

end Timestamp

/-- a clock is advanced to where a shift leads as long as it need not stop at an end -/
theorem Clock.advance_eq_plus_iff (c : Clock) (d : Span) : (c.advance d).now = c.now.plus d ↔
    -2 ^ 63 ≤ c.now.micros.toInt + d.microsWord.toInt ∧ c.now.micros.toInt + d.microsWord.toInt < 2 ^ 63 := by
  have hsum : (c.advance d).now.micros.toInt = (c.now.micros.toInt + d.microsWord.toInt).bmod (2 ^ 64) :=
    Int64.toInt_add _ _
  have hlo := Int64.le_toInt (c.advance d).now.micros
  have hhi := Int64.toInt_lt (c.advance d).now.micros
  have hword : (c.advance d).now = c.now.plus d ↔
      (c.advance d).now.micros.toInt = (c.now.plus d).micros.toInt := by
    rw [Int64.toInt_inj]
    exact ⟨congrArg _, fun h => congrArg Timestamp.mk h⟩
  rw [hword, Timestamp.toInt_plus]
  constructor
  · intro h
    -- the sum and its word differ by whole turns, and two numbers in the word do not
    have hsplit := Int.bmod_add_bdiv (c.now.micros.toInt + d.microsWord.toInt) (2 ^ 64)
    rw [← hsum, h] at hsplit
    have hc := Int64.le_toInt c.now.micros
    have hc' := Int64.toInt_lt c.now.micros
    have hd := Int64.le_toInt d.microsWord
    have hd' := Int64.toInt_lt d.microsWord
    unfold nearestInWord at hsplit
    omega
  · intro h
    rw [hsum, Int.bmod_eq_of_le (by omega) (by omega)]
    unfold nearestInWord
    omega

/-! ## What remains -/

namespace Timestamp

variable (t now : Timestamp)

theorem remainingSince_eq_none_iff : t.remainingSince now = none ↔ t.micros ≤ now.micros := by
  rw [remainingSince_eq, Int64.le_iff_toInt_le]
  unfold nearestInWord
  split
  · simp only [reduceCtorEq, false_iff]
    omega
  · simp only [true_iff]
    omega

/-- what remains leads to the time, and it is cut off at the end of the word if the time is too far away for that -/
theorem remainingSince_exact {left : Span} (h : t.remainingSince now = some left) :
    (t.micros.toInt - now.micros.toInt < 2 ^ 63 → now.plus left = t) ∧
      (2 ^ 63 ≤ t.micros.toInt - now.micros.toInt → left = Span.ofMicros (2 ^ 63 - 1)) := by
  rw [remainingSince_eq] at h
  split at h
  · rename_i hpos
    cases h
    refine ⟨fun hnear => ?_, fun hfar => ?_⟩
    · have hleft : nearestInWord (t.micros.toInt - now.micros.toInt) = t.micros.toInt - now.micros.toInt := by
        unfold nearestInWord at hpos ⊢
        omega
      rw [hleft] at hpos ⊢
      have hwhole := Span.wholeMicros_ofMicros (t.micros.toInt - now.micros.toInt).toNat
      have hword := (Span.microsWord_exact_iff (Span.ofMicros (t.micros.toInt - now.micros.toInt).toNat)).2 (by omega)
      have hlo := Int64.le_toInt t.micros
      have hhi := Int64.toInt_lt t.micros
      refine congrArg Timestamp.mk (Int64.toInt_inj.1 ?_)
      have hplus := toInt_plus now (Span.ofMicros (t.micros.toInt - now.micros.toInt).toNat)
      refine hplus.trans ?_
      unfold nearestInWord
      omega
    · have hend : nearestInWord (t.micros.toInt - now.micros.toInt) = 2 ^ 63 - 1 := by
        unfold nearestInWord
        omega
      rw [hend]
      rfl
  · cases h

/-- **Shifts saturate.** By a span of less than `2 ^ 63` microseconds a time is shifted exactly, up to the ends of the
word, not to the other side, and not further by a shorter span. By a longer one it is shifted exactly only where it
stops at the end all the same, and it is shifted to the other side just if the word of the span is negative, unless it
is there at the end already. A clock is advanced to where the shift leads as long as the shift need not stop. What
remains until a time is nothing just if the time has come; else it leads there, and is as long as can be if the time is
too far away for that. -/
theorem shifts_saturate (t now : Timestamp) (d d' : Span) :
    (d.wholeMicros < 2 ^ 63 →
      (t.plus d).micros.toInt = nearestInWord (t.micros.toInt + d.wholeMicros) ∧
      (t.minus d).micros.toInt = nearestInWord (t.micros.toInt - d.wholeMicros) ∧
      t.micros ≤ (t.plus d).micros ∧ (t.minus d).micros ≤ t.micros ∧
      (d'.wholeMicros ≤ d.wholeMicros →
        (t.plus d').micros ≤ (t.plus d).micros ∧ (t.minus d).micros ≤ (t.minus d').micros)) ∧
    ((t.plus d).micros.toInt = nearestInWord (t.micros.toInt + d.wholeMicros) ↔
      d.wholeMicros < 2 ^ 63 ∨ 2 ^ 63 - 1 ≤ t.micros.toInt + d.microsWord.toInt) ∧
    ((t.minus d).micros.toInt = nearestInWord (t.micros.toInt - d.wholeMicros) ↔
      d.wholeMicros < 2 ^ 63 ∨ t.micros.toInt - d.microsWord.toInt ≤ -2 ^ 63) ∧
    (t.micros ≤ (t.plus d).micros ↔ 0 ≤ d.microsWord.toInt ∨ t.micros.toInt = -2 ^ 63) ∧
    ((t.minus d).micros ≤ t.micros ↔ 0 ≤ d.microsWord.toInt ∨ t.micros.toInt = 2 ^ 63 - 1) ∧
    (((Clock.mk t).advance d).now = t.plus d ↔
      -2 ^ 63 ≤ t.micros.toInt + d.microsWord.toInt ∧ t.micros.toInt + d.microsWord.toInt < 2 ^ 63) ∧
    (t.remainingSince now = none ↔ t.micros ≤ now.micros) ∧
    ∀ left, t.remainingSince now = some left →
      (t.micros.toInt - now.micros.toInt < 2 ^ 63 → now.plus left = t) ∧
      (2 ^ 63 ≤ t.micros.toInt - now.micros.toInt → left = Span.ofMicros (2 ^ 63 - 1)) := by
  refine ⟨fun hshort => ?_, t.plus_exact_iff d, t.minus_exact_iff d, t.le_plus_iff d, t.minus_le_iff d,
    (Clock.mk t).advance_eq_plus_iff d, t.remainingSince_eq_none_iff now, fun left => t.remainingSince_exact now⟩
  have hword : d.microsWord.toInt = d.wholeMicros := d.microsWord_exact_iff.2 hshort
  refine ⟨(t.plus_exact_iff d).2 (Or.inl hshort), (t.minus_exact_iff d).2 (Or.inl hshort),
    (t.le_plus_iff d).2 (Or.inl (by omega)), (t.minus_le_iff d).2 (Or.inl (by omega)), fun hle => ?_⟩
  have hword' : d'.microsWord.toInt = d'.wholeMicros := d'.microsWord_exact_iff.2 (by omega)
  have hwords : d'.microsWord.toInt ≤ d.microsWord.toInt := by omega
  exact ⟨(t.plus_le_plus_iff d' d).2 (Or.inl hwords), (t.minus_le_minus_iff d' d).2 (Or.inl hwords)⟩

/-- the shortest span that is too long leads from the epoch to the beginning of time -/
example : (Timestamp.plus ⟨0⟩ ⟨9223372036854, 775808000⟩).micros = Int64.minValue := by decide

end Timestamp

end EventBroker
