/-
How long is left.

Differences of timestamps stop at the ends of the word. So what is left until a time is exact as long as `now` is not
before the epoch: then a job waits exactly as long as its end is away, and not at all if its end has passed.
-/
import Mathlib.Algebra.Group.Int.Defs
import Mathlib.Algebra.Group.Nat.Defs
import Mathlib.Tactic.Common
import EventBroker.Scheduler

namespace EventBroker

/-- the number nearest to `n` that is a count of microseconds in a word -/
def nearestInWord (n : Int) : Int := max (-2 ^ 63) (min n (2 ^ 63 - 1))

theorem toInt_clampWord (n : Int) : (clampWord n).toInt = nearestInWord n := by
  unfold clampWord nearestInWord
  rw [Int64.toInt_minValue, Int64.toInt_maxValue]
  split
  · rw [Int64.toInt_minValue]
    omega
  · split
    · rw [Int64.toInt_maxValue]
      omega
    · rw [Int64.toInt_ofInt_of_le (by omega) (by omega)]
      omega

theorem Span.wholeMicros_ofMicros (n : Nat) : (Span.ofMicros n).wholeMicros = n := by
  simp only [Span.ofMicros, Span.wholeMicros]
  omega

theorem Timestamp.remainingSince_eq (t now : Timestamp) : t.remainingSince now =
    if 0 < nearestInWord (t.micros.toInt - now.micros.toInt)
    then some (Span.ofMicros (nearestInWord (t.micros.toInt - now.micros.toInt)).toNat) else none := by
  unfold remainingSince
  rw [toInt_clampWord]

namespace Scheduler

/-- a job waits for what is left until its end, as far as a word counts, and not at all if nothing is -/
theorem delay_eq_toNat (now t : Timestamp) :
    delay now t = (min (t.micros.toInt - now.micros.toInt) (2 ^ 63 - 1)).toNat := by
  unfold delay
  rw [Timestamp.remainingSince_eq]
  unfold nearestInWord
  split
  · rw [Option.map_some, Option.getD_some, Span.wholeMicros_ofMicros]
    omega
  · rw [Option.map_none, Option.getD_none]
    omega

/-- from the epoch on, a job waits as long as its end is away -/
theorem delay_eq (now t : Timestamp) (h : 0 ≤ now.micros.toInt) :
    delay now t = (t.micros.toInt - now.micros.toInt).toNat := by
  have hhi := Int64.toInt_lt t.micros
  rw [delay_eq_toNat]
  omega

end Scheduler

end EventBroker
