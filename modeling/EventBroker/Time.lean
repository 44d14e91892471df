/-
Points in time, spans of time and a clock that is moved by hand.

A timestamp counts microseconds from the epoch in a signed 64-bit word. Scaling and shifting a timestamp stop at the
ends of that word; the microseconds of a span are cut to the word first, and a clock that is advanced wraps around.
-/

namespace EventBroker

/-- microseconds since the epoch -/
structure Timestamp where
  micros : Int64
  deriving DecidableEq, Hashable, Inhabited

/-- a length of time; `nanos` may exceed a second, in which case it counts on top of `secs` -/
structure Span where
  secs : Nat
  nanos : Nat
  deriving DecidableEq

/-- the 64-bit word nearest to `n` -/
def clampWord (n : Int) : Int64 :=
  if n < Int64.minValue.toInt then Int64.minValue
  else if Int64.maxValue.toInt < n then Int64.maxValue
  else Int64.ofInt n

namespace Span

/-- the whole microseconds of a span, exactly -/
def wholeMicros (d : Span) : Nat :=
  d.secs * 1000000 + d.nanos / 1000

/-- the low 64 bits of the whole microseconds, read as a signed word -/
def microsWord (d : Span) : Int64 :=
  Int64.ofNat d.wholeMicros

/-- a span of so many microseconds -/
def ofMicros (n : Nat) : Span :=
  ⟨n / 1000000, n % 1000000 * 1000⟩

def zero : Span := ⟨0, 0⟩

end Span

namespace Timestamp

/-- scaling stops at the ends of the word -/
def ofMillis (n : Int64) : Timestamp :=
  ⟨clampWord (n.toInt * 1000)⟩

def ofSecs (n : Int64) : Timestamp :=
  ⟨clampWord (n.toInt * 1000000)⟩

/-- whole milliseconds, rounded toward the epoch -/
def toMillis (t : Timestamp) : Int :=
  t.micros.toInt.tdiv 1000

/-- shift forward; the sum stops at the ends of the word -/
def plus (t : Timestamp) (d : Span) : Timestamp :=
  ⟨clampWord (t.micros.toInt + d.microsWord.toInt)⟩

/-- shift backward; the difference stops at the ends of the word -/
def minus (t : Timestamp) (d : Span) : Timestamp :=
  ⟨clampWord (t.micros.toInt - d.microsWord.toInt)⟩

/-- the time left at `now`, if any is left -/
def remainingSince (t now : Timestamp) : Option Span :=
  let left := (clampWord (t.micros.toInt - now.micros.toInt)).toInt
  if 0 < left then some (Span.ofMicros left.toNat) else none

/-- the count of microseconds in decimal -/
def render (t : Timestamp) : String :=
  toString t.micros.toInt

/-- the form shown to a programmer -/
def describe (t : Timestamp) : String :=
  "Timestamp(" ++ t.render ++ ")"

end Timestamp

/-- a clock that moves only when told to -/
structure Clock where
  now : Timestamp
  deriving DecidableEq

namespace Clock

def set (_ : Clock) (t : Timestamp) : Clock := ⟨t⟩

/-- advancing adds in 64-bit arithmetic, without a stop at the ends -/
def advance (c : Clock) (d : Span) : Clock :=
  ⟨⟨c.now.micros + d.microsWord⟩⟩

end Clock

end EventBroker
