/-
The number that a JSON numeral stands for.

The digits are gathered in an unsigned word of 64 bits for as long as they fit; later digits of the whole part count as
zeros and later digits of the fraction are passed over. A numeral without fraction and exponent that fits an integer of
64 bits is one. Any other is the gathered word as a double, multiplied or divided by a power of ten in double
arithmetic, which is refused when it is infinite.
-/
import EventBroker.Json.Basic

namespace EventBroker.Json

/-- a numeral as it is written: digits before the point, digits behind it, and a signed exponent -/
structure Numeral where
  negative : Bool
  whole : List Nat
  fraction : Option (List Nat)
  exponent : Option (Bool × List Nat)

namespace Numeral

def wordLimit : Nat := 0x10000000000000000

/-- gather digits while they fit; the digits left over -/
def gather (acc : Nat) : List Nat → Nat × List Nat
  | [] => (acc, [])
  | d :: ds => if acc * 10 + d < wordLimit then gather (acc * 10 + d) ds else (acc, d :: ds)

/-- ten to a power of at most 308, as the nearest double -/
def tenTo (n : Nat) : Float := Float.ofScientific 1 false n

/-- divide by ten `n` times over, at most 308 times in one division -/
def scaleDown (x : Float) (n : Nat) : Float :=
  if n ≤ 308 then x / tenTo n
  else if x == 0.0 then x
  else scaleDown (x / tenTo 308) (n - 308)
  termination_by n
  decreasing_by omega

/-- the gathered word times a power of ten -/
def scaled? (word : Nat) (exponent : Int) : Option Float :=
  let x := (UInt64.ofNat word).toFloat
  if exponent < 0 then some (scaleDown x exponent.natAbs)
  else if exponent ≤ 308 then
    let y := x * tenTo exponent.toNat
    if y.isInf then none else some y
  else if word = 0 then some x
  else none

/-- the greatest exponent that is looked at digit by digit -/
def exponentLimit : Nat := 0x7FFFFFFF

def exponentOf (ds : List Nat) : Nat := ds.foldl (fun n d => min (n * 10 + d) (exponentLimit + 1)) 0

/-- the double of a gathered word, with the exponent found so far and the one that is written -/
def double? (negative : Bool) (word : Nat) (found : Int) (written : Option (Bool × List Nat)) : Option Value :=
  let signed (x : Float) : Value := .double (if negative then -x else x).toBits
  match written with
  | none => (scaled? word found).map signed
  | some (minus, ds) =>
    let e := exponentOf ds
    if exponentLimit < e then
      if word ≠ 0 ∧ !minus then none else some (signed 0.0)
    else (scaled? word (if minus then found - e else found + e)).map signed

/-- the number that a numeral stands for, if a double can hold it -/
def value? (n : Numeral) : Option Value :=
  let (word, late) := gather 0 n.whole
  match n.fraction, n.exponent, late with
  | none, none, [] =>
    if !n.negative then some (.int word)
    else if 0 < word ∧ word ≤ 0x8000000000000000 then some (.int (-(word : Int)))
    else double? true word 0 none
  | none, written, late => double? n.negative word late.length written
  | some ds, written, late =>
    let (word', passed) := gather word ds
    double? n.negative word' ((late.length : Int) - (ds.length - passed.length : Nat)) written

end Numeral

end EventBroker.Json
