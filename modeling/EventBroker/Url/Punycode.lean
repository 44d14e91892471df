/-
Labels of domain names in ASCII.

A label is written as its ASCII characters followed by numbers that say which other characters go where. A number is
written with the lowest digit first in a base that changes from digit to digit.
-/

namespace EventBroker.Url.Punycode

/-- the first code point that is not ASCII -/
def firstCode : Nat := 0x80

def lastCode : Nat := 0x10FFFF

def digitChar (d : Nat) : Char :=
  if d < 26 then Char.ofNat ('a'.toNat + d) else Char.ofNat ('0'.toNat + (d - 26))

def digit? (c : Char) : Option Nat :=
  if c.isLower then some (c.toNat - 'a'.toNat)
  else if c.isUpper then some (c.toNat - 'A'.toNat)
  else if c.isDigit then some (c.toNat - '0'.toNat + 26)
  else none

/-- the least digit that another one follows, at a place in the number -/
def threshold (bias place : Nat) : Nat := min 26 (max 1 (place - bias))

/-- divide by 35 while the quotient is large, and count 36 for each time -/
def shrink : (fuel delta steps : Nat) → Nat × Nat
  | 0, delta, steps => (delta, steps)
  | fuel + 1, delta, steps => if 455 < delta then shrink fuel (delta / 35) (steps + 36) else (delta, steps)

/-- the bias after a number, given how many characters there are then -/
def nextBias (delta count : Nat) (first : Bool) : Nat :=
  let delta := if first then delta / 700 else delta / 2
  let (delta, steps) := shrink 64 (delta + delta / count) 0
  steps + 36 * delta / (delta + 38)

/-- numbers stay below this bound -/
def bound : Nat := 0x100000000

/-! ## Reading -/

/-- a number from the front of a label, its digits on from `place` being worth `weight` a unit -/
def readNumber (bias : Nat) : (place weight acc : Nat) → List Char → Option (Nat × List Char)
  | _, _, _, [] => none
  | place, weight, acc, c :: cs => do
    let d ← digit? c
    let acc := acc + d * weight
    let t := threshold bias place
    if bound ≤ acc then none
    else if d < t then return (acc, cs)
    else if bound ≤ weight * (36 - t) then none
    else readNumber bias (place + 36) (weight * (36 - t)) acc cs

/-- put the characters that numbers describe into a label, the next one of a code not below `code`, at `place` or after
it -/
def insertAll : (fuel code place bias : Nat) → (label : List Nat) → List Char → Option (List Nat)
  | _, _, _, _, label, [] => some label
  | 0, _, _, _, _, _ => none
  | fuel + 1, code, place, bias, label, c :: cs => do
    let (delta, cs) ← readNumber bias 36 1 0 (c :: cs)
    let count := label.length + 1
    let code := code + (place + delta) / count
    let spot := (place + delta) % count
    if lastCode < code ∨ 0xD800 ≤ code ∧ code < 0xE000 then none
    else
      insertAll fuel code (spot + 1) (nextBias delta count (place == 0)) (label.take spot ++ code :: label.drop spot) cs

/-- the label that a text stands for -/
def decode (cs : List Char) : Option (List Nat) :=
  let numbers := (cs.reverse.takeWhile (· != '-')).reverse
  let ascii := cs.take (cs.length - numbers.length - 1)
  insertAll cs.length firstCode 0 72 (ascii.map Char.toNat) (if ascii.isEmpty then cs else numbers)

/-! ## Writing -/

/-- the digits of a number -/
def writeNumber (bias : Nat) : (fuel place n : Nat) → List Char
  | 0, _, _ => []
  | fuel + 1, place, n =>
    let t := threshold bias place
    if n < t then [digitChar n]
    else digitChar (t + (n - t) % (36 - t)) :: writeNumber bias fuel (place + 36) ((n - t) / (36 - t))

/-- how far the writing of a label has come -/
structure Progress where
  delta : Nat
  bias : Nat
  /-- the characters written -/
  count : Nat
  digits : List Char

/-- pass over one character of the label while those of a code are written -/
def pass (ascii code : Nat) (p : Progress) (c : Nat) : Progress :=
  if c < code then { p with delta := p.delta + 1 }
  else if c = code then
    ⟨0, nextBias p.delta (p.count + 1) (p.count == ascii), p.count + 1, p.digits ++ writeNumber p.bias 16 36 p.delta⟩
  else p

/-- write the characters of each code in turn, `code` being the least one not yet written -/
def writeCodes (label : List Nat) (ascii : Nat) : (code : Nat) → List Nat → Progress → Progress
  | _, [], p => p
  | code, next :: codes, p =>
    let p := { p with delta := p.delta + (next - code) * (p.count + 1) }
    let p := label.foldl (pass ascii next) p
    writeCodes label ascii (next + 1) codes { p with delta := p.delta + 1 }

/-- a label in ASCII -/
def encode (label : List Nat) : List Char :=
  let ascii := (label.filter (· < firstCode)).map Char.ofNat
  let codes := ((label.filter (firstCode ≤ ·)).mergeSort (· ≤ ·)).eraseDups
  let start := if ascii.isEmpty then [] else ascii ++ ['-']
  start ++ (writeCodes label ascii.length firstCode codes ⟨0, 72, ascii.length, []⟩).digits

end EventBroker.Url.Punycode
