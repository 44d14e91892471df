/-
Canonical composition of texts.

`composed` takes every code point apart, puts marks into their order and joins what has a joint form. Texts are lists of
code points here.
-/
import EventBroker.Unicode.CodeSet
import EventBroker.Unicode.Data.Normalization
import Std.Data.HashMap

namespace EventBroker.Unicode

/-! ## Tables -/

/-- entries `(code point, parts)`, given the code point of the entry before -/
def decompositionsFrom : (fuel code : Nat) → List Nat → List (Nat × List Nat)
  | fuel + 1, code, delta :: count :: rest =>
    (code + delta, rest.take count) :: decompositionsFrom fuel (code + delta) (rest.drop count)
  | _, _, _ => []

/-- what code points are made of; one that is not listed is made of itself -/
def decompositions : Std.HashMap Nat (List Nat) :=
  let numbers := readNumbers Data.decompositions
  Std.HashMap.ofList (decompositionsFrom numbers.length 0 numbers)

/-- entries `((first, second), composite)`, given the composite of the entry before -/
def compositionsFrom : (code : Nat) → List Nat → List ((Nat × Nat) × Nat)
  | code, delta :: first :: second :: rest =>
    ((first, second), code + delta) :: compositionsFrom (code + delta) rest
  | _, _ => []

/-- what pairs of code points join to -/
def compositions : Std.HashMap (Nat × Nat) Nat :=
  Std.HashMap.ofList (compositionsFrom 0 (readNumbers Data.compositions))

/-- the classes of marks, with the marks of each -/
def markClasses : List (Nat × CodeSet) :=
  Data.combiningClasses.map fun e => (e.1, CodeSet.ofRuns e.2)

/-- all marks that have a class other than zero -/
def ordered : CodeSet := CodeSet.unions (markClasses.map (·.2))

/-- the combining class of a code point -/
def combiningClass (c : Nat) : Nat :=
  if ordered.contains c then ((markClasses.find? fun e => e.2.contains c).map (·.1)).getD 0 else 0

/-! ## Hangul, whose syllables follow a rule -/

/-- the letters of a syllable -/
def hangulParts (c : Nat) : Option (List Nat) :=
  if 0xAC00 ≤ c ∧ c < 0xAC00 + 11172 then
    let i := c - 0xAC00
    let head := [0x1100 + i / 588, 0x1161 + i % 588 / 28]
    some (if i % 28 = 0 then head else head ++ [0x11A7 + i % 28])
  else none

/-- two letters, or a syllable and its last letter, as one syllable -/
def hangulJoin (a b : Nat) : Option Nat :=
  if 0x1100 ≤ a ∧ a < 0x1113 ∧ 0x1161 ≤ b ∧ b < 0x1176 then
    some (0xAC00 + ((a - 0x1100) * 21 + (b - 0x1161)) * 28)
  else if 0xAC00 ≤ a ∧ a < 0xAC00 + 11172 ∧ (a - 0xAC00) % 28 = 0 ∧ 0x11A7 < b ∧ b < 0x11C3 then
    some (a + (b - 0x11A7))
  else none

/-! ## Composition -/

def parts (c : Nat) : List Nat :=
  ((hangulParts c).or decompositions[c]?).getD [c]

def join (a b : Nat) : Option Nat :=
  (hangulJoin a b).or compositions[(a, b)]?

/-- marks in the order of their classes, which is put before what is already in order; `marks` holds the marks since the
last code point of class zero, the last one first -/
def inOrder (marks : List (Nat × Nat)) : List Nat → List Nat
  | [] => ((marks.reverse.mergeSort fun a b => a.1 ≤ b.1).map (·.2))
  | c :: cs =>
    let k := combiningClass c
    if k = 0 then (marks.reverse.mergeSort fun a b => a.1 ≤ b.1).map (·.2) ++ c :: inOrder [] cs
    else inOrder ((k, c) :: marks) cs

/-- join code points with the base before them, unless a mark in between keeps them apart; `marks` holds what stands
between, the last one first -/
def joinAll (base : Nat) (marks : List (Nat × Nat)) : List Nat → List Nat
  | [] => base :: marks.reverse.map (·.2)
  | c :: cs =>
    let k := combiningClass c
    let apart := match marks with
      | [] => false
      | m :: _ => k ≤ m.1
    match if apart then none else join base c with
    | some joint => joinAll joint marks cs
    | none =>
      if k = 0 then base :: marks.reverse.map (·.2) ++ joinAll c [] cs
      else joinAll base ((k, c) :: marks) cs

/-- join code points from the first base on -/
def joinFromBase : List Nat → List Nat
  | [] => []
  | c :: cs => if combiningClass c = 0 then joinAll c [] cs else c :: joinFromBase cs

/-- the canonically composed form -/
def composed (cs : List Nat) : List Nat :=
  if cs.all (· < 0x300) then cs else joinFromBase (inOrder [] (cs.flatMap parts))

end EventBroker.Unicode
