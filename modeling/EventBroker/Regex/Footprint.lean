/-
The room that a pattern takes as an automaton over bytes.

A pattern whose automaton outgrows `sizeLimit`, reading forwards or backwards, is refused. A state takes 32 bytes, and
more for every way that leads on from it. `Pattern.footprint` adds this up without building the automaton.
-/
import EventBroker.Regex.Pattern
import Std.Data.HashMap

namespace EventBroker.Regex

open EventBroker.Unicode

/-- ten mebibytes -/
def sizeLimit : Nat := 10 * 1024 * 1024

def stateBytes : Nat := 32

/-- a state with ways on for ranges of bytes -/
def rangesBytes (n : Nat) : Nat := stateBytes + 8 * n

/-- a state with ways on that need no byte -/
def forkBytes (n : Nat) : Nat := stateBytes + 4 * n

inductive Direction where
  | forwards | backwards
  deriving DecidableEq

/-! ## Characters as sequences of bytes -/

/-- the bytes of a character by its code -/
def codeBytes (n : Nat) : List Nat :=
  if n < 0x80 then [n]
  else if n < 0x800 then [0xC0 + n / 64, 0x80 + n % 64]
  else if n < 0x10000 then [0xE0 + n / 4096, 0x80 + n / 64 % 64, 0x80 + n % 64]
  else [0xF0 + n / 262144, 0x80 + n / 4096 % 64, 0x80 + n / 64 % 64, 0x80 + n % 64]

/-- the last code of a first part, where the codes from `a` to `b` do not make up one sequence of byte ranges -/
def cutAfter? (a b : Nat) : Option Nat :=
  let byLength := [0x7F, 0x7FF, 0xFFFF].find? fun m => a ≤ m && m < b
  let byBlock := [64, 4096, 262144].findSome? fun block =>
    if a / block == b / block then none
    else if a % block != 0 then some ((a / block + 1) * block - 1)
    else if b % block != block - 1 then some (b / block * block - 1)
    else none
  byLength.or (if b < 0x80 then none else byBlock)

/-- the codes from `a` to `b` as sequences of byte ranges -/
def byteSequences : (fuel : Nat) → (a b : Nat) → List (List (Nat × Nat))
  | 0, _, _ => []
  | fuel + 1, a, b =>
    match cutAfter? a b with
    | some m => byteSequences fuel a m ++ byteSequences fuel (m + 1) b
    | none => [(codeBytes a).zip (codeBytes b)]

/-- a set of characters as sequences of byte ranges -/
def byteRanges (s : CodeSet) : List (List (Nat × Nat)) :=
  (s.diff surrogates).toList.flatMap fun r => byteSequences 32 r.1 r.2

/-- the states of a byte automaton, by the ways that lead on from them -/
structure Automaton where
  known : Std.HashMap (List (Nat × Nat × Nat)) Nat
  bytes : Nat

/-- the state with some ways on, made if there is none yet -/
def Automaton.state (m : Automaton) (ways : List (Nat × Nat × Nat)) : Nat × Automaton :=
  match m.known[ways]? with
  | some i => (i, m)
  | none => (m.known.size + 1, ⟨m.known.insert ways (m.known.size + 1), m.bytes + rangesBytes ways.length⟩)

/-- the ways on for sequences in order, grouped by their first range -/
def grouped (seqs : List (List (Nat × Nat))) : List ((Nat × Nat) × List (List (Nat × Nat))) :=
  seqs.foldr (fun seq groups =>
    match seq, groups with
    | [], _ => groups
    | r :: rest, (r', members) :: others =>
      if r == r' then (r', rest :: members) :: others else (r, [rest]) :: (r', members) :: others
    | r :: rest, [] => [(r, [rest])]) []

/-- the state from which some sequences lead to the end, which is state 0 -/
def Automaton.add : (depth : Nat) → List (List (Nat × Nat)) → Automaton → Nat × Automaton
  | 0, _, m => (0, m)
  | depth + 1, seqs, m =>
    match grouped seqs with
    | [] => (0, m)
    | groups =>
      let (ways, m) := groups.foldl (fun (acc : List (Nat × Nat × Nat) × Automaton) g =>
        let (i, m) := Automaton.add depth g.2 acc.2
        (acc.1 ++ [(g.1.1, g.1.2, i)], m)) ([], m)
      m.state ways

/-- the number of leading ranges that two sequences share -/
def sharedPrefix : List (Nat × Nat) → List (Nat × Nat) → Nat
  | r :: rs, s :: ss => if r == s then 1 + sharedPrefix rs ss else 0
  | _, _ => 0

/-- the states of sequences in order that share their beginnings only -/
def treeStates (seqs : List (List (Nat × Nat))) : Nat :=
  (seqs.foldl (fun (acc : Nat × List (Nat × Nat)) s =>
    (acc.1 + (s.length - sharedPrefix acc.2 s), s)) (0, [])).1

/-- the room that a set of characters takes -/
def setFootprint (d : Direction) (s : CodeSet) : Nat :=
  if s.below 128 then stateBytes + rangesBytes s.ranges.size
  else
    let seqs := byteRanges s
    match d with
    | .forwards => stateBytes + (Automaton.add 5 seqs ⟨∅, 0⟩).2.bytes
    | .backwards => stateBytes + forkBytes seqs.length + stateBytes * treeStates seqs

namespace Pattern

mutual

/-- the room that a pattern takes -/
def footprint (d : Direction) : Pattern → Nat
  | empty | look _ => stateBytes
  | literal c => stateBytes * c.utf8Size
  | set s =>
    if s.isEmpty then stateBytes
    else if s.count == 1 then stateBytes * (s.ranges.toList.map fun r => (codeBytes r.1).length).sum
    else setFootprint d s
  | capture p => (if d = .forwards then 2 * stateBytes else 0) + footprint d p
  | cat ps => footprints d ps
  | alt ps => stateBytes + forkBytes ps.length + footprints d ps
  | repetition least bound p =>
    let one := footprint d p
    match least, bound with
    | 0, some 1 => one + forkBytes 2 + stateBytes
    | 0, none => if p.consumes then one + forkBytes 2 else one + 2 * forkBytes 2 + stateBytes
    | n, none => n * one + forkBytes 2
    | 0, some m => m * (one + forkBytes 2) + 2 * stateBytes
    | n, some m => if n == m then n * one else m * one + (m - n) * forkBytes 2 + stateBytes

def footprints (d : Direction) : List Pattern → Nat
  | [] => 0
  | p :: ps => footprint d p + footprints d ps

end

/-- the pattern keeps to the limit, with the states that begin and end its automaton -/
def fits (p : Pattern) : Bool :=
  footprint .forwards p + 7 * stateBytes ≤ sizeLimit && footprint .backwards p + 3 * stateBytes ≤ sizeLimit

end Pattern

end EventBroker.Regex
