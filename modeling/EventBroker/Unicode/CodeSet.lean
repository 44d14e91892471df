/-
Sets of code points.

A set is a list of ranges in increasing order, with a gap between two neighbours. Unions, intersections and complements
sweep over the ranges once; `contains` searches them by halving.
-/

namespace EventBroker.Unicode

/-- a set of code points as ranges `(first, last)`, in increasing order and apart from each other -/
structure CodeSet where
  ranges : Array (Nat × Nat)
  deriving DecidableEq, Inhabited

/-- the last code point -/
def lastCode : Nat := 0x10FFFF

namespace CodeSet

/-- put a range behind others, joined to the last one where it overlaps or touches it; the last range comes first -/
def joinLast (acc : List (Nat × Nat)) (r : Nat × Nat) : List (Nat × Nat) :=
  match acc with
  | [] => [r]
  | s :: ss => if r.1 ≤ s.2 + 1 then (s.1, max s.2 r.2) :: ss else r :: s :: ss

/-- the set of all code points in some range of the list, the ranges in any order -/
def ofList (rs : List (Nat × Nat)) : CodeSet :=
  let sorted := (rs.filter fun r => r.1 ≤ r.2).mergeSort fun a b => a.1 ≤ b.1
  ⟨(sorted.foldl joinLast []).reverse.toArray⟩

def toList (s : CodeSet) : List (Nat × Nat) := s.ranges.toList

def empty : CodeSet := ⟨#[]⟩

def full : CodeSet := ⟨#[(0, lastCode)]⟩

def single (c : Nat) : CodeSet := ⟨#[(c, c)]⟩

def range (a b : Nat) : CodeSet := if a ≤ b then ⟨#[(a, b)]⟩ else empty

def isEmpty (s : CodeSet) : Bool := s.ranges.isEmpty

/-- search the ranges at places `lo` to `hi` -/
def search (rs : Array (Nat × Nat)) (c : Nat) : (fuel lo hi : Nat) → Bool
  | 0, _, _ => false
  | fuel + 1, lo, hi =>
    if lo < hi then
      let mid := (lo + hi) / 2
      match rs[mid]? with
      | none => false
      | some (a, b) =>
        if c < a then search rs c fuel lo mid
        else if b < c then search rs c fuel (mid + 1) hi
        else true
    else false

def contains (s : CodeSet) (c : Nat) : Bool :=
  search s.ranges c (s.ranges.size + 1) 0 s.ranges.size

def containsChar (s : CodeSet) (c : Char) : Bool := s.contains c.toNat

def union (s t : CodeSet) : CodeSet := ofList (s.toList ++ t.toList)

def unions (ss : List CodeSet) : CodeSet := ofList (ss.flatMap toList)

/-- the code points outside, given the first one not yet passed -/
def gapsFrom : Nat → List (Nat × Nat) → List (Nat × Nat)
  | next, [] => if next ≤ lastCode then [(next, lastCode)] else []
  | next, (a, b) :: rs => if next < a then (next, a - 1) :: gapsFrom (b + 1) rs else gapsFrom (b + 1) rs

def compl (s : CodeSet) : CodeSet := ⟨(gapsFrom 0 s.toList).toArray⟩

def inter (s t : CodeSet) : CodeSet := (s.compl.union t.compl).compl

def diff (s t : CodeSet) : CodeSet := (s.compl.union t).compl

/-- the code points in exactly one of two sets -/
def symmDiff (s t : CodeSet) : CodeSet := (s.diff t).union (t.diff s)

/-- every member is below `n` -/
def below (s : CodeSet) (n : Nat) : Bool := s.ranges.all fun r => r.2 < n

/-- the number of members -/
def count (s : CodeSet) : Nat := s.ranges.foldl (fun n r => n + (r.2 + 1 - r.1)) 0

end CodeSet

/-! ## Numbers in tables

A number is written in base 26: its last digit as a small letter, the digits before as capitals. -/

/-- one letter of a number: the value so far, and the numbers read, the last one first -/
def readLetter (acc : Nat × List Nat) (c : Char) : Nat × List Nat :=
  if 97 ≤ c.toNat then (0, (acc.1 * 26 + (c.toNat - 97)) :: acc.2)
  else (acc.1 * 26 + (c.toNat - 65), acc.2)

/-- the numbers written in the lines of a table -/
def readNumbers (lines : List String) : List Nat :=
  (lines.foldl (fun acc line => line.toList.foldl readLetter acc) (0, [])).2.reverse

/-- ranges from gaps and lengths in turn, given the first code point not yet passed -/
def rangesOfRuns : Nat → List Nat → List (Nat × Nat)
  | next, gap :: len :: rest => (next + gap, next + gap + len - 1) :: rangesOfRuns (next + gap + len) rest
  | _, _ => []

/-- the set that a table writes as gaps and lengths -/
def CodeSet.ofRuns (lines : List String) : CodeSet :=
  ⟨(rangesOfRuns 0 (readNumbers lines)).toArray⟩

end EventBroker.Unicode
