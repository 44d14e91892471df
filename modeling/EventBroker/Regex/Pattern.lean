/-
Regular expressions as patterns.

A pattern says which texts match; how it was written is forgotten. The smart constructors `repeated`, `sequence` and
`choice` bring patterns into a plainer form that matches the same texts.
-/
import EventBroker.Unicode.Property

namespace EventBroker.Regex

open EventBroker.Unicode

/-- a condition on the place between two characters -/
inductive Look where
  | textStart | textEnd
  | lineStart | lineEnd
  /-- line boundaries where a carriage return with a line feed ends one line -/
  | crlfStart | crlfEnd
  | wordBoundary (ascii : Bool)
  | notWordBoundary (ascii : Bool)
  | wordStart (ascii : Bool)
  | wordEnd (ascii : Bool)
  | wordStartHalf (ascii : Bool)
  | wordEndHalf (ascii : Bool)
  deriving DecidableEq

/-- the ASCII characters that words are made of -/
def asciiWord : CodeSet := CodeSet.ofList [(0x30, 0x39), (0x41, 0x5A), (0x5F, 0x5F), (0x61, 0x7A)]

/-- the neighbour of a place belongs to a word -/
def inWord (ascii : Bool) : Option Char → Bool
  | none => false
  | some c => if ascii then asciiWord.containsChar c else wordCharacters.containsChar c

/-- a condition holds between two neighbours; there is none at an end of the text -/
def Look.holds (before after : Option Char) : Look → Bool
  | .textStart => before.isNone
  | .textEnd => after.isNone
  | .lineStart => before.isNone || before == some '\n'
  | .lineEnd => after.isNone || after == some '\n'
  | .crlfStart => before.isNone || before == some '\n' || before == some '\r' && after != some '\n'
  | .crlfEnd => after.isNone || after == some '\r' || after == some '\n' && before != some '\r'
  | .wordBoundary a => inWord a before != inWord a after
  | .notWordBoundary a => inWord a before == inWord a after
  | .wordStart a => !inWord a before && inWord a after
  | .wordEnd a => inWord a before && !inWord a after
  | .wordStartHalf a => !inWord a before
  | .wordEndHalf a => !inWord a after

inductive Pattern where
  | empty
  | literal (c : Char)
  | set (s : CodeSet)
  | look (l : Look)
  | repetition (least : Nat) (most : Option Nat) (p : Pattern)
  | capture (p : Pattern)
  | cat (ps : List Pattern)
  | alt (ps : List Pattern)

namespace Pattern

/-- the longer of two lengths, `none` being no bound -/
def longer : Option Nat → Option Nat → Option Nat
  | some a, some b => some (max a b)
  | _, _ => none

mutual

/-- a bound on the length of the matching texts, if there is one -/
def most : Pattern → Option Nat
  | empty | look _ => some 0
  | literal _ => some 1
  | set s => if s.isEmpty then none else some 1
  | repetition _ bound p => do return (← bound) * (← most p)
  | capture p => most p
  | cat ps => sumMost ps
  | alt ps => maxMost ps

def sumMost : List Pattern → Option Nat
  | [] => some 0
  | p :: ps => do return (← most p) + (← sumMost ps)

def maxMost : List Pattern → Option Nat
  | [] => some 0
  | p :: ps => longer (most p) (maxMost ps)

end

mutual

/-- every matching text has a character -/
def consumes : Pattern → Bool
  | empty | look _ => false
  | literal _ => true
  | set s => !s.isEmpty
  | repetition least _ p => least != 0 && consumes p
  | capture p => consumes p
  | cat ps => anyConsumes ps
  | alt ps => allConsume ps

def anyConsumes : List Pattern → Bool
  | [] => false
  | p :: ps => consumes p || anyConsumes ps

def allConsume : List Pattern → Bool
  | [] => true
  | p :: ps => consumes p && allConsume ps

end

/-- a pattern some number of times; what takes no room is never repeated more than once -/
def repeated (least : Nat) (bound : Option Nat) (p : Pattern) : Pattern :=
  let (least, bound) :=
    if p.most == some 0 then (min least 1, some (min (bound.getD 1) 1)) else (least, bound)
  if least == 0 && bound == some 0 then empty
  else if least == 1 && bound == some 1 then p
  else repetition least bound p

/-- the parts of a sequence, with the parts of its sequences in their place -/
def flatParts : List Pattern → List Pattern
  | [] => []
  | empty :: ps => flatParts ps
  | cat qs :: ps => qs ++ flatParts ps
  | p :: ps => p :: flatParts ps

/-- patterns one after another -/
def sequence (ps : List Pattern) : Pattern :=
  match flatParts ps with
  | [] => empty
  | [p] => p
  | qs => cat qs

/-- the characters of a pattern that stands for a single one -/
def single? : Pattern → Option CodeSet
  | literal c => some (CodeSet.single c.toNat)
  | set s => some s
  | _ => none

/-- one of several patterns -/
def choice : List Pattern → Pattern
  | [] => set CodeSet.empty
  | [p] => p
  | ps =>
    match ps.mapM single? with
    | some sets => set (CodeSet.unions sets)
    | none => alt ps

end Pattern

end EventBroker.Regex
