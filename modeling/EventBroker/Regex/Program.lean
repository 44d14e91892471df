/-
Running a pattern over a text.

A pattern becomes a program of single steps, written from its end to its beginning, so that every step knows where to go
on. All places that the program can be at are followed side by side, character by character; a place is entered at most
once between two characters, so the time is bounded by the length of the text times the size of the program.
-/
import EventBroker.Regex.Pattern

namespace EventBroker.Regex

open EventBroker.Unicode

inductive Step where
  /-- a character of a set, then on -/
  | take (s : CodeSet) (next : Nat)
  /-- this very character, then on -/
  | takeChar (c : Char) (next : Nat)
  /-- on if a condition holds here -/
  | check (l : Look) (next : Nat)
  /-- on at either of two places -/
  | fork (a b : Nat)
  /-- the text matches -/
  | accept

abbrev Steps := Array Step

/-- add a step, which is then the place to begin at -/
def Steps.emit (steps : Steps) (s : Step) : Nat × Steps := (steps.size, steps.push s)

namespace Pattern

/-- do something to a program again and again, each time from the place where the time before began -/
def times (write : Nat → Steps → Nat × Steps) : (n : Nat) → Nat → Steps → Nat × Steps
  | 0, next, steps => (next, steps)
  | n + 1, next, steps =>
    let (place, steps) := write next steps
    times write n place steps

mutual

/-- the steps of a pattern that go on at `next`, and where they begin -/
def write : Pattern → (next : Nat) → Steps → Nat × Steps
  | empty, next, steps => (next, steps)
  | literal c, next, steps => steps.emit (.takeChar c next)
  | set s, next, steps => steps.emit (.take s next)
  | look l, next, steps => steps.emit (.check l next)
  | capture p, next, steps => write p next steps
  | cat ps, next, steps => writeAll ps next steps
  | alt ps, next, steps => writeAny ps next steps
  | repetition least none p, next, steps =>
    let loop := steps.size
    let (again, steps) := write p loop (steps.push (.fork next next))
    times (write p) least loop (steps.setIfInBounds loop (.fork again next))
  | repetition least (some most) p, next, steps =>
    let option := fun place steps =>
      let (place, steps) := write p place steps
      Steps.emit steps (.fork place next)
    let (place, steps) := times option (most - least) next steps
    times (write p) least place steps

/-- one pattern after another -/
def writeAll : List Pattern → (next : Nat) → Steps → Nat × Steps
  | [], next, steps => (next, steps)
  | p :: ps, next, steps =>
    let (place, steps) := writeAll ps next steps
    write p place steps

/-- one of several patterns -/
def writeAny : List Pattern → (next : Nat) → Steps → Nat × Steps
  | [], _, steps => steps.emit (.take CodeSet.empty 0)
  | [p], next, steps => write p next steps
  | p :: ps, next, steps =>
    let (others, steps) := writeAny ps next steps
    let (place, steps) := write p next steps
    steps.emit (.fork place others)

end

end Pattern

/-- a program and the place where it begins -/
structure Program where
  steps : Steps
  start : Nat

def Program.ofPattern (p : Pattern) : Program :=
  let (start, steps) := p.write 0 #[.accept]
  ⟨steps, start⟩

/-- the places reached between two characters: a stamp for each place entered here, those that wait for a character, and
whether the program has accepted -/
structure Front where
  stamps : Array Nat
  waiting : List Nat
  accepted : Bool

namespace Program

/-- enter places one after another, and those that they lead to without a character -/
def enter (steps : Steps) (before after : Option Char) (stamp : Nat) :
    (fuel : Nat) → List Nat → Front → Front
  | 0, _, front => front
  | _, [], front => front
  | fuel + 1, place :: places, front =>
    if front.stamps.getD place 0 == stamp then enter steps before after stamp fuel places front
    else
      let ⟨stamps, waiting, accepted⟩ := front
      let stamps := stamps.setIfInBounds place stamp
      match steps[place]? with
      | some (.fork a b) => enter steps before after stamp fuel (a :: b :: places) ⟨stamps, waiting, accepted⟩
      | some (.check l next) =>
        let places := if l.holds before after then next :: places else places
        enter steps before after stamp fuel places ⟨stamps, waiting, accepted⟩
      | some .accept => ⟨stamps, waiting, true⟩
      | some _ => enter steps before after stamp fuel places ⟨stamps, place :: waiting, accepted⟩
      | none => enter steps before after stamp fuel places ⟨stamps, waiting, accepted⟩

/-- where a waiting place goes on with a character -/
def advance (steps : Steps) (c : Char) (place : Nat) : Option Nat :=
  match steps[place]? with
  | some (.take s next) => if s.containsChar c then some next else none
  | some (.takeChar d next) => if c == d then some next else none
  | _ => none

/-- search from one place of the text on, given the character before it and the places that the program is at -/
def search (p : Program) (before : Option Char) (stamp : Nat) :
    List Char → (places : List Nat) → (stamps : Array Nat) → Bool
  | [], places, stamps =>
    let places := places ++ [p.start]
    (enter p.steps before none stamp (places.length + 2 * p.steps.size + 1) places ⟨stamps, [], false⟩).accepted
  | c :: cs, places, stamps =>
    let places := places ++ [p.start]
    let front :=
      enter p.steps before (some c) stamp (places.length + 2 * p.steps.size + 1) places ⟨stamps, [], false⟩
    if front.accepted then true
    else search p (some c) (stamp + 1) cs (front.waiting.filterMap (advance p.steps c)) front.stamps

/-- some part of a text matches -/
def isMatch (p : Program) (text : String) : Bool :=
  search p none 1 text.toList [] (Array.replicate p.steps.size 0)

end Program

end EventBroker.Regex
