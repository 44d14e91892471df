/-
Sets of code points made blind to case.
-/
import EventBroker.Unicode.CodeSet
import EventBroker.Unicode.Data.CaseFold

namespace EventBroker.Unicode

/-- the members of the next classes, given the least member of the class before -/
def foldClassesFrom : (fuel least : Nat) → List Nat → List (List Nat)
  | fuel + 1, least, delta :: count :: rest =>
    let first := least + delta
    let others := (rest.take count).foldl (fun ms d => ms ++ [ms.getLastD first + d]) [first]
    others :: foldClassesFrom fuel first (rest.drop count)
  | _, _, _ => []

/-- the code points that differ only in case, class by class -/
def foldClasses : List (List Nat) :=
  let numbers := readNumbers Data.foldClasses
  foldClassesFrom numbers.length 0 numbers

namespace CodeSet

/-- a set with all code points that differ from a member only in case -/
def foldCase (s : CodeSet) : CodeSet :=
  let met := foldClasses.filter fun cls => cls.any s.contains
  s.union (ofList (met.flatten.map fun c => (c, c)))

/-- a set with the other case of its ASCII letters -/
def foldAsciiCase (s : CodeSet) : CodeSet :=
  let letters := ((List.range 26).map (· + 97)).filter fun c => s.contains c || s.contains (c - 32)
  s.union (ofList (letters.flatMap fun c => [(c - 32, c - 32), (c, c)]))

end CodeSet

end EventBroker.Unicode
