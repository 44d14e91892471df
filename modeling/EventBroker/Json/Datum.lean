/-
JSON trees as data.

What a tree says without having a value (a numeral beyond every double, a text that is none, nesting beyond the limit)
is a broken datum: it can be passed over, and reading it fails.
-/
import EventBroker.Json.Tree
import EventBroker.Datum

namespace EventBroker.Json

def Numeral.datum (n : Numeral) : Datum :=
  match n.value? with
  | some (.int k) => .int k
  | some _ => .real
  | none => .broken

def textDatum : Option String → Datum
  | some s => .text s
  | none => .broken

mutual

/-- the datum of a tree of which `depth` more levels may be entered -/
def Tree.datumWithin (depth : Nat) : Tree → Datum
  | .null => .nil
  | .bool b => .bool b
  | .number n => n.datum
  | .text s => textDatum s
  | .array ts => if depth = 0 then .broken else .seq (dataWithin (depth - 1) ts)
  | .object fs => if depth = 0 then .broken else .map (entriesWithin (depth - 1) fs)

def dataWithin (depth : Nat) : List Tree → List Datum
  | [] => []
  | t :: ts => t.datumWithin depth :: dataWithin depth ts

def entriesWithin (depth : Nat) : List (Option String × Tree) → List (Datum × Datum)
  | [] => []
  | (k, t) :: fs => (textDatum k, t.datumWithin depth) :: entriesWithin depth fs

end

/-- the datum that a text holds -/
def datumOfText? (s : String) : Option Datum :=
  (Tree.ofText? s).map (Tree.datumWithin maxDepth)

end EventBroker.Json
