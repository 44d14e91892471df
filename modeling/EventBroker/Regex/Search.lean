/-
Expressions ready to be searched for in texts.
-/
import EventBroker.Regex.Expression
import EventBroker.Regex.Program
import EventBroker.Regex.Footprint

namespace EventBroker

/-- an expression, as a program that finds it -/
structure Regex where
  program : Regex.Program

namespace Regex

/-- the expression of a text, unless it is refused or too big -/
def ofText? (s : String) : Option Regex := do
  let p ← Pattern.ofText? s
  if p.fits then return ⟨Program.ofPattern p⟩ else none

/-- the expression occurs in a text -/
def isMatch (r : Regex) (text : String) : Bool := r.program.isMatch text

end Regex

end EventBroker
