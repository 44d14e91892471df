/-
Predicates on events, and the compilers that make them of filter expressions.
-/
import EventBroker.Error
import EventBroker.Message
import EventBroker.Regex.Search

namespace EventBroker

/-- what a predicate says of an event, unless it crashes over it -/
inductive Verdict where
  | yes
  | no
  | crashed
  deriving DecidableEq

def Verdict.ofBool (b : Bool) : Verdict := if b then .yes else .no

abbrev Predicate := Event → Verdict

/-- makes a predicate of an expression in a language; without a language it is the compiler's own -/
abbrev Compiler := (expression : String) → (language : Option String) → Except BrokerError Predicate

namespace Predicate

/-- no filter at all -/
def always : Predicate := fun _ => .yes

/-- the event's text contains a match -/
def search (r : Regex) : Predicate := fun e => .ofBool (r.isMatch e.text)

end Predicate

namespace Compiler

def regexLanguage : String := "regex"

/-- expressions searched for in the text of events -/
def regex : Compiler := fun expression language =>
  match language with
  | none => compile expression
  | some l =>
    if l == regexLanguage then compile expression
    else .error (.filterInstantiation (.text ("Unsupported filter language: " ++ l)))
where
  compile (expression : String) : Except BrokerError Predicate :=
    match Regex.ofText? expression with
    | some r => .ok (Predicate.search r)
    | none => .error (.filterInstantiation .foreign)

end Compiler

end EventBroker
