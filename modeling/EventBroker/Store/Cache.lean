/-
Subscriptions kept at hand, those used last first. When there are too many, the one not used for longest goes.
-/
import EventBroker.Subscription.Basic

namespace EventBroker

structure Cache where
  capacity : Nat
  entries : List (String × Subscription)

namespace Cache

/-- there is room for one subscription at least -/
def ofCapacity (n : Nat) : Cache := ⟨max n 1, []⟩

def find? (c : Cache) (id : String) : Option Subscription := (c.entries.find? fun e => e.1 == id).map (·.2)

def remove (c : Cache) (id : String) : Cache := { c with entries := c.entries.filter fun e => e.1 != id }

def put (c : Cache) (id : String) (s : Subscription) : Cache :=
  { c with entries := ((id, s) :: (c.remove id).entries).take c.capacity }

/-- look an id up, which counts as a use -/
def use (c : Cache) (id : String) : Option Subscription × Cache :=
  match c.find? id with
  | some s => (some s, c.put id s)
  | none => (none, c)

end Cache

end EventBroker
