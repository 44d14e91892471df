/-
A store that misbehaves on demand.

It stands before another store and does what a store on bad ground may do: refuse a change, lose sight of a record, or
tell a wrong one. It shows how those who use a store bear that.
-/
import EventBroker.Store.Basic

namespace EventBroker

inductive Fault where
  /-- nothing is put in -/
  | put
  /-- nothing is taken out -/
  | delete
  /-- no end is changed -/
  | renew
  /-- reading finds nothing -/
  | hide
  /-- reading tells an end long past -/
  | skew
  /-- reading finds a record that is not there, once -/
  | collide
  deriving DecidableEq

namespace Fault

def name : Fault → String
  | .put => "store"
  | .delete => "delete"
  | .renew => "update"
  | .hide => "hide"
  | .skew => "skew"
  | .collide => "collide"

def ofName? (s : String) : Option Fault := [put, delete, renew, hide, skew, collide].find? (·.name == s)

/-- what is answered instead of a change -/
def refusal (f : Fault) : BrokerError := .storage (.text ("injected " ++ f.name ++ " fault"))

end Fault

structure FaultyStore (σ : Type) where
  base : σ
  faults : List Fault

namespace FaultyStore

variable {σ : Type}

/-- a store that has no faults yet -/
def sound (base : σ) : FaultyStore σ := ⟨base, []⟩

/-- change the store behind, unless a fault forbids it -/
def change {α : Type} (f : FaultyStore σ) (fault : Fault) (act : σ → Except BrokerError α × σ) :
    Except BrokerError α × FaultyStore σ :=
  if f.faults.contains fault then (.error fault.refusal, f)
  else
    let (a, base) := act f.base
    (a, { f with base })

/-- a subscription that nobody made -/
def stranger (id : String) : Subscription :=
  ⟨id, ⟨"taken", none, none, none, none, .empty, none⟩, .detached "taken"⟩

/-- the time that a skewed reading tells -/
def skewedEnd : Timestamp := ⟨-1⟩

variable [SubscriptionStore σ]

def get (f : FaultyStore σ) (id : String) : Option Subscription × FaultyStore σ :=
  if f.faults.contains .hide then (none, f)
  else if f.faults.contains .collide then (some (stranger id), { f with faults := f.faults.filter (· != .collide) })
  else
    let (s, base) := SubscriptionStore.get f.base id
    (if f.faults.contains .skew then s.map (·.renewed skewedEnd) else s, { f with base })

instance : SubscriptionStore (FaultyStore σ) where
  put f s := f.change .put (SubscriptionStore.put · s)
  get := get
  all f :=
    let (ss, base) := SubscriptionStore.all f.base
    (ss, { f with base })
  delete f id := f.change .delete (SubscriptionStore.delete · id)
  renew f id t := f.change .renew (SubscriptionStore.renew · id t)
  held f := SubscriptionStore.held f.base

end FaultyStore

end EventBroker
