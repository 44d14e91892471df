/-
A store that forgets everything when it goes.
-/
import EventBroker.Store.Basic
import EventBroker.Table

namespace EventBroker

structure MemoryStore where
  table : Table String Subscription

namespace MemoryStore

def empty : MemoryStore := ⟨.empty⟩

def size (m : MemoryStore) : Nat := m.table.size

def put (m : MemoryStore) (s : Subscription) : MemoryStore := ⟨m.table.insert s.id s⟩

def get (m : MemoryStore) (id : String) : Option Subscription := m.table.find? id

def all (m : MemoryStore) : List Subscription := m.table.values

def delete (m : MemoryStore) (id : String) : Except BrokerError Subscription × MemoryStore :=
  match m.table.find? id with
  | some s => (.ok s, ⟨m.table.erase id⟩)
  | none => (.error (.unknownSubscription id), m)

def renew (m : MemoryStore) (id : String) (t : Timestamp) : Except BrokerError Subscription × MemoryStore :=
  match m.table.find? id with
  | some s => (.ok (s.renewed t), ⟨m.table.insert id (s.renewed t)⟩)
  | none => (.error (.unknownSubscription id), m)

instance : SubscriptionStore MemoryStore where
  put m s := (.ok (), m.put s)
  get m id := (m.get id, m)
  all m := (m.all, m)
  delete := delete
  renew := renew
  held m := endpointHandles m.all

end MemoryStore

end EventBroker
