/-
The store that a configuration asks for.
-/
import EventBroker.Config
import EventBroker.Store.File
import EventBroker.Store.Memory

namespace EventBroker

inductive AnyStore where
  | memory (m : MemoryStore)
  | file (f : FileStore)

namespace AnyStore

/-- open the storage of a configuration; the disk may have changed even if that fails -/
def openAs (c : BrokerConfig) (d : Disk) : Except BrokerError AnyStore × Disk :=
  match c.storage with
  | .memory => (.ok (.memory .empty), d)
  | .fileSystem path =>
    match FileStore.openAt d (Disk.pathFrom [] path) c.storeCacheSize with
    | (.ok f, d) => (.ok (.file f), d)
    | (.error e, d) => (.error e, d)

/-- the disk as a store has left it, where it uses one -/
def diskAfter (d : Disk) : AnyStore → Disk
  | .memory _ => d
  | .file f => f.disk

/-- a store that finds the disk as it is now -/
def onDisk (d : Disk) : AnyStore → AnyStore
  | .memory m => .memory m
  | .file f => .file { f with disk := d }

/-- what is left on the disk when a store goes -/
def close (d : Disk) (s : AnyStore) : Disk :=
  match s.onDisk d with
  | .memory _ => d
  | .file f => f.close

/-- an answer beside a store of one kind -/
def wrap {α σ : Type} (kind : σ → AnyStore) (r : α × σ) : α × AnyStore := (r.1, kind r.2)

instance : SubscriptionStore AnyStore where
  put
    | .memory m, s => wrap .memory (SubscriptionStore.put m s)
    | .file f, s => wrap .file (f.put s)
  get
    | .memory m, id => wrap .memory (SubscriptionStore.get m id)
    | .file f, id => wrap .file (f.get id)
  all
    | .memory m => wrap .memory (SubscriptionStore.all m)
    | .file f => wrap .file f.all
  delete
    | .memory m, id => wrap .memory (m.delete id)
    | .file f, id => wrap .file (f.delete id)
  renew
    | .memory m, id, t => wrap .memory (m.renew id t)
    | .file f, id, t => wrap .file (f.renew id t)
  held
    | .memory m => SubscriptionStore.held m
    | .file f => SubscriptionStore.held f

end AnyStore

end EventBroker
