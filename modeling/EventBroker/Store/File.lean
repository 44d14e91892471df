/-
A store with one record file for each subscription, all in one directory.

A record is written to a temporary file, which then takes the place of the record; so the record is whole at all times.
One store at a time has a directory open: it holds the lock on a file there. Subscriptions used lately are kept at hand
and not read again.
-/
import EventBroker.Store.Basic
import EventBroker.Store.Cache
import EventBroker.Store.Disk
import EventBroker.Store.RecordFile

namespace EventBroker

structure FileStore where
  disk : Disk
  directory : Path
  /-- the number of the lock file -/
  lockNumber : Nat
  cache : Cache

namespace FileStore

def recordExtension : String := "sub"

def temporaryExtension : String := "tmp"

def lockName : String := ".lock"

def recordName (id : String) : String := id ++ "." ++ recordExtension

def temporaryName (id : String) : String := recordName id ++ "." ++ temporaryExtension

/-- a fault of the file system -/
def foreignFault : BrokerError := .storage .foreign

/-- the result of an operation on files, whose faults come from outside -/
def onDisk {α : Type} : Except DiskFault α → Except BrokerError α
  | .ok a => .ok a
  | .error _ => .error foreignFault

/-- an id that is safe as the name of a file -/
def isValidId (id : String) : Bool :=
  match id.toList with
  | [] => false
  | c :: cs => c != '.' && (c :: cs).all fun c => c.isAlphanum || c == '-' || c == '_' || c == '.'

/-! ## Opening -/

/-- remove what interrupted writes have left behind; those removed before a fault stay removed -/
def removeTemporary (dir : Path) : List String → Disk → Except BrokerError Unit × Disk
  | [], d => (.ok (), d)
  | n :: ns, d =>
    if (splitExtension n).2 == some temporaryExtension then
      match d.removeFile (dir ++ [n]) with
      | .ok d => removeTemporary dir ns d
      | .error _ => (.error foreignFault, d)
    else removeTemporary dir ns d

/-- make sure that the lock file is there, and answer its number -/
def lockFile (d : Disk) (dir : Path) : Except DiskFault (Nat × Disk) := do
  let p := dir ++ [lockName]
  match ← d.place p with
  | some number => return (number, d)
  | none => return (d.nextNumber, ← d.write p [])

/-- open a directory, which is made if there is none; the disk may have changed even if that fails -/
def openAt (d : Disk) (dir : Path) (cacheSize : Nat) : Except BrokerError FileStore × Disk :=
  match d.makeDirectories dir with
  | .error _ => (.error foreignFault, d)
  | .ok d =>
    match lockFile d dir with
    | .error _ => (.error foreignFault, d)
    | .ok (number, d) =>
      match d.lock number with
      | none => (.error .locked, d)
      | some d =>
        match removeTemporary dir ((d.names dir).toOption.getD []) d with
        | (.error e, d) => (.error e, d.unlock number)
        | (.ok (), d) => (.ok ⟨d, dir, number, Cache.ofCapacity cacheSize⟩, d)

/-- what is left on the disk when a store goes -/
def close (f : FileStore) : Disk := f.disk.unlock f.lockNumber

/-! ## Records -/

def recordPath (f : FileStore) (id : String) : Path := f.directory ++ [recordName id]

def temporaryPath (f : FileStore) (id : String) : Path := f.directory ++ [temporaryName id]

/-- write a record next to its place and then put it there -/
def writeRecord (f : FileStore) (s : Subscription) : Except BrokerError Unit × FileStore :=
  if !isValidId s.id then (.error (.invalidSubscriptionId s.id), f)
  else
    match f.disk.write (f.temporaryPath s.id) (RecordFile.encode s.toRecord) with
    | .error _ => (.error foreignFault, f)
    | .ok d =>
      match d.rename (f.temporaryPath s.id) (f.recordPath s.id) with
      | .error _ => (.error foreignFault, { f with disk := d })
      | .ok d => (.ok (), { f with disk := d })

/-- read a record; none if it has no file -/
def readRecord (f : FileStore) (id : String) : Except BrokerError (Option Subscription) :=
  if !isValidId id then .error (.invalidSubscriptionId id)
  else
    match f.disk.read (f.recordPath id) with
    | .error .missing => .ok none
    | .error .unusable => .error foreignFault
    | .ok bytes => (RecordFile.decode bytes).map fun r => some (Subscription.ofRecord r)

/-- a subscription at hand, or else the one that its record tells, which is then kept at hand -/
def load (f : FileStore) (id : String) : Except BrokerError (Option Subscription) × FileStore :=
  match f.cache.use id with
  | (some s, cache) => (.ok (some s), { f with cache })
  | (none, _) =>
    match f.readRecord id with
    | .ok (some s) => (.ok (some s), { f with cache := f.cache.put id s })
    | r => (r, f)

/-! ## The store -/

def put (f : FileStore) (s : Subscription) : Except BrokerError Unit × FileStore :=
  match f.writeRecord s with
  | (.ok (), f) => (.ok (), { f with cache := f.cache.put s.id s })
  | (.error e, f) => (.error e, f)

/-- a record that cannot be read is as good as none -/
def get (f : FileStore) (id : String) : Option Subscription × FileStore :=
  match f.load id with
  | (.ok s, f) => (s, f)
  | (.error _, f) => (none, f)

/-- load subscriptions one after the other, passing over those that cannot be read -/
def loadAll : List String → FileStore → List Subscription × FileStore
  | [], f => ([], f)
  | id :: ids, f =>
    let (s, f) := f.get id
    let (ss, f) := loadAll ids f
    (s.toList ++ ss, f)

/-- the ids that files of a directory are named after -/
def recordIds (names : List String) : List String :=
  names.filterMap fun n =>
    match splitExtension n with
    | (stem, some ext) => if ext == recordExtension then some stem else none
    | (_, none) => none

def all (f : FileStore) : List Subscription × FileStore :=
  match f.disk.names f.directory with
  | .ok names => loadAll (recordIds names) f
  | .error _ => ([], f)

/-- remove the file of a record -/
def removeRecord (f : FileStore) (id : String) : Except BrokerError FileStore :=
  (onDisk (f.disk.removeFile (f.recordPath id))).map fun d => { f with disk := d }

/-- take a subscription out; the file of a record that cannot be read is removed all the same -/
def delete (f : FileStore) (id : String) : Except BrokerError Subscription × FileStore :=
  match f.load id with
  | (.ok none, f) => (.error (.unknownSubscription id), f)
  | (.error (.invalidSubscriptionId _), f) => (.error (.unknownSubscription id), f)
  | (.error e, f) =>
    match f.removeRecord id with
    | .ok f => (.error e, f)
    | .error e => (.error e, f)
  | (.ok (some s), f) =>
    let f := { f with cache := f.cache.remove id }
    match f.removeRecord id with
    | .ok f => (.ok s, f)
    | .error e => (.error e, f)

def renew (f : FileStore) (id : String) (t : Timestamp) : Except BrokerError Subscription × FileStore :=
  match f.load id with
  | (.ok (some s), f) =>
    match f.writeRecord (s.renewed t) with
    | (.ok (), f) => (.ok (s.renewed t), { f with cache := f.cache.put id (s.renewed t) })
    | (.error e, f) => (.error e, f)
  | (_, f) => (.error (.unknownSubscription id), f)

instance : SubscriptionStore FileStore where
  put := put
  get := get
  all := all
  delete := delete
  renew := renew
  held f := endpointHandles (f.cache.entries.map (·.2))

end FileStore

end EventBroker
