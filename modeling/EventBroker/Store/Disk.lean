/-
Files in directories.

A path is a list of names, from the root down. The root is a directory. Every file has a number of its own, which it
keeps when it is written anew or renamed; a lock is held on the number of a file, not on its name.

Names are texts, and names that are not UTF-8 are not represented. A store gives no file such a name and takes none for
a record.
-/
import EventBroker.Table
import EventBroker.Text.Utf8

namespace EventBroker

abbrev Path := List String

inductive Node where
  | directory
  | file (number : Nat) (bytes : List UInt8)
  deriving DecidableEq

structure Disk where
  nodes : Table Path Node
  /-- the number of the next file -/
  nextNumber : Nat
  /-- the numbers of locked files -/
  locks : List Nat

/-- why an operation on files fails -/
inductive DiskFault where
  /-- nothing is there -/
  | missing
  /-- something is there that cannot be used so -/
  | unusable
  deriving DecidableEq

namespace Disk

def empty : Disk := ⟨.empty, 0, []⟩

/-- names are no longer than this, in bytes -/
def maxNameLength : Nat := 255

/-- where a text with slashes leads from a directory; two dots lead to the directory above -/
def pathFrom (dir : Path) (s : String) : Path :=
  (s.splitOn "/").foldl (fun p n => if n == "" || n == "." then p else if n == ".." then p.dropLast else p ++ [n]) dir

def node? (d : Disk) (p : Path) : Option Node := if p = [] then some .directory else d.nodes.find? p

/-- a name that a file can have -/
def isName (n : String) : Bool := n.utf8ByteSize ≤ maxNameLength && !n.toList.contains '\x00'

/-- go down from a directory along names -/
def walk (d : Disk) (here : Path) : List String → Except DiskFault Node
  | [] => (d.node? here).elim (.error .missing) .ok
  | n :: ns =>
    match d.node? here with
    | none => .error .missing
    | some (.file _ _) => .error .unusable
    | some .directory => if isName n then d.walk (here ++ [n]) ns else .error .unusable

/-- what is at a path -/
def find (d : Disk) (p : Path) : Except DiskFault Node := d.walk [] p

/-- the bytes of a file -/
def read (d : Disk) (p : Path) : Except DiskFault (List UInt8) :=
  match d.find p with
  | .ok (.file _ bytes) => .ok bytes
  | .ok .directory => .error .unusable
  | .error e => .error e

/-- the directory that a path is in -/
def parent (p : Path) : Path := p.dropLast

/-- a name is free, or taken by a file, in a directory that is there -/
def place (d : Disk) (p : Path) : Except DiskFault (Option Nat) :=
  match d.find (parent p), d.find p with
  | .error e, _ => .error e
  | .ok (.file _ _), _ => .error .unusable
  | .ok .directory, .error .missing => .ok none
  | .ok .directory, .ok (.file number _) => .ok (some number)
  | .ok .directory, _ => .error .unusable

/-- write a file, which is made if there is none -/
def write (d : Disk) (p : Path) (bytes : List UInt8) : Except DiskFault Disk :=
  match d.place p with
  | .error e => .error e
  | .ok (some number) => .ok { d with nodes := d.nodes.insert p (.file number bytes) }
  | .ok none => .ok { d with nodes := d.nodes.insert p (.file d.nextNumber bytes), nextNumber := d.nextNumber + 1 }

/-- remove a file -/
def removeFile (d : Disk) (p : Path) : Except DiskFault Disk :=
  match d.find p with
  | .ok (.file _ _) => .ok { d with nodes := d.nodes.erase p }
  | .ok .directory => .error .unusable
  | .error e => .error e

/-- give a file another name, which may be that of a file that is then gone -/
def rename (d : Disk) (p q : Path) : Except DiskFault Disk :=
  match d.find p, d.place q with
  | .ok (.file number bytes), .ok _ =>
    .ok { d with nodes := (d.nodes.erase p).insert q (.file number bytes) }
  | .ok .directory, _ => .error .unusable
  | .error e, _ => .error e
  | _, .error e => .error e

/-- make a directory and those above it -/
def makeDirectories (d : Disk) (p : Path) : Except DiskFault Disk :=
  (List.range p.length).foldlM (fun d i =>
    let q := p.take (i + 1)
    match d.find q with
    | .ok .directory => .ok d
    | .ok (.file _ _) => .error .unusable
    | .error .missing => .ok { d with nodes := d.nodes.insert q .directory }
    | .error e => .error e) d

/-- a path that leads into a directory, and the name there -/
def nameIn? (dir p : Path) : Option String :=
  match p.getLast? with
  | some n => if p.dropLast = dir then some n else none
  | none => none

/-- the names in a directory, in increasing order -/
def names (d : Disk) (dir : Path) : Except DiskFault (List String) :=
  match d.find dir with
  | .ok .directory => .ok ((d.nodes.keys.filterMap (nameIn? dir)).mergeSort (· ≤ ·))
  | .ok (.file _ _) => .error .unusable
  | .error e => .error e

/-- remove a directory with all that is in it -/
def removeTree (d : Disk) (dir : Path) : Except DiskFault Disk :=
  match d.find dir with
  | .ok .directory => .ok { d with nodes := d.nodes.filter fun p _ => !dir.isPrefixOf p }
  | .ok (.file _ _) => .error .unusable
  | .error e => .error e

/-- lock a file, unless it is locked already -/
def lock (d : Disk) (number : Nat) : Option Disk :=
  if d.locks.contains number then none else some { d with locks := number :: d.locks }

def unlock (d : Disk) (number : Nat) : Disk := { d with locks := d.locks.filter (· != number) }

end Disk

/-! ## Names of files -/

/-- a name cut at its last dot, unless nothing stands before that dot -/
def splitExtension (name : String) : String × Option String :=
  let cs := name.toList
  let ext := (cs.reverse.takeWhile (· != '.')).reverse
  let stem := cs.take (cs.length - ext.length - 1)
  if name == ".." || stem.isEmpty || ext.length == cs.length then (name, none)
  else (String.ofList stem, some (String.ofList ext))

end EventBroker
