/-
What a document in a self-describing format holds, whichever the format.

A record is written as the sequence of its fields. It is read from such a sequence, in which only fields with a default
may be missing at the end, or from a map of field names, in which optional fields may be missing too, unknown names are
passed over, and no name stands twice.
-/
import EventBroker.Text.Utf8

namespace EventBroker

inductive Datum where
  | nil
  | bool (b : Bool)
  | int (n : Int)
  /-- a number that is no integer -/
  | real
  | text (s : String)
  | bytes (b : List UInt8)
  | seq (items : List Datum)
  | map (entries : List (Datum × Datum))
  /-- an extension of the format -/
  | extension
  /-- something that can be passed over but has no value -/
  | broken

namespace Datum

mutual

/-- every part has a value -/
def whole : Datum → Bool
  | .broken => false
  | .seq ds => allWhole ds
  | .map es => entriesWhole es
  | _ => true

def allWhole : List Datum → Bool
  | [] => true
  | d :: ds => d.whole && allWhole ds

def entriesWhole : List (Datum × Datum) → Bool
  | [] => true
  | (k, d) :: es => k.whole && d.whole && entriesWhole es

end

def bool? : Datum → Option Bool
  | .bool b => some b
  | _ => none

/-- a text, or bytes that are one -/
def text? : Datum → Option String
  | .text s => some s
  | .bytes b => Text.Utf8.text? b
  | _ => none

def int? : Datum → Option Int
  | .int n => some n
  | _ => none

/-- an unsigned word of 64 bits -/
def word? (d : Datum) : Option Nat := do
  let n ← d.int?
  if 0 ≤ n ∧ n < 0x10000000000000000 then some n.toNat else none

/-- a signed word of 64 bits -/
def signedWord? (d : Datum) : Option Int64 := do
  let n ← d.int?
  if -0x8000000000000000 ≤ n ∧ n < 0x8000000000000000 then some (Int64.ofInt n) else none

def items? : Datum → Option (List Datum)
  | .seq ds => some ds
  | _ => none

/-- nothing, or something -/
def option? {α : Type} (read : Datum → Option α) : Datum → Option (Option α)
  | .nil => some none
  | d => (read d).map some

/-- the fields of a record, in the order of their names, and whether they were given by position -/
structure Fields where
  positional : Bool
  found : List (Option Datum)

/-- which field a key of a map names: a place among the names, or none of them -/
def fieldKey? (names : List String) : Datum → Option (Option Nat)
  | .text s => some (names.idxOf? s)
  | .bytes b => some (Text.Utf8.text? b >>= names.idxOf?)
  | .int n => if 0 ≤ n then some (if n < names.length then some n.toNat else none) else none
  | _ => none

/-- put entries of a map in the places of their fields; a field given twice is refused -/
def placeEntries (names : List String) (found : List (Option Datum)) :
    List (Datum × Datum) → Option (List (Option Datum))
  | [] => some found
  | (k, d) :: es => do
    match ← fieldKey? names k with
    | none => placeEntries names found es
    | some i =>
      match found[i]? with
      | some none => placeEntries names (found.set i (some d)) es
      | _ => none

/-- the fields of a record with these names -/
def fields? (names : List String) : Datum → Option Fields
  | .seq ds =>
    if ds.length ≤ names.length then
      some ⟨true, ds.map some ++ List.replicate (names.length - ds.length) none⟩
    else none
  | .map es => (placeEntries names (List.replicate names.length none) es).map fun f => ⟨false, f⟩
  | _ => none

namespace Fields

/-- a field that has to be there -/
def need {α : Type} (f : Fields) (i : Nat) (read : Datum → Option α) : Option α :=
  match f.found[i]? with
  | some (some d) => read d
  | _ => none

/-- a field that stands for nothing where a map lacks it -/
def optional {α : Type} (f : Fields) (i : Nat) (read : Datum → Option α) : Option (Option α) :=
  match f.found[i]? with
  | some (some d) => d.option? read
  | _ => if f.positional then none else some none

/-- a field with a default -/
def orElse {α : Type} (f : Fields) (i : Nat) (read : Datum → Option α) (default : α) : Option α :=
  match f.found[i]? with
  | some (some d) => read d
  | _ => some default

end Fields

end Datum

end EventBroker
