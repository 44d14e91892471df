/-
MessagePack: the datum at the front of some bytes.

The reader takes every form that the format has for a number or a length. Sequences and maps may be nested at most
`maxDepth` deep; a text that is no UTF-8 counts as bytes.
-/
import EventBroker.Datum

namespace EventBroker.MessagePack

/-- how deep sequences and maps may be nested -/
def maxDepth : Nat := 1023

/-- the number that bytes are, the highest byte first -/
def natOf (bs : List UInt8) : Nat := bs.foldl (fun n b => n * 256 + b.toNat) 0

/-- the first `n` bytes, if there are so many -/
def take (n : Nat) (bs : List UInt8) : Option (List UInt8 × List UInt8) :=
  if (bs.take n).length = n then some (bs.take n, bs.drop n) else none

/-- an unsigned number of `n` bytes -/
def takeNat (n : Nat) (bs : List UInt8) : Option (Nat × List UInt8) := do
  let (b, rest) ← take n bs
  return (natOf b, rest)

/-- a number of `n` bytes in two's complement -/
def takeInt (n : Nat) (bs : List UInt8) : Option (Int × List UInt8) := do
  let (k, rest) ← takeNat n bs
  return (if 2 * k < Nat.pow 256 n then (k : Int) else (k : Int) - Nat.pow 256 n, rest)

/-- a text of `n` bytes -/
def takeText (n : Nat) (bs : List UInt8) : Option (Datum × List UInt8) := do
  let (b, rest) ← take n bs
  match Text.Utf8.text? b with
  | some s => return (.text s, rest)
  | none => return (.bytes b, rest)

/-- `n` things in a row -/
def many {α : Type} (one : List UInt8 → Option (α × List UInt8)) :
    (n : Nat) → List UInt8 → Option (List α × List UInt8)
  | 0, bs => some ([], bs)
  | n + 1, bs =>
    match one bs with
    | none => none
    | some (x, rest) => (many one n rest).map fun (xs, rest) => (x :: xs, rest)

/-- a key and what it stands for -/
def pair (one : List UInt8 → Option (Datum × List UInt8)) (bs : List UInt8) :
    Option ((Datum × Datum) × List UInt8) := do
  let (k, rest) ← one bs
  let (d, rest) ← one rest
  return ((k, d), rest)

/-- what a head of one byte announces, behind it -/
inductive Head where
  | datum (d : Datum)
  | text (length : Nat)
  | bytes (length : Nat)
  | seq (length : Nat)
  | map (length : Nat)
  | extension (length : Nat)

/-- the head at the front -/
def head (b : UInt8) (rest : List UInt8) : Option (Head × List UInt8) :=
  let n := b.toNat
  let sized (count : Nat) (make : Nat → Head) : Option (Head × List UInt8) :=
    (takeNat count rest).map fun (k, r) => (make k, r)
  if n < 0x80 then some (.datum (.int n), rest)
  else if n < 0x90 then some (.map (n - 0x80), rest)
  else if n < 0xA0 then some (.seq (n - 0x90), rest)
  else if n < 0xC0 then some (.text (n - 0xA0), rest)
  else if 0xE0 ≤ n then some (.datum (.int ((n : Int) - 0x100)), rest)
  else match n with
    | 0xC0 => some (.datum .nil, rest)
    | 0xC2 => some (.datum (.bool false), rest)
    | 0xC3 => some (.datum (.bool true), rest)
    | 0xC4 => sized 1 .bytes
    | 0xC5 => sized 2 .bytes
    | 0xC6 => sized 4 .bytes
    | 0xC7 => sized 1 .extension
    | 0xC8 => sized 2 .extension
    | 0xC9 => sized 4 .extension
    | 0xCA => (take 4 rest).map fun (_, r) => (.datum .real, r)
    | 0xCB => (take 8 rest).map fun (_, r) => (.datum .real, r)
    | 0xCC => sized 1 fun k => .datum (.int k)
    | 0xCD => sized 2 fun k => .datum (.int k)
    | 0xCE => sized 4 fun k => .datum (.int k)
    | 0xCF => sized 8 fun k => .datum (.int k)
    | 0xD0 => (takeInt 1 rest).map fun (k, r) => (.datum (.int k), r)
    | 0xD1 => (takeInt 2 rest).map fun (k, r) => (.datum (.int k), r)
    | 0xD2 => (takeInt 4 rest).map fun (k, r) => (.datum (.int k), r)
    | 0xD3 => (takeInt 8 rest).map fun (k, r) => (.datum (.int k), r)
    | 0xD4 => some (.extension 1, rest)
    | 0xD5 => some (.extension 2, rest)
    | 0xD6 => some (.extension 4, rest)
    | 0xD7 => some (.extension 8, rest)
    | 0xD8 => some (.extension 16, rest)
    | 0xD9 => sized 1 .text
    | 0xDA => sized 2 .text
    | 0xDB => sized 4 .text
    | 0xDC => sized 2 .seq
    | 0xDD => sized 4 .seq
    | 0xDE => sized 2 .map
    | 0xDF => sized 4 .map
    | _ => none

/-- the datum that a head begins, given the reader of what is nested in it, if that may be entered -/
def body (inner : Option (List UInt8 → Option (Datum × List UInt8))) (h : Head) (rest : List UInt8) :
    Option (Datum × List UInt8) :=
  match h with
  | .datum d => some (d, rest)
  | .text n => takeText n rest
  | .bytes n => (take n rest).map fun (b, r) => (.bytes b, r)
  | .seq n => inner.bind fun one => (many one n rest).map fun (ds, r) => (.seq ds, r)
  | .map n => inner.bind fun one => (many (pair one) n rest).map fun (es, r) => (.map es, r)
  | .extension n => (take (n + 1) rest).map fun (_, r) => (.extension, r)

/-- the datum at the front, with `depth` more levels to enter -/
def readWithin : (depth : Nat) → List UInt8 → Option (Datum × List UInt8)
  | _, [] => none
  | 0, b :: bs => (head b bs).bind fun (h, rest) => body none h rest
  | depth + 1, b :: bs => (head b bs).bind fun (h, rest) => body (some (readWithin depth)) h rest

/-- the datum at the front; what follows it is not looked at -/
def read (bs : List UInt8) : Option Datum := (readWithin maxDepth bs).map Prod.fst

end EventBroker.MessagePack
