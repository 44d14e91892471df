/-
MessagePack: data as bytes, each in the smallest form there is for it.
-/
import EventBroker.Datum

namespace EventBroker.MessagePack

/-- the lowest `count` bytes of a number, the highest first -/
def bigEndian : (count : Nat) → Nat → List UInt8
  | 0, _ => []
  | count + 1, n => bigEndian count (n / 256) ++ [UInt8.ofNat n]

/-- an integer that is not negative -/
def writeNat (n : Nat) : List UInt8 :=
  if n < 0x80 then [UInt8.ofNat n]
  else if n < 0x100 then 0xCC :: bigEndian 1 n
  else if n < 0x10000 then 0xCD :: bigEndian 2 n
  else if n < 0x100000000 then 0xCE :: bigEndian 4 n
  else 0xCF :: bigEndian 8 n

/-- the integer `-n`; negative numbers are written in two's complement -/
def writeNegative (n : Nat) : List UInt8 :=
  if n ≤ 0x20 then [UInt8.ofNat (0x100 - n)]
  else if n ≤ 0x80 then 0xD0 :: bigEndian 1 (0x100 - n)
  else if n ≤ 0x8000 then 0xD1 :: bigEndian 2 (0x10000 - n)
  else if n ≤ 0x80000000 then 0xD2 :: bigEndian 4 (0x100000000 - n)
  else 0xD3 :: bigEndian 8 (0x10000000000000000 - n)

def writeInt (n : Int) : List UInt8 :=
  if 0 ≤ n then writeNat n.toNat else writeNegative n.natAbs

def textHead (n : Nat) : List UInt8 :=
  if n < 32 then [UInt8.ofNat (0xA0 + n)]
  else if n < 0x100 then 0xD9 :: bigEndian 1 n
  else if n < 0x10000 then 0xDA :: bigEndian 2 n
  else 0xDB :: bigEndian 4 n

def bytesHead (n : Nat) : List UInt8 :=
  if n < 0x100 then 0xC4 :: bigEndian 1 n
  else if n < 0x10000 then 0xC5 :: bigEndian 2 n
  else 0xC6 :: bigEndian 4 n

def seqHead (n : Nat) : List UInt8 :=
  if n < 16 then [UInt8.ofNat (0x90 + n)]
  else if n < 0x10000 then 0xDC :: bigEndian 2 n
  else 0xDD :: bigEndian 4 n

def mapHead (n : Nat) : List UInt8 :=
  if n < 16 then [UInt8.ofNat (0x80 + n)]
  else if n < 0x10000 then 0xDE :: bigEndian 2 n
  else 0xDF :: bigEndian 4 n

mutual

/-- the bytes of a datum; one that the format of records has no use for is written as nothing at all -/
def write : Datum → List UInt8
  | .nil => [0xC0]
  | .bool b => if b then [0xC3] else [0xC2]
  | .int n => writeInt n
  | .text s => textHead (Text.Utf8.bytes s).length ++ Text.Utf8.bytes s
  | .bytes b => bytesHead b.length ++ b
  | .seq ds => seqHead ds.length ++ writeItems ds
  | .map es => mapHead es.length ++ writeEntries es
  | .real | .extension | .broken => []

def writeItems : List Datum → List UInt8
  | [] => []
  | d :: ds => write d ++ writeItems ds

def writeEntries : List (Datum × Datum) → List UInt8
  | [] => []
  | (k, d) :: es => write k ++ (write d ++ writeEntries es)

end

end EventBroker.MessagePack
