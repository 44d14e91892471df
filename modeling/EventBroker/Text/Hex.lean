/-
Bytes in hexadecimal, two small digits a byte.
-/

namespace EventBroker.Text.Hex

def digit (n : Nat) : Char :=
  if n < 10 then Char.ofNat (48 + n) else Char.ofNat (87 + n)

def encode (bs : List UInt8) : String :=
  String.ofList (bs.flatMap fun b => [digit (b.toNat / 16), digit (b.toNat % 16)])

/-- the value of a hexadecimal digit, small or capital -/
def value? (c : Char) : Option Nat :=
  if '0' ≤ c ∧ c ≤ '9' then some (c.toNat - 48)
  else if 'a' ≤ c ∧ c ≤ 'f' then some (c.toNat - 87)
  else if 'A' ≤ c ∧ c ≤ 'F' then some (c.toNat - 55)
  else none

/-- the bytes that pairs of digits stand for -/
def decodeChars : List Char → Option (List UInt8)
  | [] => some []
  | [_] => none
  | a :: b :: rest => do
    let h ← value? a
    let l ← value? b
    return UInt8.ofNat (h * 16 + l) :: (← decodeChars rest)

def decode (s : String) : Option (List UInt8) := decodeChars s.toList

/-- a number in hexadecimal, without leading zeros -/
def ofNat (n : Nat) : String := String.ofList (Nat.toDigits 16 n)

end EventBroker.Text.Hex
