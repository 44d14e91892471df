/-
Ids of version 4.

Of the 128 bits of such an id, 122 are free; the others tell the version and the variant. It is written as 32 small
hexadecimal digits in five groups. `ofNat` writes the id whose free bits are those of a number, so that numbers below
2^122 get ids that differ.
-/
import EventBroker.Text.Hex

namespace EventBroker.Uuid

/-- the last hexadecimal digits of a number, so many -/
def digits : (count : Nat) → Nat → List Char
  | 0, _ => []
  | count + 1, n => digits count (n / 16) ++ [Text.Hex.digit (n % 16)]

/-- the id whose free bits are those of a number -/
def ofNat (n : Nat) : String :=
  String.ofList (digits 8 (n >>> 90) ++ '-' :: digits 4 (n >>> 74) ++ '-' :: '4' :: digits 3 (n >>> 62) ++
    '-' :: Text.Hex.digit (8 + (n >>> 60) % 4) :: digits 3 (n >>> 48) ++ '-' :: digits 12 n)

def isSmallHex (c : Char) : Bool := c.isDigit || ('a' ≤ c && c ≤ 'f')

/-- a text is an id of version 4 in small digits -/
def isVersion4 (s : String) : Bool :=
  match (s.splitOn "-").map String.toList with
  | [a, b, c, d, e] =>
    [a, b, c, d, e].map List.length == [8, 4, 4, 4, 12] && [a, b, c, d, e].all (·.all isSmallHex) &&
      c.head? == some '4' && d.head?.any ['8', '9', 'a', 'b'].contains
  | _ => false

end EventBroker.Uuid
