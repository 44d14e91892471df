/-
JSON values as compact text.

A double always shows a point or an exponent. It is written out in full when the exponent of its first digit is between
-5 and 15, and with a signed exponent otherwise.
-/
import EventBroker.Json.Basic
import EventBroker.Json.Shortest
import EventBroker.Text.Hex

namespace EventBroker.Json

open EventBroker.Text

/-- one character of a text between quotes -/
def escape (c : Char) : String :=
  if c = '"' then "\\\""
  else if c = '\\' then "\\\\"
  else if c = '\n' then "\\n"
  else if c = '\r' then "\\r"
  else if c = '\t' then "\\t"
  else if c = '\x08' then "\\b"
  else if c = '\x0c' then "\\f"
  else if c < ' ' then "\\u00" ++ String.ofList [Hex.digit (c.toNat / 16), Hex.digit (c.toNat % 16)]
  else c.toString

def renderText (s : String) : String :=
  "\"" ++ s.foldl (fun acc c => acc ++ escape c) "" ++ "\""

def zeros (n : Nat) : String := String.ofList (List.replicate n '0')

/-- a positive decimal in the layout of doubles -/
def layout (d : Shortest.Decimal) : String :=
  let digits := toString d.digits
  let count := digits.length
  -- the exponent of the first digit
  let lead : Int := d.exponent + count - 1
  if -5 ≤ lead ∧ lead ≤ 15 then
    if 0 ≤ d.exponent then digits ++ zeros d.exponent.toNat ++ ".0"
    else if 0 ≤ lead then
      let whole := lead.toNat + 1
      String.ofList (digits.toList.take whole) ++ "." ++ String.ofList (digits.toList.drop whole)
    else "0." ++ zeros (-lead - 1).toNat ++ digits
  else
    let point := if count = 1 then digits else
      String.ofList (digits.toList.take 1) ++ "." ++ String.ofList (digits.toList.drop 1)
    point ++ (if 0 ≤ lead then "e+" else "e-") ++ toString lead.natAbs

def renderDouble (bits : UInt64) : String :=
  match Shortest.ofBits bits with
  | (negative, none) => if negative then "-0.0" else "0.0"
  | (negative, some b) => (if negative then "-" else "") ++ layout (Shortest.decimal b)

mutual

/-- the compact text of a value, put behind `out` -/
def write (out : String) : Value → String
  | .null => out ++ "null"
  | .bool b => out ++ (if b then "true" else "false")
  | .int n => out ++ toString n
  | .double bits => out ++ renderDouble bits
  | .text s => out ++ renderText s
  | .array [] => out ++ "[]"
  | .array (v :: vs) => writeItems (write (out ++ "[") v) vs ++ "]"
  | .object [] => out ++ "\x7b\x7d"
  | .object ((k, v) :: fs) => writeFields (write (out ++ "\x7b" ++ renderText k ++ ":") v) fs ++ "\x7d"

def writeItems (out : String) : List Value → String
  | [] => out
  | v :: vs => writeItems (write (out ++ ",") v) vs

def writeFields (out : String) : List (String × Value) → String
  | [] => out
  | (k, v) :: fs => writeFields (write (out ++ "," ++ renderText k ++ ":") v) fs

end

/-- the compact text of a value -/
def Value.render (v : Value) : String := write "" v

end EventBroker.Json
