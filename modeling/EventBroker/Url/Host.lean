/-
Hosts: domain names, opaque names and addresses.

A host in square brackets is an IPv6 address. In the schemes that the web knows, a host that ends in a number is an IPv4
address and every other one a domain name; in other schemes it is an opaque name.
-/
import EventBroker.Text.Hex
import EventBroker.Text.Utf8
import EventBroker.Url.DomainName
import EventBroker.Url.Error

namespace EventBroker.Url

open EventBroker.Text

/-! ## Bytes behind percent signs -/

/-- a byte as a percent sign and two capital digits -/
def percent (b : UInt8) : List Char :=
  ['%', (Hex.digit (b.toNat / 16)).toUpper, (Hex.digit (b.toNat % 16)).toUpper]

/-- a character, as percent signs unless it is an ASCII one that may stand for itself -/
def percentEncode (keeps : Char → Bool) (c : Char) : List Char :=
  if c.toNat < 0x80 && keeps c then [c] else (Utf8.bytes c.toString).flatMap percent

/-- the bytes of a text whose percent signs stand for bytes -/
def percentDecode : List Char → List UInt8
  | '%' :: a :: b :: cs =>
    match Hex.value? a, Hex.value? b with
    | some h, some l => UInt8.ofNat (h * 16 + l) :: percentDecode cs
    | _, _ => 0x25 :: percentDecode (a :: b :: cs)
  | c :: cs => Utf8.bytes c.toString ++ percentDecode cs
  | [] => []

/-! ## IPv4 -/

/-- what the spelling of a number says: nothing, a number, or one beyond 32 bits -/
inductive Part where
  | none
  | number (n : Nat)
  | tooBig

/-- a number in decimal, in octal behind a zero, or in hexadecimal behind `0x` -/
def ipv4Part (s : List Char) : Part :=
  let read := fun (base : Nat) (ds : List Char) =>
    if ds.isEmpty then Part.number 0
    else
      match ds.mapM fun d => (Hex.value? d).filter (· < base) with
      | some vs =>
        let n := vs.foldl (fun n v => n * base + v) 0
        if n < 0x100000000 then .number n else .tooBig
      | Option.none => .none
  match s with
  | [] => .none
  | '0' :: 'x' :: ds | '0' :: 'X' :: ds => read 16 ds
  | '0' :: d :: ds => read 8 (d :: ds)
  | ds => read 10 ds

/-- cut a text at each occurrence of a character -/
def cutAt (mark : Char) : List Char → List (List Char)
  | [] => [[]]
  | c :: cs =>
    if c == mark then [] :: cutAt mark cs
    else
      match cutAt mark cs with
      | p :: ps => (c :: p) :: ps
      | [] => [[c]]

/-- the parts of a name between its dots; one dot at the end does not count -/
def dotParts (s : List Char) : List (List Char) :=
  let ps := cutAt '.' s
  if ps.length ≥ 2 && ps.getLast? == some [] then ps.dropLast else ps

/-- the last part of a name is a number -/
def endsInNumber (s : List Char) : Bool :=
  match (dotParts s).getLast? with
  | some p =>
    !p.isEmpty && p.all Char.isDigit || (match ipv4Part p with
      | .none => false
      | _ => true)
  | none => false

/-- the address of 32 bits that numbers between dots make up -/
def ipv4? (s : List Char) : Option Nat := do
  let numbers ← (dotParts s).mapM fun p =>
    match ipv4Part p with
    | .number n => some n
    | _ => none
  let last ← numbers.getLast?
  let firsts := numbers.dropLast
  if 3 < firsts.length ∨ firsts.any (255 < ·) ∨ Nat.pow 256 (4 - firsts.length) ≤ last then none
  else return firsts.zipIdx.foldl (fun n (b, i) => n + b * Nat.pow 256 (3 - i)) last

def renderIpv4 (n : Nat) : String :=
  String.intercalate "." ([n / 0x1000000, n / 0x10000 % 256, n / 256 % 256, n % 256].map toString)

/-! ## IPv6 -/

/-- a decimal number up to 255 without leading zeros -/
def octet? (ds : List Char) : Option Nat :=
  match ds with
  | [] => none
  | ['0'] => some 0
  | '0' :: _ => none
  | ds =>
    if ds.all Char.isDigit && ds.length ≤ 3 then
      let n := ds.foldl (fun n d => n * 10 + (d.toNat - 48)) 0
      if n ≤ 255 then some n else none
    else none

/-- one group between colons: sixteen bits, or at the end an IPv4 address for two groups -/
def ipv6Group? (isLast : Bool) (p : List Char) : Option (List Nat) :=
  if isLast && p.contains '.' then
    match (cutAt '.' p).mapM octet? with
    | some [a, b, c, d] => some [a * 256 + b, c * 256 + d]
    | _ => none
  else if p.isEmpty || 4 < p.length then none
  else (p.mapM Hex.value?).map fun vs => [vs.foldl (fun n v => n * 16 + v) 0]

/-- groups between colons, the last of which may be an IPv4 address if they are at the end -/
def ipv6Groups? (atEnd : Bool) (ps : List (List Char)) : Option (List Nat) :=
  match ps.reverse with
  | [] => some []
  | last :: before => do
    let groups ← before.reverse.mapM (ipv6Group? false)
    return groups.flatten ++ (← ipv6Group? atEnd last)

/-- groups before and behind two colons, if they stand anywhere; a colon at an end stands only beside another -/
def splitGap (ps : List (List Char)) : Option (List (List Char) × Option (List (List Char))) :=
  let front := ps.takeWhile (!·.isEmpty)
  match front, ps.drop front.length with
  | [], [[], [], []] => some ([], some [])
  | [], [] :: [] :: back => if back.isEmpty then none else some ([], some back)
  | [], _ => none
  | _, [] => some (front, none)
  | _, [[], []] => some (front, some [])
  | _, _ :: back => if back.isEmpty then none else some (front, some back)

/-- the eight groups of an address, in which two colons stand for as many zeros as are missing -/
def ipv6? (s : List Char) : Option (List Nat) := do
  match ← splitGap (cutAt ':' s) with
  | (front, none) =>
    let front ← ipv6Groups? true front
    if front.length = 8 then return front else none
  | (front, some back) =>
    let front ← ipv6Groups? false front
    let back ← ipv6Groups? true back
    let count := front.length + back.length
    if count ≤ 7 then return front ++ List.replicate (8 - count) 0 ++ back else none

/-- the zeros from the front of some groups on -/
def zeroRun (gs : List Nat) : Nat := (gs.takeWhile (· == 0)).length

/-- where the first longest run of zeros begins, and how long it is -/
def longestZeros (gs : List Nat) : Nat × Nat :=
  ((List.range gs.length).map fun i => (i, zeroRun (gs.drop i))).foldl
    (fun best run => if best.2 < run.2 then run else best) (0, 0)

/-- an address with its longest run of zeros left out, if it is longer than one -/
def renderIpv6 (gs : List Nat) : String :=
  let words := fun (gs : List Nat) => String.intercalate ":" (gs.map Hex.ofNat)
  let (start, len) := longestZeros gs
  if len < 2 then "[" ++ words gs ++ "]"
  else "[" ++ words (gs.take start) ++ "::" ++ words (gs.drop (start + len)) ++ "]"

/-! ## Hosts -/

/-- the address in square brackets -/
def bracketed? (s : List Char) : Except UrlError String :=
  match (if s.getLast? == some ']' then ipv6? (s.drop 1).dropLast else none) with
  | some gs => .ok (renderIpv6 gs)
  | none => .error .invalidIpv6

/-- the host of a scheme that the web knows -/
def domainHost (s : List Char) : Except UrlError String :=
  if s.head? == some '[' then bracketed? s
  else
    match Utf8.text? (percentDecode s) with
    | none => .error .invalidDomainName
    | some name =>
      match domainToAscii name.toList with
      | none => .error .invalidDomainName
      | some domain =>
        if domain.isEmpty then .error .emptyHost
        else if endsInNumber domain.toList then
          match ipv4? domain.toList with
          | some n => .ok (renderIpv4 n)
          | none => .error .invalidIpv4
        else .ok domain

/-- no control character -/
def isPlain (c : Char) : Bool := 0x20 ≤ c.toNat && c != '\x7F'

/-- the host of any other scheme -/
def opaqueHost (s : List Char) : Except UrlError String :=
  if s.head? == some '[' then bracketed? s
  else if s.any fun c => "\x00\t\n\r #/:<>?@[\\]^|".toList.contains c then .error .invalidDomainCharacter
  else .ok (String.ofList (s.flatMap (percentEncode isPlain)))

end EventBroker.Url
