/-
JSON texts as trees.

A tree keeps what a text says before anything is made of it: numerals as they are written, every field of an object,
and texts whose escapes do not make characters as `none`. `Tree.value?` is the value of a tree that has one: its
numbers fit a double, its texts are texts, and it is nested at most `maxDepth` deep.
-/
import EventBroker.Json.Numeral
import EventBroker.Text.Hex

namespace EventBroker.Json

inductive Tree where
  | null
  | bool (b : Bool)
  | number (n : Numeral)
  | text (s : Option String)
  | array (items : List Tree)
  | object (fields : List (Option String × Tree))

namespace Reader

open EventBroker.Text

def isSpace (c : Char) : Bool := c = ' ' || c = '\n' || c = '\t' || c = '\r'

def skipSpace (cs : List Char) : List Char := cs.dropWhile isSpace

/-- the rest behind a word that has to stand at the front -/
def expect : List Char → List Char → Option (List Char)
  | [], cs => some cs
  | w :: ws, c :: cs => if w = c then expect ws cs else none
  | _ :: _, [] => none

/-- the number that four hexadecimal digits make -/
def hex4? : List Char → Option (Nat × List Char)
  | a :: b :: c :: d :: rest => do
    let x := ((← Hex.value? a) * 16 + (← Hex.value? b)) * 256 + ((← Hex.value? c) * 16 + (← Hex.value? d))
    return (x, rest)
  | _ => none

/-- what an escape by a single letter stands for -/
def letter? : Char → Option Char
  | '"' => some '"'
  | '\\' => some '\\'
  | '/' => some '/'
  | 'b' => some '\x08'
  | 'f' => some '\x0c'
  | 'n' => some '\n'
  | 'r' => some '\r'
  | 't' => some '\t'
  | _ => none

/-- a unit of 16 bits that was written as an escape, or a character -/
inductive Mark where
  | char (c : Char)
  | unit (n : Nat)

/-- the inside of a text up to the closing quote, one mark for each character or escape -/
def marks : (fuel : Nat) → List Char → Option (List Mark × List Char)
  | 0, _ => none
  | _ + 1, [] => none
  | _ + 1, '"' :: rest => some ([], rest)
  | fuel + 1, '\\' :: 'u' :: rest => do
    let (n, rest) ← hex4? rest
    let (ms, rest) ← marks fuel rest
    return (.unit n :: ms, rest)
  | fuel + 1, '\\' :: c :: rest => do
    let c ← letter? c
    let (ms, rest) ← marks fuel rest
    return (.char c :: ms, rest)
  | fuel + 1, c :: rest =>
    if c < ' ' || c = '\\' then none else do
      let (ms, rest) ← marks fuel rest
      return (.char c :: ms, rest)

/-- the characters of some marks: a high half has to be followed by a low half, and no low half stands alone -/
def characters : List Mark → Option (List Char)
  | [] => some []
  | .char c :: ms => (characters ms).map (c :: ·)
  | .unit n :: ms =>
    if 0xD800 ≤ n ∧ n < 0xDC00 then
      match ms with
      | .unit l :: ms' =>
        if 0xDC00 ≤ l ∧ l < 0xE000 then
          (characters ms').map (Char.ofNat (0x10000 + (n - 0xD800) * 0x400 + (l - 0xDC00)) :: ·)
        else none
      | _ => none
    else if 0xDC00 ≤ n ∧ n < 0xE000 then none
    else (characters ms).map (Char.ofNat n :: ·)

/-- a text behind its opening quote; `none` inside where the escapes make no characters -/
def textBody (fuel : Nat) (cs : List Char) : Option (Option String × List Char) := do
  let (ms, rest) ← marks fuel cs
  return ((characters ms).map String.ofList, rest)

def isDigit (c : Char) : Bool := '0' ≤ c && c ≤ '9'

/-- the digits at the front -/
def digits (cs : List Char) : List Nat × List Char :=
  ((cs.takeWhile isDigit).map fun c => c.toNat - 48, cs.dropWhile isDigit)

/-- a fraction, if a point stands at the front -/
def fraction : List Char → Option (Option (List Nat) × List Char)
  | '.' :: cs =>
    match digits cs with
    | ([], _) => none
    | (ds, rest) => some (some ds, rest)
  | cs => some (none, cs)

/-- an exponent, if its letter stands at the front -/
def exponent : List Char → Option (Option (Bool × List Nat) × List Char)
  | [] => some (none, [])
  | c :: cs =>
    if c = 'e' || c = 'E' then
      let (minus, cs) := match cs with
        | '+' :: r => (false, r)
        | '-' :: r => (true, r)
        | _ => (false, cs)
      match digits cs with
      | ([], _) => none
      | (ds, rest) => some (some (minus, ds), rest)
    else some (none, c :: cs)

/-- a numeral behind its sign; a zero at the front stands alone -/
def numeral (negative : Bool) (cs : List Char) : Option (Tree × List Char) := do
  let (whole, rest) := digits cs
  if whole = [] then none
  else if whole.head? = some 0 ∧ 1 < whole.length then none
  else
    let (f, rest) ← fraction rest
    let (e, rest) ← exponent rest
    return (.number ⟨negative, whole, f, e⟩, rest)

mutual

/-- a tree at the front, behind any space -/
def tree : (fuel : Nat) → List Char → Option (Tree × List Char)
  | 0, _ => none
  | fuel + 1, cs =>
    match skipSpace cs with
    | [] => none
    | 'n' :: rest => (expect ['u', 'l', 'l'] rest).map fun r => (.null, r)
    | 't' :: rest => (expect ['r', 'u', 'e'] rest).map fun r => (.bool true, r)
    | 'f' :: rest => (expect ['a', 'l', 's', 'e'] rest).map fun r => (.bool false, r)
    | '"' :: rest => (textBody fuel rest).map fun (s, r) => (.text s, r)
    | '-' :: rest => numeral true rest
    | '[' :: rest =>
      match skipSpace rest with
      | ']' :: r => some (.array [], r)
      | r => (items fuel r).map fun (ts, r) => (.array ts, r)
    | '{' :: rest =>
      match skipSpace rest with
      | '}' :: r => some (.object [], r)
      | r => (fields fuel r).map fun (fs, r) => (.object fs, r)
    | c :: rest => if isDigit c then numeral false (c :: rest) else none

/-- the items of an array up to its closing bracket; at least one -/
def items : (fuel : Nat) → List Char → Option (List Tree × List Char)
  | 0, _ => none
  | fuel + 1, cs =>
    match tree fuel cs with
    | none => none
    | some (t, rest) =>
      match skipSpace rest with
      | ']' :: r => some ([t], r)
      | ',' :: r => (items fuel r).map fun (ts, r) => (t :: ts, r)
      | _ => none

/-- the fields of an object up to its closing brace; at least one -/
def fields : (fuel : Nat) → List Char → Option (List (Option String × Tree) × List Char)
  | 0, _ => none
  | fuel + 1, cs =>
    match skipSpace cs with
    | '"' :: rest =>
      match textBody fuel rest with
      | none => none
      | some (k, rest) =>
        match skipSpace rest with
        | ':' :: rest =>
          match tree fuel rest with
          | none => none
          | some (t, rest) =>
            match skipSpace rest with
            | '}' :: r => some ([(k, t)], r)
            | ',' :: r => (fields fuel r).map fun (fs, r) => ((k, t) :: fs, r)
            | _ => none
        | _ => none
    | _ => none

end

end Reader

/-- the tree of a text that holds nothing else; every call passes a character or enters a bracket -/
def Tree.ofText? (s : String) : Option Tree := do
  let cs := s.toList
  let (t, rest) ← Reader.tree (2 * cs.length + 2) cs
  if Reader.skipSpace rest = [] then some t else none

/-- how deep arrays and objects may be nested -/
def maxDepth : Nat := 127

mutual

/-- the value of a tree, nested at most `depth` deep -/
def Tree.valueWithin (depth : Nat) : Tree → Option Value
  | .null => some .null
  | .bool b => some (.bool b)
  | .number n => n.value?
  | .text s => s.map .text
  | .array ts => if depth = 0 then none else (valuesWithin (depth - 1) ts).map .array
  | .object fs => if depth = 0 then none else (fieldsWithin (depth - 1) fs).map Value.ofFields

def valuesWithin (depth : Nat) : List Tree → Option (List Value)
  | [] => some []
  | t :: ts => do return (← t.valueWithin depth) :: (← valuesWithin depth ts)

def fieldsWithin (depth : Nat) : List (Option String × Tree) → Option (List (String × Value))
  | [] => some []
  | (k, t) :: fs => do return ((← k), (← t.valueWithin depth)) :: (← fieldsWithin depth fs)

end

/-- the value that a text holds -/
def Value.ofText? (s : String) : Option Value := do
  (← Tree.ofText? s).valueWithin maxDepth

end EventBroker.Json
