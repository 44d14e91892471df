/-
Escapes and bracketed classes.

A class is read as the set it stands for, together with the depth to which it nests.
-/
import EventBroker.Regex.Cursor
import EventBroker.Unicode.Fold
import EventBroker.Text.Hex

namespace EventBroker.Regex

open EventBroker.Unicode

/-- what a single sign stands for -/
inductive Sign where
  | literal (c : Char)
  | set (s : CodeSet)
  | look (l : Look)

/-- a set made blind to case where case is ignored -/
def folded (f : Flags) (s : CodeSet) : CodeSet :=
  if f.ignoreCase then (if f.unicode then s.foldCase else s.foldAsciiCase) else s

namespace Reader

/-- the complement of a set, which must be one of characters -/
def negated (negate : Bool) (s : CodeSet) : Reader CodeSet := do
  if negate then
    if (← flags).unicode then return s.compl else failure
  else return s

/-! ## Escapes -/

/-- the character with a code, unless it has none -/
def scalar (ds : List Char) : Reader Char := do
  let n := ds.foldl (fun n c => n * 16 + (Text.Hex.value? c).getD 0) 0
  if n < 0xD800 || 0xE000 ≤ n && n ≤ lastCode then return Char.ofNat n else failure

def isHexDigit (c : Char) : Bool := (Text.Hex.value? c).isSome

/-- exactly so many digits, with space between them -/
def hexDigits : Nat → Reader (List Char)
  | 0 => return []
  | n + 1 => do
    let c ← next
    if isHexDigit c then
      advanceSpace
      return c :: (← hexDigits n)
    else failure

/-- a code in hexadecimal digits, from the letter that says how many they are; without Unicode two digits stand for a
byte, which must be ASCII -/
def hexCode (digits : Nat) : Reader Char := do
  advanceSpace
  if (← next) == '{' then
    advanceSpace
    let ds ← spaced isHexDigit (← ahead)
    if (← next) != '}' || ds.isEmpty then failure
    advanceSpace
    scalar ds
  else
    let ds ← hexDigits digits
    let c ← scalar ds
    if digits == 2 && !(← flags).unicode && 128 ≤ c.toNat then failure
    return c

/-- the place where a name is parted from a value, and how long the mark between them is -/
def partingOf (name : List Char) : Option (Nat × Nat) :=
  let at? := fun (mark : List Char) =>
    let tails := (List.range name.length).filter fun i => mark.isPrefixOf (name.drop i)
    tails.head?.map fun i => (i, mark.length)
  ((at? ['!', '=']).or (at? [':'])).or (at? ['='])

/-- the set of a property by its name, or by its name and a value -/
def propertySet? (name : List Char) : Option CodeSet :=
  match partingOf name with
  | some (i, n) => valuedSet? (String.ofList (name.take i)) (String.ofList (name.drop (i + n)))
  | none => namedSet? (String.ofList name)

/-- a property, from the letter `p` or `P` -/
def property : Reader CodeSet := do
  let negate := (← next) == 'P'
  advanceSpace
  let name ← do
    if (← next) == '{' then
      advanceSpace
      let name ← spaced (· != '}') (← ahead)
      let _ ← next
      advance
      pure name
    else
      let c ← next
      if c == '\\' then failure
      advanceSpace
      pure [c]
  let f ← flags
  if !f.unicode then failure
  match propertySet? name with
  | some s => negated negate (folded f s)
  | none => failure

def asciiDigits : CodeSet := CodeSet.range 0x30 0x39

def asciiSpace : CodeSet := CodeSet.ofList [(0x09, 0x0D), (0x20, 0x20)]

/-- the class of a letter, a capital one standing for the other characters -/
def letterClass (c : Char) : Reader CodeSet := do
  let unicode := (← flags).unicode
  let s :=
    match c.toLower with
    | 'd' => if unicode then decimalDigits else asciiDigits
    | 's' => if unicode then whiteSpace else asciiSpace
    | _ => if unicode then wordCharacters else asciiWord
  negated c.isUpper s

/-- a word boundary of a special kind in braces; other braces are left for a repetition -/
def boundary : Reader Look := do
  let ascii := !(← flags).unicode
  let start ← get
  if start.rest.head? != some '{' then return .wordBoundary ascii
  let isLetter := fun (c : Char) => c.isAlpha || c == '-'
  advanceSpace
  if !isLetter (← next) then
    set start
    return .wordBoundary ascii
  let name ← spaced isLetter (← ahead)
  if (← next) != '}' then failure
  advance
  match String.ofList name with
  | "start" => return .wordStart ascii
  | "end" => return .wordEnd ascii
  | "start-half" => return .wordStartHalf ascii
  | "end-half" => return .wordEndHalf ascii
  | _ => failure

/-- a sign that begins with a backslash -/
def escape : Reader Sign := do
  advance
  let c ← next
  let ascii := !(← flags).unicode
  match c with
  | 'x' => return .literal (← hexCode 2)
  | 'u' => return .literal (← hexCode 4)
  | 'U' => return .literal (← hexCode 8)
  | 'p' | 'P' => return .set (← property)
  | _ =>
    advance
    match c with
    | 'd' | 's' | 'w' | 'D' | 'S' | 'W' => return .set (← letterClass c)
    | 'a' => return .literal '\x07'
    | 'f' => return .literal '\x0C'
    | 't' => return .literal '\t'
    | 'n' => return .literal '\n'
    | 'r' => return .literal '\r'
    | 'v' => return .literal '\x0B'
    | 'A' => return .look .textStart
    | 'z' => return .look .textEnd
    | 'b' => return .look (← boundary)
    | 'B' => return .look (.notWordBoundary ascii)
    | '<' => return .look (.wordStart ascii)
    | '>' => return .look (.wordEnd ascii)
    | _ => if c.toNat < 128 && !c.isAlphanum then return .literal c else failure

/-! ## Classes -/

/-- a set and the depth to which what it was read from nests -/
structure Nested where
  set : CodeSet
  depth : Nat

/-- the items of a class as one -/
def joined (items : List Nested) : Nested :=
  ⟨CodeSet.unions (items.map (·.set)),
    match items with
    | [] => 0
    | [i] => i.depth
    | _ => 1 + items.foldl (fun d i => max d i.depth) 0⟩

inductive SetOperator where
  | intersection | difference | symmetricDifference

def SetOperator.apply : SetOperator → CodeSet → CodeSet → CodeSet
  | .intersection, s, t => s.inter t
  | .difference, s, t => s.diff t
  | .symmetricDifference, s, t => s.symmDiff t

/-- the left side of an operator that waits for its right side -/
abbrev Pending := Option (Nested × SetOperator)

/-- give a waiting operator its right side -/
def settle (f : Flags) (pending : Pending) (right : Nested) : Nested :=
  match pending with
  | none => right
  | some (left, op) => ⟨op.apply (folded f left.set) (folded f right.set), 1 + max left.depth right.depth⟩

/-- the classes with a name, ASCII all of them -/
def asciiClass? (name : String) : Option CodeSet :=
  (match name with
    | "alnum" => some [(0x30, 0x39), (0x41, 0x5A), (0x61, 0x7A)]
    | "alpha" => some [(0x41, 0x5A), (0x61, 0x7A)]
    | "ascii" => some [(0x00, 0x7F)]
    | "blank" => some [(0x09, 0x09), (0x20, 0x20)]
    | "cntrl" => some [(0x00, 0x1F), (0x7F, 0x7F)]
    | "digit" => some [(0x30, 0x39)]
    | "graph" => some [(0x21, 0x7E)]
    | "lower" => some [(0x61, 0x7A)]
    | "print" => some [(0x20, 0x7E)]
    | "punct" => some [(0x21, 0x2F), (0x3A, 0x40), (0x5B, 0x60), (0x7B, 0x7E)]
    | "space" => some [(0x09, 0x0D), (0x20, 0x20)]
    | "upper" => some [(0x41, 0x5A)]
    | "word" => some [(0x30, 0x39), (0x41, 0x5A), (0x5F, 0x5F), (0x61, 0x7A)]
    | "xdigit" => some [(0x30, 0x39), (0x41, 0x46), (0x61, 0x66)]
    | _ => none).map CodeSet.ofList

/-- a class in brackets and colons at the cursor, if one stands there: its set, negated or not -/
def namedClass? : Reader (Option (CodeSet × Bool)) := do
  let start ← get
  match start.rest with
  | '[' :: ':' :: rest =>
    let (negate, rest) := match rest with
      | '^' :: rest => (true, rest)
      | rest => (false, rest)
    let name := rest.takeWhile (· != ':')
    match rest.drop name.length, asciiClass? (String.ofList name) with
    | ':' :: ']' :: rest, some s =>
      set { start with rest := rest }
      return some (s, negate)
    | _, _ => return none
  | _ => return none

/-- one sign of a class -/
def classSign : Reader Sign := do
  let c ← next
  if c == '\\' then escape
  else
    advance
    return .literal c

/-- the end of a range -/
def rangeEnd : Sign → Reader Char
  | .literal c => return c
  | _ => failure

/-- characters from one to another; without Unicode they are ASCII -/
def between (a b : Char) : Reader Nested := do
  if b.toNat < a.toNat then failure
  if !(← flags).unicode && 128 ≤ b.toNat then failure
  return ⟨CodeSet.range a.toNat b.toNat, 0⟩

/-- a sign of a class, or a range between two -/
def classItem : Reader Nested := do
  let sign ← classSign
  skipSpace
  let c ← next
  let beyond ← secondBeyondSpace?
  if c != '-' || beyond == some ']' || beyond == some '-' then
    match sign with
    | .literal c => between c c
    | .set s => return ⟨s, 0⟩
    | .look _ => failure
  else
    advanceSpace
    let _ ← next
    let last ← classSign
    between (← rangeEnd sign) (← rangeEnd last)

/-- the hyphens at the beginning of a class -/
def hyphens : (fuel : Nat) → Reader (List Nested)
  | 0 => return []
  | fuel + 1 => do
    if (← next) == '-' then
      advanceSpace
      return (← between '-' '-') :: (← hyphens fuel)
    else return []

/-- the opening of a class: whether it is negated, and the signs that are literal only there -/
def classOpening : Reader (Bool × List Nested) := do
  advanceSpace
  let negate := (← next) == '^'
  if negate then advanceSpace
  let items ← hyphens (← ahead)
  if items.isEmpty && (← next) == ']' then
    advanceSpace
    return (negate, [← between ']' ']'])
  else return (negate, items)

/-- the operator at the cursor, if one stands there -/
def setOperator? : Reader (Option SetOperator) := do
  match ← next?, ← second? with
  | some '&', some '&' => return some .intersection
  | some '-', some '-' => return some .difference
  | some '~', some '~' => return some .symmetricDifference
  | _, _ => return none

/-- the inside of a class up to its closing bracket, given how to read a class inside it -/
def classBody (inner : Reader Nested) :
    (fuel : Nat) → (items : List Nested) → Pending → Reader Nested
  | 0, _, _ => failure
  | fuel + 1, items, pending => do
    skipSpace
    let f ← flags
    match ← next with
    | '[' =>
      match ← namedClass? with
      | some (s, negate) =>
        let s ← negated negate (folded f s)
        classBody inner fuel (items ++ [⟨s, 0⟩]) pending
      | none =>
        let nested ← inner
        classBody inner fuel (items ++ [nested]) pending
    | ']' =>
      advance
      return settle f pending (joined items)
    | _ =>
      match ← setOperator? with
      | some op =>
        advance
        advance
        classBody inner fuel [] (some (settle f pending (joined items), op))
      | none =>
        let item ← classItem
        classBody inner fuel (items ++ [item]) pending

/-- a class in brackets that nests at most so deep -/
def bracketed : (depth : Nat) → Reader Nested
  | 0 => failure
  | depth + 1 => do
    let (negate, items) ← classOpening
    let body ← classBody (bracketed depth) (← ahead) items none
    let s ← negated negate (folded (← flags) body.set)
    return ⟨s, body.depth + 1⟩

end Reader

end EventBroker.Regex
