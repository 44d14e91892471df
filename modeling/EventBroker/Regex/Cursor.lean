/-
The place up to which an expression is read, with the flags that hold there.

A reader moves the cursor and yields a value, or fails; why an expression is refused is not recorded.
-/
import EventBroker.Regex.Pattern
import EventBroker.Text.Blank

namespace EventBroker.Regex

/-- what `(?imsURux)` switches -/
structure Flags where
  ignoreCase : Bool
  multiLine : Bool
  dotAll : Bool
  swapGreed : Bool
  unicode : Bool
  crlf : Bool
  verbose : Bool

def Flags.standard : Flags := ⟨false, false, false, false, true, false, false⟩

structure Cursor where
  rest : List Char
  flags : Flags
  /-- the names of the groups so far -/
  names : List String

abbrev Reader := StateT Cursor Option

/-- drop blanks and comments, which begin with `#` and end with the line -/
def dropSpace : (inComment : Bool) → List Char → List Char
  | _, [] => []
  | true, c :: cs => dropSpace (c != '\n') cs
  | false, c :: cs =>
    if Text.isBlank c then dropSpace false cs
    else if c == '#' then dropSpace true cs
    else c :: cs

namespace Reader

def flags : Reader Flags := return (← get).flags

def setFlags (f : Flags) : Reader Unit := modify fun c => { c with flags := f }

/-- the number of characters ahead -/
def ahead : Reader Nat := return (← get).rest.length

/-- the next character, if there is one -/
def next? : Reader (Option Char) := return (← get).rest.head?

/-- the next character; fails at the end -/
def next : Reader Char := do
  match (← get).rest with
  | c :: _ => return c
  | [] => failure

def advance : Reader Unit := modify fun c => { c with rest := c.rest.tail }

/-- pass over space where it has no meaning -/
def skipSpace : Reader Unit :=
  modify fun c => if c.flags.verbose then { c with rest := dropSpace false c.rest } else c

/-- pass over one character and the space behind it -/
def advanceSpace : Reader Unit := do
  advance
  skipSpace

/-- pass over blanks, which separate nothing here -/
def skipBlank : Reader Unit := modify fun c => { c with rest := c.rest.dropWhile Text.isBlank }

/-- pass over a text if it stands ahead -/
def takeIf (s : String) : Reader Bool := do
  let c ← get
  if s.toList.isPrefixOf c.rest then
    set { c with rest := c.rest.drop s.length }
    return true
  else return false

/-- the character behind the next one -/
def second? : Reader (Option Char) := return ((← get).rest.drop 1).head?

/-- the character behind the next one and the space that follows it -/
def secondBeyondSpace? : Reader (Option Char) := do
  let c ← get
  let rest := c.rest.drop 1
  if c.flags.verbose then
    let bare := rest.dropWhile Text.isBlank
    let bare := if bare.head? == some '#' then bare.tail.dropWhile Text.isBlank else bare
    return if bare.isEmpty then rest.head? else bare.head?
  else return rest.head?

/-- characters of a kind, with space between them, from the next one on -/
def spaced (belongs : Char → Bool) : (fuel : Nat) → Reader (List Char)
  | 0 => return []
  | fuel + 1 => do
    match ← next? with
    | some c =>
      if belongs c then
        advanceSpace
        return c :: (← spaced belongs fuel)
      else return []
    | none => return []

/-- a decimal number of 32 bits -/
def count : Reader Nat := do
  skipBlank
  let ds ← spaced Char.isDigit (← ahead)
  skipBlank
  skipSpace
  match (String.ofList ds).toNat? with
  | some n => if n < 0x100000000 then return n else failure
  | none => failure

end Reader

end EventBroker.Regex
