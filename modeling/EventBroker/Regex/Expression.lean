/-
Reading an expression as a pattern.

Groups, repetitions, alternatives and classes may nest `nestLimit` deep, all counted together; `Pattern.ofText?` refuses
deeper ones.
-/
import EventBroker.Regex.Class

namespace EventBroker.Regex

open EventBroker.Unicode

def nestLimit : Nat := 250

/-- a part of an expression: its pattern, how deep it nests, and whether it is something that can be repeated -/
structure Part where
  pattern : Pattern
  depth : Nat
  repeatable : Bool

/-- parts one after another -/
def Part.sequence (ps : List Part) : Part :=
  match ps with
  | [] => ⟨.empty, 0, false⟩
  | [p] => p
  | _ => ⟨.sequence (ps.map (·.pattern)), 1 + ps.foldl (fun d p => max d p.depth) 0, true⟩

/-- parts of which one is chosen -/
def Part.choice (ps : List Part) : Part :=
  match ps with
  | [p] => p
  | _ => ⟨.choice (ps.map (·.pattern)), 1 + ps.foldl (fun d p => max d p.depth) 0, true⟩

namespace Reader

/-! ## Flags -/

/-- switch the flag of a letter on or off -/
def switchFlag (f : Flags) (on : Bool) : Char → Option Flags
  | 'i' => some { f with ignoreCase := on }
  | 'm' => some { f with multiLine := on }
  | 's' => some { f with dotAll := on }
  | 'U' => some { f with swapGreed := on }
  | 'u' => some { f with unicode := on }
  | 'R' => some { f with crlf := on }
  | 'x' => some { f with verbose := on }
  | _ => none

/-- the letters of a flag list up to its colon or parenthesis -/
def flagLetters : (fuel : Nat) → Reader (List Char)
  | 0 => failure
  | fuel + 1 => do
    let c ← next
    if c == ':' || c == ')' then return []
    advance
    return c :: (← flagLetters fuel)

/-- set the flags before a hyphen and clear those behind it; a letter stands once, and the hyphen not last -/
def switchFlags (on : Bool) (seen : List Char) : List Char → Flags → Option Flags
  | [], f => if seen.head? == some '-' then none else some f
  | c :: cs, f =>
    if seen.contains c then none
    else if c == '-' then switchFlags false (c :: seen) cs f
    else do switchFlags on (c :: seen) cs (← switchFlag f on c)

/-! ## Groups -/

/-- a name begins with a letter or an underscore; digits, dots and square brackets may follow -/
def isNameChar (first : Bool) (c : Char) : Bool :=
  if first then c == '_' || alphabetic.containsChar c
  else c == '_' || c == '.' || c == '[' || c == ']' || alphanumeric.containsChar c

/-- the name of a group, up to its angle bracket; two groups may not share one -/
def groupName : Reader Unit := do
  let c ← get
  let name := c.rest.takeWhile (· != '>')
  match name, c.rest.drop name.length with
  | first :: others, _ :: rest =>
    let name := String.ofList name
    if !isNameChar true first || !others.all (isNameChar false) || c.names.contains name then failure
    set { c with rest := rest, names := name :: c.names }
  | _, _ => failure

/-- what the opening of a group says -/
inductive Opening where
  | capturing
  | plain
  /-- no group: the flags are for the rest of the group around it -/
  | switch

/-- the opening of a group, from behind its parenthesis on -/
def groupOpening : Reader Opening := do
  skipSpace
  for mark in ["?=", "?!", "?<=", "?<!"] do
    if ← takeIf mark then failure
  if ← takeIf "?P<" then
    groupName
    return .capturing
  else if ← takeIf "?<" then
    groupName
    return .capturing
  else if ← takeIf "?" then
    let letters ← flagLetters (← ahead)
    match switchFlags true [] letters (← flags) with
    | none => failure
    | some f =>
      setFlags f
      let mark ← next
      advance
      if mark == ':' then return .plain
      else if letters.isEmpty then failure
      else return .switch
  else return .capturing

/-- a group, given how to read the inside of one -/
def group (inside : Reader Part) : Reader Part := do
  advance
  let outer ← flags
  match ← groupOpening with
  | .switch => return ⟨.empty, 0, false⟩
  | opening =>
    let part ← inside
    if (← next) != ')' then failure
    advance
    setFlags outer
    let pattern := match opening with
      | .capturing => .capture part.pattern
      | _ => part.pattern
    return ⟨pattern, part.depth + 1, true⟩

/-! ## Repetition -/

/-- how often a repetition in braces repeats -/
def bounds : Reader (Nat × Option Nat) := do
  advanceSpace
  let _ ← next
  let least ← count
  let bound ← do
    if (← next) == ',' then
      advanceSpace
      if (← next) == '}' then pure none else pure (some (← count))
    else pure (some least)
  if (← next) != '}' then failure
  advanceSpace
  match bound with
  | some most => if most < least then failure else return (least, bound)
  | none => return (least, bound)

/-- the operator of a repetition, with the question mark that makes it reluctant -/
def repetitionOperator : Reader (Nat × Option Nat) := do
  let range ← do
    match ← next with
    | '{' => bounds
    | c =>
      advance
      match c with
      | '*' => pure (0, none)
      | '+' => pure (1, none)
      | _ => pure (0, some 1)
  if (← next?) == some '?' then advance
  return range

/-! ## Single signs -/

/-- a literal character; without Unicode only ASCII letters have another case -/
def literal (f : Flags) (c : Char) : Pattern :=
  let s := folded f (CodeSet.single c.toNat)
  if s.count == 1 then .literal c else .set s

/-- any character but the end of a line -/
def dot : Reader Pattern := do
  let f ← flags
  if !f.unicode then failure
  else if f.dotAll then return .set CodeSet.full
  else if f.crlf then return .set (CodeSet.ofList [(0x0A, 0x0A), (0x0D, 0x0D)]).compl
  else return .set (CodeSet.single 0x0A).compl

def lineLook (f : Flags) (text line crlf : Look) : Look :=
  if !f.multiLine then text else if f.crlf then crlf else line

/-- a sign outside classes -/
def sign : Reader Part := do
  let f ← flags
  let pattern ← do
    match ← next with
    | '\\' =>
      match ← escape with
      | .literal c => pure (literal f c)
      | .set s => pure (.set s)
      | .look l => pure (.look l)
    | c =>
      advance
      match c with
      | '.' => dot
      | '^' => pure (.look (lineLook f .textStart .lineStart .crlfStart))
      | '$' => pure (.look (lineLook f .textEnd .lineEnd .crlfEnd))
      | c => pure (literal f c)
  return ⟨pattern, 0, true⟩

/-- the inside of a group up to its parenthesis or the end, given the parts already read, the last one first, and how
to read the inside of a group in it -/
def partsFrom (inside : Reader Part) :
    (fuel : Nat) → (branches items : List Part) → Reader Part
  | 0, branches, items => return .choice (.sequence items.reverse :: branches).reverse
  | fuel + 1, branches, items => do
    skipSpace
    match ← next? with
    | none | some ')' => return .choice (.sequence items.reverse :: branches).reverse
    | some '|' =>
      advance
      partsFrom inside fuel (.sequence items.reverse :: branches) []
    | some '(' =>
      let part ← group inside
      partsFrom inside fuel branches (part :: items)
    | some '[' =>
      let cls ← bracketed (nestLimit + 1)
      partsFrom inside fuel branches (⟨.set cls.set, cls.depth, true⟩ :: items)
    | some '*' | some '+' | some '?' | some '{' =>
      match items with
      | [] => failure
      | item :: items =>
        if !item.repeatable then failure
        let (least, bound) ← repetitionOperator
        partsFrom inside fuel branches (⟨.repeated least bound item.pattern, item.depth + 1, true⟩ :: items)
    | some _ =>
      let part ← sign
      partsFrom inside fuel branches (part :: items)

/-- the inside of a group with at most so many groups inside each other -/
def parts : (depth : Nat) → Reader Part
  | 0 => failure
  | depth + 1 => do partsFrom (parts depth) ((← ahead) + 1) [] []

end Reader

/-- the pattern that an expression means, unless it is refused -/
def Pattern.ofText? (s : String) : Option Pattern := do
  let (part, cursor) ← (Reader.parts (nestLimit + 2)).run ⟨s.toList, Flags.standard, []⟩
  if cursor.rest.isEmpty && part.depth ≤ nestLimit then return part.pattern else none

end EventBroker.Regex
