/-
Domain names in ASCII.

A name is mapped character by character, composed, and cut into labels. A label outside ASCII is written in ASCII, and
one that was written so is read for the checks: its characters are ones that stand for themselves, it does not begin with
a mark, its joiners have the neighbours they need, and in a name with writing from right to left every label keeps to
one direction.
-/
import EventBroker.Unicode.Category
import EventBroker.Unicode.Data.Domain
import EventBroker.Unicode.Normalization
import EventBroker.Url.Punycode

namespace EventBroker.Url

open EventBroker.Unicode

/-! ## Mapping -/

/-- characters that stand for themselves -/
def domainValid : CodeSet := CodeSet.ofRuns Data.domainValid

def domainIgnored : CodeSet := CodeSet.ofRuns Data.domainIgnored

/-- characters that stand for others, and for which ones -/
def domainMapped : Std.HashMap Nat (List Nat) :=
  let numbers := readNumbers Data.domainMapped
  Std.HashMap.ofList (decompositionsFrom numbers.length 0 numbers)

/-- what is written for a character, if it is allowed -/
def mapped? (c : Nat) : Option (List Nat) :=
  if domainValid.contains c then some [c]
  else if domainIgnored.contains c then some []
  else domainMapped[c]?

/-- ASCII characters that are part of no host -/
def isForbidden (c : Nat) : Bool :=
  c ≤ 0x20 || c == 0x7F || (c < 0x80 && "%#/:<>?@[\\]^|".toList.contains (Char.ofNat c))

/-! ## Labels -/

/-- cut a name at its dots -/
def labels : List Nat → List (List Nat)
  | [] => [[]]
  | c :: cs =>
    if c = 0x2E then [] :: labels cs
    else
      match labels cs with
      | l :: ls => (c :: l) :: ls
      | [] => [[c]]

/-- the beginning of a label that stands for one outside ASCII -/
def aceMark : List Nat := [0x78, 0x6E, 0x2D, 0x2D]

/-- the label that is read where `label` is written -/
def readLabel (label : List Nat) : Option (List Nat) :=
  if aceMark.isPrefixOf label then
    let code := label.drop aceMark.length
    if 2000 < code.length ∨ !(code.all (· < 0x80)) then none
    else
      match Punycode.decode (code.map Char.ofNat) with
      | none => none
      | some read =>
        if read.all (· < 0x80) || !(read.all domainValid.contains) || composed read != read then none else some read
  else some label

/-- a label in ASCII, given as it was written and as it is read -/
def writeLabel (label read : List Nat) : Option (List Nat) :=
  if label.all (· < 0x80) then some label
  else if 1000 < read.length then none
  else some (aceMark ++ (Punycode.encode read).map Char.toNat)

/-! ## Joiners -/

def joiningType (c : Nat) : String :=
  ((Data.joiningTypes.find? fun e => (CodeSet.ofRuns e.2).contains c).map (·.1)).getD "U"

/-- the nearest character that is not transparent joins on a side -/
def joinsNext (types : List String) (cs : List Nat) : Bool :=
  match cs.dropWhile fun c => joiningType c == "T" with
  | c :: _ => types.contains (joiningType c)
  | [] => false

/-- each joiner follows a sign that calls for one, or stands between characters that join; `before` is what precedes,
the last character first -/
def joinersFit (before : List Nat) : List Nat → Bool
  | [] => true
  | c :: cs =>
    let afterVirama := (before.head?.map combiningClass) == some 9
    let fits :=
      if c == 0x200C then afterVirama || joinsNext ["L", "D"] before && joinsNext ["R", "D"] cs
      else if c == 0x200D then afterVirama
      else true
    fits && joinersFit (c :: before) cs

/-! ## Directions -/

/-- the characters of each direction but the usual one -/
def directions : List (String × CodeSet) := Data.bidiClasses.map fun e => (e.1, CodeSet.ofRuns e.2)

def direction (c : Nat) : String := ((directions.find? fun e => e.2.contains c).map (·.1)).getD "L"

/-- the label calls for the rules on directions -/
def hasRightToLeft (label : List Nat) : Bool :=
  label.any fun c => 0x590 ≤ c && ["R", "AL", "AN"].contains (direction c)

/-- the label keeps to one direction -/
def oneDirection (label : List Nat) : Bool :=
  let ds := label.map direction
  let final := (ds.reverse.dropWhile (· == "NSM")).head?.getD ""
  match ds with
  | [] => true
  | "L" :: _ => ds.all (["L", "EN", "ES", "CS", "ET", "ON", "BN", "NSM"].contains ·) && ["L", "EN"].contains final
  | d :: _ =>
    (d == "R" || d == "AL")
      && ds.all (["R", "AL", "AN", "EN", "ES", "CS", "ET", "ON", "BN", "NSM"].contains ·)
      && ["R", "AL", "EN", "AN"].contains final
      && !(ds.contains "EN" && ds.contains "AN")

/-! ## Names -/

/-- a label may stand in a name -/
def labelAllowed (rightToLeft : Bool) (read : List Nat) : Bool :=
  !(read.any isForbidden)
    && !(read.head?.any marks.contains)
    && joinersFit [] read
    && (!rightToLeft || oneDirection read)

/-- labels with dots between them -/
def joinLabels (ls : List (List Nat)) : List Nat := (ls.intersperse [0x2E]).flatten

/-- a domain name in ASCII, if it is one -/
def domainToAscii (name : List Char) : Option String := do
  let mapped ← name.mapM fun c => mapped? c.toNat
  let written := labels (composed mapped.flatten)
  let read ← written.mapM readLabel
  let rightToLeft := read.any hasRightToLeft
  if !(read.all (labelAllowed rightToLeft)) then none
  let ascii ← (written.zip read).mapM fun l => writeLabel l.1 l.2
  return String.ofList ((joinLabels ascii).map Char.ofNat)

end EventBroker.Url
