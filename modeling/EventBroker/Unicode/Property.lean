/-
Sets of code points by the name of a property, or by the name of a property and one of its values.

Names are compared loosely: case, blanks, hyphens and underscores do not matter, nor does a leading "is".
-/
import EventBroker.Unicode.Category
import EventBroker.Unicode.Data.Script
import EventBroker.Unicode.Data.Segment
import EventBroker.Unicode.Data.Age

namespace EventBroker.Unicode

/-- a name without what loose comparison ignores -/
def looseName (name : String) : String :=
  let letters := fun (cs : List Char) =>
    (cs.filter fun c => c.toNat < 128 && c != ' ' && c != '_' && c != '-').map Char.toLower
  match name.toList with
  | a :: b :: rest =>
    if a.toLower == 'i' && b.toLower == 's' then
      let stripped := letters rest
      String.ofList (if stripped == ['c'] then ['i', 's', 'c'] else stripped)
    else String.ofList (letters (a :: b :: rest))
  | cs => String.ofList (letters cs)

/-- categories that other categories make up, under their names -/
def categoryGroups : List (List String × List String) :=
  [(["c", "other"], ["cc", "cf", "cs", "co", "cn"]),
    (["l", "letter"], ["lu", "ll", "lt", "lm", "lo"]),
    (["lc", "casedletter"], ["lu", "ll", "lt"]),
    (["m", "mark", "combiningmark"], ["mn", "mc", "me"]),
    (["n", "number"], ["nd", "nl", "no"]),
    (["p", "punctuation", "punct"], ["pc", "pd", "ps", "pe", "pi", "pf", "po"]),
    (["s", "symbol"], ["sm", "sc", "sk", "so"]),
    (["z", "separator"], ["zs", "zl", "zp"])]

/-- code points that stand for no character -/
def surrogates : CodeSet := CodeSet.range 0xD800 0xDFFF

/-- the code points of a general category or of a group of them; the surrogates form no category of characters -/
def generalCategory? (name : String) : Option CodeSet :=
  if name == "any" then some CodeSet.full
  else if name == "assigned" then some (categoriesSet ["cn"]).compl
  else if name == "ascii" then some (CodeSet.range 0 0x7F)
  else if name == "cs" || name == "surrogate" then none
  else
    match categoryGroups.find? fun g => g.1.contains name with
    | some g => some (categoriesSet g.2)
    | none => findSet Data.categories name

/-- the code points that were assigned by the version of a name -/
def age? (name : String) : Option CodeSet :=
  let older := Data.ages.takeWhile fun e => !e.1.contains name
  match Data.ages[older.length]? with
  | some e => some (CodeSet.unions ((older ++ [e]).map fun v => CodeSet.ofRuns v.2))
  | none => none

/-- the code points of a property, general category or script of that name -/
def namedSet? (name : String) : Option CodeSet :=
  let name := looseName name
  let category := (generalCategory? name).or (findSet Data.scripts name)
  if name == "cf" || name == "sc" || name == "lc" then category
  else (findSet Data.properties name).or category

/-- the code points for which a property has a value -/
def valuedSet? (property value : String) : Option CodeSet :=
  let value := looseName value
  match looseName property with
  | "gc" | "generalcategory" => generalCategory? value
  | "sc" | "script" => findSet Data.scripts value
  | "scx" | "scriptextensions" => findSet Data.scriptExtensions value
  | "age" => age? value
  | "gcb" | "graphemeclusterbreak" => findSet Data.graphemeBreaks value
  | "wb" | "wordbreak" => findSet Data.wordBreaks value
  | "sb" | "sentencebreak" => findSet Data.sentenceBreaks value
  | _ => none

/-- the decimal digits of all scripts -/
def decimalDigits : CodeSet := categoriesSet ["nd"]

/-- the characters that words are made of -/
def wordCharacters : CodeSet :=
  CodeSet.unions [propertySet "alphabetic", marks, decimalDigits, categoriesSet ["pc"], propertySet "joincontrol"]

/-- the letters -/
def alphabetic : CodeSet := propertySet "alphabetic"

/-- letters and numbers of any kind -/
def alphanumeric : CodeSet := alphabetic.union (categoriesSet ["nd", "nl", "no"])

end EventBroker.Unicode
