/-
Sets of code points by general category or by property.
-/
import EventBroker.Unicode.CodeSet
import EventBroker.Unicode.Data.Category
import EventBroker.Unicode.Data.Property

namespace EventBroker.Unicode

/-- the set that a table holds under a name -/
def findSet (table : List (List String × List String)) (name : String) : Option CodeSet :=
  (table.find? fun e => e.1.contains name).map fun e => CodeSet.ofRuns e.2

/-- the sets of some categories together -/
def categoriesSet (names : List String) : CodeSet :=
  CodeSet.unions (names.filterMap (findSet Data.categories))

/-- the code points with a property; empty for an unknown one -/
def propertySet (name : String) : CodeSet :=
  (findSet Data.properties name).getD CodeSet.empty

/-- code points with no shape of their own on paper: controls, separators other than the space, unassigned ones -/
def unprintable : CodeSet :=
  (categoriesSet ["cc", "cf", "cs", "co", "cn", "zl", "zp", "zs"]).diff (CodeSet.single 0x20)

/-- code points that extend the character before them -/
def graphemeExtend : CodeSet := propertySet "graphemeextend"

/-- blank code points -/
def whiteSpace : CodeSet := propertySet "whitespace"

/-- code points that combine with the one before -/
def marks : CodeSet := categoriesSet ["mn", "mc", "me"]

end EventBroker.Unicode
