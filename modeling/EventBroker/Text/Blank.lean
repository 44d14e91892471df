/-
Blank characters, and texts without the blanks at their ends.
-/
import EventBroker.Unicode.Category

namespace EventBroker.Text

/-- a character of the property White_Space -/
def isBlank (c : Char) : Bool := Unicode.whiteSpace.containsChar c

/-- a text without the blanks it begins with -/
def trimStart (cs : List Char) : List Char := cs.dropWhile isBlank

def trimEnd (cs : List Char) : List Char := (cs.reverse.dropWhile isBlank).reverse

/-- a text without the blanks at both ends -/
def trim (s : String) : String := String.ofList (trimEnd (trimStart s.toList))

end EventBroker.Text
