/-
Texts in quotes, as they are shown to a programmer.

A backslash, a double quote and the common controls are escaped by a letter; characters that extend the one before and
characters without a shape of their own are written as their code point.
-/
import EventBroker.Text.Hex
import EventBroker.Unicode.Category

namespace EventBroker.Text

/-- a code point as an escape -/
def codeEscape (c : Char) : String := "\\u\x7b" ++ Hex.ofNat c.toNat ++ "\x7d"

/-- one character between double quotes -/
def escapeChar (c : Char) : String :=
  if c = '\x00' then "\\0"
  else if c = '\t' then "\\t"
  else if c = '\r' then "\\r"
  else if c = '\n' then "\\n"
  else if c = '"' then "\\\""
  else if c = '\\' then "\\\\"
  else if ' ' ≤ c ∧ c ≤ '~' then c.toString
  else if Unicode.graphemeExtend.containsChar c || Unicode.unprintable.containsChar c then codeEscape c
  else c.toString

/-- a text between double quotes -/
def quoted (s : String) : String :=
  "\"" ++ s.foldl (fun acc c => acc ++ escapeChar c) "" ++ "\""

end EventBroker.Text
