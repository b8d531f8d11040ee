import DocQuery.Text.Hex
import DocQuery.Text.Printable

/-!
# Quoted text

A text between double quotes with its special characters escaped: NUL, tab, line feed, carriage
return, the double quote and the backslash after a backslash, other characters that are not
printable as `\u` with their code point in braces.
-/

namespace DocQuery.Text

/-- One character of a quoted text. -/
def escapeChar (c : Char) : List Char :=
  if c = '\x00' then ['\\', '0']
  else if c = '\t' then ['\\', 't']
  else if c = '\n' then ['\\', 'n']
  else if c = '\r' then ['\\', 'r']
  else if c = '\"' then ['\\', '\"']
  else if c = '\\' then ['\\', '\\']
  else if isPrintable c then [c]
  else ['\\', 'u', '\x7b'] ++ Nat.toDigits 16 c.toNat ++ ['\x7d']

/-- A text between double quotes, escaped. -/
def quote (s : String) : String :=
  String.ofList ('\"' :: (s.toList.flatMap escapeChar ++ ['\"']))

end DocQuery.Text
