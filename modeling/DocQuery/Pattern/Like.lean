/-!
# LIKE patterns

A LIKE pattern holds its characters literally; a percent sign at either end stands for any text
there. `Like.regex` writes it as a regular expression: special characters are escaped, and the
expression is anchored at each end without a percent sign.
-/

namespace DocQuery.Like

/-- The flags of an expression made from a LIKE pattern when no others are given. -/
def defaultFlags : String := "imxsu"

/-- The characters that are escaped. -/
def special : List Char := "\\.+*?[^]$()\x7b\x7d=!<>|:-#/".toList

/-- Puts a backslash before every special character. -/
def escape : List Char → List Char
  | [] => []
  | c :: cs => if special.contains c then '\\' :: c :: escape cs else c :: escape cs

/-- Drops a percent sign at the start, or anchors the expression there. -/
def anchorStart : List Char → List Char
  | '%' :: cs => cs
  | cs => '^' :: cs

/-- Drops a percent sign at the end, or anchors the expression there. -/
def anchorEnd : List Char → List Char
  | [] => ['$']
  | ['%'] => []
  | c :: cs => c :: anchorEnd cs

/-- The regular expression of a LIKE pattern, on characters. -/
def regexChars (pattern : List Char) : List Char := anchorEnd (anchorStart (escape pattern))

/-- The regular expression of a LIKE pattern. -/
def regex (pattern : String) : String := String.ofList (regexChars pattern.toList)

end DocQuery.Like
