import DocQuery.Error

/-!
# Regular expressions

A pattern with flags. Neither may hold a NUL character, and the flags are kept in the order of
their code points. A literal is a pattern between slashes with ASCII letters as flags behind it; the
pattern reaches from the first slash to the last one, so it may hold slashes itself.
-/

namespace DocQuery

/-- A regular expression. -/
structure Regex where
  pattern : String
  flags : String
  deriving DecidableEq

namespace Regex

/-- Characters in the order of their code points. -/
def sorted (cs : List Char) : List Char := cs.mergeSort (fun a b => decide (a.val ≤ b.val))

/-- Makes an expression from its parts; the pattern is looked at first. -/
def make (pattern flags : String) : Except Error Regex :=
  let ordered := String.ofList (sorted flags.toList)
  if pattern.toList.contains '\x00' then .error (.nulInPattern pattern)
  else if ordered.toList.contains '\x00' then .error (.nulInFlags ordered)
  else .ok ⟨pattern, ordered⟩

/-- The parts before and after the last slash. -/
def splitLastSlash : List Char → Option (List Char × List Char)
  | [] => none
  | c :: cs =>
    match splitLastSlash cs with
    | some (before, after) => some (c :: before, after)
    | none => if c = '/' then some ([], cs) else none

/-- Pattern and flags of a literal, as written. -/
def splitLiteral (literal : List Char) : Option (List Char × List Char) :=
  match literal with
  | '/' :: body =>
    match splitLastSlash body with
    | some (pattern, flags) => if flags.all Char.isAlpha then some (pattern, flags) else none
    | none => none
  | _ => none

/-- Reads a literal. -/
def parse (literal : String) : Except Error Regex :=
  match splitLiteral literal.toList with
  | some (pattern, flags) => make (String.ofList pattern) (String.ofList flags)
  | none => .error (.malformedRegex literal)

/-- The literal of an expression. -/
def literal (r : Regex) : String := "/" ++ r.pattern ++ "/" ++ r.flags

/-- An expression as a value of the store. -/
def value (r : Regex) : Value := .regex r.pattern r.flags

end Regex

end DocQuery
