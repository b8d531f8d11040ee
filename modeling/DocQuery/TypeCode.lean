import DocQuery.Error
import DocQuery.Text.Blank

/-!
# Type codes

The store knows the types of values by number. `TypeCode.resolve` accepts a number of thirty-two
bits, with white space around it, or the name of a type in any case of its ASCII letters.
-/

namespace DocQuery.TypeCode

/-- The names of types, with their numbers. -/
def table : List (String × Int32) := [
  ("DOUBLE", 1), ("STRING", 2), ("OBJECT", 3), ("ARRAY", 4), ("BINARY", 5), ("ID", 8),
  ("BOOL", 8), ("BOOLEAN", 8), ("DATE", 9), ("NULL", 10), ("REGEX", 11), ("JAVASCRIPT", 13),
  ("CODE", 13), ("SYMBOL", 14), ("JAVASCRIPT_SCOPE", 15), ("CODE_SCOPE", 15), ("INT32", 16),
  ("TS", 17), ("TIMESTAMP", 17), ("INT64", 18), ("MIN", -1), ("MAX", 127)]

/-- The number that some decimal digits stand for; none without a digit or with another
character. -/
def digits? (cs : List Char) : Option Nat :=
  if cs.isEmpty || !cs.all Char.isDigit then none
  else some (cs.foldl (fun n c => 10 * n + (c.toNat - 48)) 0)

/-- The whole number that an optional sign and digits stand for. -/
def integer? : List Char → Option Int
  | '+' :: cs => (digits? cs).map Int.ofNat
  | '-' :: cs => (digits? cs).map (fun n => -(n : Int))
  | cs => (digits? cs).map Int.ofNat

/-- The number of a text that is one of thirty-two bits. -/
def number? (cs : List Char) : Option Int32 :=
  match integer? cs with
  | some n =>
    if Int32.minValue.toInt ≤ n ∧ n ≤ Int32.maxValue.toInt then some (Int32.ofInt n) else none
  | none => none

/-- The number of a type given by number or by name. -/
def resolve (name : String) : Except Error Int32 :=
  match number? (Text.trim name.toList) with
  | some n => .ok n
  | none =>
    match OrderedMap.get? table (Text.upperCase name) with
    | some n => .ok n
    | none => .error (.unknownType (Text.upperCase name))

end DocQuery.TypeCode
