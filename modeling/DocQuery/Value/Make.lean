import DocQuery.Value.Basic

/-!
# Special values

Values made from ordinary data: binary data, identifiers of other systems, instants and code.
-/

namespace DocQuery.Value

/-- Bytes without a meaning of their own. -/
def data (bytes : List UInt8) : Value := .binary 0 bytes

/-- A universally unique identifier, by its bytes. -/
def uuid (bytes : List UInt8) : Value := .binary 4 bytes

/-- The whole milliseconds of an instant, counted towards the past. -/
def instantMillis (seconds : Int) (nanos : Nat) : Int := seconds * 1000 + nanos / 1000000

/-- The instant so many seconds and nanoseconds after the start of 1970, in whole milliseconds. -/
def instant (seconds : Int) (nanos : Nat) : Value :=
  .date (Int64.ofInt (instantMillis seconds nanos))

/-- Code, with the variables that it sees if there are any. -/
def program (source : String) : Option Document → Value
  | none => .code source
  | some scope => .scopedCode source scope

end DocQuery.Value
