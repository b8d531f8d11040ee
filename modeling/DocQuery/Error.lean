import DocQuery.Value.Text
import DocQuery.Text.Quoted

/-!
# Errors

Why a step was refused or an operation failed. An error is a cause; its kind and its words are
functions of the cause. Arguments are checked when a step is taken, the other kinds arise when a
database is reached.
-/

namespace DocQuery

/-- The kinds of errors. -/
inductive ErrorKind
  /-- A step was given something malformed. -/
  | invalidArgument
  /-- A value could not be read from or written to its stored form. -/
  | serialization
  /-- A connection could not be set up. -/
  | initialization
  /-- The database reported a failure or was not reached. -/
  | backend
  deriving DecidableEq

/-- The words in front of every message of a kind. -/
def ErrorKind.label : ErrorKind → String
  | .invalidArgument => "Invalid argument"
  | .serialization => "Serialization error"
  | .initialization => "Initialization error"
  | .backend => "Backend error"

/-- What an option is expected to hold. -/
inductive Expected
  | boolean
  | text
  | unsigned
  deriving DecidableEq

/-- The words for an expectation. -/
def Expected.label : Expected → String
  | .boolean => "a boolean"
  | .text => "a string"
  | .unsigned => "u64"

/-- Why the value of an option is not accepted. -/
inductive Mismatch
  /-- A value of another type. -/
  | wrongType (found : Value) (expected : Expected)
  /-- A whole number below zero where none may be. -/
  | negative (n : Int)
  deriving DecidableEq

/-- How a value is told when another type was expected. -/
def Mismatch.foundText : Value → String
  | .bool b => "boolean `" ++ (if b then "true" else "false") ++ "`"
  | .int32 n => "integer `" ++ toString n.toInt ++ "`"
  | .int64 n => "integer `" ++ toString n.toInt ++ "`"
  | .double x => "floating point `" ++ x.pointedText ++ "`"
  | .string s => "string " ++ Text.quote s
  | .array _ => "sequence"
  | .binary 0 _ => "byte array"
  | _ => "map"

/-- A mismatch in words. -/
def Mismatch.message : Mismatch → String
  | .wrongType found expected =>
    "invalid type: " ++ foundText found ++ ", expected " ++ expected.label
  | .negative n =>
    "invalid value: integer `" ++ toString n ++ "`, expected " ++ Expected.unsigned.label

/-- Why a step was refused or an operation failed. -/
inductive Error
  /-- No type of the store has this name; its ASCII letters are in upper case. -/
  | unknownType (name : String)
  /-- Not a pattern between slashes with flags behind it. -/
  | malformedRegex (literal : String)
  /-- A pattern with a NUL character. -/
  | nulInPattern (pattern : String)
  /-- Flags, in order, with a NUL character. -/
  | nulInFlags (flags : String)
  /-- A value of this kind where a document is needed. -/
  | notADocument (kind : String)
  /-- A text that is no object identifier. -/
  | badIdentifier (text : String) (fault : ObjectId.Fault)
  /-- The same, found while reading a stored form. -/
  | unreadableIdentifier (fault : ObjectId.Fault)
  /-- An execution option with a value of the wrong type. -/
  | badQueryOption (mismatch : Mismatch)
  /-- Index options that are not accepted, with the reason. -/
  | badIndexOptions (text : String)
  /-- An update without modifiers. -/
  | emptyUpdate
  /-- An address that is not one of a database. -/
  | badAddress (address : String)
  /-- A failure that something else reports, in its words. -/
  | reported (kind : ErrorKind) (text : String)
  deriving DecidableEq

namespace Error

/-- The kind of an error. -/
def kind : Error → ErrorKind
  | .unreadableIdentifier _ => .serialization
  | .badAddress _ => .initialization
  | .reported k _ => k
  | _ => .invalidArgument

/-- The words for an identifier that is not readable. -/
def identifierText (fault : ObjectId.Fault) : String :=
  "BSON error. Kind: An ObjectId-related error occurred: " ++ fault.message ++ "."

/-- The words for a text with a NUL character where none may be. -/
def nulText (text : String) : String :=
  "BSON error. Kind: Malformed BSON bytes. Message: cstring with interior null: "
    ++ Text.quote text ++ "."

/-- The words for an option that is not accepted. -/
def optionText (mismatch : Mismatch) : String :=
  "BSON error. Kind: A deserialization-related error occurred. Message: "
    ++ mismatch.message ++ "."

/-- What an error says, without its kind. -/
def text : Error → String
  | .unknownType name => "type \"" ++ name ++ "\" could not be resolved"
  | .malformedRegex literal => "invalid regex literal \"" ++ literal ++ "\""
  | .nulInPattern pattern => "invalid regex pattern: " ++ nulText pattern
  | .nulInFlags flags => "invalid regex flags: " ++ nulText flags
  | .notADocument kind => "expected a document or a callback, got " ++ kind
  | .badIdentifier text fault => "invalid identifier \"" ++ text ++ "\": " ++ identifierText fault
  | .unreadableIdentifier fault => identifierText fault
  | .badQueryOption mismatch => "invalid query options: " ++ optionText mismatch
  | .badIndexOptions text => "invalid index options: " ++ text
  | .emptyUpdate => "update document is empty"
  | .badAddress address => "invalid address \"" ++ address ++ "\""
  | .reported _ text => text

/-- The whole message. -/
def message (e : Error) : String := e.kind.label ++ ": " ++ e.text

/-- Whether an error is the caller's: a step was given something malformed. -/
def isArgumentError (e : Error) : Bool := e.kind == .invalidArgument

end Error

end DocQuery
