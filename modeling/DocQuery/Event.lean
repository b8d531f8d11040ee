/-!
# Log records

What the library tells while it works. A record is an event; its level and its words are functions
of the event.
-/

namespace DocQuery

/-- Something worth a log record. -/
inductive Event
  /-- A field was constrained a second time, so its clause became a list. -/
  | promoted (field : String)
  /-- A failed write is tried again. -/
  | retrying (attempt budget : Nat) (failure : String)
  /-- An operation begins; the text names it and what it works on. -/
  | began (operation : String)
  deriving DecidableEq

namespace Event

/-- The level of a record. -/
def level : Event → String
  | .promoted _ => "trace"
  | .retrying _ _ _ => "warn"
  | .began _ => "debug"

/-- What a retry says before the failure it names. -/
def retryText (attempt budget : Nat) : String :=
  "retrying write after transient failure (" ++ toString attempt ++ "/" ++ toString budget ++ ")"

/-- The words of a record. -/
def text : Event → String
  | .promoted field => "field " ++ field ++ " constrained twice, promoting clause to an and-list"
  | .retrying attempt budget failure => retryText attempt budget ++ ": " ++ failure
  | .began operation => operation

/-- A record as one line. -/
def line (e : Event) : String := e.level ++ ": " ++ e.text

end Event

end DocQuery
