import DocQuery.Query.Find

/-!
# Servers

What passes between a database server and those who talk to it: commands go out, a reply comes back
to each. `Server` is a server as it was left: the commands that it was sent, and the replies that it
still has for those to come. A server without replies left answers every command with a plain
success.

* `Server.after_after`, `Server.reply_after`: commands are sent one after the other, and each takes
  one reply.
-/

namespace DocQuery

/-- A reply of a server. -/
inductive Reply
  /-- Success, with the number of documents matched, changed or deleted. -/
  | done (count : Nat)
  /-- The documents of a cursor, all at once. -/
  | batch (docs : List Value)
  /-- Distinct values. -/
  | values (vs : List Value)
  | commandError (code : Int32)
  | writeError (code : Int32)
  | writeConcernError (code : Int32)

/-- A read as it is sent: with `singleBatch` the limit is that of a single batch. -/
structure ReadCommand where
  filter : Document
  sort : Option Document
  projection : Option Document
  skip : Option UInt64
  limit : Option Nat
  singleBatch : Bool
  maxTime : UInt64

/-- The options of an index: its name, if it is given one, and the others as a server is told
them. -/
structure IndexOptions where
  name : Option String := none
  others : Document := []

/-- An index as a server is told to create it: its keys and those options that are given. -/
def IndexOptions.document (o : IndexOptions) (keys : Document) : Document :=
  [("key", .document keys)] ++ (o.name.map (fun s => ("name", .string s))).toList ++ o.others

/-- A command to a server. -/
inductive Command
  | find (r : ReadCommand)
  | count (filter : Document)
  | distinct (key : String) (filter : Document)
  | aggregate (pipeline : List Document)
  | insert (documents : List Document) (w : Option WriteConcern)
  | update (filter update : Document) (multiple upsert : Bool) (w : Option WriteConcern)
  | delete (filter : Document) (one : Bool) (w : Option WriteConcern)
  | drop
  | listIndexes
  | createIndex (keys : Document) (o : IndexOptions)
  | dropIndex (name : String)
  | dropIndexes
  | listCollections
  | dropDatabase

namespace Command

/-- The name of a command. A count is an aggregation. -/
def name : Command → String
  | .find _ => "find"
  | .count _ | .aggregate _ => "aggregate"
  | .distinct _ _ => "distinct"
  | .insert _ _ => "insert"
  | .update _ _ _ _ _ => "update"
  | .delete _ _ _ => "delete"
  | .drop => "drop"
  | .listIndexes => "listIndexes"
  | .createIndex _ _ => "createIndexes"
  | .dropIndex _ | .dropIndexes => "dropIndexes"
  | .listCollections => "listCollections"
  | .dropDatabase => "dropDatabase"

/-- Whether a command names the collection that it is about. -/
def namesCollection : Command → Bool
  | .listCollections | .dropDatabase => false
  | _ => true

/-- The statement of an update. -/
def updateStatement (filter update : Document) (multiple upsert : Bool) : Document :=
  [("q", .document filter), ("u", .document update), ("multi", .bool multiple),
    ("upsert", .bool upsert)]

/-- The statement of a removal, whose limit 0 means all documents. -/
def deleteStatement (filter : Document) (one : Bool) : Document :=
  [("q", .document filter), ("limit", .int32 (if one then 1 else 0))]

/-- The write concern of a command. -/
def writeConcern? : Command → Option WriteConcern
  | .insert _ w | .update _ _ _ _ w | .delete _ _ w => w
  | _ => none

end Command

/-- A server with the replies still to come and the commands it was sent. -/
structure Server where
  reachable : Bool
  replies : List Reply := []
  sent : List Command := []

namespace Server

/-- Reply number `n` of those still to come, counted from zero. -/
def reply (s : Server) (n : Nat) : Reply := s.replies.getD n (.done 0)

/-- The server after some more commands, each of which takes one reply. -/
def after (s : Server) (cs : List Command) : Server :=
  { s with replies := s.replies.drop cs.length, sent := s.sent ++ cs }

variable (s : Server)

@[simp] theorem after_nil : s.after [] = s := by
  simp [after]

@[simp] theorem reachable_after (cs : List Command) : (s.after cs).reachable = s.reachable := rfl

@[simp] theorem sent_after (cs : List Command) : (s.after cs).sent = s.sent ++ cs := rfl

/-- Commands are sent one after the other. -/
theorem after_after (cs ds : List Command) : (s.after cs).after ds = s.after (cs ++ ds) := by
  simp [after]

/-- Every command takes one reply. -/
theorem reply_after (cs : List Command) (n : Nat) :
    (s.after cs).reply n = s.reply (cs.length + n) := by
  simp [reply, after, List.getD_eq_getElem?_getD]

end Server

end DocQuery
