import DocQuery.Retry
import DocQuery.Server.Basic

/-!
# Clients

A client library carries operations to a database server. It is not part of this library:
`Client σ` lists the calls that are made of it, on the states `σ` that it works on, and says nothing
of how it answers them.

A call either gives a result or fails, and a failure is told in the words of the client. Reads are
called once (`Response.ofCall`), writes as often as a retry policy allows (`Response.ofWrite`).
-/

namespace DocQuery

/-- How a call of a client failed. -/
inductive Failure
  /-- The server refused the command. -/
  | command (code : Int32)
  /-- The server could not carry out a single write. -/
  | write (code : Int32)
  /-- The write was carried out without the required acknowledgement. -/
  | writeConcern (code : Int32)
  /-- One of several inserted documents was not written, or not acknowledged. -/
  | insertMany (code : Int32)
  /-- The reply is not of the expected form. -/
  | malformedReply
  /-- No server was reached. -/
  | unreachable
  deriving DecidableEq

/-- Whether a failure tells that a server is not the primary. -/
def Failure.isNotPrimary : Failure → Bool
  | .command code => isNotPrimaryCode code
  | .write code => isNotPrimaryCode code
  | .writeConcern code => isNotPrimaryCode code
  | _ => false

/-- The identifiers of inserted documents by the places of the documents, in no certain order. -/
structure InsertedIds where
  entries : List (Nat × Value)
  nodup : (entries.map Prod.fst).Nodup

/-- The identifiers in the order of the documents. -/
def InsertedIds.inOrder (ids : InsertedIds) : List Value :=
  (ids.entries.mergeSort (fun a b => decide (a.1 ≤ b.1))).map Prod.snd

/-- A call that may fail, on states `σ`. -/
abbrev Call (σ α : Type) := σ → Except Failure α × σ

/-- A client library that works on states `σ`, by the calls that can be made of it. -/
class Client (σ : Type) where
  /-- All documents that a filter matches. -/
  find (filter : Document) (o : ReadOptions) : Call σ (List Document)
  /-- The first of them. -/
  findOne (filter : Document) (o : ReadOptions) : Call σ (Option Document)
  /-- The number of documents that a filter matches. -/
  count (filter : Document) : Call σ Nat
  /-- The distinct values of a field among them. -/
  distinct (key : String) (filter : Document) : Call σ (List Value)
  /-- The documents that a pipeline yields. -/
  aggregate (pipeline : List Document) : Call σ (List Document)
  /-- Inserts documents, and gives those without an identifier one. -/
  insertMany (documents : List Document) (w : Option WriteConcern) : Call σ InsertedIds
  /-- Changes all documents that a filter matches, and tells how many. -/
  updateMany (filter update : Document) (upsert : Bool) (w : Option WriteConcern) : Call σ Nat
  /-- Changes the first of them. -/
  updateOne (filter update : Document) (upsert : Bool) (w : Option WriteConcern) : Call σ Nat
  /-- Deletes all documents that a filter matches, and tells how many. -/
  deleteMany (filter : Document) (w : Option WriteConcern) : Call σ Nat
  /-- Deletes the first of them. -/
  deleteOne (filter : Document) (w : Option WriteConcern) : Call σ Nat
  /-- Drops the collection. -/
  drop : Call σ Unit
  /-- The keys of the indexes. -/
  listIndexes : Call σ (List Document)
  /-- Reads the options of an index, or tells why they are not accepted. -/
  readIndexOptions (options : Document) : Except String IndexOptions
  /-- Creates an index. -/
  createIndex (keys : Document) (o : IndexOptions) : Call σ Unit
  /-- Drops the index of a name. -/
  dropIndex (name : String) : Call σ Unit
  /-- Drops all indexes but the one on the identifiers. -/
  dropIndexes : Call σ Unit
  /-- The names of the collections. -/
  listCollections : Call σ (List String)
  /-- Drops the database. -/
  dropDatabase : Call σ Unit
  /-- A failure in words. -/
  describe : Failure → String

/-- The error that a failure of the client is told as. -/
def Client.error (σ : Type) [Client σ] (f : Failure) : Error :=
  .reported .backend (Client.describe σ f)

/-- What an operation leaves behind: its result, what it told, and the state of the client. Where
nothing else is said, that is a server itself. -/
structure Response (α : Type) (σ : Type := Server) where
  result : Except Error α
  log : List Event
  server : σ

namespace Response

variable {α β σ : Type}

/-- The response with another result. -/
def map (f : α → β) (r : Response α σ) : Response β σ := ⟨r.result.map f, r.log, r.server⟩

variable [Client σ]

/-- Makes a call once. -/
def ofCall (call : Call σ α) (log : List Event) (x : σ) : Response α σ :=
  let r := call x
  ⟨r.1.mapError (Client.error σ), log, r.2⟩

/-- Makes a call, again when the server is not the primary, as often as a policy allows. -/
def ofWrite (p : RetryPolicy) (call : Call σ α) (log : List Event) (x : σ) : Response α σ :=
  let r := p.run Failure.isNotPrimary call x
  ⟨r.result.mapError (Client.error σ), log ++ p.events (Client.describe σ) r.retries, r.state⟩

end Response

end DocQuery
