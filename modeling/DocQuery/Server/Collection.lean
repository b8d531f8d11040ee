import DocQuery.Server.Client
import DocQuery.Stage.Pipeline
import DocQuery.Query.Update
import DocQuery.Query.Remove
import DocQuery.Index

/-!
# Collections

The operations of a collection, on any client: queries become calls, answers become results. Reads
are made once; inserts, updates and removals are made again when the server is not the primary, as
often as the policy of the collection allows. An operation tells that it begins, unless there is
nothing to do or what it was given is refused.
-/

namespace DocQuery

/-- A collection of a database. -/
structure Collection where
  database : String
  name : String
  policy : RetryPolicy := {}

namespace Collection

/-- The collection with another number of retries. -/
def withMaxRetries (c : Collection) (n : UInt32) : Collection := { c with policy := ⟨n⟩ }

/-- What an operation tells when it begins. -/
def began (c : Collection) (operation : String) : List Event :=
  [.began (operation ++ " on " ++ c.name)]

variable {σ : Type} [Client σ] (c : Collection)

/-- The documents that a query finds. -/
def find (q : Find) (t : Settings) (x : σ) : Response (List Document) σ :=
  Response.ofCall (Client.find q.filter.render (q.readOptions t)) (c.began "find") x

/-- The first document that a query finds. -/
def findOne (q : Find) (t : Settings) (x : σ) : Response (Option Document) σ :=
  Response.ofCall (Client.findOne q.filter.render (q.readOneOptions t)) (c.began "find_one") x

/-- The number of documents that a filter matches. -/
def count (q : Where) (x : σ) : Response Nat σ :=
  Response.ofCall (Client.count q.filter.render) (c.began "count") x

/-- The distinct values of a field among the documents that a filter matches. -/
def distinct (key : String) (q : Where) (x : σ) : Response (List Value) σ :=
  Response.ofCall (Client.distinct key q.filter.render) (c.began ("distinct " ++ key)) x

/-- The documents that an aggregation yields. -/
def aggregate (pipeline : List Document) (x : σ) : Response (List Document) σ :=
  Response.ofCall (Client.aggregate pipeline) (c.began "aggregate") x

/-- Inserts documents and gives their identifiers, in the order of the documents. Without documents
no call is made. -/
def insert (documents : List Document) (q : Where) (t : Settings) (x : σ) :
    Response (List Value) σ :=
  if documents.isEmpty then ⟨.ok [], [], x⟩
  else
    let began : Event :=
      .began ("insert of " ++ toString documents.length ++ " documents into " ++ c.name)
    (Response.ofWrite c.policy (Client.insertMany documents (q.options.writeConcern t)) [began]
      x).map InsertedIds.inOrder

/-- Changes the documents that a query matches and tells how many. An update without modifiers is
refused. -/
def update (q : Update) (t : Settings) (x : σ) : Response Nat σ :=
  let filter := q.filter.render
  let u := q.directives.update
  let upsert := q.directives.upsert
  let w := q.options.writeConcern t
  if u.isEmpty then ⟨.error .emptyUpdate, [], x⟩
  else
    Response.ofWrite c.policy
      (if q.directives.multiple then Client.updateMany filter u upsert w
        else Client.updateOne filter u upsert w)
      (c.began "update") x

/-- Deletes the documents that a query matches and tells how many. -/
def remove (q : Remove) (t : Settings) (x : σ) : Response Nat σ :=
  let filter := q.filter.render
  let w := q.options.writeConcern t
  Response.ofWrite c.policy
    (if q.directives.justOne then Client.deleteOne filter w else Client.deleteMany filter w)
    (c.began "remove") x

/-- Deletes all documents. -/
def truncate (t : Settings) (x : σ) : Response Nat σ := c.remove Remove.empty t x

/-- Drops the collection. -/
def drop (x : σ) : Response Unit σ :=
  Response.ofCall Client.drop [.began ("drop of " ++ c.name)] x

/-- The keys of the indexes. -/
def listIndexes (x : σ) : Response (List Document) σ := Response.ofCall Client.listIndexes [] x

/-! ### Indexes -/

/-- A state with what was told so far. -/
abbrev Session (σ : Type) := σ × List Event

/-- An operation that follows others. -/
def follow (operation : σ → Response Unit σ) (x : Session σ) : Except Error Unit × Session σ :=
  let r := operation x.1
  (r.result, r.server, x.2 ++ r.log)

/-- The name by which an index is dropped. -/
def specName : IndexSpec → String
  | .name s => s
  | .keys d => IndexKeys.name d

/-- Creates an index. The options are read before anything is told. -/
def createIndex (keys options : Document) (x : σ) : Response Unit σ :=
  match Client.readIndexOptions σ options with
  | .error text => ⟨.error (.badIndexOptions text), [], x⟩
  | .ok o =>
    Response.ofCall (Client.createIndex keys o) (c.began ("create_index " ++ Document.text keys)) x

/-- Drops an index. -/
def dropIndex (spec : IndexSpec) (x : σ) : Response Unit σ :=
  Response.ofCall (Client.dropIndex (specName spec)) (c.began ("drop_index " ++ specName spec)) x

/-- Drops all indexes but the one on the identifiers. -/
def dropIndexes (x : σ) : Response Unit σ :=
  Response.ofCall Client.dropIndexes (c.began "drop_indexes") x

/-- The indexes of a collection as a target. -/
def indexTarget : IndexTarget (Session σ) where
  create keys options := follow (c.createIndex keys options)
  drop spec := follow (c.dropIndex spec)
  dropAll := follow c.dropIndexes

/-- Runs a step on the indexes of a collection. -/
def indexes (step : IndexStep) (x : σ) : Response Unit σ :=
  let r := step.run c.indexTarget (x, [])
  ⟨r.1, r.2.2, r.2.1⟩

end Collection

end DocQuery
