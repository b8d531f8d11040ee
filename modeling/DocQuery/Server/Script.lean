import DocQuery.Server.Client

/-!
# Scripted servers

A server whose replies are written down beforehand, with a client that makes every call by one
command and reads the reply to it: operations can be tried out on it. Whatever is said of operations
in general is said of all clients, this one among them.
-/

namespace DocQuery

/-! ### Identifiers -/

/-- The identifier of a number, which is written in its lowest bytes. -/
def ObjectId.ofNat (n : Nat) : ObjectId where
  bytes := (List.range 12).map (fun i => UInt8.ofNat (n / Nat.pow 256 (11 - i)))
  length_bytes := by simp

/-- A document with an identifier in front, unless it has one. -/
def Document.withId (d : Document) (n : Nat) : Document :=
  if OrderedMap.hasKey d "_id" then d else ("_id", .objectId (.ofNat n)) :: d

/-- Documents with identifiers, numbered from a number on. -/
def Document.withIds (ds : List Document) (n : Nat) : List Document :=
  (ds.zipIdx n).map (fun e => Document.withId e.1 e.2)

/-- The identifiers of documents, by their places. -/
def InsertedIds.ofDocuments (ds : List Document) : InsertedIds where
  entries := ds.zipIdx.filterMap (fun e => (OrderedMap.get? e.1 "_id").map (fun v => (e.2, v)))
  nodup := by
    have hplaces : (ds.zipIdx.filterMap
        (fun e => (OrderedMap.get? e.1 "_id").map (fun v => (e.2, v)))).map Prod.fst
          = (ds.zipIdx.filter (fun e => (OrderedMap.get? e.1 "_id").isSome)).map Prod.snd := by
      generalize ds.zipIdx = es
      induction es with
      | nil => rfl
      | cons e es ih =>
        cases h : OrderedMap.get? e.1 "_id" with
        | none => simpa [h] using ih
        | some v => simpa [h] using ih
    rw [hplaces]
    refine (List.filter_sublist.map Prod.snd).nodup ?_
    rw [List.zipIdx_map_snd]
    exact List.nodup_range'

/-! ### Replies -/

namespace Reply

/-- What a reply comes to: a failure if it reports an error, and otherwise what is read from it.
Write errors and write concern errors are reported as failures of a kind that depends on the
call. -/
def readOr {α : Type} (onWrite onConcern : Int32 → Failure) (read : Reply → Except Failure α) :
    Reply → Except Failure α
  | .commandError code => .error (.command code)
  | .writeError code => .error (onWrite code)
  | .writeConcernError code => .error (onConcern code)
  | r => read r

/-- The number of documents that a reply tells. -/
def count : Reply → Except Failure Nat
  | .done n => .ok n
  | _ => .ok 0

/-- The values that a reply lists. -/
def listed : Reply → Except Failure (List Value)
  | .values vs => .ok vs
  | _ => .ok []

/-- The documents of a reply. -/
def documents : Reply → Except Failure (List Document)
  | .batch vs =>
    match Value.documents? vs with
    | some ds => .ok ds
    | none => .error .malformedReply
  | _ => .ok []

/-- The first document of a reply. -/
def firstDocument (r : Reply) : Except Failure (Option Document) :=
  r.documents.map List.head?

/-- The field `n` of the first document of a reply; zero without a document. -/
def countField (r : Reply) : Except Failure Nat :=
  match r.documents with
  | .error f => .error f
  | .ok [] => .ok 0
  | .ok (d :: _) =>
    match OrderedMap.get? d "n" with
    | some (.int32 n) => if n < 0 then .error .malformedReply else .ok n.toInt.toNat
    | some (.int64 n) => if n < 0 then .error .malformedReply else .ok n.toInt.toNat
    | _ => .error .malformedReply

/-- A field of a document that has to hold a document. -/
def documentField (field : String) (d : Document) : Except Failure Document :=
  match OrderedMap.get? d field with
  | some (.document e) => .ok e
  | _ => .error .malformedReply

/-- A field of a document that has to hold a text. -/
def textField (field : String) (d : Document) : Except Failure String :=
  match OrderedMap.get? d field with
  | some (.string s) => .ok s
  | _ => .error .malformedReply

/-- Something of every document of a reply. -/
def fields {α : Type} (read : Document → Except Failure α) (r : Reply) : Except Failure (List α) :=
  match r.documents with
  | .error f => .error f
  | .ok ds => ds.mapM read

end Reply

/-! ### Calls -/

/-- A read with these options: a limit below zero asks for that many documents in a single
batch. -/
def ReadCommand.ofOptions (filter : Document) (o : ReadOptions) : ReadCommand where
  filter
  sort := o.sort
  projection := o.projection
  skip := o.skip
  limit := o.limit.map (fun n => n.toInt.natAbs)
  singleBatch := match o.limit with
    | some n => n < 0
    | none => false
  maxTime := o.maxTime

namespace IndexOptions

/-- One more entry of an options document. -/
def readEntry (o : IndexOptions) (key : String) (v : Value) : Except Mismatch IndexOptions :=
  match key with
  | "name" => (OptionsPatch.text v).map (fun s => { o with name := s })
  | "sparse" | "unique" =>
    (OptionsPatch.boolean v).map (fun b =>
      { o with others := o.others ++ (b.map (fun b => (key, .bool b))).toList })
  | _ => .ok o

/-- Reads the entries of a document, in order, on top of what was read before. -/
def readEntries (o : IndexOptions) : List (String × Value) → Except Mismatch IndexOptions
  | [] => .ok o
  | (key, v) :: rest =>
    match readEntry o key v with
    | .ok p => readEntries p rest
    | .error m => .error m

/-- The options in the order in which a server is told them. -/
def arrange (o : IndexOptions) : IndexOptions where
  name := o.name
  others := ["sparse", "unique"].filterMap (fun key =>
    (OrderedMap.get? o.others key).map (fun v => (key, v)))

/-- Reads an options document. -/
def read (d : Document) : Except String IndexOptions :=
  match readEntries {} d with
  | .ok o => .ok o.arrange
  | .error m => .error (Error.optionText m)

end IndexOptions

/-- A failure in words. -/
def Failure.message : Failure → String
  | .command code => "command failed with code " ++ toString code.toInt
  | .write code => "write failed with code " ++ toString code.toInt
  | .writeConcern code => "write concern failed with code " ++ toString code.toInt
  | .insertMany code => "insert failed with code " ++ toString code.toInt
  | .malformedReply => "malformed reply"
  | .unreachable => "no server reached"

namespace Server

variable {α : Type}

/-- Sends a command and reads the reply to it. A server that is not reached takes no command. -/
def send (c : Command) (read : Reply → Except Failure α) : Call Server α := fun s =>
  if s.reachable then (read (s.reply 0), s.after [c]) else (.error .unreachable, s)

/-- A call of one command, whose write errors and write concern errors are failures of their own. -/
def request (c : Command) (read : Reply → Except Failure α) : Call Server α :=
  send c (Reply.readOr .write .writeConcern read)

/-- Inserts documents. Those without an identifier get one that is new with every command. Of write
errors and write concern errors the same is reported. -/
def insertMany (ds : List Document) (w : Option WriteConcern) : Call Server InsertedIds := fun s =>
  let sent := Document.withIds ds (s.sent.length * Nat.pow 2 32)
  let read (_ : Reply) : Except Failure InsertedIds := .ok (.ofDocuments sent)
  send (.insert sent w) (Reply.readOr .insertMany .insertMany read) s

/-- A read of a single document. -/
def findOne (filter : Document) (o : ReadOptions) : Call Server (Option Document) :=
  let r := ReadCommand.ofOptions filter o
  request (.find { r with limit := some 1, singleBatch := true }) Reply.firstDocument

instance : Client Server where
  find filter o := request (.find (.ofOptions filter o)) Reply.documents
  findOne := findOne
  count filter := request (.count filter) Reply.countField
  distinct key filter := request (.distinct key filter) Reply.listed
  aggregate pipeline := request (.aggregate pipeline) Reply.documents
  insertMany := insertMany
  updateMany filter u upsert w := request (.update filter u true upsert w) Reply.count
  updateOne filter u upsert w := request (.update filter u false upsert w) Reply.count
  deleteMany filter w := request (.delete filter false w) Reply.count
  deleteOne filter w := request (.delete filter true w) Reply.count
  drop := request .drop (fun _ => .ok ())
  listIndexes := request .listIndexes (Reply.fields (Reply.documentField "key"))
  readIndexOptions := IndexOptions.read
  createIndex keys o := request (.createIndex keys o) (fun _ => .ok ())
  dropIndex name := request (.dropIndex name) (fun _ => .ok ())
  dropIndexes := request .dropIndexes (fun _ => .ok ())
  listCollections := request .listCollections (Reply.fields (Reply.textField "name"))
  dropDatabase := request .dropDatabase (fun _ => .ok ())
  describe := Failure.message

end Server

end DocQuery
