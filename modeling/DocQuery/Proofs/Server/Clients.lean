import Mathlib.Data.List.Nodup
import DocQuery.Server.Script

/-!
# What is known of clients

Operations are defined for any client. What is said of the commands that they send rests on what the
client is documented to send for a call, where `server` gives the server that a state of the client
has left behind. The assumptions have names:

* `Client.SendsReads`: reads and pipelines are sent as they were handed over;
* `Client.SendsIndexes`, `Client.ReadsNames`: so are indexes, and options without a name stay
  without one;
* `Client.SendsInsert`, `Client.SendsUpdate`, `Client.SendsDelete`: a write is one command, and what
  it yields goes with the reply to it. These are about a single write, as a client may refuse some
  or send them in parts.

The client of a scripted server satisfies them all: `Server.sendsReads`, `Server.sendsIndexes`,
`Server.readsNames`, `Server.sendsInsert`, `Server.sendsUpdate`, `Server.sendsDelete`.
-/

namespace DocQuery

/-! ### Calls -/

section

variable {σ α : Type} (server : σ → Server)

/-- A call that sends one command to a server that is reached. -/
def Sends (call : Call σ α) (c : Command) : Prop :=
  ∀ x, (server x).reachable = true → server (call x).2 = (server x).after [c]

/-- A call that sends one command of a kind to a server that is reached. What it yields goes with
the command and the reply to it. -/
def Asks (call : Call σ α) (Is : Command → Prop)
    (Answers : Command → Reply → Except Failure α → Prop) : Prop :=
  ∀ x, (server x).reachable = true →
    ∃ c, Is c ∧ server (call x).2 = (server x).after [c] ∧ Answers c ((server x).reply 0) (call x).1

end

/-! ### Inserted documents -/

/-- What a document is inserted as: as it is if it has an identifier, and with a new one in front if
it has none. -/
inductive Identifies : Document → Document → Prop
  | given {d : Document} {v : Value} (h : OrderedMap.get? d "_id" = some v) : Identifies d d
  | generated {d : Document} (id : ObjectId) (h : OrderedMap.get? d "_id" = none) :
    Identifies d (("_id", .objectId id) :: d)

theorem Identifies.isSome {d e : Document} (h : Identifies d e) :
    (OrderedMap.get? e "_id").isSome = true := by
  cases h with
  | given h => rw [h]; rfl
  | generated id h => rfl

/-- Identified documents have an identifier each. -/
theorem Identifies.forall_isSome {ds es : List Document} (h : List.Forall₂ Identifies ds es) :
    ∀ e ∈ es, (OrderedMap.get? e "_id").isSome = true := by
  induction h with
  | nil => simp
  | cons h _ ih => exact List.forall_mem_cons.2 ⟨h.isSome, ih⟩

/-- An insert of some documents, each with an identifier. -/
def Command.IsInsertOf (ds : List Document) (w : Option WriteConcern) (c : Command) : Prop :=
  ∃ sent, c = .insert sent w ∧ List.Forall₂ Identifies ds sent

namespace InsertedIds

/-- The identifiers of some documents, each at the place of its document. -/
def AreOf (ids : InsertedIds) (ds : List Document) : Prop :=
  ∀ i v, (i, v) ∈ ids.entries ↔ ∃ d, ds[i]? = some d ∧ OrderedMap.get? d "_id" = some v

variable {ids : InsertedIds} {ds : List Document}

/-- What is found at the places of the documents. -/
def found (ds : List Document) : List (Nat × Option Value) :=
  ds.zipIdx.map (fun e => (e.2, OrderedMap.get? e.1 "_id"))

theorem mem_found_iff (i : Nat) (o : Option Value) :
    (i, o) ∈ found ds ↔ ∃ d, ds[i]? = some d ∧ OrderedMap.get? d "_id" = o := by
  simp only [found, List.mem_map, Prod.exists, List.mem_zipIdx_iff_getElem?, Prod.mk.injEq]
  constructor
  · rintro ⟨d, _, hd, rfl, ho⟩
    exact ⟨d, hd, ho⟩
  · rintro ⟨d, hd, ho⟩
    exact ⟨d, i, hd, rfl, ho⟩

theorem map_fst_found (ds : List Document) :
    (found ds).map Prod.fst = List.range' 0 ds.length := by
  rw [found, List.map_map, ← List.zipIdx_map_snd]
  rfl

theorem map_snd_found (ds : List Document) :
    (found ds).map Prod.snd = ds.map (fun d => OrderedMap.get? d "_id") := by
  conv_rhs => rw [← List.zipIdx_map_fst 0 ds, List.map_map]
  rw [found, List.map_map]
  rfl

/-- The entries are what is found at the places, in some order. -/
theorem perm_found (h : ids.AreOf ds)
    (hds : ∀ d ∈ ds, (OrderedMap.get? d "_id").isSome = true) :
    (ids.entries.map (fun e => (e.1, some e.2))).Perm (found ds) := by
  have hentries : (ids.entries.map (fun e => (e.1, some e.2))).Nodup := by
    refine List.Nodup.of_map Prod.fst ?_
    rw [List.map_map]
    exact ids.nodup
  have hfound : (found ds).Nodup := by
    refine List.Nodup.of_map Prod.fst ?_
    rw [map_fst_found]
    exact List.nodup_range'
  refine (List.perm_ext_iff_of_nodup hentries hfound).2 ?_
  rintro ⟨i, o⟩
  rw [mem_found_iff, List.mem_map]
  constructor
  · rintro ⟨⟨j, v⟩, hv, heq⟩
    cases heq
    exact (h j v).1 hv
  · rintro ⟨d, hd, rfl⟩
    obtain ⟨v, hv⟩ := Option.isSome_iff_exists.1 (hds d (List.mem_of_getElem? hd))
    exact ⟨(i, v), (h i v).2 ⟨d, hd, hv⟩, by rw [hv]⟩

/-- The entries in order are in the order of their places. -/
theorem pairwise_mergeSort (es : List (Nat × Value)) :
    (es.mergeSort (fun a b => decide (a.1 ≤ b.1))).Pairwise (fun a b => a.1 ≤ b.1) := by
  let le := fun a b : Nat × Value => decide (a.1 ≤ b.1)
  have htrans : ∀ a b c, le a b = true → le b c = true → le a c = true := by
    simp only [le, decide_eq_true_eq]
    omega
  have htotal : ∀ a b, (le a b || le b a) = true := by
    simp only [le, Bool.or_eq_true, decide_eq_true_eq]
    omega
  exact (List.pairwise_mergeSort htrans htotal es).imp of_decide_eq_true

/-- The identifiers in order are those of the documents, one by one. -/
theorem map_some_inOrder (h : ids.AreOf ds)
    (hds : ∀ d ∈ ds, (OrderedMap.get? d "_id").isSome = true) :
    ids.inOrder.map some = ds.map (fun d => OrderedMap.get? d "_id") := by
  have hsorted := pairwise_mergeSort ids.entries
  rw [inOrder, List.map_map, ← map_snd_found]
  generalize hes : ids.entries.mergeSort (fun a b => decide (a.1 ≤ b.1)) = es at hsorted
  have hperm : (es.map (fun e => (e.1, some e.2))).Perm (found ds) := by
    rw [← hes]
    exact ((List.mergeSort_perm _ _).map _).trans (perm_found h hds)
  -- both are in the order of the places, and no place is there twice
  have hplaces : ((found ds).map Prod.fst).Nodup := by
    rw [map_fst_found]
    exact List.nodup_range'
  have hanti : ∀ a b, a ∈ es.map (fun e => (e.1, some e.2)) → b ∈ found ds →
      a.1 ≤ b.1 → b.1 ≤ a.1 → a = b := by
    intro a b ha hb hab hba
    exact List.inj_on_of_nodup_map hplaces (hperm.mem_iff.1 ha) hb (Nat.le_antisymm hab hba)
  have heq : es.map (fun e => (e.1, some e.2)) = found ds := by
    refine List.Perm.eq_of_pairwise hanti ?_ ?_ hperm
    · rw [List.pairwise_map]
      exact hsorted
    · refine List.pairwise_map.1 (?_ : ((found ds).map Prod.fst).Pairwise (· ≤ ·))
      rw [map_fst_found]
      exact List.pairwise_le_range'
  rw [← heq, List.map_map]
  rfl

end InsertedIds

/-! ### Replies -/

/-- Whether a reply tells how a write went. -/
def Reply.IsAboutWrite : Reply → Prop
  | .batch _ | .values _ => False
  | _ => True

/-- What a call yields for a reply: what goes with the number that the reply tells, or the failure
that it reports, where a call chooses how it tells write errors and write concern errors. A reply
that tells nothing about a write is at most called malformed. -/
inductive Reports {α : Type} (onWrite onConcern : Int32 → Failure) (Tells : Nat → α → Prop) :
    Reply → Except Failure α → Prop
  | done {n : Nat} {a : α} (h : Tells n a) : Reports onWrite onConcern Tells (.done n) (.ok a)
  | commandError (code : Int32) :
    Reports onWrite onConcern Tells (.commandError code) (.error (.command code))
  | writeError (code : Int32) :
    Reports onWrite onConcern Tells (.writeError code) (.error (onWrite code))
  | writeConcernError (code : Int32) :
    Reports onWrite onConcern Tells (.writeConcernError code) (.error (onConcern code))
  | other {r : Reply} {result : Except Failure α} (hr : ¬ r.IsAboutWrite)
    (h : ∀ f, result = .error f → f = .malformedReply) :
    Reports onWrite onConcern Tells r result

/-- A read that never fails for a reply without an error reports it. -/
theorem Reply.reports_readOr {α : Type} {onWrite onConcern : Int32 → Failure}
    {Tells : Nat → α → Prop} {read : Reply → Except Failure α}
    (hdone : ∀ n, ∃ a, read (.done n) = .ok a ∧ Tells n a)
    (hother : ∀ r : Reply, ¬ r.IsAboutWrite → ∃ a, read r = .ok a) (r : Reply) :
    Reports onWrite onConcern Tells r (r.readOr onWrite onConcern read) := by
  have hbad {r : Reply} (hr : ¬ r.IsAboutWrite) :
      Reports onWrite onConcern Tells r (read r) := by
    obtain ⟨a, ha⟩ := hother r hr
    refine .other hr ?_
    rw [ha]
    rintro f ⟨⟩
  cases r with
  | done n =>
    obtain ⟨a, ha, htells⟩ := hdone n
    have hread : (done n).readOr onWrite onConcern read = .ok a := ha
    rw [hread]
    exact .done htells
  | batch docs => exact hbad id
  | values vs => exact hbad id
  | commandError code => exact .commandError code
  | writeError code => exact .writeError code
  | writeConcernError code => exact .writeConcernError code

/-- What an update or a removal yields: the number of documents that the reply tells. -/
def CountYields : Command → Reply → Except Failure Nat → Prop :=
  fun _ => Reports .write .writeConcern (fun n count => count = n)

/-! ### Assumptions -/

namespace Client

variable (σ : Type) [Client σ] (server : σ → Server)

/-- A client that sends reads and pipelines as they are handed over. -/
structure SendsReads : Prop where
  find : ∀ filter o, ∃ r : ReadCommand,
    r.filter = filter ∧ r.projection = o.projection ∧
      Sends server (Client.find filter o : Call σ _) (.find r)
  aggregate : ∀ pipeline, Sends server (Client.aggregate pipeline : Call σ _) (.aggregate pipeline)

/-- A client that sends the keys, options and names of indexes as they are handed over. -/
structure SendsIndexes : Prop where
  createIndex : ∀ keys o, Sends server (Client.createIndex keys o : Call σ _) (.createIndex keys o)
  dropIndex : ∀ name, Sends server (Client.dropIndex name : Call σ _) (.dropIndex name)

/-- A client that reads no name where none is given. -/
def ReadsNames : Prop :=
  ∀ options o, Client.readIndexOptions σ options = .ok o →
    (∀ v, ("name", v) ∈ options → v = .null) → o.name = none

/-- An insert that a client sends as one command and does not try again by itself. Of write errors
and write concern errors the same is reported, as a failure of its own kind. -/
def SendsInsert (ds : List Document) (w : Option WriteConcern) : Prop :=
  Asks server (Client.insertMany ds w : Call σ _) (Command.IsInsertOf ds w)
    (fun c r result => ∃ sent, c = .insert sent w ∧
      Reports .insertMany .insertMany (fun _ ids => ids.AreOf sent) r result)

/-- An update that a client sends as one command and does not try again by itself. -/
def SendsUpdate (filter u : Document) (multiple upsert : Bool) (w : Option WriteConcern) : Prop :=
  Asks server
    (if multiple then Client.updateMany filter u upsert w else Client.updateOne filter u upsert w :
      Call σ _)
    (· = .update filter u multiple upsert w) CountYields

/-- A removal that a client sends as one command and does not try again by itself. -/
def SendsDelete (filter : Document) (one : Bool) (w : Option WriteConcern) : Prop :=
  Asks server (if one then Client.deleteOne filter w else Client.deleteMany filter w : Call σ _)
    (· = .delete filter one w) CountYields

end Client

/-! ### Scripted servers -/

/-- An entry gives options a name only if it holds one. -/
theorem IndexOptions.name_of_readEntry {o p : IndexOptions} {key : String} {v : Value}
    (h : readEntry o key v = .ok p) (hname : key = "name" → v = .null) (ho : o.name = none) :
    p.name = none := by
  unfold readEntry at h
  split at h
  case h_1 =>
    rw [hname rfl] at h
    cases h
    rfl
  case h_2 => cases hv : OptionsPatch.boolean v <;> rw [hv] at h <;> cases h; exact ho
  case h_3 => cases hv : OptionsPatch.boolean v <;> rw [hv] at h <;> cases h; exact ho
  case h_4 => cases h; exact ho

/-- A document without a name is read as options without a name. -/
theorem IndexOptions.name_of_readEntries {options : Document} {o p : IndexOptions}
    (h : readEntries o options = .ok p) (hname : ∀ v, ("name", v) ∈ options → v = .null)
    (ho : o.name = none) : p.name = none := by
  induction options generalizing o with
  | nil => cases h; exact ho
  | cons e options ih =>
    obtain ⟨key, v⟩ := e
    rw [readEntries] at h
    cases hentry : readEntry o key v with
    | error m => rw [hentry] at h; cases h
    | ok o' =>
      rw [hentry] at h
      refine ih h (fun w hw => hname w (List.mem_cons_of_mem _ hw)) ?_
      exact name_of_readEntry hentry (fun hkey => hname v (hkey ▸ List.mem_cons_self)) ho

theorem Document.identifies_withId (d : Document) (n : Nat) : Identifies d (withId d n) := by
  cases h : OrderedMap.get? d "_id" with
  | none =>
    have hid : withId d n = ("_id", .objectId (.ofNat n)) :: d := by
      simp [withId, OrderedMap.hasKey, h]
    rw [hid]
    exact .generated _ h
  | some v =>
    have hid : withId d n = d := by simp [withId, OrderedMap.hasKey, h]
    rw [hid]
    exact .given h

theorem Document.forall₂_identifies_withIds (ds : List Document) (n : Nat) :
    List.Forall₂ Identifies ds (withIds ds n) := by
  induction ds generalizing n with
  | nil => exact .nil
  | cons d ds ih => exact .cons (identifies_withId d n) (ih (n + 1))

theorem InsertedIds.areOf_ofDocuments (ds : List Document) : (ofDocuments ds).AreOf ds := by
  intro i v
  simp only [ofDocuments, List.mem_filterMap, Prod.exists, List.mem_zipIdx_iff_getElem?,
    Option.map_eq_some_iff, Prod.mk.injEq]
  constructor
  · rintro ⟨d, _, hd, _, hv, rfl, rfl⟩
    exact ⟨d, hd, hv⟩
  · rintro ⟨d, hd, hv⟩
    exact ⟨d, i, hd, v, hv, rfl, rfl⟩

namespace Server

variable {α : Type}

/-- A server that is reached takes the command. -/
theorem send_of_reachable (c : Command) (read : Reply → Except Failure α) {s : Server}
    (h : s.reachable = true) : send c read s = (read (s.reply 0), s.after [c]) := by
  rw [send, if_pos h]

theorem sends_send (c : Command) (read : Reply → Except Failure α) : Sends id (send c read) c := by
  rintro s (hs : s.reachable = true)
  rw [send_of_reachable c read hs]
  rfl

theorem asks_send (c : Command) {Is : Command → Prop}
    {Answers : Command → Reply → Except Failure α → Prop} {read : Reply → Except Failure α}
    (hc : Is c) (h : ∀ r, Answers c r (read r)) : Asks id (send c read) Is Answers := by
  rintro s (hs : s.reachable = true)
  refine ⟨c, hc, sends_send c read s hs, ?_⟩
  rw [send_of_reachable c read hs]
  exact h _

/-- A write that tells the number of documents. -/
theorem asks_request_count (c : Command) : Asks id (request c Reply.count) (· = c) CountYields := by
  refine asks_send c rfl (Reply.reports_readOr (fun n => ⟨n, rfl, rfl⟩) ?_)
  rintro (n | docs | vs | code | code | code) hr
  exacts [absurd trivial hr, ⟨0, rfl⟩, ⟨0, rfl⟩, ⟨0, rfl⟩, ⟨0, rfl⟩, ⟨0, rfl⟩]

theorem sendsReads : Client.SendsReads Server id where
  find filter o := ⟨.ofOptions filter o, rfl, rfl, sends_send _ _⟩
  aggregate _ := sends_send _ _

theorem sendsIndexes : Client.SendsIndexes Server id where
  createIndex _ _ := sends_send _ _
  dropIndex _ := sends_send _ _

theorem readsNames : Client.ReadsNames Server := by
  intro options o h hname
  have hread : IndexOptions.read options = .ok o := h
  rw [IndexOptions.read] at hread
  cases hentries : IndexOptions.readEntries {} options with
  | error m => rw [hentries] at hread; cases hread
  | ok p =>
    rw [hentries] at hread
    cases hread
    have hp : p.name = none := IndexOptions.name_of_readEntries hentries hname rfl
    exact hp

theorem sendsInsert (ds : List Document) (w : Option WriteConcern) :
    Client.SendsInsert Server id ds w := by
  rintro s (hs : s.reachable = true)
  let sent := Document.withIds ds (s.sent.length * Nat.pow 2 32)
  let ids := InsertedIds.ofDocuments sent
  have hsend : Client.insertMany ds w s = _ := send_of_reachable (.insert sent w) _ hs
  refine ⟨.insert sent w, ⟨sent, rfl, Document.forall₂_identifies_withIds ds _⟩, ?_⟩
  rw [hsend]
  refine ⟨rfl, sent, rfl, Reply.reports_readOr ?_ ?_ _⟩
  · exact fun _ => ⟨ids, rfl, InsertedIds.areOf_ofDocuments sent⟩
  · exact fun _ _ => ⟨ids, rfl⟩

theorem sendsUpdate (filter u : Document) (multiple upsert : Bool) (w : Option WriteConcern) :
    Client.SendsUpdate Server id filter u multiple upsert w := by
  cases multiple with
  | true => exact asks_request_count _
  | false => exact asks_request_count _

theorem sendsDelete (filter : Document) (one : Bool) (w : Option WriteConcern) :
    Client.SendsDelete Server id filter one w := by
  cases one with
  | true => exact asks_request_count _
  | false => exact asks_request_count _

end Server

end DocQuery
