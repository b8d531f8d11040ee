import DocQuery.Error

/-!
# Execution options

How an operation is executed: whether writes are acknowledged and journalled, and after how many
milliseconds it is given up. A timeout that was not set is the default one of the settings.

`OptionsPatch.read` reads options from a document, entry by entry; the first entry of the wrong type
is an error, and entries that are null or not known count as not given.
-/

namespace DocQuery

/-- A span of time. -/
structure Duration where
  seconds : UInt64
  nanos : UInt32
  deriving DecidableEq

/-- The whole milliseconds of a span. -/
def Duration.totalMillis (d : Duration) : Nat := d.seconds.toNat * 1000 + d.nanos.toNat / 1000000

/-- The whole milliseconds of a span, in sixty-four bits. -/
def Duration.millis (d : Duration) : UInt64 := UInt64.ofNat d.totalMillis

/-- What holds for all operations. -/
structure Settings where
  /-- The timeout, in milliseconds, of operations without one of their own. -/
  defaultTimeout : UInt64 := 30000
  deriving DecidableEq

/-- The execution options of an operation. -/
structure Options where
  /-- Writes are acknowledged. -/
  safe : Bool := false
  /-- Writes reach the journal. -/
  fsync : Bool := false
  /-- The timeout in milliseconds. -/
  timeout : Option UInt64 := none
  deriving DecidableEq

/-- The acknowledgement that writes wait for. -/
structure WriteConcern where
  nodes : Int32
  /-- The timeout in milliseconds. -/
  timeout : UInt64
  journal : Option Bool
  deriving DecidableEq

/-- A write concern as a server takes it. -/
def WriteConcern.document (w : WriteConcern) : Document := [
  ("w", .int32 w.nodes),
  ("wtimeout", .int32 (Int32.ofNat w.timeout.toNat))]
  ++ (w.journal.map (fun b => ("j", .bool b))).toList

/-- Options read from a document; those not given are `none`. -/
structure OptionsPatch where
  safe : Option Bool := none
  fsync : Option Bool := none
  timeout : Option UInt64 := none
  justOne : Option Bool := none
  upsert : Option Bool := none
  multiple : Option Bool := none
  atomic : Option Bool := none
  deriving DecidableEq

namespace OptionsPatch

/-- A value that is a truth value or null. -/
def boolean : Value → Except Mismatch (Option Bool)
  | .null => .ok none
  | .bool b => .ok (some b)
  | v => .error (.wrongType v .boolean)

/-- A value that is a text or null. -/
def text : Value → Except Mismatch (Option String)
  | .null => .ok none
  | .string s => .ok (some s)
  | v => .error (.wrongType v .text)

/-- A value that is a whole number from zero on, or null. -/
def unsigned : Value → Except Mismatch (Option UInt64)
  | .null => .ok none
  | .int32 n => if n < 0 then .error (.negative n.toInt) else .ok (some n.toInt64.toUInt64)
  | .int64 n => if n < 0 then .error (.negative n.toInt) else .ok (some n.toUInt64)
  | v => .error (.wrongType v .unsigned)

/-- One more entry of an options document. -/
def readEntry (p : OptionsPatch) (key : String) (v : Value) : Except Mismatch OptionsPatch :=
  match key with
  | "safe" => (boolean v).map (fun b => { p with safe := b })
  | "fsync" => (boolean v).map (fun b => { p with fsync := b })
  | "timeout" => (unsigned v).map (fun n => { p with timeout := n })
  | "justOne" => (boolean v).map (fun b => { p with justOne := b })
  | "upsert" => (boolean v).map (fun b => { p with upsert := b })
  | "multiple" => (boolean v).map (fun b => { p with multiple := b })
  | "atomic" => (boolean v).map (fun b => { p with atomic := b })
  | _ => .ok p

/-- Reads the entries of a document, in order, on top of what was read before. -/
def readEntries (p : OptionsPatch) : List (String × Value) → Except Mismatch OptionsPatch
  | [] => .ok p
  | (key, v) :: rest =>
    match readEntry p key v with
    | .ok q => readEntries q rest
    | .error m => .error m

/-- Reads an options document. -/
def read (d : Document) : Except Error OptionsPatch :=
  match readEntries {} d with
  | .ok p => .ok p
  | .error m => .error (.badQueryOption m)

end OptionsPatch

namespace Options

/-- The timeout that holds, in milliseconds. -/
def effectiveTimeout (o : Options) (s : Settings) : UInt64 := o.timeout.getD s.defaultTimeout

/-- The options as a document. -/
def document (o : Options) (s : Settings) : Document := [
  ("w", .int32 (if o.safe then 1 else 0)),
  ("fsync", .bool o.fsync),
  ("timeout", .int64 (o.effectiveTimeout s).toInt64)]

/-- The options with those of a patch that are given. -/
def patch (o : Options) (p : OptionsPatch) : Options where
  safe := p.safe.getD o.safe
  fsync := p.fsync.getD o.fsync
  timeout := p.timeout <|> o.timeout

/-- The write concern of the options; none when writes are not acknowledged. -/
def writeConcern (o : Options) (s : Settings) : Option WriteConcern :=
  if o.safe || o.fsync then
    some ⟨1, o.effectiveTimeout s, if o.fsync then some true else none⟩
  else none

end Options

end DocQuery
