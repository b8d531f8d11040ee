import DocQuery.Text.Hex

/-!
# Object identifiers

Twelve bytes, written as twenty-four hexadecimal digits. `ObjectId.parse` reads such a text and
names the first thing wrong with it; it looks at the bytes of the text, so an index and a length
count bytes. `parse_encode` says that the written form of an identifier reads back.
-/

namespace DocQuery

/-- An object identifier. -/
structure ObjectId where
  bytes : List UInt8
  length_bytes : bytes.length = 12
  deriving DecidableEq

namespace ObjectId

/-- What is wrong with the text of an identifier. -/
inductive Fault
  /-- Not twenty-four digits. An odd number of bytes is told as it is, an even one by its half. -/
  | badLength (length : Nat)
  /-- The byte at this index is no hexadecimal digit. -/
  | badDigit (byte : UInt8) (index : Nat)
  deriving DecidableEq

/-- A fault in words. A byte that is no digit is shown as the character of that code. -/
def Fault.message : Fault → String
  | .badLength n => "invalid hex string length " ++ toString n
  | .badDigit b i =>
    "invalid character '" ++ String.singleton (Char.ofNat b.toNat) ++ "' encountered at index "
      ++ toString i

/-- The bytes of a text. -/
def utf8 (text : String) : List UInt8 := text.toList.flatMap String.utf8EncodeChar

/-- Reads twenty-four hexadecimal digits. -/
def parseBytes (bytes : List UInt8) : Except Fault ObjectId :=
  if bytes.length % 2 = 1 then .error (.badLength bytes.length)
  else
    match bytes.zipIdx.find? (fun b => (Hex.digit? b.1).isNone) with
    | some (b, i) => .error (.badDigit b i)
    | none =>
      let out := Hex.pairs (bytes.filterMap Hex.digit?)
      if h : out.length = 12 then .ok ⟨out, h⟩ else .error (.badLength out.length)

/-- Reads the text of an identifier. -/
def parse (text : String) : Except Fault ObjectId := parseBytes (utf8 text)

/-- The written form. -/
def encode (id : ObjectId) : String := Hex.encode id.bytes

/-- The bytes of a written form are read as its digits. -/
theorem filterMap_utf8 {ns : List Nat} (h : ∀ n ∈ ns, n < 16) :
    let bytes := utf8 (String.ofList (ns.map Hex.digitChar))
    bytes.filterMap Hex.digit? = ns ∧ bytes.length = ns.length ∧
      ∀ b ∈ bytes, (Hex.digit? b).isNone = false := by
  induction ns with
  | nil => simp [utf8]
  | cons n ns ih =>
    obtain ⟨b, hb, hd⟩ := Hex.digit?_digitChar (h n (by simp))
    obtain ⟨hf, hl, hn⟩ := ih (fun m hm => h m (by simp [hm]))
    have hcons : utf8 (String.ofList ((n :: ns).map Hex.digitChar))
        = b :: utf8 (String.ofList (ns.map Hex.digitChar)) := by
      simp [utf8, hb]
    intro bytes
    rw [show bytes = _ from hcons]
    refine ⟨by rw [List.filterMap_cons, hd, hf], by rw [List.length_cons, hl, List.length_cons], ?_⟩
    intro c hc
    rcases List.mem_cons.1 hc with rfl | hc
    · rw [hd]; rfl
    · exact hn c hc

/-- The written form of an identifier reads back. -/
theorem parse_encode (id : ObjectId) : parse id.encode = .ok id := by
  obtain ⟨hf, hl, hn⟩ := filterMap_utf8 (Hex.digits_lt id.bytes)
  unfold parse parseBytes encode Hex.encode
  rw [hl, Hex.length_digits, if_neg (by omega), hf, Hex.pairs_digits]
  have hnone : ((utf8 (String.ofList ((Hex.digits id.bytes).map Hex.digitChar))).zipIdx.find?
      (fun b => (Hex.digit? b.1).isNone)) = none := by
    rw [List.find?_eq_none]
    intro b hb
    rw [hn b.1 (List.fst_mem_of_mem_zipIdx hb)]
    simp
  rw [hnone]
  simp [id.length_bytes]

end ObjectId

end DocQuery
