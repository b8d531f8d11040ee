/-!
# Hexadecimal text

Bytes written as two lower-case digits each, and the value of a digit in either case.
`pairs_digits` says that reading the digits of some bytes gives those bytes back, and
`digit?_digitChar` that a digit character is read as its digit.
-/

namespace DocQuery.Hex

/-- The lower-case digit of a number below sixteen. -/
def digitChar (n : Nat) : Char := Nat.digitChar n

/-- The value of an ASCII hexadecimal digit. -/
def digit? (b : UInt8) : Option Nat :=
  let n := b.toNat
  if 48 ≤ n ∧ n ≤ 57 then some (n - 48)
  else if 97 ≤ n ∧ n ≤ 102 then some (n - 87)
  else if 65 ≤ n ∧ n ≤ 70 then some (n - 55)
  else none

/-- The two digit values of each byte, high one first. -/
def digits : List UInt8 → List Nat
  | [] => []
  | b :: bs => b.toNat / 16 :: b.toNat % 16 :: digits bs

/-- Joins digit values to bytes, two by two; a last one without a partner is dropped. -/
def pairs : List Nat → List UInt8
  | high :: low :: rest => UInt8.ofNat (16 * high + low) :: pairs rest
  | _ => []

/-- The text of some bytes, two lower-case digits each. -/
def encode (bytes : List UInt8) : String := String.ofList ((digits bytes).map digitChar)

/-- Reading the digits of some bytes gives them back. -/
theorem pairs_digits (bytes : List UInt8) : pairs (digits bytes) = bytes := by
  induction bytes with
  | nil => rfl
  | cons b bs ih => simp [digits, pairs, ih, Nat.div_add_mod]

/-- A digit character is a single byte, which is read as its digit. -/
theorem digit?_digitChar {n : Nat} (h : n < 16) :
    ∃ b, String.utf8EncodeChar (digitChar n) = [b] ∧ digit? b = some n := by
  have : ∀ n : Fin 16, (String.utf8EncodeChar (digitChar n)).length = 1 ∧
      digit? ((String.utf8EncodeChar (digitChar n)).headD 0) = some n.val := by decide
  obtain ⟨hl, hd⟩ := this ⟨n, h⟩
  obtain ⟨b, hb⟩ := List.length_eq_one_iff.1 hl
  exact ⟨b, hb, by simpa [hb] using hd⟩

theorem digits_lt (bytes : List UInt8) : ∀ n ∈ digits bytes, n < 16 := by
  induction bytes with
  | nil => simp [digits]
  | cons b bs ih =>
    have := b.toNat_lt
    intro n hn
    simp only [digits, List.mem_cons] at hn
    rcases hn with rfl | rfl | hn
    · omega
    · omega
    · exact ih n hn

theorem length_digits (bytes : List UInt8) : (digits bytes).length = 2 * bytes.length := by
  induction bytes with
  | nil => rfl
  | cons b bs ih => simp [digits, ih]; omega

/-- Lower-case digits of a natural number, without leading zeros. -/
def ofNat (n : Nat) : String := String.ofList (Nat.toDigits 16 n)

end DocQuery.Hex
