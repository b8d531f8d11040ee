/-!
# Bits

Runs of bits of a natural number, the lowest bit being bit 0. `field_lt` bounds the number that a run
stands for.
-/

namespace DocQuery.Bits

/-- The number that some bits of `n` stand for: `width` of them, from bit `start` on. -/
def field (n start width : Nat) : Nat := n / Nat.pow 2 start % Nat.pow 2 width

/-- A run of bits stands for a number of so many bits. -/
theorem field_lt (n start width : Nat) : field n start width < Nat.pow 2 width :=
  Nat.mod_lt _ (Nat.pow_pos (by decide))

end DocQuery.Bits
