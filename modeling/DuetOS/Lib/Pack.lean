import Mathlib.Data.Nat.Bitwise

/-!
# Packed identities

A token that packs a row index into its low bits and a generation above them. Packing and unpacking
are inverse to each other, which makes tokens and (row, generation) pairs interchangeable.
-/

namespace Pack

variable {bits slot generation : Nat}

lemma shift_or (lt : slot < 2 ^ bits) :
    (generation <<< bits) ||| slot = generation * 2 ^ bits + slot := by
  rw [← Nat.shiftLeft_add_eq_or_of_lt lt, Nat.shiftLeft_eq]

lemma low (lt : slot < 2 ^ bits) : (generation * 2 ^ bits + slot) &&& (2 ^ bits - 1) = slot := by
  rw [Nat.and_two_pow_sub_one_eq_mod, Nat.mul_add_mod', Nat.mod_eq_of_lt lt]

lemma high (lt : slot < 2 ^ bits) : (generation * 2 ^ bits + slot) >>> bits = generation := by
  rw [Nat.shiftRight_eq_div_pow, Nat.add_comm, Nat.add_mul_div_right _ _ (Nat.two_pow_pos bits),
    Nat.div_eq_of_lt lt, Nat.zero_add]

lemma rebuild (word bits : Nat) :
    (word >>> bits) * 2 ^ bits + (word &&& (2 ^ bits - 1)) = word := by
  rw [Nat.and_two_pow_sub_one_eq_mod, Nat.shiftRight_eq_div_pow, Nat.mul_comm]
  exact Nat.div_add_mod word (2 ^ bits)

end Pack
