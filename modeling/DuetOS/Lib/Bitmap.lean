import Mathlib.Data.BitVec
import DuetOS.Lib.First

/-!
# Bitmaps of bytes

Bit `i` of a bitmap is bit `i % 8` of byte `i / 8`. The byte masks of a program are read here as
operations on the set of bits, and a count of trailing zeros as a search.
-/

namespace Bitmap

open Function

/-- Bit `i` of the bitmap. -/
def test (b : Nat → BitVec 8) (i : Nat) : Bool := (b (i / 8)).getLsbD (i % 8)

variable {b : Nat → BitVec 8} {x : BitVec 8} {i j : Nat}

lemma shiftRight_three (i) : i >>> 3 = i / 8 := Nat.shiftRight_eq_div_pow i 3

lemma shiftLeft_three (i) : i <<< 3 = 8 * i := by rw [Nat.shiftLeft_eq, Nat.mul_comm]

lemma and_seven (i) : i &&& 7 = i % 8 := Nat.and_two_pow_sub_one_eq_mod i 3

lemma getLsbD_mask (j k) : (1#8 <<< j).getLsbD k = (decide (j < 8) && decide (j = k)) := by
  rw [← BitVec.twoPow_eq, BitVec.getLsbD_twoPow]

lemma and_mask_eq_zero (lt : j < 8) : x &&& 1#8 <<< j = 0#8 ↔ x.getLsbD j = false := by
  constructor
  · intro zero
    have bit := congrArg (BitVec.getLsbD · j) zero
    simpa [getLsbD_mask, lt] using bit
  · intro unset
    apply BitVec.eq_of_getLsbD_eq
    intro k _
    simp only [BitVec.getLsbD_and, getLsbD_mask, BitVec.getLsbD_zero, Bool.and_eq_false_iff]
    by_cases eq : j = k
    · exact Or.inl (eq ▸ unset)
    · exact Or.inr (Or.inr (by simpa using eq))

lemma getLsbD_mask_sub_one (lt : j < 8) (k) : (1#8 <<< j - 1#8).getLsbD k = decide (k < j) := by
  have table : ∀ j k : Fin 8, (1#8 <<< j.val - 1#8).getLsbD k = decide (k.val < j.val) := by decide
  by_cases inside : k < 8
  · exact table ⟨j, lt⟩ ⟨k, inside⟩
  · rw [BitVec.getLsbD_of_ge _ _ (Nat.le_of_not_lt inside)]
    simp only [Bool.false_eq, decide_eq_false_iff_not]
    omega

lemma test_mask_eq_zero : b (i / 8) &&& 1#8 <<< (i % 8) = 0#8 ↔ test b i = false :=
  and_mask_eq_zero (Nat.mod_lt i (by decide))

/-- No bit of a byte of ones is clear. -/
lemma test_ones (ones : b (i / 8) = 0xFF#8) : test b i = true := by
  have set : ∀ j : Fin 8, (0xFF#8).getLsbD j := by decide
  rw [test, ones]
  exact set ⟨i % 8, Nat.mod_lt _ (by decide)⟩

lemma index_eq_iff (i j) : j = i ↔ j / 8 = i / 8 ∧ j % 8 = i % 8 := by omega

lemma test_set (b : Nat → BitVec 8) (i j) :
    test (update b (i / 8) (b (i / 8) ||| 1#8 <<< (i % 8))) j = (test b j || decide (j = i)) := by
  simp only [test, update_apply, index_eq_iff i j]
  by_cases byte : j / 8 = i / 8
  · simp only [byte, ↓reduceIte, BitVec.getLsbD_or, getLsbD_mask, true_and,
      Nat.mod_lt i (by decide : 8 > 0), decide_true,
      Bool.true_and, eq_comm]
  · simp [byte]

lemma test_clear (b : Nat → BitVec 8) (i j) :
    test (update b (i / 8) (b (i / 8) &&& ~~~ (1#8 <<< (i % 8)))) j =
      (test b j && decide (j ≠ i)) := by
  simp only [test, update_apply, ne_eq, index_eq_iff i j]
  by_cases byte : j / 8 = i / 8
  · have lt : j % 8 < 8 := Nat.mod_lt j (by decide)
    simp only [byte, ↓reduceIte, BitVec.getLsbD_and, BitVec.getLsbD_not, getLsbD_mask, lt, true_and,
      Nat.mod_lt i (by decide : 8 > 0), decide_true, Bool.true_and, decide_not, eq_comm]
  · simp [byte]

lemma first_ctz (ne : x ≠ 0#8) (k) :
    First (fun i => x.getLsbD (i - 8 * k)) (8 * k) (8 * k + 8) (some (8 * k + x.ctz.toNat)) := by
  have lt : x.ctz.toNat < 8 := BitVec.lt_of_getLsbD (BitVec.getLsbD_true_ctz_of_ne_zero ne)
  refine ⟨⟨Nat.le_add_right _ _, by omega, ?_⟩, fun i ge below => ?_⟩
  · simpa using BitVec.getLsbD_true_ctz_of_ne_zero ne
  · have inByte : i - 8 * k < x.ctz.toNat := by omega
    simpa using BitVec.getLsbD_false_of_lt_ctz inByte

/-- The clear bits of byte `k` that a mask selects: the lowest of them, if there is one, is the
first clear bit of the range that the mask stands for. -/
lemma first_clear_byte (b : Nat → BitVec 8) (k lo hi) (mask : BitVec 8)
    (inside : 8 * k ≤ lo ∧ hi ≤ 8 * k + 8)
    (select : ∀ j < 8, mask.getLsbD j = decide (lo ≤ 8 * k + j ∧ 8 * k + j < hi)) :
    First (fun i => test b i = false) lo hi
      (if ~~~ b k &&& mask ≠ 0#8 then some (8 * k + (~~~ b k &&& mask).ctz.toNat) else none) := by
  have bit : ∀ i, lo ≤ i → i < hi →
      ((~~~ b k &&& mask).getLsbD (i - 8 * k) = true ↔ test b i = false) := fun i ge lt => by
    have inByte : i - 8 * k < 8 := by omega
    have atByte : i / 8 = k ∧ i % 8 = i - 8 * k := by omega
    simp only [test, atByte.1, atByte.2, BitVec.getLsbD_and, BitVec.getLsbD_not, select _ inByte,
      inByte, decide_true,
      Bool.true_and, Bool.and_eq_true, Bool.not_eq_true', decide_eq_true_eq, and_iff_left_iff_imp]
    omega
  split
  · rename_i ne
    obtain ⟨⟨ge, lt, set⟩, below⟩ := first_ctz ne k
    -- the bit that was found is one the mask selects
    have selected := set
    simp only [BitVec.getLsbD_and, Bool.and_eq_true] at selected
    rw [Nat.add_sub_cancel_left] at selected
    have range := of_decide_eq_true ((select _ (by omega)).symm.trans selected.2)
    refine ⟨⟨range.1, range.2, (bit _ range.1 range.2).mp set⟩, fun i ge' lt' clear => ?_⟩
    exact below i (inside.1.trans ge') lt' ((bit i ge' (lt'.trans range.2)).mpr clear)
  · rename_i zero
    intro i ge lt clear
    have set := (bit i ge lt).mpr clear
    rw [not_not.mp zero] at set
    simp at set

/-- The clear bits below `n`. -/
def clearBits (b : Nat → BitVec 8) (n : Nat) :
    Finset Nat := (Finset.range n).filter fun i => test b i = false

@[simp] lemma mem_clearBits : i ∈ clearBits b n ↔ i < n ∧ test b i = false := by simp [clearBits]

lemma clearBits_set (b : Nat → BitVec 8) (i n) :
    clearBits (update b (i / 8) (b (i / 8) ||| 1#8 <<< (i % 8))) n = (clearBits b n).erase i := by
  ext j
  simp only [mem_clearBits, test_set, Bool.or_eq_false_iff, decide_eq_false_iff_not,
    Finset.mem_erase]
  tauto

lemma clearBits_clear (b : Nat → BitVec 8) (lt : i < n) :
    clearBits (update b (i / 8) (b (i / 8) &&& ~~~ (1#8 <<< (i % 8)))) n =
      insert i (clearBits b n) := by
  ext j
  simp only [mem_clearBits, test_clear, Bool.and_eq_false_iff, decide_eq_false_iff_not, not_not,
    Finset.mem_insert]
  constructor
  · rintro ⟨lt', clear | eq⟩
    · exact Or.inr ⟨lt', clear⟩
    · exact Or.inl eq
  · rintro (rfl | ⟨lt', clear⟩)
    · exact ⟨lt, Or.inr rfl⟩
    · exact ⟨lt', Or.inl clear⟩

end Bitmap
