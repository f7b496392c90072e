import DuetOS.Frame.Allocator
import DuetOS.Lib.Bitmap

/-!
# The search for a free frame

The byte scan of the bitmap finds the least free frame of its range, unless the range starts and
ends inside one byte whose rest is used: then the scan goes on with the next byte, which is not in
the range.
-/

namespace DuetOS.Frame

open Bitmap

def FrameState.Free (s : FrameState) (frame : Nat) : Prop :=
  frame < s.bitmapFrames ∧ Bitmap.test s.bitmap frame = false

def found (s : FrameState) (frame : Nat) :
    Option Nat := if frame < s.bitmapFrames then some frame else none

/-- The range starts and ends inside one byte, and the rest of the byte is used. -/
def Confined (s : FrameState) (lo hi : Nat) : Prop :=
  (lo < hi ∧ lo / 8 = hi / 8 ∧ lo % 8 ≠ 0) ∧ ∀ i, lo ≤ i → i < 8 * (lo / 8 + 1) →
    Bitmap.test s.bitmap i = true

/-- The scan of a confined range goes on with the byte behind it and stops at `i`. -/
structure Escapes (s : FrameState) (lo hi i : Nat) : Prop where
  confined : Confined s lo hi
  first : First (fun i => Bitmap.test s.bitmap i = false) (8 * (lo / 8 + 1))
    (8 * (lo / 8 + 1) + hi % 8) (some i)

/-- The callers of the scan see no frame outside the range. -/
def Scannable (s : FrameState) (lo hi : Nat) : Prop := ∀ i, Escapes s lo hi i → s.bitmapFrames ≤ i

variable {s : FrameState} {lo hi frame : Nat}

lemma test_iff : s.bitmap (frame >>> 3) &&& bitMask (frame &&& 7) = 0#8 ↔
    test s.bitmap frame = false := by
  rw [shiftRight_three, and_seven]
  exact test_mask_eq_zero

lemma bitmapIsUsed_eq_false : bitmapIsUsed s frame = false ↔ s.Free frame := by
  simp only [bitmapIsUsed, FrameState.Free]
  split
  · rename_i past
    simp only [Bool.true_eq_false, false_iff, not_and]
    exact fun inside => absurd inside (Nat.not_lt.mpr past)
  · rename_i inside
    simp only [ne_eq, decide_not, Bool.not_eq_false', decide_eq_true_eq,
      Nat.lt_of_not_le inside, true_and]
    exact test_iff

instance (s : FrameState) (frame : Nat) : Decidable (s.Free frame) :=
  inferInstanceAs (Decidable (_ ∧ _))

lemma Free.ofTest (first : First (fun i => test s.bitmap i = false) lo hi o)
    (le : hi ≤ s.bitmapFrames) :
    First s.Free lo hi o :=
  first.congr fun _ _ lt => ⟨fun clear => ⟨lt.trans_le le, clear⟩, fun free => free.2⟩

/-- The bulk loop, by induction on the bytes that are left. -/
lemma bitmapScanBytes_first (bytes k) :
    First (fun i => test s.bitmap i = false) (8 * k) (8 * (k + bytes))
      (bitmapScanBytes s bytes k) := by
  induction bytes generalizing k with
  | zero => exact First.empty (Nat.le_refl _)
  | succ bytes ih =>
    have byte := first_clear_byte s.bitmap k (8 * k) (8 * k + 8) 0xFF#8
      ⟨Nat.le_refl _, Nat.le_refl _⟩ fun j lt => by
        have ones : ∀ j : Fin 8, (0xFF#8).getLsbD j := by decide
        simpa [lt] using ones ⟨j, lt⟩
    have all : ~~~ s.bitmap k &&& 0xFF#8 = ~~~ s.bitmap k := BitVec.and_allOnes
    have zero : ~~~ s.bitmap k = 0#8 ↔ s.bitmap k = 0xFF#8 :=
      ⟨fun eq => by rw [← BitVec.not_not (b := s.bitmap k), eq]; rfl, fun eq => by rw [eq]; rfl⟩
    rw [all] at byte
    simp only [bitmapScanBytes, shiftLeft_three, ne_eq, ← zero]
    split
    · rename_i free
      rw [if_pos free] at byte
      exact byte.some_of_lt (by have := byte.1.2.1; omega)
    rename_i used
    rw [if_neg used] at byte
    have rest := ih (k + 1)
    rw [show k + 1 + bytes = k + (bytes + 1) by omega] at rest
    exact byte.append rest (by omega)

/-- From a byte of the range on, the scan finds the least free frame. -/
lemma bitmapScanFrom_first (le : k ≤ hi / 8) (inside : hi ≤ s.bitmapFrames) :
    ∃ o, First s.Free (8 * k) hi o ∧ bitmapScanFrom s k hi = o.getD s.bitmapFrames := by
  have bytes := bitmapScanBytes_first (s := s) (hi / 8 - k) k
  rw [Nat.add_sub_of_le le] at bytes
  simp only [bitmapScanFrom, shiftRight_three]
  cases scan : bitmapScanBytes s (hi / 8 - k) k with
  | some frame =>
    rw [scan] at bytes
    exact ⟨some frame, Free.ofTest (bytes.some_of_lt (by have := bytes.1.2.1; omega)) inside, rfl⟩
  | none =>
    rw [scan] at bytes
    have tail := first_clear_byte s.bitmap (hi / 8) (8 * (hi / 8)) hi (1#8 <<< (hi % 8) - 1#8)
      ⟨Nat.le_refl _, by omega⟩ fun j lt => by
        rw [getLsbD_mask_sub_one (Nat.mod_lt _ (by decide))]
        congr 1
        apply propext
        omega
    refine ⟨_, Free.ofTest (bytes.append tail (by omega)) inside, ?_⟩
    simp only [bitmapScanTail, and_seven, bitMask, Nat.max_eq_right le, shiftLeft_three]
    by_cases aligned : hi % 8 = 0
    · simp [aligned]
    · simp only [ne_eq, aligned, not_false_eq_true, true_and]
      split <;> rfl

lemma head_first (s : FrameState) (lo : Nat) :
    First (fun i => test s.bitmap i = false) lo (8 * (lo / 8) + 8)
      (if ~~~ s.bitmap (lo / 8) &&& ~~~ (1#8 <<< (lo % 8) - 1#8) ≠ 0#8 then
        some (8 * (lo / 8) + (~~~ s.bitmap (lo / 8) &&& ~~~ (1#8 <<< (lo % 8) - 1#8)).ctz.toNat)
          else none) := by
  refine first_clear_byte s.bitmap (lo / 8) lo (8 * (lo / 8) + 8) _ ⟨by omega, Nat.le_refl _⟩
    fun j lt => ?_
  rw [BitVec.getLsbD_not, getLsbD_mask_sub_one (Nat.mod_lt _ (by decide))]
  simp only [lt, decide_true, Bool.true_and, ← decide_not]
  congr 1
  apply propext
  omega

/-- A range that is not confined to the rest of a byte. -/
lemma bitmapFindFreeLinear_first (inside : hi ≤ s.bitmapFrames) (free : ¬Confined s lo hi) :
    ∃ o, First s.Free lo hi o ∧ bitmapFindFreeLinear s lo hi = o.getD s.bitmapFrames := by
  simp only [bitmapFindFreeLinear, shiftRight_three, and_seven, bitMask, shiftLeft_three]
  by_cases empty : hi ≤ lo
  · exact ⟨none, First.empty empty, by rw [if_pos empty]; rfl⟩
  rw [if_neg empty]
  by_cases aligned : lo % 8 = 0
  · obtain ⟨o, first, result⟩ := bitmapScanFrom_first (show lo / 8 ≤ hi / 8 by omega) inside
    rw [show 8 * (lo / 8) = lo by omega] at first
    exact ⟨o, first, by rw [if_neg (not_not.mpr aligned), result]⟩
  rw [if_pos aligned]
  have head := head_first s lo
  split
  · rename_i clear
    rw [if_pos clear] at head
    split
    · rename_i lt
      exact ⟨_, Free.ofTest (head.some_of_lt lt) inside, rfl⟩
    · rename_i ge
      exact ⟨none, Free.ofTest (head.none_of_le (Nat.le_of_not_lt ge)) inside, rfl⟩
  · rename_i used
    rw [if_neg used] at head
    -- the rest of the byte is used, so the range goes on behind it
    have behind : lo / 8 + 1 ≤ hi / 8 := by
      by_contra confined
      refine free ⟨⟨by omega, by omega, aligned⟩, fun i ge lt => ?_⟩
      exact Bool.of_not_eq_false (head i ge (by omega))
    obtain ⟨o, first, result⟩ := bitmapScanFrom_first behind inside
    have head' := Free.ofTest (head.none_of_subset (by omega : 8 * (lo / 8 + 1) ≤ _)) (by omega)
    exact ⟨o, head'.append first (by omega), result⟩

/-- A confined range has no free frame. -/
lemma Confined.none_free (confined : Confined s lo hi) : First s.Free lo hi none := by
  obtain ⟨⟨_, byte, _⟩, used⟩ := confined
  intro i ge lt free
  exact absurd free.2 (by simp [used i ge (by omega)])

/-- On a confined range the scan tests as many bits of the next byte as the range takes of its
own. -/
lemma bitmapFindFreeLinear_confined (confined : Confined s lo hi) :
    ∃ o, First (fun i => test s.bitmap i = false) (8 * (lo / 8 + 1)) (8 * (lo / 8 + 1) + hi % 8) o ∧
      bitmapFindFreeLinear s lo hi = o.getD s.bitmapFrames := by
  obtain ⟨⟨lt, byte, unaligned⟩, used⟩ := confined
  have tail := first_clear_byte s.bitmap (lo / 8 + 1) (8 * (lo / 8 + 1)) (8 * (lo / 8 + 1) + hi % 8)
    (1#8 <<< (hi % 8) - 1#8) ⟨Nat.le_refl _, by omega⟩ fun j lt => by
      rw [getLsbD_mask_sub_one (Nat.mod_lt _ (by decide))]
      congr 1
      apply propext
      omega
  refine ⟨_, tail, ?_⟩
  simp only [bitmapFindFreeLinear, shiftRight_three, and_seven, bitMask, shiftLeft_three]
  rw [if_neg (Nat.not_le.mpr lt), if_pos unaligned]
  have head := head_first s lo
  split
  · rename_i clear
    rw [if_pos clear] at head
    have set := used _ head.1.1 (by have := head.1.2.1; omega)
    exact absurd head.1.2.2 (by simp [set])
  · simp only [bitmapScanFrom, shiftRight_three,
      show hi / 8 - (lo / 8 + 1) = 0 by omega, bitmapScanBytes,
      Nat.max_eq_left (show hi / 8 ≤ lo / 8 + 1 by omega), bitmapScanTail, and_seven, bitMask,
      shiftLeft_three]
    have some_bits : hi % 8 ≠ 0 := by omega
    simp only [ne_eq, some_bits, not_false_eq_true, true_and]
    split <;> rfl

lemma Escapes.eq {i : Nat} (escapes : Escapes s lo hi i) : bitmapFindFreeLinear s lo hi = i := by
  obtain ⟨o, first, result⟩ := bitmapFindFreeLinear_confined escapes.confined
  rw [result, first.unique escapes.first]
  rfl

/-- The scan leaves the range, or finds the least free frame. -/
lemma bitmapFindFreeLinear_cases (lo : Nat) (inside : hi ≤ s.bitmapFrames) :
    Escapes s lo hi (bitmapFindFreeLinear s lo hi) ∨
      ∃ o, First s.Free lo hi o ∧ bitmapFindFreeLinear s lo hi = o.getD s.bitmapFrames := by
  by_cases confined : Confined s lo hi
  · obtain ⟨o, first, result⟩ := bitmapFindFreeLinear_confined confined
    cases o with
    | none => exact .inr ⟨none, confined.none_free, result⟩
    | some i =>
      rw [result]
      exact .inl ⟨confined, first⟩
  · exact .inr (bitmapFindFreeLinear_first inside confined)

/-- The scan finds the least free frame just when it does not leave the range. -/
lemma bitmapFindFreeLinear_iff (inside : hi ≤ s.bitmapFrames) :
    (∃ o, First s.Free lo hi o ∧ bitmapFindFreeLinear s lo hi = o.getD s.bitmapFrames) ↔
      ∀ i, Escapes s lo hi i → i = s.bitmapFrames := by
  constructor
  · rintro ⟨o, first, result⟩ i escapes
    rw [← escapes.eq, result, first.unique escapes.confined.none_free]
    rfl
  · intro stays
    rcases bitmapFindFreeLinear_cases lo inside with escapes | found
    · exact ⟨none, escapes.confined.none_free, stays _ escapes⟩
    · exact found

lemma free_bitmapFindFreeLinear (inside : hi ≤ s.bitmapFrames)
    (hit : bitmapFindFreeLinear s lo hi < s.bitmapFrames) :
    s.Free (bitmapFindFreeLinear s lo hi) := by
  rcases bitmapFindFreeLinear_cases _ inside with escapes | ⟨o, first, result⟩
  · exact ⟨hit, escapes.first.1.2.2⟩
  · rw [result] at hit ⊢
    cases o with
    | none => exact absurd hit (Nat.lt_irrefl _)
    | some r => exact first.1.2.2

/-- What the callers of the scan see. -/
lemma found_bitmapFindFreeLinear (inside : hi ≤ s.bitmapFrames) (scannable : Scannable s lo hi) :
    First s.Free lo hi (found s (bitmapFindFreeLinear s lo hi)) := by
  rcases bitmapFindFreeLinear_cases _ inside with escapes | ⟨o, first, result⟩
  · rw [found, if_neg (Nat.not_lt.mpr (scannable _ escapes))]
    exact escapes.confined.none_free
  · rw [result]
    cases o with
    | none => rwa [Option.getD_none, found, if_neg (Nat.lt_irrefl _)]
    | some r => rwa [Option.getD_some, found, if_pos first.1.2.2.1]

end DuetOS.Frame
