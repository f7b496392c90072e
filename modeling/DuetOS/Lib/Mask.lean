import Mathlib.Data.BitVec

/-!
# Bit masks as sets

A machine word read as a set of flags. `Sub a b` is the C++ test `(a & ~b) == 0`; `sub_iff_and` is
the equivalent test `(b & a) == a`.
-/

namespace Mask

variable {w : Nat}

/-- Every flag of `a` is a flag of `b`: `(a & ~b) == 0`. -/
def Sub (a b : BitVec w) : Prop := a &&& ~~~b = 0#w

instance (a b : BitVec w) : Decidable (Sub a b) :=
  inferInstanceAs (Decidable (a &&& ~~~b = 0#w))

lemma sub_iff_forall {a b : BitVec w} : Sub a b ↔ ∀ i, a.getLsbD i → b.getLsbD i := by
  constructor
  · intro h i ha
    have hi := congrArg (fun x => x.getLsbD i) h
    have lt : i < w := BitVec.lt_of_getLsbD ha
    simpa [ha, lt] using hi
  · intro h
    apply BitVec.eq_of_getLsbD_eq
    intro i lt
    have hi := h i
    cases ha : a.getLsbD i <;> simp_all

lemma sub_iff_and {a b : BitVec w} : Sub a b ↔ b &&& a = a := by
  rw [sub_iff_forall]
  constructor
  · intro h
    apply BitVec.eq_of_getLsbD_eq
    intro i _
    have hi := h i
    cases ha : a.getLsbD i <;> simp_all
  · intro h i ha
    rw [← h] at ha
    simp only [BitVec.getLsbD_and, Bool.and_eq_true] at ha
    exact ha.1

lemma Sub.refl (a : BitVec w) : Sub a a := sub_iff_forall.mpr fun _ h => h

lemma Sub.trans {a b c : BitVec w} (hab : Sub a b) (hbc : Sub b c) : Sub a c :=
  sub_iff_forall.mpr fun i h => sub_iff_forall.mp hbc i (sub_iff_forall.mp hab i h)

lemma Sub.of_or_left {a b c : BitVec w} (h : Sub (a ||| b) c) : Sub a c :=
  sub_iff_forall.mpr fun i ha => sub_iff_forall.mp h i (by simp [ha])

lemma Sub.of_or_right {a b c : BitVec w} (h : Sub (a ||| b) c) : Sub b c :=
  sub_iff_forall.mpr fun i hb => sub_iff_forall.mp h i (by simp [hb])

lemma Sub.eq_zero (h : Sub a 0#w) : a = 0#w := by
  simpa [Sub] using h

lemma Sub.of_and_ne_zero {a : BitVec w} {i : Nat} (meets : a &&& 1#w <<< i ≠ 0#w) :
    Sub (1#w <<< i) a := by
  rw [← BitVec.twoPow_eq] at meets ⊢
  rw [BitVec.and_twoPow] at meets
  rw [sub_iff_and, BitVec.and_twoPow]
  cases flag : a.getLsbD i with
  | true => rfl
  | false => exact absurd (by rw [flag]; rfl) meets

end Mask
