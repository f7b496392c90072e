import DuetOS.Tcp.Cubic
import Mathlib.Tactic.Ring

/-!
# The CUBIC window curve

`CubicTarget` follows the cubic curve as long as its words hold the cube and the target. The time
since the epoch began is not bounded, and after 347 seconds the cube wraps.
-/

namespace DuetOS.Tcp

/-- How far the curve is from its origin point, in unbounded integers. -/
def cubicOffset (k tt : Nat) : Nat := 410 * (if tt < k then k - tt else tt - k) ^ 3 / 2 ^ 40

/-- The curve in unbounded integers; below the plateau it stops at zero. -/
def cubicCurve (origin k tt : Nat) : Nat :=
  if tt < k then origin - cubicOffset k tt else origin + cubicOffset k tt

/-- The cube fits in 64 bits and the target in 32, or what is left of the wrapped cube still takes
the target to the end of its range. -/
def CubicFits (origin k tt : Nat) : Prop :=
  if tt < k then cubicOffset k tt < 2 ^ 24 ∨ origin ≤ cubicOffset k tt % 2 ^ 24
  else
    cubicOffset k tt < 2 ^ 24 ∧ origin + cubicOffset k tt < 2 ^ 32 ∨
      origin + cubicOffset k tt % 2 ^ 24 = 2 ^ 32 - 1

instance (origin k tt : Nat) : Decidable (CubicFits origin k tt) := by
  unfold CubicFits
  infer_instance

/-- The curve does not fall. -/
lemma cubicCurve_mono (origin k : Nat) {tt tt' : Nat} (le : tt ≤ tt') :
    cubicCurve origin k tt ≤ cubicCurve origin k tt' := by
  have scaled : ∀ {a b : Nat}, a ≤ b → 410 * a ^ 3 / 2 ^ 40 ≤ 410 * b ^ 3 / 2 ^ 40 := fun le =>
    Nat.div_le_div_right (Nat.mul_le_mul_left _ (Nat.pow_le_pow_left le 3))
  unfold cubicCurve cubicOffset
  split_ifs
  · exact Nat.sub_le_sub_left (scaled (Nat.sub_le_sub_left le k)) origin
  · exact (Nat.sub_le ..).trans (Nat.le_add_right ..)
  · omega
  · exact Nat.add_le_add_left (scaled (Nat.sub_le_sub_right le k)) origin

/-- The words of `CubicTarget` keep the low 24 bits of the scaled cube. -/
lemma scaledCube_toNat (offs : UInt64) :
    ((kCubeRttScale * offs * offs * offs) >>> (10 + 3 * kBictcpHz)).toNat =
      410 * offs.toNat ^ 3 / 2 ^ 40 % 2 ^ 24 := by
  have shift : (10 + 3 * kBictcpHz).toNat % 64 = 40 := by decide
  have cube : (kCubeRttScale * offs * offs * offs).toNat = 410 * offs.toNat ^ 3 % 2 ^ 64 := by
    simp only [UInt64.toNat_mul, Nat.mod_mul_mod, kCubeRttScale]
    rw [show (410 : UInt64).toNat = 410 from rfl,
      show 410 * offs.toNat * offs.toNat * offs.toNat = 410 * offs.toNat ^ 3 by ring]
  rw [UInt64.toNat_shiftRight, shift, cube, Nat.shiftRight_eq_div_pow]
  exact Nat.mod_mul_right_div_self _ (2 ^ 40) (2 ^ 24)

/-- `CubicTarget` in terms of the curve's distance from its origin point. -/
lemma cubicTarget_toNat (origin k : UInt32) (tt : UInt64) :
    (cubicTarget origin k tt).toNat =
      if tt.toNat < k.toNat then origin.toNat - cubicOffset k.toNat tt.toNat % 2 ^ 24
      else (origin.toNat + cubicOffset k.toNat tt.toNat % 2 ^ 24) % 2 ^ 32 := by
  have plateau : k.toUInt64.toNat = k.toNat := rfl
  have top : origin.toUInt64.toNat = origin.toNat := rfl
  have bound := origin.toNat_lt
  have offs : (if tt < k.toUInt64 then k.toUInt64 - tt else tt - k.toUInt64).toNat =
      if tt.toNat < k.toNat then k.toNat - tt.toNat else tt.toNat - k.toNat := by
    simp only [UInt64.lt_iff_toNat_lt, plateau]
    split
    next below => exact UInt64.toNat_sub_of_le _ _ (UInt64.le_iff_toNat_le.mpr below.le)
    next above =>
      exact UInt64.toNat_sub_of_le _ _ (UInt64.le_iff_toNat_le.mpr (Nat.le_of_not_lt above))
  have delta := scaledCube_toNat (if tt < k.toUInt64 then k.toUInt64 - tt else tt - k.toUInt64)
  unfold cubicTarget cubicOffset
  dsimp only
  rw [offs] at delta
  rw [← delta]
  simp only [UInt64.lt_iff_toNat_lt, plateau, top]
  generalize (kCubeRttScale * _ * _ * _) >>> _ = d at delta ⊢
  split
  next =>
    split
    next positive =>
      rw [UInt64.toNat_toUInt32,
        UInt64.toNat_sub_of_le _ _ (UInt64.le_iff_toNat_le.mpr positive.le), top]
      omega
    next => exact (Nat.sub_eq_zero_of_le (by omega)).symm
  next =>
    rw [UInt64.toNat_toUInt32, UInt64.toNat_add, top]
    omega

/-- `CubicTarget` is the curve, clamped to 32 bits, just where its words hold. -/
lemma cubicTarget_eq_iff (origin k : UInt32) (tt : UInt64) :
    (cubicTarget origin k tt).toNat =
        min (2 ^ 32 - 1) (cubicCurve origin.toNat k.toNat tt.toNat) ↔
      CubicFits origin.toNat k.toNat tt.toNat := by
  have bound := origin.toNat_lt
  rw [cubicTarget_toNat]
  unfold cubicCurve CubicFits
  split <;> omega

/-- `CubicTarget` is the curve exactly when the cube and the target fit, and where it is the curve
it does not fall. -/
theorem cubicTarget_follows_curve (origin k : UInt32) (tt tt' : UInt64) (le : tt ≤ tt') :
    ((cubicTarget origin k tt).toNat =
        min (2 ^ 32 - 1) (cubicCurve origin.toNat k.toNat tt.toNat) ↔
      CubicFits origin.toNat k.toNat tt.toNat) ∧
    (CubicFits origin.toNat k.toNat tt.toNat → CubicFits origin.toNat k.toNat tt'.toNat →
      cubicTarget origin k tt ≤ cubicTarget origin k tt') := by
  refine ⟨cubicTarget_eq_iff origin k tt, fun fits fits' => ?_⟩
  have mono := cubicCurve_mono origin.toNat k.toNat (UInt64.le_iff_toNat_le.mp le)
  rw [UInt32.le_iff_toNat_le, (cubicTarget_eq_iff origin k tt).mpr fits,
    (cubicTarget_eq_iff origin k tt').mpr fits']
  omega

/-- The first 300 seconds of an epoch that began at ten packets. -/
theorem cubicTarget_follows_curve_start :
    cubicTarget 10 0 0 ≤ cubicTarget 10 0 307200 ∧
      (cubicTarget 10 0 307200).toNat = min (2 ^ 32 - 1) (cubicCurve 10 0 307200) :=
  ⟨(cubicTarget_follows_curve 10 0 0 307200 (by decide)).2 (by decide) (by decide +kernel),
    (cubicTarget_follows_curve 10 0 307200 307200 (by decide)).1.mpr (by decide +kernel)⟩

/-- The first epoch of a connection with a window of ten packets: its target falls between 340 and
350 seconds. -/
theorem cubicTarget_wraps : let c := cubicUpdate {} 1 10 1
    let tt (ticks : UInt64) := (ticks <<< kBictcpHz) / 100
    cubicTarget c.bicOriginPoint c.bicK (tt 35000) <
      cubicTarget c.bicOriginPoint c.bicK (tt 34000) ∧
      (cubicTarget c.bicOriginPoint c.bicK (tt 35000)).toNat <
        min (2 ^ 32 - 1) (cubicCurve c.bicOriginPoint.toNat c.bicK.toNat (tt 35000).toNat) := by
  decide +kernel

end DuetOS.Tcp
