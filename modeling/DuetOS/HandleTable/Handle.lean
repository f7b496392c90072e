import DuetOS.Kernel.KObject
import DuetOS.Lib.Mask
import DuetOS.Lib.Pack

/-!
# Handle tokens and rights

The packed handle token with its codec (`handle_table.h`), the speculation-safe decoder
`decodeHandleNospec` (`handle_table.cpp`), the rights and the ceiling `typeAllowedRights` of each
type.

A handle is a `u32`: bits 0..11 hold the slot, bits 12..30 a non-zero generation. The codec is a
bijection between the accepted tokens and these pairs, which is what token uniqueness rests on.
-/

namespace DuetOS

abbrev Handle := Nat

def kHandleInvalid : Nat := 0
def kHandleSlotBits : Nat := 12
def kHandleSlotMask : Nat := (1 <<< kHandleSlotBits) - 1
def kHandleGenerationBits : Nat := 19
def kHandleGenerationMax : Nat := (1 <<< kHandleGenerationBits) - 1
def kHandlePositiveMax : Nat := 0x7FFFFFFF
def kHandleTableCapacity : Nat := 64

def handleEncode (slot generation : Nat) : Nat :=
  if slot > 0 ∧ slot < kHandleTableCapacity ∧ generation > 0 ∧
    generation ≤ kHandleGenerationMax then
    (generation <<< kHandleSlotBits) ||| slot
  else kHandleInvalid

def handleDecode (handle : Nat) : Option (Nat × Nat) :=
  if handle = kHandleInvalid ∨ handle > kHandlePositiveMax then none
  else
    let slot := handle &&& kHandleSlotMask
    let generation := handle >>> kHandleSlotBits
    if slot = 0 ∨ slot ≥ kHandleTableCapacity ∨ generation = 0 ∨
      generation > kHandleGenerationMax then
      none
    else some (slot, generation)

/-- A decoded token. The slot is in range by construction (C++ `DecodedHandle`). -/
structure DecodedHandle where
  slot : Fin kHandleTableCapacity
  generation : Nat
  deriving DecidableEq, Repr

/-- Decode with a masked slot index (C++ `DecodeHandleNospec`). The source asserts that the masked
slot is in range; here that assertion is the proof carried by the `Fin`. -/
def decodeHandleNospec (handle : Handle) : Option DecodedHandle :=
  match handleDecode handle with
  | none => none
  | some (slot, generation) =>
    let maskedSlot := maskedIndex32 slot kHandleTableCapacity
    if maskedSlot ≠ slot then none
    else some ⟨⟨maskedSlot, maskedIndex32_lt slot (by decide)⟩, generation⟩

section

variable (slot_pos : 0 < slot) (slot_lt : slot < kHandleTableCapacity) (gen_pos : 0 < generation)
  (gen_le : generation ≤ kHandleGenerationMax)

include slot_pos slot_lt gen_pos gen_le

lemma handleEncode_eq : handleEncode slot generation = generation * 4096 + slot := by
  rw [handleEncode, if_pos ⟨slot_pos, slot_lt, gen_pos, gen_le⟩]
  exact Pack.shift_or (Nat.lt_trans slot_lt (by decide))

lemma handleDecode_handleEncode :
    handleDecode (handleEncode slot generation) = some (slot, generation) := by
  rw [handleEncode_eq slot_pos slot_lt gen_pos gen_le]
  have fits : slot < 2 ^ kHandleSlotBits := Nat.lt_trans slot_lt (by decide)
  have low : (generation * 4096 + slot) &&& kHandleSlotMask = slot := Pack.low fits
  have high : (generation * 4096 + slot) >>> kHandleSlotBits = generation := Pack.high fits
  have le : generation ≤ 524287 := gen_le
  have lt : slot < 64 := slot_lt
  have valid : ¬(generation * 4096 + slot = kHandleInvalid ∨
    generation * 4096 + slot > kHandlePositiveMax) := by
    unfold kHandleInvalid kHandlePositiveMax
    omega
  have fields : ¬(slot = 0 ∨ slot ≥ kHandleTableCapacity ∨ generation = 0 ∨
    generation > kHandleGenerationMax) := by
    omega
  unfold handleDecode
  rw [if_neg valid, low, high, if_neg fields]

end

lemma handleEncode_of_decode (dec : handleDecode handle = some (slot, generation)) :
    handleEncode slot generation = handle ∧
      0 < slot ∧ slot < kHandleTableCapacity ∧ 0 < generation ∧
        generation ≤ kHandleGenerationMax := by
  unfold handleDecode at dec
  split at dec
  · cases dec
  dsimp only at dec
  split at dec
  · cases dec
  rename_i ok
  simp only [Option.some.injEq, Prod.mk.injEq] at dec
  obtain ⟨e1, e2⟩ := dec
  rw [e1, e2] at ok
  simp only [not_or, not_le, not_lt, ge_iff_le, gt_iff_lt] at ok
  obtain ⟨slot_ne, slot_lt, gen_ne, gen_le⟩ := ok
  have slot_pos : 0 < slot := Nat.pos_of_ne_zero slot_ne
  have gen_pos : 0 < generation := Nat.pos_of_ne_zero gen_ne
  refine ⟨?_, slot_pos, slot_lt, gen_pos, gen_le⟩
  rw [handleEncode_eq slot_pos slot_lt gen_pos gen_le, ← e1, ← e2]
  exact Pack.rebuild handle kHandleSlotBits

lemma decodeHandleNospec_some (dec : decodeHandleNospec handle = some decoded) :
    handle = handleEncode decoded.slot decoded.generation ∧ 0 < decoded.slot.val ∧
      0 < decoded.generation ∧
      decoded.generation ≤ kHandleGenerationMax := by
  unfold decodeHandleNospec at dec
  split at dec
  · cases dec
  rename_i slot generation eq
  dsimp only at dec
  split at dec
  · cases dec
  rename_i same
  cases dec
  obtain ⟨e, slot_pos, _, gen_pos, gen_le⟩ := handleEncode_of_decode eq
  have same' : maskedIndex32 slot kHandleTableCapacity = slot := not_not.mp same
  refine ⟨?_, ?_, gen_pos, gen_le⟩
  · simp only [same', e]
  · simpa only [same'] using slot_pos

lemma decodeHandleNospec_handleEncode {slot : Fin kHandleTableCapacity} {generation : Nat}
    (slot_pos : 0 < slot.val) (gen_pos : 0 < generation)
    (gen_le : generation ≤ kHandleGenerationMax) :
    decodeHandleNospec (handleEncode slot generation) = some ⟨slot, generation⟩ := by
  unfold decodeHandleNospec
  rw [handleDecode_handleEncode slot_pos slot.isLt gen_pos gen_le]
  have same := maskedIndex32_eq slot.isLt (by decide : kHandleTableCapacity ≤ 4294967296)
  simp [same]

lemma handleEncode_ne_invalid {slot : Fin kHandleTableCapacity} {generation : Nat}
    (slot_pos : 0 < slot.val) (gen_pos : 0 < generation)
    (gen_le : generation ≤ kHandleGenerationMax) :
    handleEncode slot generation ≠ kHandleInvalid := by
  rw [handleEncode_eq slot_pos slot.isLt gen_pos gen_le]
  unfold kHandleInvalid
  omega

abbrev Rights := BitVec 64

def kHandleRightRead : Rights := 1#64 <<< 0
def kHandleRightWrite : Rights := 1#64 <<< 1
def kHandleRightDuplicate : Rights := 1#64 <<< 2
def kHandleRightTransfer : Rights := 1#64 <<< 3
def kHandleRightWait : Rights := 1#64 <<< 4
def kHandleRightSignal : Rights := 1#64 <<< 5
def kHandleRightDestroy : Rights := 1#64 <<< 6
def kHandleRightInspect : Rights := 1#64 <<< 7

def kHandleRightAll : Rights :=
  kHandleRightRead ||| kHandleRightWrite ||| kHandleRightDuplicate ||| kHandleRightTransfer |||
    kHandleRightWait ||| kHandleRightSignal ||| kHandleRightDestroy ||| kHandleRightInspect

def typeAllowedRights (type : KObjectType) : Rights :=
  let kCommon := kHandleRightDuplicate ||| kHandleRightTransfer ||| kHandleRightDestroy |||
    kHandleRightInspect
  let kEndpointCommon := kHandleRightDestroy ||| kHandleRightInspect
  match type with
  | .mutex | .event | .semaphore => kCommon ||| kHandleRightWait ||| kHandleRightSignal
  | .mailbox => kCommon ||| kHandleRightRead ||| kHandleRightWrite ||| kHandleRightWait
  | .messagePort => kCommon ||| kHandleRightRead ||| kHandleRightWrite ||| kHandleRightWait
  | .serviceEndpoint =>
    kEndpointCommon ||| kHandleRightRead ||| kHandleRightWrite ||| kHandleRightWait
  | .waitable => kCommon ||| kHandleRightWait
  | .file => kCommon ||| kHandleRightRead ||| kHandleRightWrite
  | .iocp => kCommon ||| kHandleRightRead ||| kHandleRightWrite ||| kHandleRightWait
  | .test => kHandleRightAll
  | .invalid => 0

lemma serviceEndpoint_not_duplicable (sub : Mask.Sub rights (typeAllowedRights .serviceEndpoint)) :
    ¬Mask.Sub kHandleRightDuplicate rights := by
  intro dup
  exact absurd (dup.trans sub) (by decide)

end DuetOS
