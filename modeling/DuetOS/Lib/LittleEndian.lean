import DuetOS.Lib.Pack

/-!
# Little-endian fields

Reading and writing fixed-width unsigned fields of a byte buffer, byte by byte as the C++ helpers of
the same names do. A field that was written and is read back at its own offset has the value written
(`readLe32_writeLe32`, `readLe64_writeLe64`).
-/

namespace LittleEndian

def byteAt (bytes : List UInt8) (offset : Nat) : Nat := (bytes.getD offset 0).toNat

def readLe16 (bytes : List UInt8) (offset : Nat) : Nat :=
  byteAt bytes offset ||| byteAt bytes (offset + 1) <<< 8

def readLe32 (bytes : List UInt8) (offset : Nat) : Nat :=
  byteAt bytes offset ||| byteAt bytes (offset + 1) <<< 8 ||| byteAt bytes (offset + 2) <<< 16 |||
    byteAt bytes (offset + 3) <<< 24

def readLe64 (bytes : List UInt8) (offset : Nat) : Nat :=
  readLe32 bytes offset ||| readLe32 bytes (offset + 4) <<< 32

/-- The four bytes that store `value`. -/
def writeLe32 (value : Nat) : List UInt8 :=
  [.ofNat (value &&& 0xFF), .ofNat ((value >>> 8) &&& 0xFF), .ofNat ((value >>> 16) &&& 0xFF),
    .ofNat ((value >>> 24) &&& 0xFF)]

/-- The eight bytes that store `value`. -/
def writeLe64 (value : Nat) : List UInt8 :=
  writeLe32 (value &&& 0xFFFFFFFF) ++ writeLe32 (value >>> 32)

lemma or_shift {low bits} (lt : low < 2 ^ bits) (high) :
    low ||| high <<< bits = low + high * 2 ^ bits := by
  rw [Nat.or_comm, Pack.shift_or lt, Nat.add_comm]

lemma byteAt_append (before bytes offset) :
    byteAt (before ++ bytes) (before.length + offset) = byteAt bytes offset := by
  unfold byteAt
  rw [List.getD_append_right _ _ _ _ (Nat.le_add_right ..), Nat.add_sub_cancel_left]

lemma readLe32_append (before bytes offset) :
    readLe32 (before ++ bytes) (before.length + offset) = readLe32 bytes offset := by
  simp only [readLe32, Nat.add_assoc, byteAt_append]

lemma toNat_ofNat_byte (value) : (UInt8.ofNat (value &&& 0xFF)).toNat = value % 256 := by
  have mask : value &&& 0xFF = value % 256 := Nat.and_two_pow_sub_one_eq_mod value 8
  rw [mask, UInt8.toNat_ofNat', Nat.mod_mod]

lemma readLe32_writeLe32 (lt : value < 2 ^ 32) (after) :
    readLe32 (writeLe32 value ++ after) 0 = value := by
  have byte : ∀ shifted : Nat, shifted % 256 < 2 ^ 8 := fun shifted => Nat.mod_lt _ (by decide)
  show (UInt8.ofNat _).toNat ||| (UInt8.ofNat _).toNat <<< 8 ||| (UInt8.ofNat _).toNat <<< 16 |||
    (UInt8.ofNat _).toNat <<< 24 = value
  simp only [toNat_ofNat_byte, Nat.shiftRight_eq_div_pow]
  have low := or_shift (byte value) (value / 2 ^ 8 % 256)
  have middle := @or_shift (value % 256 + value / 2 ^ 8 % 256 * 2 ^ 8) 16 (by omega)
    (value / 2 ^ 16 % 256)
  rw [low, middle, or_shift (by omega)]
  omega

lemma readLe64_writeLe64 (lt : value < 2 ^ 64) (after) :
    readLe64 (writeLe64 value ++ after) 0 = value := by
  have mask : value &&& 0xFFFFFFFF = value % 2 ^ 32 := Nat.and_two_pow_sub_one_eq_mod value 32
  have low : value % 2 ^ 32 < 2 ^ 32 := Nat.mod_lt _ (by decide)
  unfold readLe64 writeLe64
  have high : readLe32
    (writeLe32 (value &&& 0xFFFFFFFF) ++ writeLe32 (value >>> 32) ++ after) (0 + 4) =
      value >>> 32 := by
    refine (readLe32_append (writeLe32 (value &&& 0xFFFFFFFF)) _ 0).trans
      (readLe32_writeLe32 ?_ after)
    omega
  rw [high, List.append_assoc, mask, readLe32_writeLe32 low, or_shift low,
    Nat.shiftRight_eq_div_pow]
  omega

end LittleEndian
