import DuetOS.Ring.MessageRing

/-!
# Where the bytes are

Offsets modulo the capacity: `advanceOffset` adds, the copy loops visit consecutive cells
(`copyOffsets_eq`), and the two spans of a copy-out are the cells of the frame. `content` is the
byte string of a queue, and reading the record at its front gives back its sequence number and
frame.
-/

namespace DuetOS.Ring

open Word LittleEndian Message Circular List

lemma advanceOffset_eq (lt : offset < cap) (small : cap ≤ max32) (le : bytes ≤ cap) :
    advanceOffset offset bytes cap = (offset + bytes) % cap := by
  unfold advanceOffset
  rw [sub32_eq (Nat.le_of_lt lt) small]
  dsimp only
  split
  · rw [add32_eq (by omega), Nat.mod_eq_of_lt (by omega)]
  split
  · have full : offset + bytes = cap := by omega
    rw [full, Nat.mod_self]
  · rw [sub32_eq (by omega) (by omega), Nat.mod_eq_sub_mod (by omega), Nat.mod_eq_of_lt (by omega)]
    omega

lemma copyOffsets_eq (small : cap ≤ max32) (lt : offset < cap) (enough : remaining ≤ rounds) :
    copyOffsets cap rounds offset remaining = (range remaining).map fun i =>
      (offset + i) % cap := by
  induction rounds generalizing offset remaining with
  | zero =>
    obtain rfl := Nat.le_zero.mp enough
    rfl
  | succ rounds ih =>
    unfold copyOffsets
    split
    · rename_i done
      rw [done]
      rfl
    rw [sub32_eq (Nat.le_of_lt lt) small]
    dsimp only
    split
    · -- the rest of the bytes fits in front of the end of the storage
      rw [Nat.sub_self, if_pos rfl, ih lt (Nat.zero_le _)]
      rw [range_zero, map_nil, append_nil]
      refine map_congr_left fun i mem => ?_
      have := mem_range.mp mem
      exact (Nat.mod_eq_of_lt (by omega)).symm
    · rename_i wraps
      obtain ⟨rest, rfl⟩ := Nat.exists_eq_add_of_le (Nat.le_of_not_lt wraps)
      rw [Nat.add_sub_cancel_left]
      have tail : copyOffsets cap rounds (if rest = 0 then offset else 0) rest =
          (range rest).map fun i => i % cap := by
        split
        · rename_i done
          rw [ih lt (by omega), done]
          rfl
        · rw [ih (by omega) (by omega)]
          simp only [Nat.zero_add]
      rw [tail, range_add, map_append, map_map]
      congr 1
      · refine map_congr_left fun i mem => ?_
        have := mem_range.mp mem
        exact (Nat.mod_eq_of_lt (by omega)).symm
      · refine map_congr_left fun i _ => ?_
        have past : offset + (cap - offset + i) = cap + i := by omega
        rw [Function.comp_apply, past, Nat.add_mod_left]

lemma copyWrites_eq (lt : offset < cap) (small : cap ≤ max32) (source) :
    copyWrites cap offset source = writes cap offset source := by
  unfold copyWrites
  rw [copyOffsets_eq small lt (Nat.le_refl _)]
  rfl

lemma copyFromStorage_eq (lt : offset < ring.capacityBytes) (small : ring.capacityBytes ≤ max32)
    (holds : Holds ring.storage ring.capacityBytes offset word) :
    copyFromStorage ring offset word.length = word := by
  unfold copyFromStorage
  rw [copyOffsets_eq small lt (Nat.le_refl _)]
  exact holds.read

lemma cells_eq (lt : offset < cap) (small : cap ≤ max32) (le : size ≤ cap) :
    let first := if size < sub32 cap offset then size else sub32 cap offset
    MessageRingCopySpans.cells
      ⟨offset, first, if size - first = 0 then none else some 0, size - first, copyId⟩ =
      (range size).map fun i => (offset + i) % cap := by
  rw [sub32_eq (Nat.le_of_lt lt) small]
  unfold MessageRingCopySpans.cells
  dsimp only
  split
  · rw [Nat.sub_self, range_zero, map_nil, append_nil]
    refine map_congr_left fun i mem => ?_
    have := mem_range.mp mem
    exact (Nat.mod_eq_of_lt (by omega)).symm
  rename_i wraps
  obtain ⟨rest, rfl⟩ := Nat.exists_eq_add_of_le (Nat.le_of_not_lt wraps)
  rw [Nat.add_sub_cancel_left, range_add, map_append, map_map]
  congr 1
  · refine map_congr_left fun i mem => ?_
    have := mem_range.mp mem
    exact (Nat.mod_eq_of_lt (by omega)).symm
  · refine map_congr_left fun i mem => ?_
    have := mem_range.mp mem
    have past : offset + (cap - offset + i) = cap + i := by omega
    rw [Function.comp_apply, past, Nat.add_mod_left, Nat.mod_eq_of_lt (by omega)]
    split <;> exact Nat.zero_add i

def recordBytes (record : Nat × Frame) : List UInt8 :=
  recordHeader record.1 record.2.length ++ record.2

/-- The bytes of a queue of records. -/
def content (items : List (Nat × Frame)) : List UInt8 := items.flatMap recordBytes

@[simp] lemma length_recordHeader (sequence frameSize) :
    (recordHeader sequence frameSize).length = kMessageRingRecordHeaderBytes := rfl

@[simp] lemma length_recordBytes (record) :
    (recordBytes record).length = kMessageRingRecordHeaderBytes + record.2.length := by
  rw [recordBytes, length_append, length_recordHeader]

lemma content_cons (record items) :
    content (record :: items) = recordBytes record ++ content items := flatMap_cons

lemma content_concat (items record) :
    content (items ++ [record]) = content items ++ recordBytes record := by
  unfold content
  rw [flatMap_append, flatMap_cons, flatMap_nil, append_nil]

def FrameOk (frameSize : Nat) : Prop :=
  kMessageAbiHeaderV1Bytes ≤ frameSize ∧ frameSize ≤ kMessageAbiMaxBytes

def RecordOk (record : Nat × Frame) : Prop :=
  0 < record.1 ∧ record.1 ≤ max64 ∧ FrameOk record.2.length

lemma read_recordHeader {sequence} (le : sequence ≤ max64) (ok : FrameOk frameSize) :
    readLe64 (recordHeader sequence frameSize) kRecordSequenceOffset = sequence ∧
      readLe32 (recordHeader sequence frameSize) kRecordFrameSizeOffset = frameSize ∧
      readLe32 (recordHeader sequence frameSize) kRecordReservedOffset = 0 := by
  have size := ok.2
  unfold max64 kMessageAbiMaxBytes at *
  refine ⟨?_, ?_, ?_⟩
  · exact readLe64_writeLe64 (by omega) _
  · exact (readLe32_append (writeLe64 sequence) _ 0).trans
      (readLe32_writeLe32 (by omega) (writeLe32 0))
  · refine (readLe32_append (writeLe64 sequence ++ writeLe32 frameSize) _ 0).trans ?_
    exact readLe32_writeLe32 (by omega) []

end DuetOS.Ring
