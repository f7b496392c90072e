import DuetOS.Ring.Sections

/-!
# Transitions keep the representation

Every transition of the ring leads to a ring that stands for a queue again. Publishing pushes the
staged frame and committing pops the front record; all others keep the queue.
-/

namespace DuetOS.Ring

open Word Message Circular List

lemma next_ne_zero (pos : counter ≠ 0) :
    (if counter = max64 then counter else counter + 1) ≠ 0 := by
  split
  · exact pos
  · exact Nat.succ_ne_zero _

lemma exhausted_le (le : flag ≤ 1) : (if counter = max64 then 1 else flag) ≤ 1 := by
  split
  · exact Nat.le_refl 1
  · exact le

lemma Stored.outside {storage cap head tail used queued items}
    (stored : Stored storage cap head tail used queued items) {i} (lt : used + i < cap) :
    Outside cap head (content items).length ((tail + i) % cap) := by
  refine ⟨used + i, ?_, lt, ?_⟩
  · rw [stored.used_eq]
    exact Nat.le_add_right ..
  · rw [stored.tail_eq, Nat.mod_add_mod, Nat.add_assoc]

/-- Writing the header in front of a staged frame completes the next record. -/
lemma Stored.publish {storage cap head tail used queued items sequence frame}
    (stored : Stored storage cap head tail used queued items)
    (recordOk : RecordOk (sequence, frame))
    (room : kMessageRingRecordHeaderBytes + frame.length ≤ cap - used)
    (holds : Holds storage cap (tail + kMessageRingRecordHeaderBytes) frame) :
    Stored (blit storage (writes cap tail (recordHeader sequence frame.length))) cap head
      ((tail + (kMessageRingRecordHeaderBytes + frame.length)) % cap)
      (used + (kMessageRingRecordHeaderBytes + frame.length)) (queued + 1)
      (items ++ [(sequence, frame)]) := by
  have fits := stored.fits
  have used_eq := stored.used_eq
  have behind : tail = (head + (content items).length) % cap := used_eq ▸ stored.tail_eq
  refine ⟨stored.large, stored.small, stored.head_lt, ?_, ?_, by omega, ?_, ?_, ?_⟩
  · rw [stored.tail_eq, Nat.mod_add_mod, Nat.add_assoc]
  · rw [content_concat, length_append, length_recordBytes, used_eq]
  · rw [stored.count, length_append, length_singleton]
  · intro record mem
    rcases mem_append.mp mem with old | new
    · exact stored.records record old
    · rw [mem_singleton.mp new]
      exact recordOk
  · rw [content_concat, recordBytes, ← append_assoc, holds_append, length_append,
      length_recordHeader]
    constructor
    · rw [behind, writes_mod]
      refine stored.holds.append_blit ?_
      rw [length_recordHeader]
      omega
    · -- the header lies in front of the frame, a whole turn away from behind it
      rw [behind, holds_mod_add, Nat.add_assoc] at holds
      refine holds.blit fun write mem => ?_
      obtain ⟨i, lt, cell⟩ := mem_writes mem
      rw [length_recordHeader] at lt
      refine ⟨cap - kMessageRingRecordHeaderBytes + i, by omega, by omega, ?_⟩
      have turn : head + ((content items).length + kMessageRingRecordHeaderBytes) +
          (cap - kMessageRingRecordHeaderBytes + i) = head + (content items).length + i + cap := by
        omega
      rw [cell, behind, Nat.mod_add_mod, turn, Nat.add_mod_right]

variable (ok : RingOk given ring queue)

include ok

lemma RingOk.reserved (frameOk : FrameOk frameBytes)
    (room : kMessageRingRecordHeaderBytes + frameBytes ≤ ring.capacityBytes - ring.usedBytes) :
    RingOk given (ring.reserved frameBytes) queue :=
  { ok with
    stages := .inr ⟨ok.counts.reservation_pos, rfl, rfl, frameOk, room, .inl rfl⟩
    counts := { ok.counts with reservation_pos := next_ne_zero ok.counts.reservation_pos } }

lemma RingOk.clearProducer : RingOk given (clearProducer ring) queue :=
  { ok with stages := .inl ⟨rfl, rfl, rfl, rfl, rfl⟩ }

lemma RingOk.clearReceiver : RingOk given (clearReceiver ring) queue :=
  { ok with leases := .inl ⟨rfl, rfl, rfl, rfl, rfl⟩ }

lemma RingOk.abortRequested (active : ring.producerCopyActive ≠ 0) :
    RingOk given { ring with producerAbortRequested := 1 } queue :=
  { ok with
    stages := by
      rcases ok.stages with ⟨_, _, _, zero, _⟩ | ⟨pos, tail, record, size, room, one | ⟨zero, _⟩⟩
      · exact absurd zero active
      · exact .inr ⟨pos, tail, record, size, room, .inl one⟩
      · exact absurd zero active }

/-- The producer's copy is done and its frame area spells the frame. -/
lemma RingOk.finished (active : ring.producerCopyActive = 1)
    (aborted : ring.producerAbortRequested = 0) (own : given ring.producerReservationId frame)
    (size : ring.producerFrameSize = frame.length)
    (holds : Holds ring.storage ring.capacityBytes
      (ring.tailOffset + kMessageRingRecordHeaderBytes) frame) :
    RingOk given { ring with producerCopyActive := 0 } queue :=
  { ok with
    stages := by
      rcases ok.stages with ⟨_, _, _, zero, _⟩ | ⟨pos, tail, record, frameOk, room, _⟩
      · exact absurd (active.symm.trans zero) (by decide)
      · exact .inr ⟨pos, tail, record, frameOk, room,
          .inr ⟨rfl, aborted, frame, own, size, holds⟩⟩ }

lemma RingOk.write {i byte} (active : ring.producerCopyActive = 1)
    (lt : ring.usedBytes + i < ring.capacityBytes) :
    RingOk given { ring with
      storage := Function.update ring.storage ((ring.tailOffset + i) % ring.capacityBytes) byte }
      queue :=
  { ok with
    stores := { ok.stores with holds := ok.stores.holds.update (ok.stores.outside lt) }
    stages := by
      rcases ok.stages with ⟨_, _, _, zero, _⟩ | ⟨pos, tail, record, frameOk, room, _⟩
      · exact absurd (active.symm.trans zero) (by decide)
      · exact .inr ⟨pos, tail, record, frameOk, room, .inl active⟩ }

lemma RingOk.leased {sequence} (items : queue.items = (sequence, frame) :: rest) :
    RingOk given (ring.leased sequence frame.length) queue :=
  { ok with
    leases := .inr ⟨frame, rest, items, ok.counts.lease_pos, rfl, .inl rfl⟩
    counts := { ok.counts with
      lease_pos := next_ne_zero ok.counts.lease_pos,
      lease_flag := exhausted_le ok.counts.lease_flag } }

section Held

variable {sequence : Nat}

lemma LeaseHeld.lease_pos (held : LeaseHeld ring queue.items sequence lease frame rest) :
    ring.receiveLeaseId ≠ 0 := by
  have record := ok.stores.records _ (held.items_eq ▸ mem_cons_self)
  rcases ok.leases with ⟨none, _⟩ | ⟨_, _, _, pos, _⟩
  · exact absurd (held.sequence_eq.symm.trans none) (Nat.ne_of_gt record.1)
  · exact pos

lemma RingOk.copying (held : LeaseHeld ring queue.items sequence lease frame rest) :
    RingOk given ring.copying queue :=
  { ok with
    leases := by
      have pos := held.lease_pos ok
      exact .inr ⟨frame, rest, held.sequence_eq.symm ▸ held.items_eq, pos, held.size_eq, .inr rfl⟩
    counts := { ok.counts with
      copy_pos := next_ne_zero ok.counts.copy_pos, copy_flag := exhausted_le ok.counts.copy_flag } }

lemma RingOk.copied {succeededId} (held : LeaseHeld ring queue.items sequence lease frame rest) :
    RingOk given (ring.copied succeededId) queue :=
  { ok with
    leases := by
      have pos := held.lease_pos ok
      exact .inr ⟨frame, rest, held.sequence_eq.symm ▸ held.items_eq, pos, held.size_eq, .inl rfl⟩ }

omit ok in
lemma RingOk.retired {next} (ok : RingOk given ring ⟨(sequence, frame) :: rest, next⟩) :
    RingOk given (ring.retired (kMessageRingRecordHeaderBytes + frame.length)) ⟨rest, next⟩ where
  ready := ok.ready
  stores := by
    have stored : ring.Stores ((sequence, frame) :: rest) := ok.stores
    have ge := (stored.used_ge _ (.head _)).1
    have fits := stored.fits
    have count := stored.count
    have used := stored.used_eq
    rw [content_cons, length_append, length_recordBytes] at used
    rw [length_cons] at count
    dsimp only at ge used
    refine ⟨stored.large, stored.small, ?_, ?_, ?_, ?_, ?_, ?_, ?_⟩
    · exact Nat.mod_lt _ (Nat.lt_of_le_of_lt (Nat.zero_le _) stored.head_lt)
    · show ring.tailOffset =
        ((ring.headOffset + (kMessageRingRecordHeaderBytes + frame.length)) % ring.capacityBytes +
          (ring.usedBytes - (kMessageRingRecordHeaderBytes + frame.length))) % ring.capacityBytes
      rw [stored.tail_eq, Nat.mod_add_mod, Nat.add_assoc, Nat.add_sub_cancel' ge]
    · show ring.usedBytes - (kMessageRingRecordHeaderBytes + frame.length) = (content rest).length
      omega
    · exact Nat.le_trans (Nat.sub_le ..) fits
    · show ring.queuedFrames - 1 = rest.length
      omega
    · exact fun record mem => stored.records record (.tail _ mem)
    · exact holds_mod.mpr stored.front.2.2
  leases := .inl ⟨rfl, rfl, rfl, rfl, rfl⟩
  stages := by
    rcases ok.stages with zero | ⟨pos, tail, record, frameOk, room, copy⟩
    · exact .inl zero
    · refine .inr ⟨pos, tail, record, frameOk, Nat.le_trans room ?_, copy⟩
      exact Nat.sub_le_sub_left (Nat.sub_le ..) _
  counts := ok.counts
  numbers := ok.numbers

end Held

lemma RingOk.staged_frame (reserved : ring.producerReservationId ≠ 0)
    (inactive : ring.producerCopyActive = 0) :
    ∃ frame, given ring.producerReservationId frame ∧ ring.producerFrameSize = frame.length ∧
      ring.producerTailOffset = ring.tailOffset ∧ FrameOk frame.length ∧
      ring.producerRecordBytes = kMessageRingRecordHeaderBytes + frame.length ∧
      kMessageRingRecordHeaderBytes + frame.length ≤ ring.capacityBytes - ring.usedBytes ∧
      Holds ring.storage ring.capacityBytes (ring.tailOffset + kMessageRingRecordHeaderBytes)
        frame := by
  rcases ok.stages with ⟨zero, _⟩ | ⟨_, tail, record, frameOk, room,
    active | ⟨_, _, frame, own, size, holds⟩⟩
  · exact absurd zero reserved
  · exact absurd (active.symm.trans inactive) (by decide)
  · rw [size] at record frameOk
    exact ⟨frame, own, size, tail, frameOk, record, record ▸ room, holds⟩

lemma RingOk.stagedBytes_eq
    (tail : ring.producerTailOffset = ring.tailOffset)
    (size : ring.producerFrameSize = frame.length)
    (holds : Holds ring.storage ring.capacityBytes
      (ring.tailOffset + kMessageRingRecordHeaderBytes) frame) : stagedBytes ring = frame := by
  have tail_lt := ok.stores.tail_lt
  unfold stagedBytes
  rw [tail, size, advanceOffset_eq tail_lt ok.stores.small (header_le_capacity ok)]
  exact copyFromStorage_eq (Nat.mod_lt _ (Nat.lt_of_le_of_lt (Nat.zero_le _) tail_lt))
    ok.stores.small (holds_mod.mpr holds)

lemma RingOk.published (own : ring.producerReservationId = reservationId)
    (reserved : reservationId ≠ 0)
    (inactive : ring.producerCopyActive = 0) (numbered : ring.sequenceExhausted = 0) :
    ∃ queue', given reservationId (stagedBytes ring) ∧
      Fifo.Step max64 queue (.push ring.nextSequence (stagedBytes ring)) queue' ∧
      RingOk given ring.published queue' := by
  obtain ⟨frame, source, size, tail, frameOk, record, room, holds⟩ :=
    ok.staged_frame (own ▸ reserved) inactive
  have staged := ok.stagedBytes_eq tail size holds
  obtain ⟨items, next⟩ := queue
  rcases ok.numbers with ⟨_, next_eq, pos, le⟩ | ⟨exhausted, _⟩
  · subst next_eq
    rw [staged, ← own]
    refine ⟨_, source, .push, ok.ready, ?_, ?_, .inl ⟨rfl, rfl, rfl, rfl, rfl⟩, ok.counts, ?_⟩
    · have stored := ok.stores.publish ⟨pos, le, frameOk⟩ room holds
      rw [← record, ← size] at stored
      exact stored
    · rcases ok.leases with zero | ⟨front, rest, items_eq, held⟩
      · exact .inl zero
      · dsimp only at items_eq
        exact .inr ⟨front, rest ++ [(ring.nextSequence, frame)], by rw [items_eq]; rfl, held⟩
    · show Numbered (if ring.nextSequence = max64 then ring.nextSequence else ring.nextSequence + 1)
        (if ring.nextSequence = max64 then 1 else ring.sequenceExhausted) _
      split
      · exact .inr ⟨by decide, rfl⟩
      · refine .inl ⟨numbered, rfl, Nat.succ_pos _, ?_⟩
        omega
  · exact absurd numbered exhausted

end DuetOS.Ring
