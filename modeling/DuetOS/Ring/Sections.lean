import DuetOS.Ring.Representation

/-!
# The sections on a ring that stands for a queue

What each section returns and leaves behind, once `StateIsValid` and `ReadHeadRecord` are known to
succeed: a short decision list over the state of the queue, with the new ring written as a named
transition. No branch is left that reports `corruptState`.
-/

namespace DuetOS.Ring

open Word Message Circular List

section

variable (ring : MessageRing)

/-- A reservation of `frameBytes` bytes behind the tail. -/
def MessageRing.reserved (frameBytes : Nat) : MessageRing :=
  { ring with
    reservationExhausted := if ring.nextReservationId = max64 then 1 else ring.reservationExhausted
    nextReservationId :=
      if ring.nextReservationId = max64 then ring.nextReservationId else ring.nextReservationId + 1
    producerReservationId := ring.nextReservationId
    producerTailOffset := ring.tailOffset
    producerRecordBytes := kMessageRingRecordHeaderBytes + frameBytes
    producerFrameSize := frameBytes
    producerCopyActive := 1
    producerAbortRequested := 0 }

/-- The reserved record becomes the last one of the queue. -/
def MessageRing.published : MessageRing :=
  clearProducer { ring with
    storage := blit ring.storage (writes ring.capacityBytes ring.tailOffset
      (recordHeader ring.nextSequence ring.producerFrameSize))
    tailOffset := (ring.tailOffset + ring.producerRecordBytes) % ring.capacityBytes
    usedBytes := ring.usedBytes + ring.producerRecordBytes
    queuedFrames := ring.queuedFrames + 1
    sequenceExhausted := if ring.nextSequence = max64 then 1 else ring.sequenceExhausted
    nextSequence := if ring.nextSequence = max64 then ring.nextSequence else ring.nextSequence + 1 }

/-- A fresh lease on the record at the front. -/
def MessageRing.leased (sequence frameSize : Nat) : MessageRing :=
  { ring with
    receiveLeaseExhausted :=
      if ring.nextReceiveLeaseId = max64 then 1 else ring.receiveLeaseExhausted
    nextReceiveLeaseId :=
      if ring.nextReceiveLeaseId = max64 then ring.nextReceiveLeaseId
      else ring.nextReceiveLeaseId + 1
    receiveSequence := sequence
    receiveLeaseId := ring.nextReceiveLeaseId
    receiveFrameSize := frameSize
    receiveCopyId := 0
    receiveCopySucceededId := 0 }

def MessageRing.copying : MessageRing :=
  { ring with
    copyIdExhausted := if ring.nextCopyId = max64 then 1 else ring.copyIdExhausted,
    nextCopyId := if ring.nextCopyId = max64 then ring.nextCopyId else ring.nextCopyId + 1,
    receiveCopyId := ring.nextCopyId, receiveCopySucceededId := 0 }

def MessageRing.copied (succeededId : Nat) : MessageRing :=
  { ring with receiveCopyId := 0, receiveCopySucceededId := succeededId }

/-- The record at the front, of this size, leaves the queue. -/
def MessageRing.retired (recordSize : Nat) : MessageRing :=
  clearReceiver { ring with
    headOffset := (ring.headOffset + recordSize) % ring.capacityBytes,
    usedBytes := ring.usedBytes - recordSize,
    queuedFrames := ring.queuedFrames - 1 }

/-- The cells of a frame behind the header at `offset`. -/
def frameCells (cap offset size : Nat) : List Nat :=
  (range size).map fun i => (offset + kMessageRingRecordHeaderBytes + i) % cap

def MessageRing.frontSpans (size : Nat) : MessageRingCopySpans :=
  let offset := (ring.headOffset + kMessageRingRecordHeaderBytes) % ring.capacityBytes
  let first := if size < sub32 ring.capacityBytes offset then size
    else sub32 ring.capacityBytes offset
  ⟨offset, first, if size - first = 0 then none else some 0, size - first, ring.nextCopyId⟩

end

lemma frameOk_of_check {count}
    (check : messageRingPrepareCheck ring frame rules count = .ok ()) : FrameOk frame.length := by
  unfold messageRingPrepareCheck at check
  split at check
  · cases check
  split at check
  · cases check
  split at check
  · cases check
  split at check
  · cases check
  · rename_i view valid
    exact length_of_messageValidate valid

lemma receive_refused {sequence} (refused : receiveCheck ring sequence lease ≠ .ok) :
    messageRingBeginCopyOut ring sequence lease =
      (.error (receiveCheck ring sequence lease), ring) ∧
      messageRingCommit ring sequence lease = (receiveCheck ring sequence lease, ring) ∧
      messageRingCancelReceive ring sequence lease = (receiveCheck ring sequence lease, ring) ∧
      ∀ copyId succeeded, messageRingEndCopyOut ring sequence lease copyId succeeded =
        (if copyId = 0 then .invalidArgument else receiveCheck ring sequence lease, ring) := by
  unfold messageRingBeginCopyOut messageRingCommit messageRingCancelReceive messageRingEndCopyOut
  generalize receiveCheck _ _ _ = status at refused
  cases status with
  | ok => exact absurd rfl refused
  | _ => exact ⟨rfl, rfl, rfl, fun copyId _ => by dsimp only; split <;> rfl⟩

variable (ok : RingOk given ring queue)

include ok

lemma header_le_capacity : kMessageRingRecordHeaderBytes ≤ ring.capacityBytes :=
  Nat.le_trans (Nat.le_add_right ..) ok.stores.large

/-- A frame that passes the checks before the lock is refused for a reason of the ring or gets a
reservation. -/
lemma RingOk.reserve_eq (frameOk : FrameOk frameBytes) : messageRingPrepareReserve ring frameBytes =
      if ring.producerReservationId ≠ 0 then (.error .busy, ring)
      else if ring.reservationExhausted ≠ 0 then (.error .reservationExhausted, ring)
      else if ring.sequenceExhausted ≠ 0 then (.error .sequenceExhausted, ring)
      else if ring.capacityBytes - ring.usedBytes < kMessageRingRecordHeaderBytes + frameBytes
        then (.error .full, ring)
      else (.ok (ring.nextReservationId,
        (ring.tailOffset + kMessageRingRecordHeaderBytes) % ring.capacityBytes),
          ring.reserved frameBytes) := by
  have size : add32 kMessageRingRecordHeaderBytes frameBytes =
    kMessageRingRecordHeaderBytes + frameBytes := by
    have bound := frameOk.2
    unfold kMessageAbiMaxBytes at bound
    refine add32_eq ?_
    unfold kMessageRingRecordHeaderBytes max32
    omega
  unfold messageRingPrepareReserve
  rw [if_neg (not_not.mpr ok.valid), size,
    advanceOffset_eq ok.stores.tail_lt ok.stores.small (header_le_capacity ok)]
  rfl

lemma RingOk.finish_eq (own : ring.producerReservationId = reservationId)
    (active : ring.producerCopyActive = 1) :
    messageRingPrepareFinish ring reservationId =
      if ring.producerAbortRequested ≠ 0 then (.producerAborted, clearProducer ring)
      else (.ok, { ring with producerCopyActive := 0 }) := by
  unfold messageRingPrepareFinish
  rw [if_neg]
  rintro (invalid | other | inactive)
  · exact invalid ok.valid
  · exact other own
  · exact absurd active (by rw [inactive]; decide)

lemma RingOk.publish_eq : messageRingPublishEnqueue ring reservationId =
      if reservationId = 0 then (.error .invalidArgument, ring)
      else if ring.producerReservationId ≠ reservationId then (.error .staleReservation, ring)
      else if ring.producerCopyActive ≠ 0 then (.error .busy, ring)
      else if ring.sequenceExhausted ≠ 0 then (.error .sequenceExhausted, clearProducer ring)
      else (.ok ring.nextSequence, ring.published) := by
  unfold messageRingPublishEnqueue
  rw [if_neg (not_not.mpr ok.ready)]
  split
  · rfl
  rename_i nonzero
  rw [if_neg (not_not.mpr ok.valid)]
  split
  · rfl
  rename_i own
  split
  · rfl
  rename_i inactive
  rcases ok.stages with ⟨zero, _⟩ | ⟨_, tail, record, size, room, active | ⟨_, aborted, _⟩⟩
  · exact absurd (zero.symm.trans (not_not.mp own)) (Ne.symm nonzero)
  · exact absurd active (by rw [not_not.mp inactive]; decide)
  have tail_lt := ok.stores.tail_lt
  have small := ok.stores.small
  have queued := ok.stores.queued_le
  have pos : 0 < ring.producerRecordBytes := by
    rw [record]
    exact Nat.add_pos_left (by decide) _
  rw [if_neg (not_not.mpr aborted)]
  split
  · rfl
  unfold copyIntoStorage
  dsimp only
  rw [tail, copyWrites_eq tail_lt small, advanceOffset_eq tail_lt small (by omega),
    add32_eq (by omega), add32_eq (by omega)]
  rfl

lemma RingOk.abort_eq :
    messageRingAbortEnqueue ring reservationId = if reservationId = 0 then (.invalidArgument, ring)
      else if ring.producerReservationId ≠ reservationId then (.staleReservation, ring)
      else if ring.producerCopyActive ≠ 0 then (.ok, { ring with producerAbortRequested := 1 })
      else (.ok, clearProducer ring) := by
  unfold messageRingAbortEnqueue
  rw [if_neg (not_not.mpr ok.ready), if_neg (not_not.mpr ok.valid)]

lemma RingOk.peek_eq :
    messageRingPeek ring = if ring.receiveSequence ≠ 0 then (.error .busy, ring) else
        match queue.items with
        | [] => (.error .empty, ring)
        | (sequence, frame) :: _ =>
          if ring.receiveLeaseExhausted ≠ 0 then (.error .receiveLeaseExhausted, ring)
          else (.ok ⟨sequence, ring.nextReceiveLeaseId, frame.length⟩,
            ring.leased sequence frame.length) := by
  unfold messageRingPeek
  rw [if_neg (not_not.mpr ok.ready), if_neg (not_not.mpr ok.valid)]
  split
  · rfl
  have count := ok.stores.count
  cases items : queue.items with
  | nil =>
    rw [items, length_nil] at count
    rw [if_pos count]
  | cons record rest =>
    rw [items, length_cons] at count
    rw [if_neg (count ▸ Nat.succ_ne_zero _), ok.readHeadRecord_eq items]
    split <;> rfl

lemma RingOk.receiveCheck_eq {sequence} : receiveCheck ring sequence lease =
      if sequence = 0 ∨ lease = 0 then .invalidArgument
        else if ring.receiveSequence ≠ sequence then .staleSequence
      else if ring.receiveLeaseId ≠ lease then .staleReceiveLease else .ok := by
  unfold receiveCheck
  rw [if_neg (not_not.mpr ok.ready), if_neg (not_not.mpr ok.valid)]

/-- What a receive call holds when its checks pass: the lease on the front record. -/
structure LeaseHeld (ring : MessageRing) (items : List (Nat × Frame)) (sequence lease : Nat)
    (frame : Frame) (rest : List (Nat × Frame)) : Prop where
  items_eq : items = (sequence, frame) :: rest
  sequence_eq : ring.receiveSequence = sequence
  lease_eq : ring.receiveLeaseId = lease
  size_eq : ring.receiveFrameSize = frame.length

/-- The checks refuse, without blaming the ring, or the caller holds the lease. -/
lemma RingOk.receiveCheck_cases (sequence lease) :
    (receiveCheck ring sequence lease ≠ .ok ∧ receiveCheck ring sequence lease ≠ .corruptState) ∨
      (receiveCheck ring sequence lease = .ok ∧
        ∃ frame rest, LeaseHeld ring queue.items sequence lease frame rest) := by
  rw [ok.receiveCheck_eq]
  split_ifs with nonzero same own
  iterate 3 exact .inl ⟨nofun, nofun⟩
  refine .inr ⟨rfl, ?_⟩
  rcases ok.leases with ⟨zero, _⟩ | ⟨frame, rest, items, _, size, _⟩
  · exact absurd (.inl ((not_not.mp same).symm.trans zero)) nonzero
  · exact ⟨frame, rest, not_not.mp same ▸ items, not_not.mp same, not_not.mp own, size⟩

lemma LeaseHeld.check {sequence} (held : LeaseHeld ring queue.items sequence lease frame rest) :
    receiveCheck ring sequence lease = .ok := by
  have record := ok.stores.records _ (held.items_eq ▸ mem_cons_self)
  rw [ok.receiveCheck_eq, if_neg, if_neg (not_not.mpr held.sequence_eq),
    if_neg (not_not.mpr held.lease_eq)]
  rintro (zero | zero)
  · exact Nat.ne_of_gt record.1 zero
  · rcases ok.leases with ⟨none, _⟩ | ⟨_, _, _, pos, _⟩
    · exact Nat.ne_of_gt record.1 (held.sequence_eq.symm.trans none)
    · exact pos (held.lease_eq.trans zero)

section Held

variable {sequence : Nat} (held : LeaseHeld ring queue.items sequence lease frame rest)

include held

lemma LeaseHeld.fits :
    kMessageRingRecordHeaderBytes + frame.length ≤ ring.usedBytes ∧
      ring.usedBytes ≤ ring.capacityBytes :=
  ⟨(ok.stores.used_ge _ (held.items_eq ▸ mem_cons_self)).1, ok.stores.fits⟩

lemma LeaseHeld.cells :
    (ring.frontSpans frame.length).cells =
    frameCells ring.capacityBytes ring.headOffset frame.length := by
  have fits := held.fits ok
  refine (cells_eq (Nat.mod_lt _ ?_) ok.stores.small (by omega)).trans ?_
  · exact Nat.lt_of_le_of_lt (Nat.zero_le _) ok.stores.head_lt
  · unfold frameCells
    simp only [Nat.mod_add_mod]

lemma LeaseHeld.begin_eq : messageRingBeginCopyOut ring sequence lease =
      if ring.receiveCopyId ≠ 0 then (.error .busy, ring)
      else if ring.copyIdExhausted ≠ 0 then (.error .copyIdExhausted, ring)
      else (.ok (ring.frontSpans frame.length), ring.copying) := by
  unfold messageRingBeginCopyOut
  rw [held.check ok, ok.readHeadRecord_eq held.items_eq]
  dsimp only
  rw [if_neg (not_or.mpr ⟨not_not.mpr rfl, not_not.mpr held.size_eq.symm⟩),
    advanceOffset_eq ok.stores.head_lt ok.stores.small (header_le_capacity ok)]
  rfl

lemma LeaseHeld.end_eq : messageRingEndCopyOut ring sequence lease copyId succeeded =
      if copyId = 0 then (.invalidArgument, ring)
        else if ring.receiveCopyId = 0 then (.copyNotActive, ring)
      else if ring.receiveCopyId ≠ copyId then (.staleCopyAttempt, ring)
      else (.ok, ring.copied (if succeeded then copyId else 0)) := by
  unfold messageRingEndCopyOut
  rw [held.check ok]
  rfl

lemma LeaseHeld.commit_eq :
    messageRingCommit ring sequence lease = if ring.receiveCopyId ≠ 0 then (.busy, ring)
      else if ring.receiveCopySucceededId = 0 then (.copyRequired, ring)
      else (.ok, ring.retired (kMessageRingRecordHeaderBytes + frame.length)) := by
  have fits := held.fits ok
  have small := ok.stores.small
  have queued := ok.stores.queued_le
  have stored : ring.Stores ((sequence, frame) :: rest) := held.items_eq ▸ ok.stores
  have count := stored.count
  rw [length_cons] at count
  -- an empty queue puts the head where the tail is, and that is where the last record ends
  have snap : ring.queuedFrames - 1 = 0 → ring.tailOffset =
      (ring.headOffset + (kMessageRingRecordHeaderBytes + frame.length)) % ring.capacityBytes := by
    intro last
    obtain rfl : rest = [] := length_eq_zero_iff.mp (by omega)
    rw [stored.tail_eq, stored.used_eq, content_cons, length_append, length_recordBytes]
    rfl
  unfold messageRingCommit
  rw [held.check ok, ok.readHeadRecord_eq held.items_eq]
  dsimp only
  rw [if_neg (not_or.mpr ⟨not_not.mpr rfl, not_not.mpr held.size_eq.symm⟩),
    sub32_eq (by omega) (by omega), sub32_eq (by omega) (by omega),
    advanceOffset_eq ok.stores.head_lt small (by omega)]
  have head : (if ring.queuedFrames - 1 = 0 then ring.tailOffset
      else (ring.headOffset + (kMessageRingRecordHeaderBytes + frame.length)) %
        ring.capacityBytes) =
      (ring.headOffset + (kMessageRingRecordHeaderBytes + frame.length)) % ring.capacityBytes := by
    split
    · rename_i last
      exact snap last
    · rfl
  rw [head]
  rfl

lemma LeaseHeld.cancel_eq : messageRingCancelReceive ring sequence lease =
      if ring.receiveCopyId ≠ 0 then (.busy, ring) else (.ok, clearReceiver ring) := by
  unfold messageRingCancelReceive
  rw [held.check ok]

omit held in
lemma RingOk.headFrame_eq (items : queue.items = (sequence, frame) :: rest) :
    headFrame ring = frame := by
  have stored : ring.Stores ((sequence, frame) :: rest) := items ▸ ok.stores
  have pos : 0 < ring.capacityBytes := Nat.lt_of_le_of_lt (Nat.zero_le _) stored.head_lt
  unfold headFrame
  rw [ok.readHeadRecord_eq items,
    advanceOffset_eq stored.head_lt stored.small (header_le_capacity ok)]
  exact copyFromStorage_eq (Nat.mod_lt _ pos) stored.small (holds_mod.mpr stored.front.2.1)

end Held

end DuetOS.Ring
