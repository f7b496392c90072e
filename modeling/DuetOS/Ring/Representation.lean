import DuetOS.Lib.Fifo
import DuetOS.Ring.Layout
import DuetOS.Ring.Step

/-!
# What queue a ring stands for

`RingOk given ring queue`: the used bytes spell the queue's records from the head on, the tail is
where they end, a receive lease is on the record at the front, and a reservation lies in the free
bytes behind the tail. `given id frame` is what the producer of reservation `id` asked to enqueue.
`Rep` adds what the calls in progress know. Each part speaks about the fields it needs, so a section
that does not touch them keeps it.
-/

namespace DuetOS.Ring

open Word LittleEndian Message Circular Bag List

structure Stored (storage : Nat → UInt8) (cap head tail used queued : Nat)
    (items : List (Nat × Frame)) : Prop where
  large : kMessageRingMinimumStorageBytes ≤ cap
  small : cap ≤ max32
  head_lt : head < cap
  tail_eq : tail = (head + used) % cap
  used_eq : used = (content items).length
  fits : used ≤ cap
  count : queued = items.length
  records : ∀ record ∈ items, RecordOk record
  holds : Holds storage cap head (content items)

abbrev MessageRing.Stores (ring : MessageRing) (items : List (Nat × Frame)) : Prop :=
  Stored ring.storage ring.capacityBytes ring.headOffset ring.tailOffset ring.usedBytes
    ring.queuedFrames items

/-- A lease is on the record at the front of the queue. -/
def Leased (items : List (Nat × Frame)) (sequence lease size copyId succeededId : Nat) : Prop :=
  (sequence = 0 ∧ lease = 0 ∧ size = 0 ∧ copyId = 0 ∧ succeededId = 0) ∨
    ∃ frame rest, items = (sequence, frame) :: rest ∧ lease ≠ 0 ∧ size = frame.length ∧
      (copyId = 0 ∨ succeededId = 0)

abbrev MessageRing.Leases (ring : MessageRing) (items : List (Nat × Frame)) : Prop :=
  Leased items ring.receiveSequence ring.receiveLeaseId ring.receiveFrameSize ring.receiveCopyId
    ring.receiveCopySucceededId

/-- A reservation lies behind the tail, and once its copy is done its frame area spells the
frame. -/
def Staged (given : Nat → Frame → Prop) (storage : Nat → UInt8)
    (cap tail used reservationId producerTail recordBytes size active aborted : Nat) : Prop :=
  (reservationId = 0 ∧ recordBytes = 0 ∧ size = 0 ∧ active = 0 ∧ aborted = 0) ∨
    (reservationId ≠ 0 ∧ producerTail = tail ∧ recordBytes = kMessageRingRecordHeaderBytes + size ∧
      FrameOk size ∧ recordBytes ≤ cap - used ∧
      (active = 1 ∨ active = 0 ∧ aborted = 0 ∧ ∃ frame, given reservationId frame ∧
        size = frame.length ∧ Holds storage cap (tail + kMessageRingRecordHeaderBytes) frame))

abbrev MessageRing.Stages (given : Nat → Frame → Prop) (ring : MessageRing) : Prop :=
  Staged given ring.storage ring.capacityBytes ring.tailOffset ring.usedBytes
    ring.producerReservationId ring.producerTailOffset ring.producerRecordBytes
      ring.producerFrameSize
    ring.producerCopyActive ring.producerAbortRequested

/-- The identity counters start at one and stop at the largest value. -/
structure Counted (reservation lease leaseExhausted copy copyExhausted : Nat) : Prop where
  reservation_pos : reservation ≠ 0
  lease_pos : lease ≠ 0
  lease_flag : leaseExhausted ≤ 1
  copy_pos : copy ≠ 0
  copy_flag : copyExhausted ≤ 1

abbrev MessageRing.Counts (ring : MessageRing) : Prop :=
  Counted ring.nextReservationId ring.nextReceiveLeaseId ring.receiveLeaseExhausted ring.nextCopyId
    ring.copyIdExhausted

/-- The next sequence number, while there is one. -/
def Numbered (sequence exhausted : Nat) (next : Option Nat) : Prop :=
  (exhausted = 0 ∧ next = some sequence ∧ 0 < sequence ∧ sequence ≤ max64) ∨
    (exhausted ≠ 0 ∧ next = none)

structure RingOk (given : Nat → Frame → Prop) (ring : MessageRing) (queue : Fifo.Queue Frame) :
    Prop where
  ready : ring.initialized = kRingStateReady
  stores : ring.Stores queue.items
  leases : ring.Leases queue.items
  stages : ring.Stages given
  counts : ring.Counts
  numbers : Numbered ring.nextSequence ring.sequenceExhausted queue.next

lemma Stored.tail_lt {storage cap head tail used queued items}
    (stored : Stored storage cap head tail used queued items) : tail < cap := by
  rw [stored.tail_eq]
  exact Nat.mod_lt _ (Nat.lt_of_le_of_lt (Nat.zero_le _) stored.head_lt)

lemma Stored.used_ge {storage cap head tail used queued items}
    (stored : Stored storage cap head tail used queued items) (record : Nat × Frame)
    (mem : record ∈ items) :
    kMessageRingRecordHeaderBytes + record.2.length ≤ used ∧
      kMessageRingMinimumStorageBytes ≤ used := by
  have frame := (stored.records record mem).2.2.1
  obtain ⟨before, after, rfl⟩ := append_of_mem mem
  have length : used =
    (content before).length + ((kMessageRingRecordHeaderBytes + record.2.length) +
      (content after).length) := by
    rw [stored.used_eq, ← length_recordBytes, ← length_append, ← content_cons, ← length_append]
    unfold content
    rw [flatMap_append]
  unfold kMessageRingMinimumStorageBytes
  omega

lemma Stored.used_zero_iff {storage cap head tail used queued items}
    (stored : Stored storage cap head tail used queued items) : queued = 0 ↔ used = 0 := by
  rw [stored.count]
  cases items with
  | nil => exact ⟨fun _ => stored.used_eq, fun _ => rfl⟩
  | cons record rest =>
    have ge := (stored.used_ge record (.head _)).2
    refine ⟨nofun, fun zero => ?_⟩
    rw [zero] at ge
    cases ge

lemma Stored.queued_le {storage cap head tail used queued items}
    (stored : Stored storage cap head tail used queued items) : queued ≤ used := by
  have le : ∀ items : List (Nat × Frame), items.length ≤ (content items).length := by
    intro items
    induction items with
    | nil => exact Nat.le_refl 0
    | cons record rest ih =>
      rw [content_cons, length_append, length_recordBytes, length_cons]
      unfold kMessageRingRecordHeaderBytes
      omega
  rw [stored.count, stored.used_eq]
  exact le items

lemma RingOk.valid (ok : RingOk given ring queue) : stateIsValid ring := by
  refine decide_eq_true ⟨ok.stores.large, ok.stores.head_lt, ok.stores.tail_lt, ok.stores.fits,
    ok.stores.used_zero_iff, fun nonempty => ?_, ?_, ?_, ok.counts.lease_pos, ok.counts.copy_pos,
    ok.counts.lease_flag, ok.counts.copy_flag, ?_⟩
  · rw [ok.stores.count] at nonempty
    obtain ⟨record, mem⟩ := exists_mem_of_ne_nil queue.items fun nil => nonempty (by rw [nil]; rfl)
    exact (ok.stores.used_ge record mem).2
  · rcases ok.leases with ⟨zero, rest⟩ | ⟨frame, rest, items, lease, size, _⟩
    · rw [if_pos zero]
      exact rest
    · have record := ok.stores.records _ (items ▸ mem_cons_self)
      rw [if_neg (Nat.ne_of_gt record.1), ok.stores.count, items, size]
      exact ⟨Nat.succ_ne_zero _, lease, record.2.2.1⟩
  · rcases ok.leases with ⟨_, _, _, zero, _⟩ | ⟨_, _, _, _, _, zero | zero⟩
    · exact fun both => both.1 zero
    · exact fun both => both.1 zero
    · exact fun both => both.2 zero
  · rcases ok.stages with ⟨zero, rest⟩ | ⟨pos, tail, record, size, room, _⟩
    · rw [if_pos zero]
      exact rest
    · have bound := size.2
      unfold kMessageAbiMaxBytes at bound
      have header : kMessageRingRecordHeaderBytes = 16 := rfl
      rw [if_neg pos, add32_eq (by unfold max32; omega)]
      exact ⟨tail, record, size.1, room⟩

lemma Stored.front {storage cap head tail used queued sequence frame rest}
    (stored : Stored storage cap head tail used queued ((sequence, frame) :: rest)) :
    Holds storage cap head (recordHeader sequence frame.length) ∧
      Holds storage cap (head + kMessageRingRecordHeaderBytes) frame ∧
      Holds storage cap (head + (kMessageRingRecordHeaderBytes + frame.length)) (content rest) := by
  have holds := stored.holds
  rw [content_cons, holds_append, length_recordBytes, recordBytes, holds_append,
    length_recordHeader] at holds
  exact ⟨holds.1.1, holds.1.2, holds.2⟩

lemma RingOk.readHeadRecord_eq {sequence} (ok : RingOk given ring queue)
    (items : queue.items = (sequence, frame) :: rest) :
    readHeadRecord ring =
      some ⟨sequence, frame.length, kMessageRingRecordHeaderBytes + frame.length⟩ := by
  have stored : ring.Stores ((sequence, frame) :: rest) := items ▸ ok.stores
  have record := stored.records _ (.head _)
  have ge := stored.used_ge _ (.head _)
  have header := copyFromStorage_eq stored.head_lt stored.small stored.front.1
  have fields := read_recordHeader record.2.1 record.2.2
  have bound := record.2.2.2
  have count := stored.count
  rw [length_cons] at count
  unfold readHeadRecord
  rw [length_recordHeader] at header
  rw [if_neg (by omega), header]
  dsimp only
  rw [fields.1, fields.2.1, fields.2.2, if_neg, add32_eq, if_neg]
  · have fits := stored.fits
    omega
  · unfold kMessageAbiMaxBytes at bound
    unfold kMessageRingRecordHeaderBytes max32
    omega
  · rintro (zero | nonzero | small | large)
    · exact Nat.ne_of_gt record.1 zero
    · exact nonzero rfl
    · exact Nat.not_lt.mpr record.2.2.1 small
    · exact Nat.not_lt.mpr bound large

end DuetOS.Ring
