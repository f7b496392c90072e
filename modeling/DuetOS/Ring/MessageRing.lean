import DuetOS.Lib.Circular
import DuetOS.Lib.Word
import DuetOS.Message.Payload

/-!
# The message ring

`message_ring.cpp` section by section. `Prepare` has two sections under the ring lock with an
unlocked byte copy between, `CopyOut` is `BeginCopyOut`, an unlocked copy and `EndCopyOut`, and
every other call has one. A section returns its result and the ring. Storage is a function from
offsets to bytes. Null, range and alias checks of pointer arguments come before the lock and are not
modelled.
-/

namespace DuetOS.Ring

open Word LittleEndian Message

def kMessageRingRecordHeaderBytes : Nat := 16
def kMessageRingMinimumStorageBytes :
    Nat := kMessageRingRecordHeaderBytes + kMessageAbiHeaderV1Bytes

def kRecordSequenceOffset : Nat := 0
def kRecordFrameSizeOffset : Nat := 8
def kRecordReservedOffset : Nat := 12

def kRingStateUninitialized : Nat := 0
def kRingStateReady : Nat := 2

inductive MessageRingStatus where
  | ok | invalidArgument | notInitialized | aliasedBuffer | malformedMessage
  | invalidPayloadContract
  | missingPayloadContract | malformedPayload | full | busy | empty | bufferTooSmall | copyRequired
  | copyNotActive | staleSequence | staleReservation | producerAborted | sequenceExhausted
  | reservationExhausted | corruptState | alreadyInitialized | staleReceiveLease | staleCopyAttempt
  | receiveLeaseExhausted | copyIdExhausted
  deriving DecidableEq

structure MessageRingEnqueueResult where
  status : MessageRingStatus
  (reservationId sequence : Nat)
  messageError : MessageValidationError
  payloadError : PayloadValidationError
  deriving DecidableEq

structure MessageRingPeekView where
  (sequence receiveLeaseId frameSize : Nat)
  deriving DecidableEq

/-- The storage cells a receiver may read: `first` and `second` are offsets into the storage. -/
structure MessageRingCopySpans where
  (first firstSize : Nat)
  second : Option Nat
  (secondSize copyId : Nat)
  deriving DecidableEq

/-- The cells of both spans, in the order `CopyBytes` reads them. -/
def MessageRingCopySpans.cells (spans : MessageRingCopySpans) : List Nat :=
  (List.range spans.firstSize).map (spans.first + ·) ++ (List.range spans.secondSize).map
    (spans.second.getD 0 + ·)

structure MessageRing where
  storage : Nat → UInt8
  (capacityBytes headOffset tailOffset usedBytes queuedFrames initialized nextSequence : Nat)
  (sequenceExhausted nextReservationId reservationExhausted producerReservationId : Nat)
  (producerTailOffset producerRecordBytes producerFrameSize producerCopyActive : Nat)
  (producerAbortRequested nextReceiveLeaseId receiveLeaseExhausted receiveSequence : Nat)
  (receiveLeaseId receiveFrameSize nextCopyId copyIdExhausted receiveCopyId : Nat)
  receiveCopySucceededId : Nat

def advanceOffset (offset bytes capacity : Nat) : Nat :=
  let remaining := sub32 capacity offset
  if bytes < remaining then add32 offset bytes
  else if bytes = remaining then 0
  else sub32 bytes remaining

/-- The storage cells `CopyIntoStorage` and `CopyFromStorage` visit, in order. The first number
bounds the rounds of the loop: every round copies at least one byte. -/
def copyOffsets (capacity : Nat) : Nat → Nat → Nat → List Nat
  | 0, _, _ => []
  | rounds + 1, offset, remaining =>
    if remaining = 0 then []
    else
      let contiguous := sub32 capacity offset
      let chunk := if remaining < contiguous then remaining else contiguous
      (List.range chunk).map (offset + ·) ++
        copyOffsets capacity rounds (if remaining - chunk = 0 then offset else 0)
          (remaining - chunk)

/-- The byte stores of `CopyIntoStorage`, in order. -/
def copyWrites (capacity offset : Nat) (source : List UInt8) : List (Nat × UInt8) :=
  (copyOffsets capacity source.length offset source.length).zip source

section

variable (ring : MessageRing)

def copyIntoStorage (offset : Nat) (source : List UInt8) : Nat → UInt8 :=
  Circular.blit ring.storage (copyWrites ring.capacityBytes offset source)

def copyFromStorage (offset bytes : Nat) : List UInt8 :=
  (copyOffsets ring.capacityBytes bytes offset bytes).map ring.storage

def stateIsValid : Bool :=
  kMessageRingMinimumStorageBytes ≤ ring.capacityBytes ∧
    ring.headOffset < ring.capacityBytes ∧ ring.tailOffset < ring.capacityBytes ∧
    ring.usedBytes ≤ ring.capacityBytes ∧
    (ring.queuedFrames = 0 ↔ ring.usedBytes = 0) ∧
    (ring.queuedFrames ≠ 0 → kMessageRingMinimumStorageBytes ≤ ring.usedBytes) ∧
    (if ring.receiveSequence = 0 then
      ring.receiveLeaseId = 0 ∧ ring.receiveFrameSize = 0 ∧ ring.receiveCopyId = 0 ∧
        ring.receiveCopySucceededId = 0
    else
      ring.queuedFrames ≠ 0 ∧ ring.receiveLeaseId ≠ 0 ∧
        kMessageAbiHeaderV1Bytes ≤ ring.receiveFrameSize) ∧
    ¬(ring.receiveCopyId ≠ 0 ∧ ring.receiveCopySucceededId ≠ 0) ∧
    ring.nextReceiveLeaseId ≠ 0 ∧ ring.nextCopyId ≠ 0 ∧ ring.receiveLeaseExhausted ≤ 1 ∧
    ring.copyIdExhausted ≤ 1 ∧
    if ring.producerReservationId = 0 then
      ring.producerRecordBytes = 0 ∧ ring.producerFrameSize = 0 ∧ ring.producerCopyActive = 0 ∧
        ring.producerAbortRequested = 0
    else
      ring.producerTailOffset = ring.tailOffset ∧
        ring.producerRecordBytes = add32 kMessageRingRecordHeaderBytes ring.producerFrameSize ∧
        kMessageAbiHeaderV1Bytes ≤ ring.producerFrameSize ∧
        ring.producerRecordBytes ≤ ring.capacityBytes - ring.usedBytes

def clearProducer : MessageRing :=
  { ring with
    producerReservationId := 0, producerTailOffset := 0, producerRecordBytes := 0,
    producerFrameSize := 0,
    producerCopyActive := 0, producerAbortRequested := 0 }

def clearReceiver : MessageRing :=
  { ring with
    receiveSequence := 0, receiveLeaseId := 0, receiveFrameSize := 0, receiveCopyId := 0,
    receiveCopySucceededId := 0 }

end

structure HeadRecord where
  (sequence frameSize recordSize : Nat)
  deriving DecidableEq

section

variable (ring : MessageRing) (reservationId : Nat) (sequence receiveLeaseId : Nat)

def readHeadRecord : Option HeadRecord :=
  if ring.queuedFrames = 0 ∨ ring.usedBytes < kMessageRingRecordHeaderBytes then none
  else
    let header := copyFromStorage ring ring.headOffset kMessageRingRecordHeaderBytes
    let sequence := readLe64 header kRecordSequenceOffset
    let frameSize := readLe32 header kRecordFrameSizeOffset
    let reserved := readLe32 header kRecordReservedOffset
    if sequence = 0 ∨ reserved ≠ 0 ∨ frameSize < kMessageAbiHeaderV1Bytes ∨
      frameSize > kMessageAbiMaxBytes then none
    else
      let recordSize := add32 kMessageRingRecordHeaderBytes frameSize
      if recordSize > ring.usedBytes ∨ recordSize > ring.capacityBytes then none
      else some ⟨sequence, frameSize, recordSize⟩

def enqueueFailure (status : MessageRingStatus) (messageError : MessageValidationError)
    (payloadError : PayloadValidationError) : MessageRingEnqueueResult :=
  ⟨status, 0, 0, messageError, payloadError⟩

def MessageRing.zero : MessageRing where
  storage := fun _ => 0
  capacityBytes := 0
  headOffset := 0
  tailOffset := 0
  usedBytes := 0
  queuedFrames := 0
  initialized := 0
  nextSequence := 0
  sequenceExhausted := 0
  nextReservationId := 0
  reservationExhausted := 0
  producerReservationId := 0
  producerTailOffset := 0
  producerRecordBytes := 0
  producerFrameSize := 0
  producerCopyActive := 0
  producerAbortRequested := 0
  nextReceiveLeaseId := 0
  receiveLeaseExhausted := 0
  receiveSequence := 0
  receiveLeaseId := 0
  receiveFrameSize := 0
  nextCopyId := 0
  copyIdExhausted := 0
  receiveCopyId := 0
  receiveCopySucceededId := 0

def messageRingInitialize (storage : Nat → UInt8) (storageBytes firstSequence : Nat)
    : MessageRingStatus × MessageRing :=
  if firstSequence = 0 ∨
    storageBytes < kMessageRingMinimumStorageBytes then (.invalidArgument, ring)
  else if ring.initialized ≠ kRingStateUninitialized then (.alreadyInitialized, ring)
  else
    (.ok, { clearReceiver (clearProducer ring) with
      storage, capacityBytes := storageBytes, headOffset := 0, tailOffset := 0, usedBytes := 0,
      queuedFrames := 0, nextSequence := firstSequence, sequenceExhausted := 0,
      nextReservationId := 1,
      reservationExhausted := 0, nextReceiveLeaseId := 1, receiveLeaseExhausted := 0,
      nextCopyId := 1,
      copyIdExhausted := 0, initialized := kRingStateReady })

/-- What `MessageRingPrepareEnqueue` checks before it takes the lock. -/
def messageRingPrepareCheck (frame : Frame) (payloadRules : PayloadRules) (payloadRuleCount : Nat)
    : Except MessageRingEnqueueResult Unit :=
  if frame.length = 0 then .error (enqueueFailure .invalidArgument .ok .ok)
  else if ring.initialized ≠ kRingStateReady then .error (enqueueFailure .notInitialized .ok .ok)
  else if payloadRules.isSome ≠ decide (payloadRuleCount ≠ 0) ∨
    payloadRuleCount > kVersionedPayloadMaxRules then
    .error (enqueueFailure .invalidPayloadContract .ok .invalidRuleTable)
  else
    match messageValidate frame with
    | .error messageError => .error (enqueueFailure .malformedMessage messageError .ok)
    | .ok view =>
      if view.payloadSize = 0 then
        if payloadRules.isSome then
          .error (enqueueFailure .malformedPayload .ok
            (payloadValidate [] payloadRules payloadRuleCount))
        else .ok ()
      else if payloadRules.isNone then
        .error (enqueueFailure .missingPayloadContract .ok .invalidRuleTable)
      else
        match payloadValidate (frame.drop view.payloadOffset) payloadRules payloadRuleCount with
        | .ok => .ok ()
        | payloadError => .error (enqueueFailure .malformedPayload .ok payloadError)

/-- The first section of `MessageRingPrepareEnqueue`: the reservation and the offset of its frame
area. -/
def messageRingPrepareReserve (frameBytes : Nat) :
    Except MessageRingStatus (Nat × Nat) × MessageRing :=
  let recordBytes := add32 kMessageRingRecordHeaderBytes frameBytes
  if ¬stateIsValid ring then (.error .corruptState, ring)
  else if ring.producerReservationId ≠ 0 then (.error .busy, ring)
  else if ring.reservationExhausted ≠ 0 then (.error .reservationExhausted, ring)
  else if ring.sequenceExhausted ≠ 0 then (.error .sequenceExhausted, ring)
  else if recordBytes > ring.capacityBytes - ring.usedBytes then (.error .full, ring)
  else
    let reservationId := ring.nextReservationId
    (.ok (reservationId,
      advanceOffset ring.tailOffset kMessageRingRecordHeaderBytes ring.capacityBytes), { ring with
        reservationExhausted := if reservationId = max64 then 1 else ring.reservationExhausted
        nextReservationId :=
          if reservationId = max64 then ring.nextReservationId else reservationId + 1
        producerReservationId := reservationId
        producerTailOffset := ring.tailOffset
        producerRecordBytes := recordBytes
        producerFrameSize := frameBytes
        producerCopyActive := 1
        producerAbortRequested := 0 })

def messageRingPrepareFinish : MessageRingStatus × MessageRing :=
  if ¬stateIsValid ring ∨ ring.producerReservationId ≠ reservationId ∨
    ring.producerCopyActive = 0 then
    (.corruptState,
      if ring.producerReservationId = reservationId then clearProducer ring else ring)
  else if ring.producerAbortRequested ≠ 0 then (.producerAborted, clearProducer ring)
  else (.ok, { ring with producerCopyActive := 0 })

def recordHeader (sequence frameSize : Nat) : List UInt8 :=
  writeLe64 sequence ++ writeLe32 frameSize ++ writeLe32 0

/-- C++ `MessageRingPublishEnqueue`: the sequence number of the published frame. -/
def messageRingPublishEnqueue : Except MessageRingStatus Nat × MessageRing :=
  if ring.initialized ≠ kRingStateReady then (.error .notInitialized, ring)
  else if reservationId = 0 then (.error .invalidArgument, ring)
  else if ¬stateIsValid ring then (.error .corruptState, ring)
  else if ring.producerReservationId ≠ reservationId then (.error .staleReservation, ring)
  else if ring.producerCopyActive ≠ 0 then (.error .busy, ring)
  else if ring.producerAbortRequested ≠ 0 then (.error .producerAborted, clearProducer ring)
  else if ring.sequenceExhausted ≠ 0 then (.error .sequenceExhausted, clearProducer ring)
  else
    let sequence := ring.nextSequence
    (.ok sequence, clearProducer { ring with
      storage :=
        copyIntoStorage ring ring.producerTailOffset (recordHeader sequence ring.producerFrameSize)
      tailOffset := advanceOffset ring.tailOffset ring.producerRecordBytes ring.capacityBytes
      usedBytes := add32 ring.usedBytes ring.producerRecordBytes
      queuedFrames := add32 ring.queuedFrames 1
      sequenceExhausted := if sequence = max64 then 1 else ring.sequenceExhausted
      nextSequence := if sequence = max64 then ring.nextSequence else sequence + 1 })

def messageRingAbortEnqueue : MessageRingStatus × MessageRing :=
  if reservationId = 0 then (.invalidArgument, ring)
  else if ring.initialized ≠ kRingStateReady then (.notInitialized, ring)
  else if ¬stateIsValid ring then (.corruptState, ring)
  else if ring.producerReservationId ≠ reservationId then (.staleReservation, ring)
  else if ring.producerCopyActive ≠ 0 then (.ok, { ring with producerAbortRequested := 1 })
  else (.ok, clearProducer ring)

def messageRingPeek : Except MessageRingStatus MessageRingPeekView × MessageRing :=
  if ring.initialized ≠ kRingStateReady then (.error .notInitialized, ring)
  else if ¬stateIsValid ring then (.error .corruptState, ring)
  else if ring.receiveSequence ≠ 0 then (.error .busy, ring)
  else if ring.queuedFrames = 0 then (.error .empty, ring)
  else if ring.receiveLeaseExhausted ≠ 0 then (.error .receiveLeaseExhausted, ring)
  else
    match readHeadRecord ring with
    | none => (.error .corruptState, ring)
    | some record =>
      let receiveLeaseId := ring.nextReceiveLeaseId
      (.ok ⟨record.sequence, receiveLeaseId, record.frameSize⟩, { ring with
        receiveLeaseExhausted := if receiveLeaseId = max64 then 1 else ring.receiveLeaseExhausted
        nextReceiveLeaseId :=
          if receiveLeaseId = max64 then ring.nextReceiveLeaseId else receiveLeaseId + 1
        receiveSequence := record.sequence
        receiveLeaseId
        receiveFrameSize := record.frameSize
        receiveCopyId := 0
        receiveCopySucceededId := 0 })

/-- The checks on sequence and lease that every receive call after `Peek` makes, in order. -/
def receiveCheck : MessageRingStatus :=
  if sequence = 0 ∨ receiveLeaseId = 0 then .invalidArgument
  else if ring.initialized ≠ kRingStateReady then .notInitialized
  else if ¬stateIsValid ring then .corruptState
  else if ring.receiveSequence ≠ sequence then .staleSequence
  else if ring.receiveLeaseId ≠ receiveLeaseId then .staleReceiveLease
  else .ok

def messageRingBeginCopyOut : Except MessageRingStatus MessageRingCopySpans × MessageRing :=
  match receiveCheck ring sequence receiveLeaseId with
  | .ok =>
    if ring.receiveCopyId ≠ 0 then (.error .busy, ring)
    else if ring.copyIdExhausted ≠ 0 then (.error .copyIdExhausted, ring)
    else
      match readHeadRecord ring with
      | none => (.error .corruptState, ring)
      | some record =>
        if record.sequence ≠ sequence ∨ record.frameSize ≠ ring.receiveFrameSize then
          (.error .corruptState, ring)
        else
          let frameOffset :=
            advanceOffset ring.headOffset kMessageRingRecordHeaderBytes ring.capacityBytes
          let contiguous := sub32 ring.capacityBytes frameOffset
          let firstSize := if record.frameSize < contiguous then record.frameSize else contiguous
          let secondSize := record.frameSize - firstSize
          let copyId := ring.nextCopyId
          (.ok ⟨frameOffset, firstSize, if secondSize = 0 then none else some 0, secondSize,
            copyId⟩, { ring with
              copyIdExhausted := if copyId = max64 then 1 else ring.copyIdExhausted,
              nextCopyId := if copyId = max64 then ring.nextCopyId else copyId + 1,
              receiveCopyId := copyId,
              receiveCopySucceededId := 0 })
  | status => (.error status, ring)

def messageRingEndCopyOut (sequence receiveLeaseId copyId : Nat) (succeeded : Bool) :
    MessageRingStatus × MessageRing :=
  if copyId = 0 then (.invalidArgument, ring)
  else
    match receiveCheck ring sequence receiveLeaseId with
    | .ok =>
      if ring.receiveCopyId = 0 then (.copyNotActive, ring)
      else if ring.receiveCopyId ≠ copyId then (.staleCopyAttempt, ring)
      else
        (.ok, { ring with
          receiveCopyId := 0, receiveCopySucceededId := if succeeded then copyId else 0 })
    | status => (status, ring)

/-- `MessageRingCopyOut` up to its byte copy. -/
def messageRingCopyOutBegin : Except MessageRingStatus MessageRingCopySpans × MessageRing :=
  if ring.initialized ≠ kRingStateReady then (.error .notInitialized, ring)
  else messageRingBeginCopyOut ring sequence receiveLeaseId

def messageRingCommit : MessageRingStatus × MessageRing :=
  match receiveCheck ring sequence receiveLeaseId with
  | .ok =>
    if ring.receiveCopyId ≠ 0 then (.busy, ring)
    else if ring.receiveCopySucceededId = 0 then (.copyRequired, ring)
    else
      match readHeadRecord ring with
      | none => (.corruptState, ring)
      | some record =>
        if record.sequence ≠ sequence ∨ record.frameSize ≠ ring.receiveFrameSize then
          (.corruptState, ring)
        else
          let queuedFrames := sub32 ring.queuedFrames 1
          (.ok, clearReceiver { ring with
            headOffset := if queuedFrames = 0 then ring.tailOffset
              else advanceOffset ring.headOffset record.recordSize ring.capacityBytes
            usedBytes := sub32 ring.usedBytes record.recordSize
            queuedFrames })
  | status => (status, ring)

def messageRingCancelReceive : MessageRingStatus × MessageRing :=
  match receiveCheck ring sequence receiveLeaseId with
  | .ok => if ring.receiveCopyId ≠ 0 then (.busy, ring) else (.ok, clearReceiver ring)
  | status => (status, ring)

end

end DuetOS.Ring
