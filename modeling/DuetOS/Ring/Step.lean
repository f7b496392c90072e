import DuetOS.Lib.Lts
import DuetOS.Ring.MessageRing

/-!
# Interleavings of ring operations

One ring shared by any number of producers and receivers. `State` is the ring with the calls between
two of their sections: a `Prepare` with the byte stores it still has to make, a receiver that holds
the spans of `BeginCopyOut`, and a `CopyOut` in its byte copy. Every byte of an unlocked copy is a
step. Calls may pass any identities.

An event records arguments and result, and what was observed of the storage: `publish` the bytes of
the reserved frame area, `commit` the frame of the head record.
-/

namespace DuetOS.Ring

open Message

inductive InFlight where
  | preparing (reservationId : Nat) (frame : Frame) (writes : List (Nat × UInt8))
  | copying (sequence receiveLeaseId : Nat) (spans : MessageRingCopySpans)
  | copyingOut (sequence receiveLeaseId destinationBytes : Nat) (spans : MessageRingCopySpans)
    (copied : List UInt8)
  deriving DecidableEq

structure State where
  ring : MessageRing
  inflight : Multiset InFlight

inductive Event where
  | prepareRefused (frame : Frame) (result : MessageRingEnqueueResult)
  | reserve (frame : Frame) (result : Except MessageRingStatus Nat)
  | write (offset : Nat) (byte : UInt8)
  | finish (reservationId : Nat) (status : MessageRingStatus)
  | publish (reservationId : Nat) (result : Except MessageRingStatus Nat) (frame : Frame)
  | abort (reservationId : Nat) (status : MessageRingStatus)
  | peek (result : Except MessageRingStatus MessageRingPeekView)
  | beginCopyOut (sequence receiveLeaseId : Nat)
    (result : Except MessageRingStatus MessageRingCopySpans)
  | read (sequence copyId index : Nat) (byte : UInt8)
  | endCopyOut (sequence receiveLeaseId copyId : Nat) (succeeded : Bool)
    (status : MessageRingStatus)
  | copyOutBegin (sequence receiveLeaseId : Nat)
    (result : Except MessageRingStatus MessageRingCopySpans)
  | copyOut (sequence receiveLeaseId copyId : Nat) (status : MessageRingStatus)
    (copied : List UInt8)
  | commit (sequence receiveLeaseId : Nat) (status : MessageRingStatus) (frame : Frame)
  | cancelReceive (sequence receiveLeaseId : Nat) (status : MessageRingStatus)
  deriving DecidableEq

/-- The bytes in the frame area of the current reservation. -/
def stagedBytes (ring : MessageRing) : Frame :=
  copyFromStorage ring
    (advanceOffset ring.producerTailOffset kMessageRingRecordHeaderBytes ring.capacityBytes)
    ring.producerFrameSize

def headFrame (ring : MessageRing) : Frame :=
  copyFromStorage ring
    (advanceOffset ring.headOffset kMessageRingRecordHeaderBytes ring.capacityBytes)
    (((readHeadRecord ring).map HeadRecord.frameSize).getD 0)

inductive Step : State → Event → State → Prop where
  | prepareRefused :
    messageRingPrepareCheck ring frame rules count = .error result →
    Step ⟨ring, inflight⟩ (.prepareRefused frame result) ⟨ring, inflight⟩
  | reserveRefused :
    messageRingPrepareCheck ring frame rules count = .ok () →
    messageRingPrepareReserve ring frame.length = (.error status, ring') →
    Step ⟨ring, inflight⟩ (.reserve frame (.error status)) ⟨ring', inflight⟩
  | reserve {ring ring' inflight frame rules count reservationId offset} :
    messageRingPrepareCheck ring frame rules count = .ok () →
    messageRingPrepareReserve ring frame.length = (.ok (reservationId, offset), ring') →
    Step ⟨ring, inflight⟩ (.reserve frame (.ok reservationId))
      ⟨ring', .preparing reservationId frame
        (copyWrites ring.capacityBytes offset frame) ::ₘ inflight⟩
  | write {ring inflight reservationId frame offset byte writes} :
    Step ⟨ring, .preparing reservationId frame ((offset, byte) :: writes) ::ₘ inflight⟩
      (.write offset byte)
      ⟨{ ring with storage := Function.update ring.storage offset byte },
        .preparing reservationId frame writes ::ₘ inflight⟩
  | finish :
    messageRingPrepareFinish ring reservationId = (status, ring') →
    Step ⟨ring, .preparing reservationId frame [] ::ₘ inflight⟩ (.finish reservationId status)
      ⟨ring', inflight⟩
  | publish :
    messageRingPublishEnqueue ring reservationId = (result, ring') →
    Step ⟨ring, inflight⟩ (.publish reservationId result (stagedBytes ring)) ⟨ring', inflight⟩
  | abort : messageRingAbortEnqueue ring reservationId = (status, ring') →
    Step ⟨ring, inflight⟩ (.abort reservationId status) ⟨ring', inflight⟩
  | peek {ring ring' inflight result} : messageRingPeek ring = (result, ring') →
    Step ⟨ring, inflight⟩ (.peek result) ⟨ring', inflight⟩
  | beginRefused {sequence} :
    messageRingBeginCopyOut ring sequence receiveLeaseId = (.error status, ring') →
    Step ⟨ring, inflight⟩ (.beginCopyOut sequence receiveLeaseId (.error status)) ⟨ring', inflight⟩
  | beginCopyOut {sequence} :
    messageRingBeginCopyOut ring sequence receiveLeaseId = (.ok spans, ring') →
    Step ⟨ring, inflight⟩ (.beginCopyOut sequence receiveLeaseId (.ok spans))
      ⟨ring', .copying sequence receiveLeaseId spans ::ₘ inflight⟩
  | read {sequence} : spans.cells[index]? = some cell →
    Step ⟨ring, .copying sequence receiveLeaseId spans ::ₘ inflight⟩
      (.read sequence spans.copyId index (ring.storage cell))
      ⟨ring, .copying sequence receiveLeaseId spans ::ₘ inflight⟩
  | endCopyOut {sequence} :
    messageRingEndCopyOut ring sequence receiveLeaseId copyId succeeded = (status, ring') →
    Step ⟨ring, inflight⟩ (.endCopyOut sequence receiveLeaseId copyId succeeded status)
      ⟨ring', inflight⟩
  | copyOutRefused {sequence} :
    messageRingCopyOutBegin ring sequence receiveLeaseId = (.error status, ring') →
    Step ⟨ring, inflight⟩ (.copyOutBegin sequence receiveLeaseId (.error status)) ⟨ring', inflight⟩
  | copyOutBegin {sequence} :
    messageRingCopyOutBegin ring sequence receiveLeaseId = (.ok spans, ring') →
    Step ⟨ring, inflight⟩ (.copyOutBegin sequence receiveLeaseId (.ok spans))
      ⟨ring', .copyingOut sequence receiveLeaseId destinationBytes spans [] ::ₘ inflight⟩
  | copyOutSmall {sequence} :
    destinationBytes < spans.firstSize + spans.secondSize →
    messageRingEndCopyOut ring sequence receiveLeaseId spans.copyId false = (status, ring') →
    Step ⟨ring, .copyingOut sequence receiveLeaseId destinationBytes spans copied ::ₘ inflight⟩
      (.copyOut sequence receiveLeaseId spans.copyId .bufferTooSmall []) ⟨ring', inflight⟩
  | copyOutByte {sequence} :
    spans.firstSize + spans.secondSize ≤ destinationBytes →
    spans.cells[copied.length]? = some cell →
    Step ⟨ring, .copyingOut sequence receiveLeaseId destinationBytes spans copied ::ₘ inflight⟩
      (.read sequence spans.copyId copied.length (ring.storage cell))
      ⟨ring, .copyingOut sequence receiveLeaseId destinationBytes spans
        (copied ++ [ring.storage cell]) ::ₘ inflight⟩
  | copyOutEnd {ring ring' inflight sequence receiveLeaseId destinationBytes spans copied status} :
    spans.firstSize + spans.secondSize ≤ destinationBytes →
    copied.length = spans.cells.length →
    messageRingEndCopyOut ring sequence receiveLeaseId spans.copyId true = (status, ring') →
    Step ⟨ring, .copyingOut sequence receiveLeaseId destinationBytes spans copied ::ₘ inflight⟩
      (.copyOut sequence receiveLeaseId spans.copyId status copied) ⟨ring', inflight⟩
  | commit {ring ring' inflight sequence receiveLeaseId status} :
    messageRingCommit ring sequence receiveLeaseId = (status, ring') →
    Step ⟨ring, inflight⟩ (.commit sequence receiveLeaseId status (headFrame ring))
      ⟨ring', inflight⟩
  | cancelReceive {sequence} :
    messageRingCancelReceive ring sequence receiveLeaseId = (status, ring') →
    Step ⟨ring, inflight⟩ (.cancelReceive sequence receiveLeaseId status) ⟨ring', inflight⟩

abbrev Run := Lts.Run Step

/-- A ring initialised over this storage, and nobody using it. -/
def State.init (storage : Nat → UInt8) (storageBytes firstSequence : Nat) : State :=
  ⟨(messageRingInitialize .zero storage storageBytes firstSequence).2, 0⟩

end DuetOS.Ring
