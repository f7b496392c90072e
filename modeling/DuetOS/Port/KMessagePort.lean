import DuetOS.Ring.Step

/-!
# Message ports

`KMessagePort` is a ring with a mutex and a terminal close flag. `Send` prepares its frame without
the mutex and publishes it under it; `TryReceive` leases the head record under the mutex, drops it
to copy the bytes out, and takes it again to retire the record; `Close` sets the flag. A call is
where it is in its code (`Call`), and the ring makes the steps it asks for.
-/

namespace DuetOS.Port

open Message DuetOS.Ring

def kMessagePortStorageBytes : Nat := 4096

inductive KMessagePortStatus where
  | ok | invalidArgument | invalidHandleOrRights | closed | cancelled | ringFailure
  deriving DecidableEq

structure KMessagePortSendResult where
  status : KMessagePortStatus
  ring : MessageRingEnqueueResult
  deriving DecidableEq

structure KMessagePortReceiveResult where
  status : KMessagePortStatus
  ringStatus : MessageRingStatus
  (sequence frameSize copiedBytes : Nat)
  deriving DecidableEq

def sendFailure (status : KMessagePortStatus) (ringStatus : MessageRingStatus) :
    KMessagePortSendResult :=
  ⟨status, ringStatus, 0, 0, .ok, .ok⟩

def receiveFailure (status : KMessagePortStatus) (ringStatus : MessageRingStatus)
    (sequence frameSize : Nat) : KMessagePortReceiveResult :=
  ⟨status, ringStatus, sequence, frameSize, 0⟩

/-- A call in progress, by what it does next. -/
inductive Call where
  /-- `Send` found the port open and prepares its frame. -/
  | prepare (frame : Frame)
  /-- `Send` is in the unlocked copy of `Prepare`. -/
  | preparing (reservationId : Nat) (frame : Frame)
  /-- `Send` takes the mutex to publish. -/
  | prepared (prepared : MessageRingEnqueueResult)
  | publish (prepared : MessageRingEnqueueResult)
  /-- `Send` found the port closed and aborts. -/
  | abort (prepared : MessageRingEnqueueResult)
  /-- `Send` could not publish and aborts. -/
  | unpublished (prepared : MessageRingEnqueueResult)
  | peek (destinationBytes : Nat)
  | beginCopyOut (view : MessageRingPeekView)
  /-- `TryReceive` copies without the mutex. -/
  | copying (view : MessageRingPeekView) (spans : MessageRingCopySpans) (destination : List UInt8)
  | endCopyOut (view : MessageRingPeekView) (spans : MessageRingCopySpans)
    (destination : List UInt8)
  /-- `TryReceive` found the port closed after its copy. -/
  | endClosed (view : MessageRingPeekView) (spans : MessageRingCopySpans)
  | commit (view : MessageRingPeekView) (destination : List UInt8)
  /-- `TryReceive` gives its lease back and returns `result`. -/
  | cancel (view : MessageRingPeekView) (result : KMessagePortReceiveResult)
  deriving DecidableEq

/-- A port: its close flag, its mutex, its ring, and the calls in progress. -/
structure State where
  (closed locked : Bool)
  ring : Ring.State
  calls : Multiset Call

inductive Outcome where
  | sent (result : KMessagePortSendResult)
  | received (result : KMessagePortReceiveResult) (destination : List UInt8)
  | closed
  deriving DecidableEq

/-- What a step did: the ring step it made, and the result of the call that returned with it. -/
structure Event where
  ring : Option Ring.Event
  outcome : Option Outcome

/-- A step that only moves a call along. -/
def Event.silent : Event := ⟨none, none⟩

def Event.onRing (e : Ring.Event) : Event := ⟨some e, none⟩

def Event.returns (outcome : Outcome) : Event := ⟨none, some outcome⟩

/-- A call returns with a step of the ring. -/
def Event.last (e : Ring.Event) (outcome : Outcome) : Event := ⟨some e, some outcome⟩

/-- One step of one call. The parts of `KMessagePortSend`, `KMessagePortTryReceive` and
`KMessagePortClose` follow each other in the order of the source. -/
inductive Step : State → Event → State → Prop where
  | sendInvalid : Step ⟨closed, locked, ring, calls⟩
      (.returns (.sent (sendFailure .invalidArgument .invalidArgument)))
      ⟨closed, locked, ring, calls⟩
  | sendClosed :
    Step ⟨true, false, ring, calls⟩ (.returns (.sent (sendFailure .closed .producerAborted)))
      ⟨true, false, ring, calls⟩
  | sendOpen {ring calls frame} : frame ≠ [] →
    Step ⟨false, false, ring, calls⟩ .silent ⟨false, false, ring, .prepare frame ::ₘ calls⟩
  | prepareRefused :
    Ring.Step ring (.prepareRefused frame result) ring' →
    Step ⟨closed, locked, ring, .prepare frame ::ₘ calls⟩
      (.last (.prepareRefused frame result) (.sent ⟨.ringFailure, result⟩))
      ⟨closed, locked, ring', calls⟩
  | reserveRefused :
    Ring.Step ring (.reserve frame (.error status)) ring' →
    Step ⟨closed, locked, ring, .prepare frame ::ₘ calls⟩
      (.last (.reserve frame (.error status)) (.sent (sendFailure .ringFailure status)))
      ⟨closed, locked, ring', calls⟩
  | reserve {closed locked ring ring' calls frame reservationId} :
    Ring.Step ring (.reserve frame (.ok reservationId)) ring' →
    Step ⟨closed, locked, ring, .prepare frame ::ₘ calls⟩
      (.onRing (.reserve frame (.ok reservationId)))
      ⟨closed, locked, ring', .preparing reservationId frame ::ₘ calls⟩
  | write :
    Ring.Step ring (.write offset byte) ring' →
    Step ⟨closed, locked, ring, .preparing reservationId frame ::ₘ calls⟩
      (.onRing (.write offset byte))
      ⟨closed, locked, ring', .preparing reservationId frame ::ₘ calls⟩
  | finish : Ring.Step ring (.finish reservationId .ok) ring' →
    Step ⟨closed, locked, ring, .preparing reservationId frame ::ₘ calls⟩
      (.onRing (.finish reservationId .ok))
      ⟨closed, locked, ring', .prepared ⟨.ok, reservationId, 0, .ok, .ok⟩ ::ₘ calls⟩
  | finishRefused :
    Ring.Step ring (.finish reservationId status) ring' →
    status ≠ .ok →
    Step ⟨closed, locked, ring, .preparing reservationId frame ::ₘ calls⟩
      (.last (.finish reservationId status) (.sent (sendFailure .ringFailure status)))
      ⟨closed, locked, ring', calls⟩
  | preparedClosed : Step ⟨true, false, ring, .prepared prepared ::ₘ calls⟩ .silent
      ⟨true, true, ring, .abort prepared ::ₘ calls⟩
  | abort : Ring.Step ring (.abort prepared.reservationId status) ring' →
    Step ⟨closed, true, ring, .abort prepared ::ₘ calls⟩
      (.last (.abort prepared.reservationId status)
        (.sent ⟨.closed, { prepared with status := .producerAborted, reservationId := 0 }⟩))
      ⟨closed, false, ring', calls⟩
  | preparedOpen : Step ⟨false, false, ring, .prepared prepared ::ₘ calls⟩ .silent
      ⟨false, true, ring, .publish prepared ::ₘ calls⟩
  | publishRefused :
    Ring.Step ring (.publish prepared.reservationId (.error status) frame) ring' →
    Step ⟨closed, true, ring, .publish prepared ::ₘ calls⟩
      (.onRing (.publish prepared.reservationId (.error status) frame))
      ⟨closed, true, ring', .unpublished { prepared with status } ::ₘ calls⟩
  | unpublished :
    Ring.Step ring (.abort prepared.reservationId status) ring' →
    Step ⟨closed, true, ring, .unpublished prepared ::ₘ calls⟩
      (.last (.abort prepared.reservationId status) (.sent ⟨.ringFailure, prepared⟩))
      ⟨closed, false, ring', calls⟩
  | publish {sequence} :
    Ring.Step ring (.publish prepared.reservationId (.ok sequence) frame) ring' →
    Step ⟨closed, true, ring, .publish prepared ::ₘ calls⟩
      (.last (.publish prepared.reservationId (.ok sequence) frame)
        (.sent ⟨.ok, { prepared with status := .ok, sequence, reservationId := 0 }⟩))
      ⟨closed, false, ring', calls⟩
  | receiveClosed :
    Step ⟨true, false, ring, calls⟩ (.returns (.received (receiveFailure .closed .empty 0 0) []))
      ⟨true, false, ring, calls⟩
  | receiveOpen :
    Step ⟨false, false, ring, calls⟩ .silent ⟨false, true, ring, .peek destinationBytes ::ₘ calls⟩
  | peekRefused : Ring.Step ring (.peek (.error status)) ring' →
    Step ⟨closed, true, ring, .peek destinationBytes ::ₘ calls⟩
      (.last (.peek (.error status)) (.received (receiveFailure .ringFailure status 0 0) []))
      ⟨closed, false, ring', calls⟩
  | peekSmall : Ring.Step ring (.peek (.ok view)) ring' →
    destinationBytes < view.frameSize →
    Step ⟨closed, true, ring, .peek destinationBytes ::ₘ calls⟩ (.onRing (.peek (.ok view)))
      ⟨closed, true, ring', .cancel view
        (receiveFailure .ringFailure .bufferTooSmall view.sequence view.frameSize) ::ₘ calls⟩
  | peek : Ring.Step ring (.peek (.ok view)) ring' →
    view.frameSize ≤ destinationBytes →
    Step ⟨closed, true, ring, .peek destinationBytes ::ₘ calls⟩ (.onRing (.peek (.ok view)))
      ⟨closed, true, ring', .beginCopyOut view ::ₘ calls⟩
  | beginRefused :
    Ring.Step ring (.beginCopyOut view.sequence view.receiveLeaseId (.error status)) ring' →
    Step ⟨closed, true, ring, .beginCopyOut view ::ₘ calls⟩
      (.onRing (.beginCopyOut view.sequence view.receiveLeaseId (.error status)))
      ⟨closed, true, ring',
        .cancel view (receiveFailure .ringFailure status view.sequence view.frameSize) ::ₘ calls⟩
  | beginCopyOut :
    Ring.Step ring (.beginCopyOut view.sequence view.receiveLeaseId (.ok spans)) ring' →
    Step ⟨closed, true, ring, .beginCopyOut view ::ₘ calls⟩
      (.onRing (.beginCopyOut view.sequence view.receiveLeaseId (.ok spans)))
      ⟨closed, false, ring', .copying view spans [] ::ₘ calls⟩
  | read :
    Ring.Step ring (.read view.sequence spans.copyId destination.length byte) ring' →
    Step ⟨closed, locked, ring, .copying view spans destination ::ₘ calls⟩
      (.onRing (.read view.sequence spans.copyId destination.length byte))
      ⟨closed, locked, ring', .copying view spans (destination ++ [byte]) ::ₘ calls⟩
  | copiedClosed : destination.length = spans.cells.length →
    Step ⟨true, false, ring, .copying view spans destination ::ₘ calls⟩ .silent
      ⟨true, true, ring, .endClosed view spans ::ₘ calls⟩
  | endClosed :
    Ring.Step ring (.endCopyOut view.sequence view.receiveLeaseId spans.copyId false status) ring' →
    Step ⟨closed, true, ring, .endClosed view spans ::ₘ calls⟩
      (.onRing (.endCopyOut view.sequence view.receiveLeaseId spans.copyId false status))
      ⟨closed, true, ring', .cancel view
        (receiveFailure .closed .producerAborted view.sequence view.frameSize) ::ₘ calls⟩
  | copiedOpen : destination.length = spans.cells.length →
    Step ⟨false, false, ring, .copying view spans destination ::ₘ calls⟩ .silent
      ⟨false, true, ring, .endCopyOut view spans destination ::ₘ calls⟩
  | endRefused :
    Ring.Step ring (.endCopyOut view.sequence view.receiveLeaseId spans.copyId true status) ring' →
    status ≠ .ok →
    Step ⟨closed, true, ring, .endCopyOut view spans destination ::ₘ calls⟩
      (.onRing (.endCopyOut view.sequence view.receiveLeaseId spans.copyId true status))
      ⟨closed, true, ring',
        .cancel view (receiveFailure .ringFailure status view.sequence view.frameSize) ::ₘ calls⟩
  | endCopyOut :
    Ring.Step ring (.endCopyOut view.sequence view.receiveLeaseId spans.copyId true .ok) ring' →
    Step ⟨closed, true, ring, .endCopyOut view spans destination ::ₘ calls⟩
      (.onRing (.endCopyOut view.sequence view.receiveLeaseId spans.copyId true .ok))
      ⟨closed, true, ring', .commit view destination ::ₘ calls⟩
  | commitRefused {closed ring ring' calls view destination status frame} :
    Ring.Step ring (.commit view.sequence view.receiveLeaseId status frame) ring' →
    status ≠ .ok →
    Step ⟨closed, true, ring, .commit view destination ::ₘ calls⟩
      (.onRing (.commit view.sequence view.receiveLeaseId status frame))
      ⟨closed, true, ring',
        .cancel view (receiveFailure .ringFailure status view.sequence view.frameSize) ::ₘ calls⟩
  | commit :
    Ring.Step ring (.commit view.sequence view.receiveLeaseId .ok frame) ring' →
    Step ⟨closed, true, ring, .commit view destination ::ₘ calls⟩
      (.last (.commit view.sequence view.receiveLeaseId .ok frame)
        (.received ⟨.ok, .ok, view.sequence, view.frameSize, view.frameSize⟩ destination))
      ⟨closed, false, ring', calls⟩
  | cancel :
    Ring.Step ring (.cancelReceive view.sequence view.receiveLeaseId status) ring' →
    Step ⟨closed, true, ring, .cancel view result ::ₘ calls⟩
      (.last (.cancelReceive view.sequence view.receiveLeaseId status) (.received result []))
      ⟨closed, false, ring', calls⟩
  | close : Step ⟨closed, false, ring, calls⟩ (.returns .closed) ⟨true, false, ring, calls⟩

abbrev Run := Lts.Run Step

/-- The port `KMessagePortCreate` returns, over its zeroed storage. -/
def State.create : State :=
  ⟨false, false, .init (fun _ => 0) kMessagePortStorageBytes 1, 0⟩

end DuetOS.Port
