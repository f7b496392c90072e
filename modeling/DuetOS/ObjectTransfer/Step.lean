import DuetOS.ObjectTransfer.Rows
import DuetOS.Lib.Lts

/-!
# Interleavings of transfer-table operations

`State` is the table with the calls between two of their sections, and `Step` runs one section of
one call. Calls an export or import makes on a handle table are labels of their own: here they may
return anything, and a larger system can synchronise on the label with the table that answers.
-/

namespace DuetOS.ObjectTransfer

structure ObjectTransferImportResult where
  status : ObjectTransferStatus
  destinationError : ErrorCode
  handle : Handle
  authority : ObjectTransferAuthority
  deriving DecidableEq

def emptyAuthority : ObjectTransferAuthority := ⟨.invalid, 0, .zero⟩

def importFailure (status : ObjectTransferStatus) (destinationError : ErrorCode) :
    ObjectTransferImportResult :=
  ⟨status, destinationError, kHandleInvalid, emptyAuthority⟩

/-- C++ `AbortImportReservation`, given what `HandleTableAbort` returned. -/
def abortImportReservation (aborted : Except ErrorCode Unit) (status : ObjectTransferStatus) :
    ObjectTransferImportResult :=
  match aborted with
  | .ok () => importFailure status .ok
  | .error error =>
    if error = .badState then importFailure status .ok else importFailure .corruptState error

/-- What an import returns when publishing failed with `error` and the reservation was aborted. -/
def importUnpublished (error : ErrorCode) (aborted : Except ErrorCode Unit) :
    ObjectTransferImportResult :=
  match aborted with
  | .ok () =>
    if error = .badState then importFailure .destinationRejected error
    else importFailure .corruptState error
  | .error abortError =>
    if error = .badState ∧ abortError = .badState then importFailure .destinationRejected error
    else importFailure .corruptState abortError

inductive InFlight where
  | lookingUp (source : Nat) (handle : Handle) (authority : ObjectTransferAuthority)
      (decoded : DecodedHandle) (snapshot : RetainedSnapshot)
  | exporting (source : Nat) (handle : Handle) (authority : ObjectTransferAuthority)
    (object : KObject)
  | reserved (reference : ObjectTransferRef) (decoded : ObjectTransferDecodedRef)
    (destination : Nat)
      (type : KObjectType) (rights : Rights) (reservation : HandleTableReservation)
  | pinned (reference : ObjectTransferRef) (decoded : ObjectTransferDecodedRef) (destination : Nat)
      (type : KObjectType) (rights : Rights) (reservation : HandleTableReservation)
      (object : KObject) (metadata : ObjectTransferImmutableMetadata)
  | publishing (reference : ObjectTransferRef) (destination : Nat) (type : KObjectType)
      (rights : Rights) (reservation : HandleTableReservation) (object : KObject)
      (metadata : ObjectTransferImmutableMetadata)
  | aborting (destination : Nat) (reservation : HandleTableReservation)
    (status : ObjectTransferStatus)
  | unpublishing (destination : Nat) (reservation : HandleTableReservation) (error : ErrorCode)
  deriving DecidableEq

structure State where
  table : ObjectTransferTable
  inflight : Multiset InFlight

inductive Event where
  | exportRefused (status : ObjectTransferStatus)
  | exportPin (source : Nat) (handle : Handle) (authority : ObjectTransferAuthority)
      (result : Except ErrorCode RetainedSnapshot)
  | exportUnpin (source : Nat) (decoded : DecodedHandle)
    (result : Except ErrorCode RetainedSnapshot)
  | exportClaim (source : Nat) (handle : Handle) (authority : ObjectTransferAuthority)
      (object : KObject) (result : Except ObjectTransferStatus ObjectTransferRef)
  | importRefused (reference : ObjectTransferRef) (status : ObjectTransferStatus)
  | importReserve (reference : ObjectTransferRef) (destination : Nat) (type : KObjectType)
      (rights : Rights) (result : Except ErrorCode HandleTableReservation)
  | importPin (reference : ObjectTransferRef) (type : KObjectType) (rights : Rights)
      (result : Except ObjectTransferStatus (KObject × ObjectTransferImmutableMetadata))
  | importUnpin (reference : ObjectTransferRef) (retained identityIntact : Bool)
  | importAbort (destination : Nat) (reservation : HandleTableReservation)
      (aborted : Except ErrorCode Unit) (returned : ObjectTransferImportResult)
  | importPublish (reference : ObjectTransferRef) (destination : Nat)
      (reservation : HandleTableReservation) (object : KObject)
        (published : Except ErrorCode Handle)
      (returned : Option ObjectTransferImportResult)
  | revoke (reference : ObjectTransferRef) (status : ObjectTransferStatus)
    (detached : Option KObject)
  | close (status : ObjectTransferStatus) (detached : List KObject)
  deriving DecidableEq

inductive Step : State → Event → State → Prop where
  | exportRefused : objectTransferExportCheck table handle authority ≠ .ok →
    Step ⟨table, inflight⟩ (.exportRefused (objectTransferExportCheck table handle authority))
      ⟨table, inflight⟩
  | exportNoSource :
    objectTransferExportCheck table handle authority = .ok →
    Step ⟨table, inflight⟩ (.exportPin source handle authority (.error code)) ⟨table, inflight⟩
  | exportPin :
    objectTransferExportCheck table handle authority = .ok →
    decodeHandleNospec handle = some decoded →
    Step ⟨table, inflight⟩ (.exportPin source handle authority (.ok snapshot))
      ⟨table, .lookingUp source handle authority decoded snapshot ::ₘ inflight⟩
  | exportNotRetained :
    Step ⟨table, .lookingUp source handle authority decoded snapshot ::ₘ inflight⟩
      (.exportUnpin source decoded (.error code)) ⟨table, inflight⟩
  | exportUnpin :
    Step ⟨table, .lookingUp source handle authority decoded snapshot ::ₘ inflight⟩
      (.exportUnpin source decoded (.ok snapshot))
      ⟨table, .exporting source handle authority snapshot.obj ::ₘ inflight⟩
  | exportClaim :
    objectTransferExportClaim table authority object = (result, table') →
    Step ⟨table, .exporting source handle authority object ::ₘ inflight⟩
      (.exportClaim source handle authority object result) ⟨table', inflight⟩
  | importRefused :
    objectTransferImportCheck table reference type rights = .error status →
    Step ⟨table, inflight⟩ (.importRefused reference status) ⟨table, inflight⟩
  | importNoRoom :
    objectTransferImportCheck table reference type rights = .ok decoded →
    Step ⟨table, inflight⟩ (.importReserve reference destination type rights (.error code))
      ⟨table, inflight⟩
  | importReserve :
    objectTransferImportCheck table reference type rights = .ok decoded →
    Step ⟨table, inflight⟩ (.importReserve reference destination type rights (.ok reservation))
      ⟨table, .reserved reference decoded destination type rights reservation ::ₘ inflight⟩
  | importDenied :
    objectTransferImportPin table decoded type rights = (.error status, table') →
    Step ⟨table, .reserved reference decoded destination type rights reservation ::ₘ inflight⟩
      (.importPin reference type rights (.error status))
      ⟨table', .aborting destination reservation status ::ₘ inflight⟩
  | importPin {table table' inflight reference decoded destination type rights reservation object
      metadata} :
    objectTransferImportPin table decoded type rights = (.ok (object, metadata), table') →
    Step ⟨table, .reserved reference decoded destination type rights reservation ::ₘ inflight⟩
      (.importPin reference type rights (.ok (object, metadata)))
      ⟨table', .pinned reference decoded destination type rights reservation object
        metadata ::ₘ inflight⟩
  | importCorrupt {table table' inflight reference decoded destination type rights reservation
      object metadata retained} :
    objectTransferImportUnpin table decoded object = (false, table') →
    Step ⟨table, .pinned reference decoded destination type rights reservation object
      metadata ::ₘ inflight⟩
      (.importUnpin reference retained false)
      ⟨table', .aborting destination reservation .corruptState ::ₘ inflight⟩
  | importNotRetained :
    objectTransferImportUnpin table decoded object = (true, table') →
    Step ⟨table, .pinned reference decoded destination type rights reservation object
      metadata ::ₘ inflight⟩
      (.importUnpin reference false true)
      ⟨table', .aborting destination reservation .retainFailed ::ₘ inflight⟩
  | importUnpin :
    objectTransferImportUnpin table decoded object = (true, table') →
    Step ⟨table, .pinned reference decoded destination type rights reservation object
      metadata ::ₘ inflight⟩
      (.importUnpin reference true true)
      ⟨table', .publishing reference destination type rights reservation object
        metadata ::ₘ inflight⟩
  | importAbort :
    Step ⟨table, .aborting destination reservation status ::ₘ inflight⟩
      (.importAbort destination reservation aborted (abortImportReservation aborted status))
      ⟨table, inflight⟩
  | importPublished :
    Step ⟨table, .publishing reference destination type rights reservation object
      metadata ::ₘ inflight⟩
      (.importPublish reference destination reservation object (.ok handle)
        (some ⟨.ok, .ok, handle, ⟨type, rights, metadata⟩⟩))
      ⟨table, inflight⟩
  | importUnpublished :
    Step ⟨table, .publishing reference destination type rights reservation object
      metadata ::ₘ inflight⟩
      (.importPublish reference destination reservation object (.error error) none)
      ⟨table, .unpublishing destination reservation error ::ₘ inflight⟩
  | importUnpublish :
    Step ⟨table, .unpublishing destination reservation error ::ₘ inflight⟩
      (.importAbort destination reservation aborted (importUnpublished error aborted))
      ⟨table, inflight⟩
  | revoke {table table' inflight reference status detached} :
    objectTransferRevoke table reference = (status, detached, table') →
    Step ⟨table, inflight⟩ (.revoke reference status detached) ⟨table', inflight⟩
  | close : objectTransferTableClose table = (status, detached, table') →
    Step ⟨table, inflight⟩ (.close status detached) ⟨table', inflight⟩

abbrev Run := Lts.Run Step

def ObjectTransferTable.zero : ObjectTransferTable where
  slots := fun _ => .closedAt .free 0
  nextFreeHint := 0
  activeOperations := 0
  initialized := 0
  state := .uninitialized

/-- A table initialised with this first generation, and nobody using it. -/
def State.init (firstGeneration : Nat) : State :=
  ⟨(objectTransferTableInitialize .zero firstGeneration).2, 0⟩

end DuetOS.ObjectTransfer
