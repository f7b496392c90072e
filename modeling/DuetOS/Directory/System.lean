import DuetOS.Directory.Directory

/-!
# Interleaved calls of the service directory

A call is in one of its gaps between two locked sections, with its local data. A step is one locked
section, or one call into the endpoint owner. What the handle tables and the endpoint owner answer
is arbitrary within their contracts: a created pair has a valid receipt that was never handed out
before, and a published handle is not null and new to its process.
-/

namespace DuetOS.Directory

open Word DuetOS.Lifecycle

inductive ServiceEndpointRole where
  | initiator | acceptor
  deriving DecidableEq

structure ServiceEndpointIdentity where
  channel : ServiceEndpointChannelKey
  role : ServiceEndpointRole
  deriving DecidableEq

def kInvalidServiceEndpointChannelKey : ServiceEndpointChannelKey :=
  ⟨kServiceEndpointOwnerCapacity, 0, kChannelEpochInvalid⟩

def kInvalidServiceEndpointIdentity : ServiceEndpointIdentity :=
  ⟨kInvalidServiceEndpointChannelKey, .initiator⟩

def kInvalidServiceDirectoryAcceptedChannelKey : ServiceDirectoryAcceptedChannelKey :=
  ⟨kInvalidServiceKey, kServiceDirectoryAcceptedCapacity, 0, kInvalidServiceEndpointChannelKey⟩

structure ServiceDirectoryConnectResult where
  status : ServiceDirectoryStatus
  endpointStatus : ServiceEndpointStatus
  handleStatus : ErrorCode
  clientHandle : Nat
  endpoint : ServiceEndpointIdentity
  rollback : ServiceDirectoryOwnedChannel
  deriving DecidableEq

def connectFailure (status : ServiceDirectoryStatus) (endpointStatus : ServiceEndpointStatus := .ok)
    (handleStatus : ErrorCode := .ok) (rollback : ServiceDirectoryOwnedChannel := .zero) :
    ServiceDirectoryConnectResult :=
  ⟨status, endpointStatus, handleStatus, kHandleInvalid, kInvalidServiceEndpointIdentity, rollback⟩

structure ServiceDirectoryAcceptResult where
  status : ServiceDirectoryStatus
  endpointStatus : ServiceEndpointStatus
  handleStatus : ErrorCode
  serverHandle : Nat
  endpoint : ServiceEndpointIdentity
  accepted : ServiceDirectoryAcceptedChannelKey
  deriving DecidableEq

def acceptFailure (status : ServiceDirectoryStatus) (endpointStatus : ServiceEndpointStatus := .ok)
    (handleStatus : ErrorCode := .ok) : ServiceDirectoryAcceptResult :=
  ⟨status, endpointStatus, handleStatus, kHandleInvalid, kInvalidServiceEndpointIdentity,
    kInvalidServiceDirectoryAcceptedChannelKey⟩

structure ServiceDirectoryDriveDeferredAcceptedResult where
  status : ServiceDirectoryStatus
  endpointStatus : ServiceEndpointStatus
  (releasedChannels pendingChannels : Nat)
  deriving DecidableEq

/-- The local data of `ServiceDirectoryDriveDeferredAccepted` in its loop. -/
structure DriveProgress where
  batch : List ServiceDirectoryAcceptedChannelKey
  releasedChannels : Nat
  failureStatus : ServiceDirectoryStatus
  endpointStatus : ServiceEndpointStatus
  deriving DecidableEq

/-- The loop body of `ServiceDirectoryDriveDeferredAccepted` after the release returned; `rest` is
what is left of the batch. -/
def DriveProgress.observe (progress : DriveProgress)
    (rest : List ServiceDirectoryAcceptedChannelKey)
    (released : ServiceDirectoryReleaseAcceptedResult) : DriveProgress :=
  match released.status with
  | .ok => { progress with batch := rest, releasedChannels := progress.releasedChannels + 1 }
  | .busy => { progress with batch := rest, endpointStatus := .busy }
  | .staleKey | .staleAcceptedChannel | .notFound => { progress with batch := rest }
  | _ =>
    { progress with
      batch := [], failureStatus := released.status, endpointStatus := released.endpointStatus }

/-- The result of `ServiceDirectoryDriveDeferredAccepted`, with what its last section found. -/
def DriveProgress.result (progress : DriveProgress) (pending : Option Nat) :
    ServiceDirectoryDriveDeferredAcceptedResult :=
  match pending with
  | none => ⟨.corruptState, progress.endpointStatus, progress.releasedChannels, 0⟩
  | some count =>
    if progress.failureStatus ≠ .ok then
      ⟨progress.failureStatus, progress.endpointStatus, progress.releasedChannels, count⟩
    else if count ≠ 0 then ⟨.busy, progress.endpointStatus, progress.releasedChannels, count⟩
    else ⟨.ok, .ok, progress.releasedChannels, 0⟩

/-- The local data of `CloseEntry` in its loop: the channels not drained yet and those that could
not be. -/
structure CloseProgress where
  service : ServiceKey
  owner : ServiceInstanceToken
  count : Nat
  (pending failed : List ServiceDirectoryOwnedChannel)
  firstFailure : ServiceEndpointStatus
  drained : Nat
  deriving DecidableEq

/-- The loop body of `CloseEntry`, after `channel` was drained; `rest` is what is left of the
batch. -/
def CloseProgress.observe (progress : CloseProgress) (rest : List ServiceDirectoryOwnedChannel)
    (drained : ServiceEndpointStatus × ServiceDirectoryOwnedChannel) : CloseProgress :=
  if drained.1 = .ok then { progress with pending := rest, drained := progress.drained + 1 }
  else
    { progress with
      pending := rest, failed := progress.failed ++ [drained.2],
      firstFailure := if progress.firstFailure = .ok then drained.1 else progress.firstFailure }

inductive Call where
  | connecting (pin : ServiceDirectoryOperationPin)
  | paired (pin : ServiceDirectoryOperationPin) (receipt : ServiceEndpointOwnerReceipt)
    (acceptor : KObject)
  | queued (service : ServiceKey) (channel : ServiceEndpointChannelKey)
  | cleaning (owned : ServiceDirectoryOwnedChannel) (result : ServiceDirectoryConnectResult)
      (handleStatus : ErrorCode)
  | accepting (service : ServiceKey) (owner : ServiceInstanceToken) (serverProcess : ProcessKey)
      (credential : ServiceEndpointCredentialSnapshot)
  | claimed (key : ServiceDirectoryAcceptedChannelKey) (serverProcess : ProcessKey)
    (acceptor : Option KObject)
  | resolved (key : ServiceDirectoryAcceptedChannelKey)
  | releasing (key : ServiceDirectoryAcceptedChannelKey) (receipt : ServiceEndpointOwnerReceipt)
      (drive : Option DriveProgress)
  | released (key : ServiceDirectoryAcceptedChannelKey) (receipt : ServiceEndpointOwnerReceipt)
      (endpointStatus : ServiceEndpointStatus) (drive : Option DriveProgress)
  | driving (progress : DriveProgress)
  | closing (progress : CloseProgress)
  deriving DecidableEq

/-- The directory, the calls in progress, the rollback channels their callers hold, and what the
endpoint owner and the handle tables handed out. -/
structure State where
  directory : ServiceDirectory
  last : LastServiceGenerations
  calls : Multiset Call
  rollbacks : Multiset ServiceDirectoryOwnedChannel
  (created released : List ServiceEndpointOwnerReceipt)
  handles : List (ProcessKey × Nat)

inductive Event where
  | reserveRegistration (result : ServiceDirectoryReserveResult)
  | publishRegistration (reservation : ServiceRegistrationReservation)
    (status : ServiceDirectoryStatus)
  | commitJointReady (service : ServiceKey) (status : ServiceDirectoryStatus)
  | abortRegistration (reservation : ServiceRegistrationReservation)
    (status : ServiceDirectoryStatus)
  | lookup (result : ServiceDirectoryLookupResult)
  | releaseOperation (pin : ServiceDirectoryOperationPin) (status : ServiceDirectoryStatus)
  | connectCheck (pin : ServiceDirectoryOperationPin) (status : ServiceDirectoryStatus)
  | connectCreate (pin : ServiceDirectoryOperationPin)
      (created : Except ServiceDirectoryConnectResult ServiceEndpointOwnerReceipt)
  | connectEnqueue (pin : ServiceDirectoryOperationPin) (status : ServiceDirectoryStatus)
  | connectFinish (service : ServiceKey) (result : ServiceDirectoryConnectResult)
  | connectCleanup (owned : ServiceDirectoryOwnedChannel) (result : ServiceDirectoryConnectResult)
  | acceptCheck (service : ServiceKey) (status : ServiceDirectoryStatus)
  | acceptClaim (service : ServiceKey) (result : ServiceDirectoryAcceptResult)
  | acceptFinish (key : ServiceDirectoryAcceptedChannelKey) (published : Option Nat)
      (result : ServiceDirectoryAcceptResult)
  | releaseHandle (serverProcess : ProcessKey) (serverHandle : Nat)
    (status : ServiceDirectoryStatus)
  | releaseBegin (key : ServiceDirectoryAcceptedChannelKey) (status : ServiceDirectoryStatus)
  | releaseOwner (receipt : ServiceEndpointOwnerReceipt) (endpointStatus : ServiceEndpointStatus)
  | releaseEnd (key : ServiceDirectoryAcceptedChannelKey)
    (result : ServiceDirectoryReleaseAcceptedResult)
  | deferAcceptedProcess (serverProcess : ProcessKey)
    (result : ServiceDirectoryDeferAcceptedProcessResult)
  | driveBegin (status : ServiceDirectoryStatus)
  | driveEnd (result : ServiceDirectoryDriveDeferredAcceptedResult)
  | closeBegin (service : ServiceKey) (reason : ServiceDirectoryCloseReason)
    (result : ServiceDirectoryCloseResult)
  | closeDrain (service : ServiceKey) (owned : ServiceDirectoryOwnedChannel)
    (endpointStatus : ServiceEndpointStatus)
  | closeEnd (service : ServiceKey) (result : ServiceDirectoryCloseResult)
  | rollbackDrain (owned : ServiceDirectoryOwnedChannel) (endpointStatus : ServiceEndpointStatus)

def Event.status : Event → ServiceDirectoryStatus
  | .reserveRegistration result => result.status
  | .publishRegistration _ status | .commitJointReady _ status | .abortRegistration _ status =>
    status
  | .lookup result => result.status
  | .releaseOperation _ status | .connectCheck _ status => status
  | .connectCreate _ (.error result) => result.status
  | .connectCreate _ (.ok _) => .ok
  | .connectEnqueue _ status => status
  | .connectFinish _ result | .connectCleanup _ result => result.status
  | .acceptCheck _ status => status
  | .acceptClaim _ result | .acceptFinish _ _ result => result.status
  | .releaseHandle _ _ status | .releaseBegin _ status => status
  | .releaseOwner .. => .ok
  | .releaseEnd _ result => result.status
  | .deferAcceptedProcess _ result => result.status
  | .driveBegin status => status
  | .driveEnd result => result.status
  | .closeBegin _ _ result | .closeEnd _ result => result.status
  | .closeDrain .. | .rollbackDrain .. => .ok

/-- What `ServiceEndpointReleaseOwner` returned leaves the state with one more released receipt, or
as it is. -/
def State.releaseOwner (s : State) (receipt : ServiceEndpointOwnerReceipt)
    (endpointStatus : ServiceEndpointStatus) : State :=
  if endpointStatus = .ok then { s with released := receipt :: s.released } else s

/-- `ErrorCode` of a rollback that was safe or not. -/
def rollbackCode (safe : Bool) : ErrorCode := if safe then .ok else .badState

/-- How `ServiceDirectoryConnect` goes on after the pair was not enqueued, `aborted` telling whether
the handle reservation could be aborted. -/
def connectRejected (receipt : ServiceEndpointOwnerReceipt) (acceptor : KObject)
    (status : ServiceDirectoryStatus) (aborted : Bool) : Call :=
  .cleaning ⟨receipt, some acceptor, false⟩
    (connectFailure (if aborted then status else .handleRollbackFailed) .ok (rollbackCode aborted))
    (rollbackCode aborted)

/-- How `ServiceDirectoryConnect` ends when it took the queue entry `removed` back, or found none:
with its result, or by draining the channel. -/
def connectCleanup (removed : Option ServiceDirectoryQueuedChannel)
    (result : ServiceDirectoryConnectResult)
    (handleStatus : ErrorCode) : Multiset Call :=
  match removed with
  | none => 0
  | some queued => {.cleaning queued.owned result handleStatus}

def connectUnpublished (corrupt aborted : Bool) (error : ErrorCode) :
    ServiceDirectoryConnectResult :=
  if corrupt then connectFailure .corruptState
  else connectFailure (if aborted then .handlePublishFailed else .handleRollbackFailed) .ok error

def connectCommitted (commit : ConnectCommit) (channel : ServiceEndpointChannelKey)
    (clientHandle : Nat)
    (activationStatus : ServiceEndpointStatus) (detached : Bool) : ServiceDirectoryConnectResult :=
  if commit.corrupt then connectFailure .corruptState
  else if commit.readyCommitted then ⟨.ok, .ok, .ok, clientHandle, ⟨channel, .initiator⟩, .zero⟩
  else if ¬detached then connectFailure .handleRollbackFailed activationStatus .badState
  else
    connectFailure (if commit.closingObserved ∨ activationStatus = .ok then .closing
      else .endpointActivationFailed)
      activationStatus

/-- The result of `ServiceDirectoryAccept` after its last section; `safe` tells whether the handle
table could take the reservation or the handle back. -/
def acceptCommitted (commit : AcceptCommit) (key : ServiceDirectoryAcceptedChannelKey)
    (published : Except ErrorCode Nat) (safe : Bool) : ServiceDirectoryAcceptResult :=
  if commit.corrupt then acceptFailure .corruptState
  else
    match published with
    | .ok handle =>
      if commit.committed then ⟨.ok, .ok, .ok, handle, ⟨key.channel, .acceptor⟩, key⟩
      else acceptFailure (if safe then .closing else .handleRollbackFailed) .ok (rollbackCode safe)
    | .error error =>
      acceptFailure (if safe then (if commit.restored then .handlePublishFailed else .closing)
        else .handleRollbackFailed) .ok error

/-- Who calls `ServiceDirectoryReleaseAcceptedChannel` with `key`: a client,
`ServiceDirectoryReleaseAcceptedHandle`, or the loop of `ServiceDirectoryDriveDeferredAccepted`. -/
inductive Releases : ServiceDirectoryAcceptedChannelKey → Option DriveProgress → Multiset Call →
    Prop where
  | client : Releases key none 0
  | handle : Releases key none {.resolved key}
  | drive {key rest progress} : progress.batch = key :: rest →
    Releases key (some { progress with batch := rest }) {.driving progress}

def resume (drive : Option DriveProgress) (result : ServiceDirectoryReleaseAcceptedResult) :
    Multiset Call :=
  match drive with
  | none => 0
  | some progress => {.driving (progress.observe progress.batch result)}

/-- The caller gets the channel it has to drain itself. -/
def returnedRollback (drained : ServiceEndpointStatus × ServiceDirectoryOwnedChannel) :
    Multiset ServiceDirectoryOwnedChannel :=
  if drained.1 = .ok then 0 else {drained.2}

def connectCleaned (drained : ServiceEndpointStatus × ServiceDirectoryOwnedChannel)
    (result : ServiceDirectoryConnectResult) (handleStatus : ErrorCode) :
    ServiceDirectoryConnectResult :=
  if drained.1 = .ok then result
  else connectFailure .endpointReleaseFailed drained.1 handleStatus drained.2

/-- The endpoint owner is asked to release only a channel that `ServiceDirectoryDrainOwnedChannel`
does not refuse. -/
def drainable (owned : ServiceDirectoryOwnedChannel) : Bool :=
  serviceEndpointOwnerReceiptIsValid owned.owner ∧ ¬owned.releaseDriverActive

def State.drain (s : State) (owned : ServiceDirectoryOwnedChannel)
    (endpointStatus : ServiceEndpointStatus) : State :=
  if drainable owned then s.releaseOwner owned.owner endpointStatus else s

inductive Step : State → Event → State → Prop where
  | reserveRegistration name manifestSlot owner credential :
    serviceDirectoryReserveRegistration s.directory s.last name manifestSlot owner credential =
      (result, directory, last) →
    Step s (.reserveRegistration result) { s with directory, last }
  | publishRegistration reservation owner :
    serviceDirectoryPublishRegistration s.directory reservation owner = (status, directory) →
    Step s (.publishRegistration reservation status) { s with directory }
  | commitJointReady service owner :
    serviceDirectoryCommitJointReady s.directory service owner = (status, directory) →
    Step s (.commitJointReady service status) { s with directory }
  | abortRegistration reservation owner :
    serviceDirectoryAbortRegistration s.directory reservation owner = (status, directory) →
    Step s (.abortRegistration reservation status) { s with directory }
  | lookup name : serviceDirectoryLookup s.directory name = (result, directory) →
    Step s (.lookup result) { s with directory }
  | releaseOperation pin :
    serviceDirectoryReleaseOperation s.directory pin = (status, directory) →
    Step s (.releaseOperation pin status) { s with directory }
  | connectRefused pin identity : connectCheck s.directory pin identity ≠ .ok →
    Step s (.connectCheck pin (connectCheck s.directory pin identity)) s
  | connectCheck pin identity : connectCheck s.directory pin identity = .ok →
    Step s (.connectCheck pin .ok) { s with calls := .connecting pin ::ₘ s.calls }
  | handleReserveFailed error : s.calls = .connecting pin ::ₘ calls →
    Step s (.connectCreate pin (.error (connectFailure .handleReserveFailed .ok error)))
      { s with calls }
  | endpointCreateFailed endpointStatus aborted :
    s.calls = .connecting pin ::ₘ calls → endpointStatus ≠ ServiceEndpointStatus.ok →
    Step s (.connectCreate pin (.error (connectFailure
        (if aborted then .endpointCreateFailed else .handleRollbackFailed) endpointStatus
        (rollbackCode aborted))))
      { s with calls }
  | connectCreate receipt acceptor : s.calls = .connecting pin ::ₘ calls →
    serviceEndpointOwnerReceiptIsValid receipt → receipt.owner = s.directory.endpointOwner →
    receipt ∉ s.created →
    Step s (.connectCreate pin (.ok receipt))
      { s with calls := .paired pin receipt acceptor ::ₘ calls, created := receipt :: s.created }
  | connectRejected aborted :
    s.calls = .paired pin receipt acceptor ::ₘ calls →
    connectEnqueue s.directory pin receipt acceptor = (status, directory) → status ≠ .ok →
    Step s (.connectEnqueue pin status) { s with
        directory, calls := connectRejected receipt acceptor status aborted ::ₘ calls }
  | connectEnqueue : s.calls = .paired pin receipt acceptor ::ₘ calls →
    connectEnqueue s.directory pin receipt acceptor = (.ok, directory) →
    Step s (.connectEnqueue pin .ok)
      { s with directory, calls := .queued pin.service receipt.channel ::ₘ calls }
  | connectUnpublish error aborted :
    s.calls = .queued service channel ::ₘ calls →
    connectUnpublish s.directory service channel = (corrupt, removed, directory) →
    Step s (.connectFinish service (connectUnpublished corrupt aborted error)) { s with
        directory
        calls := (if corrupt then 0
          else connectCleanup removed (connectUnpublished corrupt aborted error) error) + calls }
  | connectCommit clientHandle activationStatus detached :
    s.calls = .queued service channel ::ₘ calls →
    connectCommit s.directory service channel (activationStatus = ServiceEndpointStatus.ok) =
      (commit, directory) →
    Step s (.connectFinish service
      (connectCommitted commit channel clientHandle activationStatus detached)) { s with
        directory
        calls := (if commit.corrupt then 0
          else connectCleanup commit.removed
            (connectCommitted commit channel clientHandle activationStatus detached)
            (rollbackCode detached)) + calls }
  | connectCleanup endpointStatus :
    s.calls = .cleaning owned result handleStatus ::ₘ calls →
    Step s (.connectCleanup owned
      (connectCleaned (serviceDirectoryDrainOwnedChannel owned endpointStatus)
        result handleStatus))
      ({ s with
        calls
        rollbacks := returnedRollback (serviceDirectoryDrainOwnedChannel owned endpointStatus) +
          s.rollbacks }.drain owned endpointStatus)
  | rollbackDrain endpointStatus : s.rollbacks = owned ::ₘ rollbacks →
    Step s (.rollbackDrain owned endpointStatus) ({ s with
        rollbacks := returnedRollback (serviceDirectoryDrainOwnedChannel owned endpointStatus) +
          rollbacks }.drain owned endpointStatus)
  | acceptRefused service owner serverProcess credential :
    acceptCheck s.directory service owner serverProcess credential ≠ .ok →
    Step s (.acceptCheck service (acceptCheck s.directory service owner serverProcess credential)) s
  | acceptCheck service owner serverProcess credential :
    acceptCheck s.directory service owner serverProcess credential = .ok →
    Step s (.acceptCheck service .ok)
      { s with calls := .accepting service owner serverProcess credential ::ₘ s.calls }
  | acceptReserveFailed error :
    s.calls = .accepting service owner serverProcess credential ::ₘ calls →
    Step s (.acceptClaim service (acceptFailure .handleReserveFailed .ok error)) { s with calls }
  | acceptUnclaimed aborted :
    s.calls = .accepting service owner serverProcess credential ::ₘ calls →
    acceptClaim s.directory service owner serverProcess credential = (.error status, directory) →
    Step s (.acceptClaim service
      (acceptFailure (if aborted then status else .handleRollbackFailed) .ok
        (rollbackCode aborted)))
      { s with directory, calls }
  | acceptClaim :
    s.calls = .accepting service owner serverProcess credential ::ₘ calls →
    acceptClaim s.directory service owner serverProcess credential =
      (.ok (key, acceptor), directory) →
    Step s (.acceptClaim service (acceptFailure .ok))
      { s with directory, calls := .claimed key serverProcess acceptor ::ₘ calls }
  | acceptUnpublished {s calls key serverProcess acceptor commit directory} error aborted :
    s.calls = .claimed key serverProcess acceptor ::ₘ calls →
    acceptCommit s.directory key none acceptor = (commit, directory) →
    Step s (.acceptFinish key none (acceptCommitted commit key (.error error) aborted))
      { s with directory, calls }
  | acceptPublished handle detached :
    s.calls = .claimed key serverProcess acceptor ::ₘ calls →
    handle ≠ kHandleInvalid → (serverProcess, handle) ∉ s.handles →
    acceptCommit s.directory key (some handle) acceptor = (commit, directory) →
    Step s (.acceptFinish key (some handle) (acceptCommitted commit key (.ok handle) detached))
      { s with directory, calls, handles := (serverProcess, handle) :: s.handles }
  | handleUnresolved serverProcess serverHandle result :
    releaseHandleResolve s.directory serverProcess serverHandle = .error result →
    Step s (.releaseHandle serverProcess serverHandle result.status) s
  | handleResolved serverProcess serverHandle key :
    releaseHandleResolve s.directory serverProcess serverHandle = .ok key →
    Step s (.releaseHandle serverProcess serverHandle .ok)
      { s with calls := .resolved key ::ₘ s.calls }
  | releaseRefused :
    Releases key drive caller → s.calls = caller + calls →
    releaseBegin s.directory key = (.error result, directory) →
    Step s (.releaseBegin key result.status)
      { s with directory, calls := resume drive result + calls }
  | releaseBegin : Releases key drive caller → s.calls = caller + calls →
    releaseBegin s.directory key = (.ok receipt, directory) →
    Step s (.releaseBegin key .ok)
      { s with directory, calls := .releasing key receipt drive ::ₘ calls }
  | releaseOwner endpointStatus : s.calls = .releasing key receipt drive ::ₘ calls →
    Step s (.releaseOwner receipt endpointStatus)
      ({ s with calls := .released key receipt endpointStatus drive ::ₘ calls }.releaseOwner receipt
        endpointStatus)
  | releaseEnd :
    s.calls = .released key receipt endpointStatus drive ::ₘ calls →
    releaseEnd s.directory key endpointStatus = (result, directory) →
    Step s (.releaseEnd key result) { s with directory, calls := resume drive result + calls }
  | deferAcceptedProcess serverProcess :
    serviceDirectoryDeferAcceptedProcess s.directory serverProcess = (result, directory) →
    Step s (.deferAcceptedProcess serverProcess result) { s with directory }
  | driveRefused : driveBegin s.directory = (.error status, directory) →
    Step s (.driveBegin status) { s with directory }
  | driveBegin {s batch directory} : driveBegin s.directory = (.ok batch, directory) →
    Step s (.driveBegin .ok)
      { s with directory, calls := .driving ⟨batch, 0, .ok, .ok⟩ ::ₘ s.calls }
  | driveEnd : s.calls = .driving progress ::ₘ calls → progress.batch = [] →
    Step s (.driveEnd (progress.result (drivePending s.directory))) { s with calls }
  | closeRefused service owner reason :
    closeBegin s.directory service owner reason = (.error result, directory) →
    Step s (.closeBegin service reason result) { s with directory }
  | closeBegin service owner reason :
    closeBegin s.directory service owner reason = (.ok batch, directory) →
    Step s (.closeBegin service reason ⟨.ok, .ok, 0⟩) { s with
        directory, calls := .closing ⟨service, owner, batch.length, batch, [], .ok, 0⟩ ::ₘ s.calls }
  | closeDrain endpointStatus :
    s.calls = .closing progress ::ₘ calls → progress.pending = owned :: rest →
    Step s (.closeDrain progress.service owned endpointStatus) ({ s with
        calls := .closing (progress.observe rest
          (serviceDirectoryDrainOwnedChannel owned endpointStatus)) ::ₘ calls }.drain owned
            endpointStatus)
  | closeEnd : s.calls = .closing progress ::ₘ calls → progress.pending = [] →
    closeEnd s.directory progress.service progress.owner progress.count progress.failed
      progress.firstFailure progress.drained = (result, directory) →
    Step s (.closeEnd progress.service result) { s with directory, calls }

abbrev Run := Lts.Run Step

/-- The directory right after `ServiceDirectoryInitialize`, with nothing in progress. -/
structure Initialized (s : State) : Prop where
  initialized : s.directory.initialized = kDirectoryInitializeReady
  state : s.directory.state = .open
  endpointOwner : s.directory.endpointOwner ≠ 0
  deferredScanHint : s.directory.deferredScanHint = 0
  rows : ∀ index, s.directory.rows index = .zero .empty
  last : ∀ slot, s.last slot ≤ kServiceKeyGenerationMaximum
  calls : s.calls = 0
  rollbacks : s.rollbacks = 0
  created : s.created = []
  released : s.released = []
  handles : s.handles = []

end DuetOS.Directory
