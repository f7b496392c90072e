import DuetOS.Directory.Status
import DuetOS.Lib.Lts
import DuetOS.Lib.Search
import DuetOS.Lifecycle.Transition
import Mathlib.Data.List.FinRange

/-!
# The service lifecycle broker

`ServiceLifecycleBroker` keeps one row for each managed service: its transition, the state of a
private builder, whether it is ready, and telemetry. Every operation is one section under the broker
lock. The rows `service_count` and beyond are unused.

`CommitDirectoryPublication` and `MarkReady` call the service directory under that lock; here they
take the status it returned. The directory writes `row.ready` exactly when it returns Ok.
-/

namespace DuetOS.Lifecycle

open Word DuetOS.Directory

def kServiceManifestMaximumServices : Nat := 64

def kServiceManifestMaximumDependencies : Nat := 256

def kServiceManifestV1HeaderBytes : Nat := 64

def kServiceManifestV1ServiceBytes : Nat := 256

def kServiceManifestV1DependencyBytes : Nat := 16

def kServiceLifecycleCapacity : Nat := kServiceManifestMaximumServices

def kServiceLifecycleInvalidBrokerEpoch : Nat := 0

def serviceManifestEncodedSizeV1 (serviceCount dependencyCount : Nat) : Nat :=
  if serviceCount > kServiceManifestMaximumServices ∨
    dependencyCount > kServiceManifestMaximumDependencies then 0
  else kServiceManifestV1HeaderBytes + serviceCount * kServiceManifestV1ServiceBytes +
    dependencyCount * kServiceManifestV1DependencyBytes

structure ServiceLifecycleStartTicket where
  brokerEpoch : Nat
  transition : ServiceStartTicket
  deriving DecidableEq

def kInvalidServiceLifecycleStartTicket : ServiceLifecycleStartTicket :=
  ⟨kServiceLifecycleInvalidBrokerEpoch, kInvalidServiceStartTicket⟩

def serviceLifecycleStartTicketIsValid (ticket : ServiceLifecycleStartTicket) : Bool :=
  ticket.brokerEpoch ≠ kServiceLifecycleInvalidBrokerEpoch ∧
    serviceStartTicketIsValid ticket.transition

structure ServiceLifecycleInstanceToken where
  start : ServiceLifecycleStartTicket
  process : ServiceInstanceKey
  deriving DecidableEq

def kInvalidServiceLifecycleInstanceToken : ServiceLifecycleInstanceToken :=
  ⟨kInvalidServiceLifecycleStartTicket, kInvalidServiceInstanceKey⟩

def serviceLifecycleInstanceTokenIsValid (token : ServiceLifecycleInstanceToken) : Bool :=
  serviceLifecycleStartTicketIsValid token.start ∧ serviceInstanceKeyIsValid token.process

inductive ServiceLifecycleBrokerState where
  | uninitialized | open | draining | closed
  deriving DecidableEq

inductive ServiceLifecycleStatus where
  | ok | nullArgument | aliasedOutput | invalidManifestPlan | invalidBrokerEpoch
  | alreadyInitialized
  | notInitialized | closed | draining | corruptState | notFound | staleGeneration
  | staleBrokerEpoch
  | invalidTimestamp | alreadyRequested | stopInProgress | generationExhausted | transitionRejected
  | alreadyStopped | startCancelled | killRequired | alreadyStopping | startRetirementPending
  | dependencyNotReady | busy
  deriving DecidableEq

inductive ServiceLifecycleBuilderState where
  | none | constructing | cancelledAwaitingRetirement
  deriving DecidableEq

structure ServiceLifecycleRow where
  transition : ServiceTransitionState
  (dependencyMask lastTransitionNs successfulPublications spawnFailures observedExits : Nat)
  failedExits : Nat
  builderState : ServiceLifecycleBuilderState
  ready : Bool
  (reserved8 reserved16 reserved32 : Nat)
  deriving DecidableEq

structure ServiceLifecycleBroker where
  state : ServiceLifecycleBrokerState
  (initialized serviceCount dependencyCount reserved16 brokerEpoch manifestIdentity : Nat)
  manifestAuthorityIdentity : Nat
  manifestObjectHash : List Nat
  manifestObjectExtent : Nat
  rows : Fin kServiceLifecycleCapacity → ServiceLifecycleRow

def hashIsNonZero (hash : List Nat) : Bool :=
  hash.foldl (fun aggregate byte => aggregate ||| byte) 0 ≠ 0

section

variable (broker : ServiceLifecycleBroker) (index : Fin kServiceLifecycleCapacity)
  (row : ServiceLifecycleRow)
  (serviceIdentity expectedGeneration nowNs : Nat)

def builderStateIsCanonical : Bool :=
  match row.builderState with
  | .none => row.transition.phase ≠ .starting
  | .constructing => row.transition.phase = .starting
  | .cancelledAwaitingRetirement => row.transition.generation ≠ 0 ∧
      (row.transition.phase = .stopped ∨ row.transition.phase = .generationExhausted)

def brokerHeaderIsCanonical : Bool :=
  if broker.initialized ≠ 1 ∨ broker.serviceCount = 0 ∨
    broker.serviceCount > kServiceLifecycleCapacity ∨
      broker.dependencyCount > kServiceManifestMaximumDependencies ∨ broker.reserved16 ≠ 0 ∨
      broker.brokerEpoch = kServiceLifecycleInvalidBrokerEpoch ∨ broker.manifestIdentity = 0 ∨
      broker.manifestAuthorityIdentity = 0 ∨ ¬hashIsNonZero broker.manifestObjectHash ∨
      broker.manifestObjectExtent ≠
        serviceManifestEncodedSizeV1 broker.serviceCount broker.dependencyCount then false
  else broker.state = .open ∨ broker.state = .draining ∨ broker.state = .closed

/-- The identity of the row before `index`, or 0 for the first one. -/
def previousIdentity : Nat :=
  if h : 0 < index.val then
    (broker.rows ⟨index.val - 1, by omega⟩).transition.serviceIdentity
  else 0

def brokerRowIsCanonical : Bool :=
  let row := broker.rows index
  let phase := row.transition.phase
  -- `(1 << service_count) - 1`, which is all ones for 64 services
  let validMask := 2 ^ broker.serviceCount - 1
  if ¬serviceTransitionIsCanonical row.transition ∨
    row.transition.serviceIdentity ≤ previousIdentity broker index ∨
      ¬builderStateIsCanonical row ∨ row.reserved8 ≠ 0 ∨ row.reserved16 ≠ 0 ∨ row.reserved32 ≠ 0 ∨
      row.dependencyMask &&& (max64 ^^^ validMask) ≠ 0 ∨ row.dependencyMask.testBit index ∨
      row.failedExits > row.observedExits ∨ row.observedExits > row.successfulPublications ∨
      row.successfulPublications > row.transition.generation ∨
      row.spawnFailures > row.transition.generation ∨
      row.successfulPublications + row.spawnFailures > row.transition.generation then false
  else if row.ready ∧ (phase ≠ .running ∨ ¬serviceInstanceKeyIsValid row.transition.instance ∨
      row.builderState ≠ .none) then false
  else if broker.state ≠ .open ∧ (phase = .starting ∨ phase = .running) then false
  else if broker.state = .closed ∧ (phase = .stopping ∨ row.builderState ≠ .none) then false
  else true

def brokerRowsAreCanonical : Bool :=
  ∀ index : Fin kServiceLifecycleCapacity, index.val < broker.serviceCount →
    brokerRowIsCanonical broker index

def brokerIsCanonical : Bool :=
  brokerHeaderIsCanonical broker ∧ brokerRowsAreCanonical broker

def dependenciesAreRunningLocked : Bool :=
  ∀ index : Fin kServiceLifecycleCapacity, index.val < broker.serviceCount →
    row.dependencyMask.testBit index →
    (broker.rows index).transition.phase = .running ∧
      serviceInstanceKeyIsValid (broker.rows index).transition.instance ∧
      (broker.rows index).builderState = .none ∧ (broker.rows index).ready

/-- The identity of row `index`, for the search below. -/
def identityAt (index : Nat) : Nat :=
  if h : index < kServiceLifecycleCapacity then (broker.rows ⟨index, h⟩).transition.serviceIdentity
  else 0

def findBrokerIndex (identity : Nat) : Option (Fin kServiceLifecycleCapacity) :=
  let low := Search.lowerBound (identityAt broker) identity 0 broker.serviceCount
  if h : low < kServiceLifecycleCapacity then
    if low < broker.serviceCount ∧ identityAt broker low = identity then some ⟨low, h⟩ else none
  else none

def incrementSaturating (value : Nat) : Nat :=
  if value ≠ max32 then add32 value 1 else value

structure ServiceLifecycleStartResult where
  status : ServiceLifecycleStatus
  ticket : ServiceLifecycleStartTicket
  deriving DecidableEq

structure ServiceLifecyclePublicationResult where
  status : ServiceLifecycleStatus
  token : ServiceLifecycleInstanceToken
  deriving DecidableEq

structure ServiceLifecycleDirectoryPublicationResult where
  lifecycleStatus : ServiceLifecycleStatus
  directoryStatus : ServiceDirectoryStatus
  token : ServiceLifecycleInstanceToken
  deriving DecidableEq

structure ServiceLifecycleDirectoryReadyResult where
  lifecycleStatus : ServiceLifecycleStatus
  directoryStatus : ServiceDirectoryStatus
  deriving DecidableEq

structure ServiceLifecycleStopResult where
  status : ServiceLifecycleStatus
  instanceToKill : ServiceLifecycleInstanceToken
  startToCancel : ServiceLifecycleStartTicket
  deriving DecidableEq

/-- The first `kill_count` instances and the first `cancel_count` starts of the plan. -/
structure ServiceLifecycleDrainPlan where
  instances : List ServiceLifecycleInstanceToken
  cancelledStarts : List ServiceLifecycleStartTicket
  deriving DecidableEq

def startFailure (status : ServiceLifecycleStatus) : ServiceLifecycleStartResult :=
  ⟨status, kInvalidServiceLifecycleStartTicket⟩

def publicationFailure (status : ServiceLifecycleStatus) : ServiceLifecyclePublicationResult :=
  ⟨status, kInvalidServiceLifecycleInstanceToken⟩

def directoryPublicationFailure (lifecycleStatus : ServiceLifecycleStatus)
    (directoryStatus : ServiceDirectoryStatus) : ServiceLifecycleDirectoryPublicationResult :=
  ⟨lifecycleStatus, directoryStatus, kInvalidServiceLifecycleInstanceToken⟩

def directoryReadyFailure (lifecycleStatus : ServiceLifecycleStatus)
    (directoryStatus : ServiceDirectoryStatus) : ServiceLifecycleDirectoryReadyResult :=
  ⟨lifecycleStatus, directoryStatus⟩

def stopFailure (status : ServiceLifecycleStatus) : ServiceLifecycleStopResult :=
  ⟨status, kInvalidServiceLifecycleInstanceToken, kInvalidServiceLifecycleStartTicket⟩

def validateTicketEpoch (ticket : ServiceLifecycleStartTicket) : ServiceLifecycleStatus :=
  if ¬serviceLifecycleStartTicketIsValid ticket then .transitionRejected
  else if ticket.brokerEpoch = broker.brokerEpoch then .ok
  else .staleBrokerEpoch

def validateTokenEpoch (token : ServiceLifecycleInstanceToken) : ServiceLifecycleStatus :=
  if ¬serviceLifecycleInstanceTokenIsValid token then .transitionRejected
  else if token.start.brokerEpoch = broker.brokerEpoch then .ok
  else .staleBrokerEpoch

def readyBroker : ServiceLifecycleStatus :=
  if broker.initialized ≠ 1 then .notInitialized else .ok

def ServiceLifecycleBroker.setRow : ServiceLifecycleBroker :=
  { broker with rows := Function.update broker.rows index row }

/-- The checks the operations on one row share, in the order they make them: the broker is
initialised, canonical, grants the ticket or token, is not closed (or draining, where that matters),
and has a row with this identity at this generation. -/
def admitCaller (authority : ServiceLifecycleStatus) (identity generation : Nat)
    (refuseDraining : Bool) :
    Except ServiceLifecycleStatus (Fin kServiceLifecycleCapacity) :=
  if readyBroker broker ≠ .ok then .error (readyBroker broker)
  else if ¬brokerIsCanonical broker then .error .corruptState
  else if authority ≠ .ok then .error authority
  else if broker.state = .closed then .error .closed
  else if refuseDraining ∧ broker.state = .draining then .error .draining
  else
    match findBrokerIndex broker identity with
    | none => .error .notFound
    | some index =>
      if (broker.rows index).transition.generation ≠ generation then .error .staleGeneration
      else .ok index

def reserveStartLocked (requireDependencies : Bool) :
    ServiceLifecycleStartResult × ServiceLifecycleBroker :=
  match admitCaller broker .ok serviceIdentity expectedGeneration true with
  | .error status => (startFailure status, broker)
  | .ok index =>
    let row := broker.rows index
    if nowNs < row.lastTransitionNs then (startFailure .invalidTimestamp, broker)
    else if row.builderState = .cancelledAwaitingRetirement then
      (startFailure .startRetirementPending, broker)
    else if requireDependencies ∧ ¬dependenciesAreRunningLocked broker row then
      (startFailure .dependencyNotReady, broker)
    else
      match serviceTransitionReserveStart row.transition with
      | (.reserved, ticket, transition) =>
        (⟨.ok, ⟨broker.brokerEpoch, ticket⟩⟩, broker.setRow index { row with
            transition, builderState := .constructing, ready := false, lastTransitionNs := nowNs })
      | (.alreadyRequested, _, transition) =>
        (startFailure .alreadyRequested, broker.setRow index { row with transition })
      | (.stopInProgress, _, transition) =>
        (startFailure .stopInProgress, broker.setRow index { row with transition })
      | (.generationExhausted, _, transition) =>
        (startFailure .generationExhausted, broker.setRow index { row with
            transition
            lastTransitionNs :=
              if row.transition.phase ≠ .generationExhausted then nowNs else row.lastTransitionNs })
      | (.rejected, _, transition) =>
        (startFailure .transitionRejected, broker.setRow index { row with transition })

def serviceLifecycleBrokerReserveStart : ServiceLifecycleStartResult × ServiceLifecycleBroker :=
  reserveStartLocked broker serviceIdentity expectedGeneration nowNs false

def serviceLifecycleBrokerReserveStartWithDependencies :
    ServiceLifecycleStartResult × ServiceLifecycleBroker :=
  reserveStartLocked broker serviceIdentity expectedGeneration nowNs true

/-- `admitCaller` for the holder of a start ticket. -/
def admitTicket (ticket : ServiceLifecycleStartTicket) (refuseDraining : Bool)
    : Except ServiceLifecycleStatus (Fin kServiceLifecycleCapacity) :=
  admitCaller broker (validateTicketEpoch broker ticket) ticket.transition.serviceIdentity
    ticket.transition.generation refuseDraining

/-- `admitCaller` for the holder of an instance token. -/
def admitToken (token : ServiceLifecycleInstanceToken) (refuseDraining : Bool)
    : Except ServiceLifecycleStatus (Fin kServiceLifecycleCapacity) :=
  admitCaller broker (validateTokenEpoch broker token) token.start.transition.serviceIdentity
    token.start.transition.generation refuseDraining

def serviceLifecycleBrokerRecordSpawnFailure (ticket : ServiceLifecycleStartTicket) (nowNs : Nat) :
    ServiceLifecycleStatus × ServiceLifecycleBroker :=
  match admitTicket broker ticket false with
  | .error status => (status, broker)
  | .ok index =>
    let row := broker.rows index
    let failed := serviceTransitionRecordSpawnFailure row.transition ticket.transition
    if nowNs < row.lastTransitionNs then (.invalidTimestamp, broker)
    else if row.builderState = .cancelledAwaitingRetirement then (.startRetirementPending, broker)
    else if row.builderState ≠ .constructing ∨
      failed.1 ≠ .applied then (.transitionRejected, broker)
    else
      (.ok, broker.setRow index { row with
          transition := failed.2, builderState := .none, ready := false, lastTransitionNs := nowNs,
          spawnFailures := incrementSaturating row.spawnFailures })

def serviceLifecycleBrokerAcknowledgeCancelledStart (ticket : ServiceLifecycleStartTicket)
    (nowNs : Nat) :
    ServiceLifecycleStatus × ServiceLifecycleBroker :=
  match admitTicket broker ticket false with
  | .error status => (status, broker)
  | .ok index =>
    let row := broker.rows index
    if nowNs < row.lastTransitionNs then (.invalidTimestamp, broker)
    else if row.builderState ≠ .cancelledAwaitingRetirement then (.transitionRejected, broker)
    else
      (.ok, broker.setRow index
        { row with builderState := .none, ready := false, lastTransitionNs := nowNs })

def ServiceLifecycleRow.published (transition : ServiceTransitionState) (nowNs : Nat) :
    ServiceLifecycleRow :=
  { row with
    transition, builderState := .none, ready := false, lastTransitionNs := nowNs,
    successfulPublications := incrementSaturating row.successfulPublications }

def serviceLifecycleBrokerCommitPublication (ticket : ServiceLifecycleStartTicket)
    («instance» : ServiceInstanceKey)
    (nowNs : Nat) : ServiceLifecyclePublicationResult × ServiceLifecycleBroker :=
  match admitTicket broker ticket true with
  | .error status => (publicationFailure status, broker)
  | .ok index =>
    let row := broker.rows index
    let committed :=
      serviceTransitionCommitAtSchedulerPublication row.transition ticket.transition «instance»
    if nowNs < row.lastTransitionNs then (publicationFailure .invalidTimestamp, broker)
    else if row.builderState ≠ .constructing ∨ committed.1 ≠ .published then
      (publicationFailure .transitionRejected, broker)
    else (⟨.ok, ⟨ticket, «instance»⟩⟩, broker.setRow index (row.published committed.2 nowNs))

/-- `UnpublishedPublicationRollbackToken`, while it is valid. -/
structure UnpublishedPublicationRollbackToken where
  brokerEpoch : Nat
  rowIndex : Fin kServiceLifecycleCapacity
  ticket : ServiceLifecycleStartTicket
  «instance» : ServiceInstanceKey
  priorRow : ServiceLifecycleRow

def rollbackUnpublishedPublicationLocked (rollback : UnpublishedPublicationRollbackToken) :
    ServiceLifecycleStatus × ServiceLifecycleBroker :=
  if rollback.brokerEpoch ≠ broker.brokerEpoch ∨ rollback.rowIndex.val ≥ broker.serviceCount ∨
      ¬serviceLifecycleStartTicketIsValid rollback.ticket ∨
      ¬serviceInstanceKeyIsValid rollback.instance then (.transitionRejected, broker)
  else
    let row := broker.rows rollback.rowIndex
    let expectedPublications :=
      if rollback.priorRow.successfulPublications = max32 then max32
      else add32 rollback.priorRow.successfulPublications 1
    if row.transition.serviceIdentity ≠ rollback.ticket.transition.serviceIdentity ∨
        row.transition.generation ≠ rollback.ticket.transition.generation ∨
        row.builderState ≠ .none ∨
        ¬serviceTransitionIsCurrentRunning row.transition
          ⟨rollback.ticket.transition, rollback.instance⟩ ∨
        row.successfulPublications ≠ expectedPublications ∨
        ¬serviceTransitionIsCurrentStart rollback.priorRow.transition rollback.ticket.transition ∨
        rollback.priorRow.builderState ≠ .constructing then (.transitionRejected, broker)
    else (.ok, broker.setRow rollback.rowIndex rollback.priorRow)

/-- C++ `ServiceLifecycleBrokerCommitDirectoryPublication`, when
`ServiceDirectoryPublishRegistration` returns `directoryStatus`. -/
def serviceLifecycleBrokerCommitDirectoryPublication (ticket : ServiceLifecycleStartTicket)
    («instance» : ServiceInstanceKey) (nowNs : Nat) (reservationIsValid : Bool)
    (directoryStatus : ServiceDirectoryStatus) :
    ServiceLifecycleDirectoryPublicationResult × ServiceLifecycleBroker :=
  if ¬reservationIsValid then (directoryPublicationFailure .nullArgument .ok, broker)
  else
    match admitTicket broker ticket true with
    | .error status => (directoryPublicationFailure status .ok, broker)
    | .ok index =>
      let row := broker.rows index
      let committed :=
        serviceTransitionCommitAtSchedulerPublication row.transition ticket.transition «instance»
      if nowNs < row.lastTransitionNs then
        (directoryPublicationFailure .invalidTimestamp .ok, broker)
      else if row.builderState ≠ .constructing ∨
          ¬serviceTransitionIsCurrentStart row.transition ticket.transition then
        (directoryPublicationFailure .transitionRejected .ok, broker)
      else if committed.1 ≠ .published then
        (directoryPublicationFailure .transitionRejected .ok, broker)
      else
        let published := broker.setRow index (row.published committed.2 nowNs)
        if directoryStatus ≠ .ok then
          let rollback := rollbackUnpublishedPublicationLocked published
            ⟨broker.brokerEpoch, index, ticket, «instance», row⟩
          (directoryPublicationFailure rollback.1 directoryStatus, rollback.2)
        else (⟨.ok, .ok, ⟨ticket, «instance»⟩⟩, published)

/-- C++ `ServiceLifecycleBrokerMarkReady`, when `ServiceDirectoryCommitJointReady` returns
`directoryStatus`. -/
def serviceLifecycleBrokerMarkReady (token : ServiceLifecycleInstanceToken)
    (directoryStatus : ServiceDirectoryStatus)
    : ServiceLifecycleDirectoryReadyResult × ServiceLifecycleBroker :=
  match admitToken broker token true with
  | .error status => (directoryReadyFailure status .ok, broker)
  | .ok index =>
    let row := broker.rows index
    if row.builderState ≠ .none ∨
        ¬serviceTransitionIsCurrentRunning row.transition
          ⟨token.start.transition, token.process⟩ then
      (directoryReadyFailure .transitionRejected .ok, broker)
    else if directoryStatus ≠ .ok then (directoryReadyFailure .ok directoryStatus, broker)
    else (⟨.ok, .ok⟩, broker.setRow index { row with ready := true })

def ServiceLifecycleRow.stopped (transition : ServiceTransitionState)
    (builderState : ServiceLifecycleBuilderState)
    (nowNs : Nat) : ServiceLifecycleRow :=
  { row with transition, builderState, ready := false, lastTransitionNs := nowNs }

def serviceLifecycleBrokerRequestStop : ServiceLifecycleStopResult × ServiceLifecycleBroker :=
  match admitCaller broker .ok serviceIdentity expectedGeneration false with
  | .error status => (stopFailure status, broker)
  | .ok index =>
    let row := broker.rows index
    if nowNs < row.lastTransitionNs then (stopFailure .invalidTimestamp, broker)
    else if row.builderState = .cancelledAwaitingRetirement then
      (stopFailure .startRetirementPending, broker)
    else
      match serviceTransitionStop row.transition with
      | (.alreadyStopped, _, transition) =>
        (stopFailure .alreadyStopped, broker.setRow index { row with transition })
      | (.startCancelled, _, transition) =>
        (⟨.startCancelled, kInvalidServiceLifecycleInstanceToken,
          ⟨broker.brokerEpoch, ⟨transition.serviceIdentity, transition.generation⟩⟩⟩,
          broker.setRow index (row.stopped transition .cancelledAwaitingRetirement nowNs))
      | (.killRequired, token, transition) =>
        (⟨.killRequired, ⟨⟨broker.brokerEpoch, token.start⟩, token.process⟩,
          kInvalidServiceLifecycleStartTicket⟩,
          broker.setRow index (row.stopped transition row.builderState nowNs))
      | (.alreadyStopping, _, transition) =>
        (stopFailure .alreadyStopping, broker.setRow index { row with transition })
      | (.rejected, _, transition) =>
        (stopFailure .transitionRejected, broker.setRow index { row with transition })

def serviceLifecycleBrokerObserveExit (token : ServiceLifecycleInstanceToken) (nowNs : Nat)
    (failed : Bool) :
    ServiceLifecycleStatus × ServiceLifecycleBroker :=
  match admitToken broker token false with
  | .error status => (status, broker)
  | .ok index =>
    let row := broker.rows index
    let exited := serviceTransitionObserveExit row.transition
      ⟨token.start.transition, token.process⟩
    if nowNs < row.lastTransitionNs then (.invalidTimestamp, broker)
    else if exited.1 ≠ .applied then (.transitionRejected, broker)
    else
      (.ok, broker.setRow index { row with
          transition := exited.2, ready := false, lastTransitionNs := nowNs,
          observedExits := incrementSaturating row.observedExits,
          failedExits := if failed then incrementSaturating row.failedExits else row.failedExits })

/-- The loop of `BeginDrain` over the rows `indices`. -/
def drainRows (nowNs : Nat) :
    List (Fin kServiceLifecycleCapacity) → ServiceLifecycleBroker → ServiceLifecycleDrainPlan →
      ServiceLifecycleStatus × ServiceLifecycleDrainPlan × ServiceLifecycleBroker
  | [], broker, plan => (.ok, plan, broker)
  | index :: indices, broker, plan =>
    let row := broker.rows index
    if row.transition.phase ≠ .starting ∧ row.transition.phase ≠ .running then
      drainRows nowNs indices broker plan
    else
      match serviceTransitionStop row.transition with
      | (.killRequired, token, transition) =>
        drainRows nowNs indices
          (broker.setRow index (row.stopped transition row.builderState nowNs)) { plan with
            instances := plan.instances ++ [⟨⟨broker.brokerEpoch, token.start⟩, token.process⟩] }
      | (.startCancelled, _, transition) =>
        drainRows nowNs indices
          (broker.setRow index (row.stopped transition .cancelledAwaitingRetirement nowNs))
          { plan with
            cancelledStarts := plan.cancelledStarts ++
              [⟨broker.brokerEpoch, ⟨transition.serviceIdentity, transition.generation⟩⟩] }
      | (_, _, transition) =>
        (.corruptState, plan, broker.setRow index { row with transition })

def ServiceLifecycleBroker.indices : List (Fin kServiceLifecycleCapacity) :=
  (List.finRange kServiceLifecycleCapacity).filter fun index => index.val < broker.serviceCount

def serviceLifecycleBrokerBeginDrain (nowNs : Nat) :
    ServiceLifecycleStatus × ServiceLifecycleDrainPlan × ServiceLifecycleBroker :=
  if readyBroker broker ≠ .ok then (readyBroker broker, ⟨[], []⟩, broker)
  else if ¬brokerIsCanonical broker then (.corruptState, ⟨[], []⟩, broker)
  else if broker.state = .closed then (.closed, ⟨[], []⟩, broker)
  else if broker.state = .draining then (.draining, ⟨[], []⟩, broker)
  else if ∃ index ∈ broker.indices, nowNs < (broker.rows index).lastTransitionNs then
    (.invalidTimestamp, ⟨[], []⟩, broker)
  else drainRows nowNs broker.indices { broker with state := .draining } ⟨[], []⟩

def serviceLifecycleBrokerFinishDrain : ServiceLifecycleStatus × ServiceLifecycleBroker :=
  if readyBroker broker ≠ .ok then (readyBroker broker, broker)
  else if ¬brokerIsCanonical broker then (.corruptState, broker)
  else if broker.state = .closed then (.closed, broker)
  else if broker.state ≠ .draining then (.busy, broker)
  else if ∃ index ∈ broker.indices, (broker.rows index).builderState ≠ .none ∨
      (broker.rows index).transition.phase = .starting ∨
      (broker.rows index).transition.phase = .running ∨
      (broker.rows index).transition.phase = .stopping then (.busy, broker)
  else (.ok, { broker with state := .closed })

end

inductive Event where
  | reserveStart (serviceIdentity expectedGeneration nowNs : Nat)
    (result : ServiceLifecycleStartResult)
  | recordSpawnFailure (ticket : ServiceLifecycleStartTicket) (nowNs : Nat)
    (status : ServiceLifecycleStatus)
  | acknowledgeCancelledStart (ticket : ServiceLifecycleStartTicket) (nowNs : Nat)
    (status : ServiceLifecycleStatus)
  | commitPublication (ticket : ServiceLifecycleStartTicket) («instance» : ServiceInstanceKey)
      (nowNs : Nat) (result : ServiceLifecyclePublicationResult)
  | commitDirectoryPublication (ticket : ServiceLifecycleStartTicket)
    («instance» : ServiceInstanceKey)
      (nowNs : Nat) (result : ServiceLifecycleDirectoryPublicationResult)
  | markReady (token : ServiceLifecycleInstanceToken)
    (result : ServiceLifecycleDirectoryReadyResult)
  | requestStop (serviceIdentity expectedGeneration nowNs : Nat)
    (result : ServiceLifecycleStopResult)
  | observeExit (token : ServiceLifecycleInstanceToken) (nowNs : Nat) (failed : Bool)
      (status : ServiceLifecycleStatus)
  | beginDrain (nowNs : Nat) (status : ServiceLifecycleStatus) (plan : ServiceLifecycleDrainPlan)
  | finishDrain (status : ServiceLifecycleStatus)
  deriving DecidableEq

/-- One operation, with any arguments and whatever the directory answers. -/
inductive Step : ServiceLifecycleBroker → Event → ServiceLifecycleBroker → Prop where
  | reserveStart :
    serviceLifecycleBrokerReserveStart b serviceIdentity expectedGeneration nowNs = (result, b') →
    Step b (.reserveStart serviceIdentity expectedGeneration nowNs result) b'
  | reserveStartWithDependencies :
    serviceLifecycleBrokerReserveStartWithDependencies b serviceIdentity expectedGeneration nowNs =
      (result, b') →
    Step b (.reserveStart serviceIdentity expectedGeneration nowNs result) b'
  | recordSpawnFailure :
    serviceLifecycleBrokerRecordSpawnFailure b ticket nowNs = (status, b') →
    Step b (.recordSpawnFailure ticket nowNs status) b'
  | acknowledgeCancelledStart :
    serviceLifecycleBrokerAcknowledgeCancelledStart b ticket nowNs = (status, b') →
    Step b (.acknowledgeCancelledStart ticket nowNs status) b'
  | commitPublication :
    serviceLifecycleBrokerCommitPublication b ticket process nowNs = (result, b') →
    Step b (.commitPublication ticket process nowNs result) b'
  | commitDirectoryPublication :
    serviceLifecycleBrokerCommitDirectoryPublication b ticket process nowNs reservationIsValid
      directoryStatus = (result, b') →
    Step b (.commitDirectoryPublication ticket process nowNs result) b'
  | markReady :
    serviceLifecycleBrokerMarkReady b token directoryStatus = (result, b') →
    Step b (.markReady token result) b'
  | requestStop :
    serviceLifecycleBrokerRequestStop b serviceIdentity expectedGeneration nowNs = (result, b') →
    Step b (.requestStop serviceIdentity expectedGeneration nowNs result) b'
  | observeExit :
    serviceLifecycleBrokerObserveExit b token nowNs failed = (status, b') →
    Step b (.observeExit token nowNs failed status) b'
  | beginDrain : serviceLifecycleBrokerBeginDrain b nowNs = (status, plan, b') →
    Step b (.beginDrain nowNs status plan) b'
  | finishDrain : serviceLifecycleBrokerFinishDrain b = (status, b') →
    Step b (.finishDrain status) b'

abbrev Run := Lts.Run Step

/-- A broker that `ServiceLifecycleBrokerInitialize` set up: it is Open and canonical, which is the
last thing the function checks, and its rows are fresh. -/
structure Initialized (broker : ServiceLifecycleBroker) : Prop where
  canonical : brokerIsCanonical broker
  state : broker.state = .open
  row : ∀ index, ∃ identity dependencyMask, broker.rows index
    = ⟨serviceTransitionInitialize identity, dependencyMask, 0, 0, 0, 0, 0, .none, false, 0, 0, 0⟩

end DuetOS.Lifecycle
