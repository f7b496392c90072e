import DuetOS.Ledger.RequestLedger
import DuetOS.Resource.Domain

/-!
# Channel cores

`ChannelCore` owns one generation (epoch) of a bidirectional channel: two message ports, two
transfer tables, two request ledgers and one resource charge. Each function is one section under the
core lock; `DrainCore` and `ChannelCoreReset` have two, with unlocked work between them.

Pointers are addresses, 0 is null. The ports, tables and charge key that the source keeps side by
side in three structures are one `ChannelResources` here.
-/

namespace DuetOS.Channel

open Word DuetOS.Ledger DuetOS.Resource

def kChannelEpochInvalid : Nat := 0

def kChannelEpochMaximum : Nat := max64

def kChannelCoreOperationCapacity : Nat := 32

def kChannelCoreOperationGenerationMaximum : Nat := max32

def kInvalidChannelCoreOperationBinding : Nat := 0

def kChannelCoreInitializeReady : Nat := 2

def kInvalidResourceChannelChargeKey : ResourceKey := ⟨kResourceChannelChargeCapacity, 0⟩

inductive ChannelCoreDirection where
  | initiatorToAcceptor | acceptorToInitiator
  deriving DecidableEq

def channelCoreLedgerDirection : ChannelCoreDirection → EndpointRequestDirection
  | .initiatorToAcceptor => .initiatorToAcceptor
  | .acceptorToInitiator => .acceptorToInitiator

inductive ChannelCoreState where
  | uninitialized | open | draining | drained
  deriving DecidableEq

inductive ChannelCoreStatus where
  | ok | invalidArgument | notInitialized | alreadyInitialized | corruptState | resourceChargeFailed
  | allocationFailed | epochExhausted | draining | drained | resetNotDrained | busy
  | operationIdentityExhausted | staleOperation | staleEpoch | ledgerFailure | transferCloseFailed
  | invalidCleanup | resourceReleaseFailed
  deriving DecidableEq

/-- What `ObjectTransferTableClose` reports, as far as `DrainCore` looks. -/
inductive TransferCloseStatus where
  | ok | busy | failed
  deriving DecidableEq

inductive ChannelCoreOperationSlotState where
  | free | live | retired
  deriving DecidableEq

def channelCoreOperationBindingIsValid (binding : Nat) : Bool :=
  binding ≠ kInvalidChannelCoreOperationBinding

structure ChannelCoreOperationPin where
  (channelEpoch slot generation binding : Nat)
  deriving DecidableEq

def kInvalidChannelCoreOperationPin : ChannelCoreOperationPin :=
  ⟨kChannelEpochInvalid, kChannelCoreOperationCapacity, 0, kInvalidChannelCoreOperationBinding⟩

def channelCoreOperationPinIsValid (pin : ChannelCoreOperationPin) : Bool :=
  pin.channelEpoch ≠ kChannelEpochInvalid ∧ pin.slot < kChannelCoreOperationCapacity ∧
    pin.generation ≠ 0 ∧ channelCoreOperationBindingIsValid pin.binding

structure ChannelCoreOpenResult where
  status : ChannelCoreStatus
  channelEpoch : Nat
  deriving DecidableEq

structure ChannelCorePinResult where
  status : ChannelCoreStatus
  pin : ChannelCoreOperationPin
  deriving DecidableEq

structure ChannelCoreDirectionLease where
  status : ChannelCoreStatus
  (port transferTable : Nat)
  requestIdentity : EndpointRequestLedgerIdentity
  deriving DecidableEq

structure ChannelCoreRequestReserveResult where
  status : ChannelCoreStatus
  ledgerStatus : EndpointRequestLedgerStatus
  requestKey : EndpointRequestKey
  deriving DecidableEq

structure ChannelCoreRequestCommitResult where
  status : ChannelCoreStatus
  ledgerStatus : EndpointRequestLedgerStatus
  completionAuthority : EndpointRequestCompletionAuthority
  deriving DecidableEq

structure ChannelCoreRequestTransitionResult where
  status : ChannelCoreStatus
  ledgerStatus : EndpointRequestLedgerStatus
  deriving DecidableEq

structure ChannelResources where
  ports : ChannelCoreDirection → Nat
  transferTables : ChannelCoreDirection → Nat
  resourceCharge : ResourceKey

def ChannelResources.none :
    ChannelResources := ⟨fun _ => 0, fun _ => 0, kInvalidResourceChannelChargeKey⟩

/-- The request cleanup and the detached bundle of a drain; the source returns empty ones
otherwise. -/
structure ChannelCoreDrainResult where
  status : ChannelCoreStatus
  channelEpoch : Nat
  requestCleanup : Option (ChannelCoreDirection → EndpointRequestDrainResult)
  detached : Option (Nat × ChannelResources)

structure ChannelCoreOperationSlot where
  generation : Nat
  state : ChannelCoreOperationSlotState
  binding : Nat
  deriving DecidableEq

structure ChannelCore where
  requestLedgers : ChannelCoreDirection → EndpointRequestLedger
  resources : ChannelResources
  operationSlots : Fin kChannelCoreOperationCapacity → ChannelCoreOperationSlot
  (channelEpoch activeOperations nextOperationHint initialized drainDriverActive : Nat)
  (portsCloseNotified requestLedgersDrained : Nat)
  state : ChannelCoreState

section

variable (resources : ChannelResources) (status : ChannelCoreStatus)
  (ledgerStatus : EndpointRequestLedgerStatus)
  (core : ChannelCore) (pin : ChannelCoreOperationPin) (direction : ChannelCoreDirection)

def openFailure : ChannelCoreOpenResult := ⟨status, kChannelEpochInvalid⟩

def pinFailure : ChannelCorePinResult :=
  ⟨status, kInvalidChannelCoreOperationPin⟩

def leaseFailure : ChannelCoreDirectionLease :=
  ⟨status, 0, 0, kInvalidEndpointRequestLedgerIdentity⟩

def reserveFailure : ChannelCoreRequestReserveResult :=
  ⟨status, ledgerStatus, kInvalidEndpointRequestKey⟩

def commitFailure : ChannelCoreRequestCommitResult :=
  ⟨status, ledgerStatus, kInvalidEndpointRequestCompletionAuthority⟩

def transitionFailure : ChannelCoreRequestTransitionResult :=
  ⟨status, ledgerStatus⟩

def drainFailure : ChannelCoreDrainResult := ⟨status, 0, .none, .none⟩

def resourceChannelChargeKeyIsValid (key : ResourceKey) : Bool :=
  resourceKeyIsValid kResourceChannelChargeCapacity key

def resourceDomainKeyIsValid (key : ResourceKey) : Bool :=
  resourceKeyIsValid kResourceDomainCapacity key

def operationSlotIsCanonical (slot : ChannelCoreOperationSlot) : Bool :=
  match slot.state with
  | .free => slot.generation ≠ kChannelCoreOperationGenerationMaximum ∧
      slot.binding = kInvalidChannelCoreOperationBinding
  | .live => slot.generation ≠ 0 ∧ channelCoreOperationBindingIsValid slot.binding
  | .retired => slot.generation = kChannelCoreOperationGenerationMaximum ∧
      slot.binding = kInvalidChannelCoreOperationBinding

def operationSlotsAreCanonical : Bool :=
  (∀ index, operationSlotIsCanonical (core.operationSlots index)) ∧
    (List.finRange kChannelCoreOperationCapacity).countP
      (fun index => (core.operationSlots index).state = .live) = core.activeOperations

def requestLedgerMatches (requiredState : EndpointRequestLedgerState)
    (direction : ChannelCoreDirection) : Bool :=
  let ledger := core.requestLedgers direction
  if ¬endpointRequestLedgerIsCanonical ledger ∨ ledger.identity.endpointEpoch ≠ core.channelEpoch ∨
      ledger.identity.direction ≠ channelCoreLedgerDirection direction then false
  else if requiredState = .open then ledger.state = .open ∨ ledger.state = .sequenceRetired
  else ledger.state = requiredState

def requestLedgersMatch (requiredState : EndpointRequestLedgerState) : Bool :=
  requestLedgerMatches core requiredState .initiatorToAcceptor ∧
    requestLedgerMatches core requiredState .acceptorToInitiator

def attachedResourcesAreCanonical : Bool :=
  resources.ports .initiatorToAcceptor ≠ 0 ∧ resources.ports .acceptorToInitiator ≠ 0 ∧
    resources.ports .initiatorToAcceptor ≠ resources.ports .acceptorToInitiator ∧
    resources.transferTables .initiatorToAcceptor ≠ 0 ∧
    resources.transferTables .acceptorToInitiator ≠ 0 ∧
    resources.transferTables .initiatorToAcceptor ≠ resources.transferTables .acceptorToInitiator ∧
    resourceChannelChargeKeyIsValid resources.resourceCharge

def detachedResourcesAreCanonical : Bool :=
  resources.ports .initiatorToAcceptor = 0 ∧ resources.ports .acceptorToInitiator = 0 ∧
    resources.transferTables .initiatorToAcceptor = 0 ∧
    resources.transferTables .acceptorToInitiator = 0 ∧
    ¬resourceChannelChargeKeyIsValid resources.resourceCharge

def coreIsCanonical : Bool :=
  if core.initialized ≠ kChannelCoreInitializeReady ∨ core.channelEpoch = kChannelEpochInvalid ∨
      core.nextOperationHint ≥ kChannelCoreOperationCapacity ∨ core.drainDriverActive > 1 ∨
      core.portsCloseNotified > 1 ∨ core.requestLedgersDrained > 1 ∨
      ¬operationSlotsAreCanonical core then false
  else
    match core.state with
    | .open => attachedResourcesAreCanonical core.resources ∧ core.drainDriverActive = 0 ∧
        core.portsCloseNotified = 0 ∧ core.requestLedgersDrained = 0 ∧
          requestLedgersMatch core .open
    | .draining =>
      if ¬attachedResourcesAreCanonical core.resources then false
      else if core.requestLedgersDrained = 0 then requestLedgersMatch core .open
      else core.activeOperations = 0 ∧ requestLedgersMatch core .draining
    | .drained => detachedResourcesAreCanonical core.resources ∧ core.activeOperations = 0 ∧
        core.drainDriverActive = 0 ∧ core.portsCloseNotified = 1 ∧ core.requestLedgersDrained = 1 ∧
        requestLedgersMatch core .draining
    | .uninitialized => false

def readyStatus : ChannelCoreStatus :=
  if core.initialized = kChannelCoreInitializeReady then .ok else .notInitialized

/-- C++ `AllocateChannelEpoch`: the epoch, and `g_next_channel_epoch` after it. -/
def allocateChannelEpoch (nextChannelEpoch : Nat) : Nat × Nat :=
  if nextChannelEpoch = kChannelEpochInvalid then (kChannelEpochInvalid, nextChannelEpoch)
  else
    (nextChannelEpoch,
      if nextChannelEpoch = kChannelEpochMaximum then kChannelEpochInvalid
        else add64 nextChannelEpoch 1)

def validatePinLocked (allowDraining : Bool) : ChannelCoreStatus :=
  if valid : channelCoreOperationPinIsValid pin then
    if pin.channelEpoch ≠ core.channelEpoch then .staleEpoch
    else
      let slot := core.operationSlots ⟨pin.slot, (of_decide_eq_true valid).2.1⟩
      if slot.state ≠ .live ∨ slot.generation ≠ pin.generation ∨ slot.binding ≠ pin.binding then
        .staleOperation
      else if core.state = .drained then .drained
      else if ¬allowDraining ∧ core.state = .draining then .draining
      else if core.state = .open ∨ (allowDraining ∧ core.state = .draining) then .ok
      else .corruptState
  else .invalidArgument

/-- C++ `ChannelCoreInitialize` on canonical zero storage, with what `PrepareResources` returned. -/
def channelCoreInitialize (nextChannelEpoch : Nat)
    (prepared : Except ChannelCoreStatus ChannelResources) :
    ChannelCoreOpenResult × Option ChannelCore :=
  match prepared with
  | .error status => (openFailure status, .none)
  | .ok resources =>
    let epoch := (allocateChannelEpoch nextChannelEpoch).1
    if epoch = kChannelEpochInvalid then (openFailure .epochExhausted, .none)
    else
      let ledgers := fun direction =>
        endpointRequestLedgerInitialize .zero ⟨epoch, channelCoreLedgerDirection direction⟩ 1
      if (ledgers .initiatorToAcceptor).1 ≠ .ok ∨ (ledgers .acceptorToInitiator).1 ≠ .ok then
        (openFailure .corruptState, .none)
      else
        (⟨.ok, epoch⟩, some
          { requestLedgers := fun direction => (ledgers direction).2
            resources
            operationSlots := fun _ => ⟨0, .free, kInvalidChannelCoreOperationBinding⟩
            channelEpoch := epoch
            activeOperations := 0
            nextOperationHint := 0
            initialized := kChannelCoreInitializeReady
            drainDriverActive := 0
            portsCloseNotified := 0
            requestLedgersDrained := 0
            state := .open })

def channelCoreAcquireOperation (expectedEpoch binding : Nat) :
    ChannelCorePinResult × ChannelCore :=
  if readyStatus core ≠ .ok then (pinFailure (readyStatus core), core)
  else if expectedEpoch = kChannelEpochInvalid ∨ ¬channelCoreOperationBindingIsValid binding then
    (pinFailure .invalidArgument, core)
  else if ¬coreIsCanonical core then (pinFailure .corruptState, core)
  else if expectedEpoch ≠ core.channelEpoch then (pinFailure .staleEpoch, core)
  else if core.state = .draining then (pinFailure .draining, core)
  else if core.state = .drained then (pinFailure .drained, core)
  else if core.state ≠ .open then (pinFailure .corruptState, core)
  else if core.activeOperations = max32 then (pinFailure .operationIdentityExhausted, core)
  else
    match (Slots.probeOrder ⟨core.nextOperationHint % kChannelCoreOperationCapacity,
        Nat.mod_lt _ (by decide)⟩).find? fun index =>
        (core.operationSlots index).state = .free ∧
          (core.operationSlots index).generation ≠ kChannelCoreOperationGenerationMaximum with
    | .none =>
      (pinFailure (if ∃ index, (core.operationSlots index).state = .live then .busy
        else .operationIdentityExhausted), core)
    | some index =>
      let generation := add32 (core.operationSlots index).generation 1
      (⟨.ok, ⟨core.channelEpoch, index, generation, binding⟩⟩,
        { core with
          operationSlots := Function.update core.operationSlots index ⟨generation, .live, binding⟩
          activeOperations := add32 core.activeOperations 1
          nextOperationHint := (index.val + 1) % kChannelCoreOperationCapacity })

def channelCoreReleaseOperation : ChannelCoreStatus × ChannelCore :=
  if readyStatus core ≠ .ok then (readyStatus core, core)
  else if valid : channelCoreOperationPinIsValid pin then
    if ¬coreIsCanonical core then (.corruptState, core)
    else if pin.channelEpoch ≠ core.channelEpoch then (.staleEpoch, core)
    else
      let index : Fin kChannelCoreOperationCapacity := ⟨pin.slot, (of_decide_eq_true valid).2.1⟩
      let slot := core.operationSlots index
      if slot.state ≠ .live ∨ slot.generation ≠ pin.generation ∨ slot.binding ≠ pin.binding then
        (.staleOperation, core)
      else if core.activeOperations = 0 then (.corruptState, core)
      else
        (.ok, { core with
          operationSlots := Function.update core.operationSlots index
            ⟨slot.generation,
              if slot.generation = kChannelCoreOperationGenerationMaximum then .retired else .free,
              kInvalidChannelCoreOperationBinding⟩
          activeOperations := sub32 core.activeOperations 1
          nextOperationHint := pin.slot })
  else (.invalidArgument, core)

def channelCoreBorrowDirection : ChannelCoreDirectionLease :=
  if readyStatus core ≠ .ok then leaseFailure (readyStatus core)
  else if ¬coreIsCanonical core then leaseFailure .corruptState
  else if validatePinLocked core pin false ≠
    .ok then leaseFailure (validatePinLocked core pin false)
  else
    ⟨.ok, core.resources.ports direction, core.resources.transferTables direction,
      (core.requestLedgers direction).identity⟩

def ChannelCore.setLedger (ledger : EndpointRequestLedger) : ChannelCore :=
  { core with requestLedgers := Function.update core.requestLedgers direction ledger }

def channelCoreReserveRequest (requestId : Nat) : ChannelCoreRequestReserveResult × ChannelCore :=
  if readyStatus core ≠ .ok then (reserveFailure (readyStatus core) .notInitialized, core)
  else if requestId = kEndpointRequestIdInvalid then
    (reserveFailure .invalidArgument .invalidArgument, core)
  else if ¬coreIsCanonical core then (reserveFailure .corruptState .corruptState, core)
  else if validatePinLocked core pin false ≠ .ok then
    (reserveFailure (validatePinLocked core pin false) .notInitialized, core)
  else
    let key : EndpointRequestKey := ⟨(core.requestLedgers direction).identity, requestId⟩
    let reserved := endpointRequestLedgerReserve (core.requestLedgers direction) key
    (if reserved.1 = .ok then ⟨.ok, reserved.1, key⟩ else reserveFailure .ledgerFailure reserved.1,
      core.setLedger direction reserved.2)

def channelCoreCommitRequest (key : EndpointRequestKey) :
    ChannelCoreRequestCommitResult × ChannelCore :=
  if readyStatus core ≠ .ok then (commitFailure (readyStatus core) .notInitialized, core)
  else if ¬endpointRequestKeyIsValid key
    then (commitFailure .invalidArgument .invalidArgument, core)
  else if ¬coreIsCanonical core then (commitFailure .corruptState .corruptState, core)
  else if validatePinLocked core pin true ≠ .ok then
    (commitFailure (validatePinLocked core pin true) .notInitialized, core)
  else
    let committed := endpointRequestLedgerCommit (core.requestLedgers direction) key
    (if committed.1.status = .ok then ⟨.ok, committed.1.status, committed.1.completionAuthority⟩
      else commitFailure .ledgerFailure committed.1.status, core.setLedger direction committed.2)

def channelCoreCancelRequest (key : EndpointRequestKey) :
    ChannelCoreRequestTransitionResult × ChannelCore :=
  if readyStatus core ≠ .ok then (transitionFailure (readyStatus core) .notInitialized, core)
  else if ¬endpointRequestKeyIsValid key then
    (transitionFailure .invalidArgument .invalidArgument, core)
  else if ¬coreIsCanonical core then (transitionFailure .corruptState .corruptState, core)
  else if validatePinLocked core pin true ≠ .ok then
    (transitionFailure (validatePinLocked core pin true) .notInitialized, core)
  else
    let cancelled := endpointRequestLedgerCancel (core.requestLedgers direction) key
    (if cancelled.1 = .ok then ⟨.ok, cancelled.1⟩ else transitionFailure .ledgerFailure cancelled.1,
      core.setLedger direction cancelled.2)

def channelCoreCompleteRequest (completionAuthority : EndpointRequestCompletionAuthority) :
    ChannelCoreRequestTransitionResult × ChannelCore :=
  if readyStatus core ≠ .ok then (transitionFailure (readyStatus core) .notInitialized, core)
  else if ¬endpointRequestCompletionAuthorityIsValid completionAuthority then
    (transitionFailure .invalidArgument .invalidArgument, core)
  else if ¬coreIsCanonical core then (transitionFailure .corruptState .corruptState, core)
  else if validatePinLocked core pin true ≠ .ok then
    (transitionFailure (validatePinLocked core pin true) .notInitialized, core)
  else
    let completed := endpointRequestLedgerComplete (core.requestLedgers direction)
      completionAuthority
    (if completed.1 = .ok then ⟨.ok, completed.1⟩ else transitionFailure .ledgerFailure completed.1,
      core.setLedger direction completed.2)

/-- What `DrainCore` keeps between its two locked sections. -/
structure DrainWindow where
  channelEpoch : Nat
  attemptFinalize : Bool
  ports : ChannelCoreDirection → Nat
  transferTables : ChannelCoreDirection → Nat

def drainBegin (expectedEpoch : Nat) (enforceExpectedEpoch : Bool) :
    (ChannelCoreDrainResult ⊕ DrainWindow) × ChannelCore :=
  if readyStatus core ≠ .ok then (.inl (drainFailure (readyStatus core)), core)
  else if ¬coreIsCanonical core then (.inl (drainFailure .corruptState), core)
  else if enforceExpectedEpoch ∧ core.channelEpoch ≠ expectedEpoch then
    (.inl (drainFailure .staleEpoch), core)
  else if core.state = .drained then (.inl ⟨.ok, core.channelEpoch, .none, .none⟩, core)
  else
    let core := if core.state = .open then { core with state := .draining } else core
    if core.state ≠ .draining then (.inl (drainFailure .corruptState), core)
    else if core.drainDriverActive ≠ 0 then (.inl ⟨.busy, core.channelEpoch, .none, .none⟩, core)
    else
      let attemptFinalize : Bool := core.activeOperations = 0
      (.inr ⟨core.channelEpoch, attemptFinalize, core.resources.ports,
        if attemptFinalize then core.resources.transferTables else fun _ => 0⟩,
        { core with drainDriverActive := 1 })

/-- The second locked section of `DrainCore`, after the ports and, when it attempts to finalize, the
transfer tables were closed. -/
def drainEnd (window : DrainWindow) (transferStatus : ChannelCoreDirection → TransferCloseStatus) :
    ChannelCoreDrainResult × ChannelCore :=
  if ¬coreIsCanonical core then (drainFailure .corruptState, { core with drainDriverActive := 0 })
  else
    let core := { core with portsCloseNotified := 1, drainDriverActive := 0 }
    if core.activeOperations ≠ 0 ∨ ¬window.attemptFinalize then
      (⟨.busy, window.channelEpoch, .none, .none⟩, core)
    else if transferStatus .initiatorToAcceptor = .busy ∨
      transferStatus .acceptorToInitiator = .busy then
      (⟨.busy, window.channelEpoch, .none, .none⟩, core)
    else if transferStatus .initiatorToAcceptor ≠ .ok ∨
      transferStatus .acceptorToInitiator ≠ .ok then
      (⟨.transferCloseFailed, window.channelEpoch, .none, .none⟩, core)
    else
      let drains := fun direction => endpointRequestLedgerDrain (core.requestLedgers direction)
      if core.requestLedgersDrained = 0 ∧ ((drains .initiatorToAcceptor).1.status ≠ .ok ∨
          (drains .acceptorToInitiator).1.status ≠ .ok) then
        (⟨.ledgerFailure, window.channelEpoch, .none, .none⟩, core)
      else
        (⟨.ok, window.channelEpoch,
          if core.requestLedgersDrained = 0 then some fun direction => (drains direction).1
            else .none,
          some (core.channelEpoch, core.resources)⟩,
          { core with
            requestLedgers := if core.requestLedgersDrained = 0 then fun direction => (drains
              direction).2
              else core.requestLedgers
            requestLedgersDrained := 1
            resources := .none
            state := .drained })

def resetBegin (resourceDomain : ResourceKey) : Except ChannelCoreStatus Nat :=
  if readyStatus core ≠ .ok then .error (readyStatus core)
  else if ¬resourceDomainKeyIsValid resourceDomain then .error .invalidArgument
  else if ¬coreIsCanonical core then .error .corruptState
  else if core.state ≠ .drained then .error .resetNotDrained
  else .ok core.channelEpoch

/-- The second locked section of `ChannelCoreReset`, with the resources prepared and the epoch
allocated. -/
def resetEnd (previousEpoch nextEpoch : Nat) (resources : ChannelResources) :
    ChannelCoreOpenResult × ChannelCore :=
  if ¬coreIsCanonical core then (openFailure .corruptState, core)
  else if core.state ≠ .drained ∨ core.channelEpoch ≠ previousEpoch then
    (openFailure .resetNotDrained, core)
  else
    let resets := fun direction =>
      endpointRequestLedgerReset (core.requestLedgers direction)
        ⟨nextEpoch, channelCoreLedgerDirection direction⟩ 1
    if (resets .initiatorToAcceptor).1 ≠ .ok ∨ (resets .acceptorToInitiator).1 ≠ .ok then
      (openFailure .ledgerFailure, core)
    else
      (⟨.ok, nextEpoch⟩,
        { core with
          requestLedgers := fun direction => (resets direction).2
          resources
          channelEpoch := nextEpoch
          drainDriverActive := 0
          portsCloseNotified := 0
          requestLedgersDrained := 0
          state := .open })

end

end DuetOS.Channel
