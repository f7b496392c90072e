import DuetOS.HandleTable.Handle
import DuetOS.Kernel.Credential
import DuetOS.Lifecycle.Broker

/-!
# Rows of the service directory

A row is one registration: its name and owner, the operations that pin it, the queue of connections
nobody accepted yet, the accepted channels, and what is left to close. Cell `(acceptHead + offset) %
8` of the circular queue is entry `offset`; the first `closing_count` entries of `closing_channels`
are the list `closingChannels`. A pointer to an endpoint owner is a number, 0 when it is null.
-/

namespace DuetOS.Directory

open Word DuetOS.Lifecycle Function

def kServiceDirectoryCapacity : Nat := kServiceManifestMaximumServices

def kServiceDirectoryNameCapacity : Nat := 32

def kServiceDirectoryAcceptCapacity : Nat := 8

def kServiceDirectoryAcceptedCapacity : Nat := 8

def kServiceDirectoryProcessTeardownBatchCapacity : Nat := 4

def kServiceDirectoryDeferredAcceptedCapacity : Nat :=
  kServiceDirectoryCapacity * kServiceDirectoryAcceptedCapacity

def kServiceDirectoryCloseBatchCapacity : Nat :=
  kServiceDirectoryAcceptCapacity + kServiceDirectoryAcceptedCapacity

def kServiceDirectoryOperationCapacity : Nat := 8

def kServiceKeyGenerationMaximum : Nat := 2 ^ 51 - 1

def kServiceDirectoryOperationGenerationMaximum : Nat := max32

def kServiceDirectoryAcceptedGenerationMaximum : Nat := max32

def kServiceEndpointOwnerCapacity : Nat := 32

def kServiceEndpointGenerationMaximum : Nat := 2 ^ 51 - 1

def kChannelEpochInvalid : Nat := 0

structure ServiceDirectoryName where
  length : Nat
  bytes : Fin kServiceDirectoryNameCapacity → Nat
  deriving DecidableEq

structure ServiceKey where
  (slot generation : Nat)
  deriving DecidableEq

def kInvalidServiceKey : ServiceKey := ⟨kServiceDirectoryCapacity, 0⟩

def serviceKeyIsValid (key : ServiceKey) : Bool :=
  key.slot < kServiceDirectoryCapacity ∧ key.generation ≠ 0 ∧
    key.generation ≤ kServiceKeyGenerationMaximum

structure ServiceRegistrationReservation where
  service : ServiceKey
  authorityGeneration : Nat
  deriving DecidableEq

def kInvalidServiceRegistrationReservation :
    ServiceRegistrationReservation := ⟨kInvalidServiceKey, 0⟩

def serviceRegistrationReservationIsValid (reservation : ServiceRegistrationReservation) : Bool :=
  serviceKeyIsValid reservation.service ∧ reservation.authorityGeneration ≠ 0 ∧
    reservation.authorityGeneration = reservation.service.generation

structure ServiceDirectoryOperationPin where
  service : ServiceKey
  (slot generation : Nat)
  deriving DecidableEq

def kInvalidServiceDirectoryOperationPin : ServiceDirectoryOperationPin :=
  ⟨kInvalidServiceKey, kServiceDirectoryOperationCapacity, 0⟩

def serviceDirectoryOperationPinIsValid (pin : ServiceDirectoryOperationPin) : Bool :=
  serviceKeyIsValid pin.service ∧ pin.slot < kServiceDirectoryOperationCapacity ∧ pin.generation ≠ 0

inductive ServiceDirectoryEntryState where
  | empty | reserved | active | closing | retired
  deriving DecidableEq

inductive ServiceDirectoryCloseReason where
  | none | registrationAbort | unregister | ownerCrash
  deriving DecidableEq

inductive ServiceDirectoryOperationSlotState where
  | free | live | retired
  deriving DecidableEq

structure ServiceDirectoryOperationSlot where
  generation : Nat
  state : ServiceDirectoryOperationSlotState
  deriving DecidableEq

structure ServiceEndpointChannelKey where
  (slot generation channelEpoch : Nat)
  deriving DecidableEq

def serviceEndpointChannelKeyIsValid (key : ServiceEndpointChannelKey) : Bool :=
  key.slot < kServiceEndpointOwnerCapacity ∧ key.generation ≠ 0 ∧
    key.generation ≤ kServiceEndpointGenerationMaximum ∧ key.channelEpoch ≠ kChannelEpochInvalid

structure ServiceEndpointOwnerReceipt where
  owner : Nat
  channel : ServiceEndpointChannelKey
  deriving DecidableEq

def ServiceEndpointOwnerReceipt.zero : ServiceEndpointOwnerReceipt := ⟨0, ⟨0, 0, 0⟩⟩

def serviceEndpointOwnerReceiptIsValid (receipt : ServiceEndpointOwnerReceipt) : Bool :=
  receipt.owner ≠ 0 ∧ serviceEndpointChannelKeyIsValid receipt.channel

structure ServiceDirectoryOwnedChannel where
  owner : ServiceEndpointOwnerReceipt
  unpublishedAcceptor : Option KObject
  releaseDriverActive : Bool
  deriving DecidableEq

def ServiceDirectoryOwnedChannel.zero : ServiceDirectoryOwnedChannel := ⟨.zero, none, false⟩

def serviceDirectoryOwnedChannelIsEmpty (channel : ServiceDirectoryOwnedChannel) : Bool :=
  ¬serviceEndpointOwnerReceiptIsValid channel.owner ∧ channel.unpublishedAcceptor = none ∧
    ¬channel.releaseDriverActive

inductive ServiceDirectoryQueuedChannelState where
  | empty | pendingClientPublish | ready
  deriving DecidableEq

structure ServiceDirectoryQueuedChannel where
  owned : ServiceDirectoryOwnedChannel
  channel : ServiceEndpointChannelKey
  state : ServiceDirectoryQueuedChannelState
  deriving DecidableEq

def ServiceDirectoryQueuedChannel.zero : ServiceDirectoryQueuedChannel := ⟨.zero, ⟨0, 0, 0⟩, .empty⟩

structure ServiceDirectoryAcceptedChannelKey where
  service : ServiceKey
  (slot generation : Nat)
  channel : ServiceEndpointChannelKey
  deriving DecidableEq

def serviceDirectoryAcceptedChannelKeyIsValid (key : ServiceDirectoryAcceptedChannelKey) : Bool :=
  serviceKeyIsValid key.service ∧ key.slot < kServiceDirectoryAcceptedCapacity ∧
    key.generation ≠ 0 ∧
    serviceEndpointChannelKeyIsValid key.channel

inductive ServiceDirectoryAcceptedChannelState where
  | free | publishing | published | releasing | retired
  deriving DecidableEq

structure ServiceDirectoryAcceptedChannel where
  key : ServiceDirectoryAcceptedChannelKey
  owner : ServiceEndpointOwnerReceipt
  serverProcess : ProcessKey
  serverHandle : Nat
  (processTeardownDeferred releaseDriverActive : Bool)
  state : ServiceDirectoryAcceptedChannelState
  deriving DecidableEq

/-- The value-initialised tracker, but for its generation and state. -/
def ServiceDirectoryAcceptedChannel.idle (generation : Nat)
    (state : ServiceDirectoryAcceptedChannelState) : ServiceDirectoryAcceptedChannel :=
  ⟨⟨⟨0, 0⟩, 0, generation, ⟨0, 0, 0⟩⟩, .zero, kInvalidProcessKey, kHandleInvalid, false,
    false, state⟩

/-- The tracker is neither Free nor Retired. -/
def ServiceDirectoryAcceptedChannel.occupied (accepted : ServiceDirectoryAcceptedChannel) : Bool :=
  accepted.state ≠ .free ∧ accepted.state ≠ .retired

structure ServiceDirectoryRow where
  name : ServiceDirectoryName
  owner : ServiceInstanceToken
  ownerCredential : ServiceEndpointCredentialSnapshot
  key : ServiceKey
  (reservationAuthority manifestSlot activeOperations nextOperationHint : Nat)
  operationSlots : Fin kServiceDirectoryOperationCapacity → ServiceDirectoryOperationSlot
  acceptQueue : Nat → ServiceDirectoryQueuedChannel
  (acceptHead acceptCount : Nat)
  acceptedChannels : Fin kServiceDirectoryAcceptedCapacity → ServiceDirectoryAcceptedChannel
  (acceptedCount nextAcceptedHint externalPublishers : Nat)
  closingChannels : List ServiceDirectoryOwnedChannel
  (closeBatchOutstanding closeDriverActive : Nat)
  ready : Bool
  state : ServiceDirectoryEntryState
  closeReason : ServiceDirectoryCloseReason

def ServiceDirectoryRow.zero (state : ServiceDirectoryEntryState) : ServiceDirectoryRow where
  name := ⟨0, fun _ => 0⟩
  owner := ⟨⟨0, 0⟩, ⟨0, 0⟩⟩
  ownerCredential := .zero
  key := ⟨0, 0⟩
  reservationAuthority := 0
  manifestSlot := 0
  activeOperations := 0
  nextOperationHint := 0
  operationSlots := fun _ => ⟨0, .free⟩
  acceptQueue := fun _ => .zero
  acceptHead := 0
  acceptCount := 0
  acceptedChannels := fun _ => .idle 0 .free
  acceptedCount := 0
  nextAcceptedHint := 0
  externalPublishers := 0
  closingChannels := []
  closeBatchOutstanding := 0
  closeDriverActive := 0
  ready := false
  state
  closeReason := .none

section

variable (accepted : ServiceDirectoryAcceptedChannel) (row : ServiceDirectoryRow)
  (queued : ServiceDirectoryQueuedChannel)

def ServiceDirectoryRow.occupied : Bool :=
  row.state ≠ .empty ∧ row.state ≠ .retired

def nameCharacterIsCanonical (value : Nat) (first : Bool) : Bool :=
  let lowercase := 97 ≤ value ∧ value ≤ 122
  let digit := 48 ≤ value ∧ value ≤ 57
  if first then lowercase else lowercase ∨ digit ∨ value = 45 ∨ value = 95 ∨ value = 46

def serviceDirectoryNameIsCanonical (name : ServiceDirectoryName) : Bool :=
  name.length ≠ 0 ∧ name.length ≤ kServiceDirectoryNameCapacity ∧
    (∀ index : Fin kServiceDirectoryNameCapacity, index.val < name.length →
      nameCharacterIsCanonical (name.bytes index) (index.val = 0)) ∧
    ∀ index : Fin kServiceDirectoryNameCapacity, name.length ≤ index.val → name.bytes index = 0

/-- C++ `NameEquals`: the names have one length and no byte of it differs. -/
def nameEquals (lhs rhs : ServiceDirectoryName) : Bool :=
  lhs.length = rhs.length ∧ ∀ index : Fin kServiceDirectoryNameCapacity, index.val < lhs.length →
    lhs.bytes index = rhs.bytes index

def processKeyFromInstance («instance» : ServiceInstanceKey) : ProcessKey :=
  ⟨«instance».processIdentity, «instance».pid⟩

def ServiceDirectoryRow.liveOperations : Nat :=
  (List.finRange kServiceDirectoryOperationCapacity).countP fun index =>
    (row.operationSlots index).state = .live

def operationSlotIsCanonical (slot : ServiceDirectoryOperationSlot) : Bool :=
  match slot.state with
  | .free => slot.generation ≠ kServiceDirectoryOperationGenerationMaximum
  | .live => slot.generation ≠ 0
  | .retired => slot.generation = kServiceDirectoryOperationGenerationMaximum

def operationSlotsAreCanonical : Bool :=
  (∀ index, operationSlotIsCanonical (row.operationSlots index)) ∧
    row.liveOperations = row.activeOperations ∧
    row.nextOperationHint < kServiceDirectoryOperationCapacity

def queuedChannelIsCanonical : Bool :=
  if queued.state = .empty then
    serviceDirectoryOwnedChannelIsEmpty queued.owned ∧
      ¬serviceEndpointChannelKeyIsValid queued.channel
  else
    serviceEndpointOwnerReceiptIsValid queued.owned.owner ∧
      queued.owned.unpublishedAcceptor ≠ none ∧
      ¬queued.owned.releaseDriverActive ∧ queued.channel = queued.owned.owner.channel

def queueSlotIsOccupied (slot : Nat) : Bool :=
  (List.range row.acceptCount).any fun offset =>
    (row.acceptHead + offset) % kServiceDirectoryAcceptCapacity = slot

def acceptQueueIsCanonical : Bool :=
  row.acceptHead < kServiceDirectoryAcceptCapacity ∧
    row.acceptCount ≤ kServiceDirectoryAcceptCapacity ∧
    ∀ index : Fin kServiceDirectoryAcceptCapacity,
      queuedChannelIsCanonical (row.acceptQueue index) ∧
        (queueSlotIsOccupied row index → (row.acceptQueue index).state ≠ .empty)

def ServiceDirectoryRow.occupiedAccepted : Nat :=
  (List.finRange kServiceDirectoryAcceptedCapacity).countP fun index =>
    (row.acceptedChannels index).occupied

/-- The checks of `AcceptedChannelsAreCanonical` on tracker `index` of the row of `service`. -/
def acceptedChannelIsCanonical (service : ServiceKey)
    (index : Fin kServiceDirectoryAcceptedCapacity)
    (accepted : ServiceDirectoryAcceptedChannel) : Bool :=
  if ¬accepted.occupied then
    ¬serviceKeyIsValid accepted.key.service ∧
      ¬serviceEndpointChannelKeyIsValid accepted.key.channel ∧
      ¬serviceEndpointOwnerReceiptIsValid accepted.owner ∧
        ¬processKeyIsValid accepted.serverProcess ∧
      accepted.serverHandle = kHandleInvalid ∧ ¬accepted.processTeardownDeferred ∧
      ¬accepted.releaseDriverActive ∧
      (accepted.state = .retired →
        accepted.key.generation = kServiceDirectoryAcceptedGenerationMaximum) ∧
      (accepted.state = .free →
        accepted.key.generation ≠ kServiceDirectoryAcceptedGenerationMaximum)
  else
    serviceDirectoryAcceptedChannelKeyIsValid accepted.key ∧ accepted.key.service = service ∧
      accepted.key.slot = index ∧ serviceEndpointOwnerReceiptIsValid accepted.owner ∧
      accepted.owner.channel = accepted.key.channel ∧ processKeyIsValid accepted.serverProcess ∧
      (accepted.state = .publishing → accepted.serverHandle = kHandleInvalid ∧
        ¬accepted.releaseDriverActive) ∧
      (accepted.state = .published → accepted.serverHandle ≠ kHandleInvalid ∧
        ¬accepted.releaseDriverActive) ∧
      (accepted.state = .releasing → accepted.serverHandle ≠ kHandleInvalid)

def acceptedChannelsAreCanonical : Bool :=
  row.acceptedCount ≤ kServiceDirectoryAcceptedCapacity ∧
    row.nextAcceptedHint < kServiceDirectoryAcceptedCapacity ∧
    (∀ index, acceptedChannelIsCanonical row.key index (row.acceptedChannels index)) ∧
    row.occupiedAccepted = row.acceptedCount

def ownedChannelIsCanonical (channel : ServiceDirectoryOwnedChannel) : Bool :=
  serviceDirectoryOwnedChannelIsEmpty channel ∨
    serviceEndpointOwnerReceiptIsValid channel.owner ∧ ¬channel.releaseDriverActive

def closingChannelsAreCanonical : Bool :=
  row.closingChannels.length ≤ kServiceDirectoryCloseBatchCapacity ∧
    row.closeBatchOutstanding ≤ kServiceDirectoryCloseBatchCapacity ∧ row.closeDriverActive ≤ 1 ∧
    (∀ channel ∈ row.closingChannels,
      ownedChannelIsCanonical channel ∧ ¬serviceDirectoryOwnedChannelIsEmpty channel) ∧
    if row.closeDriverActive ≠ 0 then row.closeBatchOutstanding ≠ 0 ∧ row.closingChannels.length = 0
    else row.closeBatchOutstanding = 0

def rowIsZeroExceptState : Bool :=
  row.name = ⟨0, fun _ => 0⟩ ∧ row.owner = ⟨⟨0, 0⟩, ⟨0, 0⟩⟩ ∧ row.ownerCredential = .zero ∧
    row.key = ⟨0, 0⟩ ∧ row.reservationAuthority = 0 ∧ row.manifestSlot = 0 ∧
      row.activeOperations = 0 ∧
    row.nextOperationHint = 0 ∧ row.acceptHead = 0 ∧ row.acceptCount = 0 ∧ row.acceptedCount = 0 ∧
    row.nextAcceptedHint = 0 ∧ row.externalPublishers = 0 ∧ row.closingChannels = [] ∧
    row.closeBatchOutstanding = 0 ∧ row.closeDriverActive = 0 ∧ ¬row.ready ∧
      row.closeReason = .none ∧
    (∀ index, row.operationSlots index = ⟨0, .free⟩) ∧
    (∀ index : Fin kServiceDirectoryAcceptCapacity, row.acceptQueue index = .zero) ∧
    ∀ index, row.acceptedChannels index = .idle 0 .free

def rowIsCanonical : Bool :=
  if row.state = .empty ∨ row.state = .retired then rowIsZeroExceptState row
  else if ¬serviceDirectoryNameIsCanonical row.name ∨ ¬serviceInstanceTokenIsValid row.owner ∨
      ¬serviceEndpointCredentialSnapshotIsCanonical row.ownerCredential ∨
        ¬serviceKeyIsValid row.key ∨
      row.key.slot ≥ kServiceDirectoryCapacity ∨ row.manifestSlot ≥ kServiceDirectoryCapacity ∨
      ¬operationSlotsAreCanonical row ∨ ¬acceptQueueIsCanonical row ∨
      ¬acceptedChannelsAreCanonical row ∨ ¬closingChannelsAreCanonical row then false
  else
    match row.state with
    | .reserved => row.reservationAuthority = row.key.generation ∧ row.activeOperations = 0 ∧
        row.acceptCount = 0 ∧ row.acceptedCount = 0 ∧ row.externalPublishers = 0 ∧
        row.closingChannels.length = 0 ∧ row.closeBatchOutstanding = 0 ∧ row.closeDriverActive = 0 ∧
        ¬row.ready ∧ row.closeReason = .none
    | .active => row.reservationAuthority = 0 ∧ row.closingChannels.length = 0 ∧
        row.closeBatchOutstanding = 0 ∧ row.closeDriverActive = 0 ∧ row.closeReason = .none
    | .closing =>
        (row.reservationAuthority = 0 ∨ row.reservationAuthority = row.key.generation) ∧
          ¬row.ready ∧
          row.closeReason ≠ .none
    | _ => false

def tryRecycleLocked : Bool × ServiceDirectoryRow :=
  if row.state ≠ .closing ∨ row.reservationAuthority ≠ 0 ∨ row.activeOperations ≠ 0 ∨
      row.acceptCount ≠ 0 ∨ row.acceptedCount ≠ 0 ∨ row.externalPublishers ≠ 0 ∨
      row.closingChannels.length ≠ 0 ∨ row.closeBatchOutstanding ≠ 0 ∨
        row.closeDriverActive ≠ 0 then
    (false, row)
  else
    (true, .zero (if row.key.generation = kServiceKeyGenerationMaximum then .retired else .empty))

def validateOperationLocked (pin : ServiceDirectoryOperationPin) : ServiceDirectoryStatus :=
  if row.key ≠ pin.service then .staleKey
  else if h : pin.slot < kServiceDirectoryOperationCapacity then
    if pin.generation = 0 then .invalidArgument
    else if (row.operationSlots ⟨pin.slot, h⟩).state ≠ .live ∨
        (row.operationSlots ⟨pin.slot, h⟩).generation ≠ pin.generation then .staleOperation
    else .ok
  else .invalidArgument

def ServiceDirectoryRow.queuedAt (offset : Nat) : ServiceDirectoryQueuedChannel :=
  row.acceptQueue ((row.acceptHead + offset) % kServiceDirectoryAcceptCapacity)

def enqueueTailLocked : ServiceDirectoryRow :=
  let slot := (row.acceptHead + row.acceptCount) % kServiceDirectoryAcceptCapacity
  { row with acceptQueue := update row.acceptQueue slot queued, acceptCount := row.acceptCount + 1 }

def enqueueFrontLocked : ServiceDirectoryRow :=
  let head := (row.acceptHead + kServiceDirectoryAcceptCapacity - 1) %
    kServiceDirectoryAcceptCapacity
  { row with
    acceptHead := head, acceptQueue := update row.acceptQueue head queued,
    acceptCount := row.acceptCount + 1 }

def dequeueLocked : ServiceDirectoryQueuedChannel × ServiceDirectoryRow :=
  (row.acceptQueue row.acceptHead, { row with
      acceptQueue := update row.acceptQueue row.acceptHead .zero
      acceptHead :=
        if row.acceptCount - 1 = 0 then 0 else (row.acceptHead +
          1) % kServiceDirectoryAcceptCapacity
      acceptCount := row.acceptCount - 1 })

/-- The shifting loop of `RemoveQueuedLocked`: entry `offset` and the `count` entries after it take
the next entry's place. -/
def shiftDown (head : Nat) : Nat → Nat → (Nat → ServiceDirectoryQueuedChannel) → Nat →
    ServiceDirectoryQueuedChannel
  | _, 0, queue => queue
  | offset, count + 1, queue =>
    shiftDown head (offset + 1) count
      (update queue ((head + offset) % kServiceDirectoryAcceptCapacity)
        (queue ((head + offset + 1) % kServiceDirectoryAcceptCapacity)))

def removeQueuedLocked (channel : ServiceEndpointChannelKey) :
    Option (ServiceDirectoryQueuedChannel × ServiceDirectoryRow) :=
  match (List.range row.acceptCount).find? fun offset => (row.queuedAt offset).channel =
    channel with
  | none => none
  | some offset =>
    let shifted := shiftDown row.acceptHead offset (row.acceptCount - 1 - offset) row.acceptQueue
    let tail := (row.acceptHead + row.acceptCount - 1) % kServiceDirectoryAcceptCapacity
    some (row.queuedAt offset, { row with
        acceptQueue := update shifted tail .zero, acceptCount := row.acceptCount - 1,
        acceptHead := if row.acceptCount - 1 = 0 then 0 else row.acceptHead })

def clearAcceptedLocked : ServiceDirectoryAcceptedChannel :=
  .idle accepted.key.generation
    (if accepted.key.generation = kServiceDirectoryAcceptedGenerationMaximum then .retired
      else .free)

/-- Tracker `index` after it was written, with the new number of occupied trackers. -/
def ServiceDirectoryRow.setAccepted (index : Fin kServiceDirectoryAcceptedCapacity)
    (accepted : ServiceDirectoryAcceptedChannel) (count : Nat) : ServiceDirectoryRow :=
  { row with
    acceptedChannels := update row.acceptedChannels index accepted, acceptedCount := count }

/-- The trackers in the order in which a search from `hint` visits them. -/
def acceptedOrder (hint : Nat) : List (Fin kServiceDirectoryAcceptedCapacity) :=
  (List.range kServiceDirectoryAcceptedCapacity).map fun offset =>
    ⟨(hint + offset) % kServiceDirectoryAcceptedCapacity, Nat.mod_lt _ (by decide)⟩

def allocateAcceptedLocked (channel : ServiceEndpointChannelKey) (serverProcess : ProcessKey) :
    Option (Fin kServiceDirectoryAcceptedCapacity × ServiceDirectoryRow) :=
  match (acceptedOrder row.nextAcceptedHint).find? fun index =>
      (row.acceptedChannels index).state = .free ∧
        (row.acceptedChannels index).key.generation ≠
          kServiceDirectoryAcceptedGenerationMaximum with
  | none => none
  | some index =>
    let generation := add32 (row.acceptedChannels index).key.generation 1
    some (index, { row.setAccepted index
          { ServiceDirectoryAcceptedChannel.idle generation .publishing with
            key := ⟨row.key, index, generation, channel⟩
            serverProcess } (row.acceptedCount + 1) with
        nextAcceptedHint := (index + 1) % kServiceDirectoryAcceptedCapacity })

def resolveAcceptedLocked (key : ServiceDirectoryAcceptedChannelKey) :
    Option (Fin kServiceDirectoryAcceptedCapacity) :=
  if serviceDirectoryAcceptedChannelKeyIsValid key ∧ key.service = row.key then
    if h : key.slot < kServiceDirectoryAcceptedCapacity then
      if (row.acceptedChannels ⟨key.slot, h⟩).occupied ∧
          (row.acceptedChannels ⟨key.slot, h⟩).key = key then some ⟨key.slot, h⟩
      else none
    else none
  else none

def hasAcceptedReleaseDriverLocked : Bool :=
  ∃ index, (row.acceptedChannels index).releaseDriverActive

end

end DuetOS.Directory
