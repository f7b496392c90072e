import DuetOS.Lib.Lts
import DuetOS.Lib.Slots
import DuetOS.Lib.Word

/-!
# Endpoint request ledgers

`EndpointRequestLedger` tracks the requests of one direction of one endpoint epoch: a request is
reserved in the order of its identifier, committed once, and completed, cancelled or drained. Every
operation runs under the lock of the ledger's owner and is one function here. A caller may pass any
key; a completion authority is a key that `Commit` returned.
-/

namespace DuetOS.Ledger

open Word

def kEndpointRequestEpochInvalid : Nat := 0

def kEndpointRequestEpochMaximum : Nat := max64

def kEndpointRequestIdInvalid : Nat := 0

def kEndpointRequestIdMaximum : Nat := max64

def kEndpointRequestLedgerCapacity : Nat := 32

inductive EndpointRequestDirection where
  | invalid | initiatorToAcceptor | acceptorToInitiator
  deriving DecidableEq

structure EndpointRequestLedgerIdentity where
  endpointEpoch : Nat
  direction : EndpointRequestDirection
  deriving DecidableEq

def kInvalidEndpointRequestLedgerIdentity : EndpointRequestLedgerIdentity :=
  ⟨kEndpointRequestEpochInvalid, .invalid⟩

def endpointRequestDirectionIsValid (direction : EndpointRequestDirection) : Bool :=
  direction = .initiatorToAcceptor ∨ direction = .acceptorToInitiator

def endpointRequestLedgerIdentityIsValid (identity : EndpointRequestLedgerIdentity) : Bool :=
  identity.endpointEpoch ≠ kEndpointRequestEpochInvalid ∧
    endpointRequestDirectionIsValid identity.direction

structure EndpointRequestKey where
  ledgerIdentity : EndpointRequestLedgerIdentity
  requestId : Nat
  deriving DecidableEq

def kInvalidEndpointRequestKey : EndpointRequestKey :=
  ⟨kInvalidEndpointRequestLedgerIdentity, kEndpointRequestIdInvalid⟩

def endpointRequestKeyIsValid (key : EndpointRequestKey) : Bool :=
  endpointRequestLedgerIdentityIsValid key.ledgerIdentity ∧
    key.requestId ≠ kEndpointRequestIdInvalid

/-- The authority to complete a request; only `Commit` makes one with a valid key. -/
structure EndpointRequestCompletionAuthority where
  requestKey : EndpointRequestKey
  deriving DecidableEq

def kInvalidEndpointRequestCompletionAuthority : EndpointRequestCompletionAuthority :=
  ⟨kInvalidEndpointRequestKey⟩

def endpointRequestCompletionAuthorityIsValid
    (authority : EndpointRequestCompletionAuthority) : Bool :=
  endpointRequestKeyIsValid authority.requestKey

inductive EndpointRequestSlotState where
  | free | reserved | committed
  deriving DecidableEq

inductive EndpointRequestLedgerState where
  | uninitialized | open | sequenceRetired | draining
  deriving DecidableEq

inductive EndpointRequestLedgerStatus where
  | ok | invalidArgument | notInitialized | alreadyInitialized | resetNotDrained | identityExhausted
  | corruptState | draining | sequenceExhausted | full | staleIdentity | outOfOrder | replayRejected
  | notFound | notCommitted
  deriving DecidableEq

structure EndpointRequestCommitResult where
  status : EndpointRequestLedgerStatus
  completionAuthority : EndpointRequestCompletionAuthority
  deriving DecidableEq

/-- The detached keys are the first `detached_count` entries of the array the source returns. -/
structure EndpointRequestDrainResult where
  status : EndpointRequestLedgerStatus
  detachedKeys : List EndpointRequestKey
  deriving DecidableEq

structure EndpointRequestSlot where
  key : EndpointRequestKey
  state : EndpointRequestSlotState
  deriving DecidableEq

structure EndpointRequestLedger where
  slots : Fin kEndpointRequestLedgerCapacity → EndpointRequestSlot
  identity : EndpointRequestLedgerIdentity
  (nextRequestId activeCount nextFreeHint : Nat)
  state : EndpointRequestLedgerState

def clearSlot : EndpointRequestSlot := ⟨kInvalidEndpointRequestKey, .free⟩

def slotIsClear (slot : EndpointRequestSlot) : Bool :=
  slot.state = .free ∧ slot.key = kInvalidEndpointRequestKey

def EndpointRequestLedger.zero : EndpointRequestLedger :=
  ⟨fun _ => clearSlot, kInvalidEndpointRequestLedgerIdentity, kEndpointRequestIdInvalid, 0, 0,
    .uninitialized⟩

section

variable (ledger : EndpointRequestLedger) (key : EndpointRequestKey)

def findLiveSlot : Option (Fin kEndpointRequestLedgerCapacity) :=
  (List.finRange kEndpointRequestLedgerCapacity).find? fun index =>
    (ledger.slots index).state ≠ .free ∧ (ledger.slots index).key = key

def findFreeSlot : Option (Fin kEndpointRequestLedgerCapacity) :=
  (Slots.probeOrder ⟨ledger.nextFreeHint % kEndpointRequestLedgerCapacity,
    Nat.mod_lt _ (by decide)⟩).find? fun index => (ledger.slots index).state = .free

def consumeSlot (index : Fin kEndpointRequestLedgerCapacity) : EndpointRequestLedger :=
  { ledger with
    slots := Function.update ledger.slots index clearSlot,
    activeCount := sub32 ledger.activeCount 1,
    nextFreeHint := index }

/-- The checks of `EndpointRequestLedgerIsCanonical` on one row of an initialised ledger. -/
def rowIsCanonical (index : Fin kEndpointRequestLedgerCapacity) : Bool :=
  let slot := ledger.slots index
  if slot.state = .free then slotIsClear slot
  else if ledger.state = .draining ∨ (slot.state ≠ .reserved ∧ slot.state ≠ .committed) ∨
      ¬endpointRequestKeyIsValid slot.key ∨ slot.key.ledgerIdentity ≠ ledger.identity then false
  else if ledger.state = .open ∧ slot.key.requestId ≥ ledger.nextRequestId then false
  else ∀ previous < index,
    ¬((ledger.slots previous).state ≠ .free ∧ (ledger.slots previous).key = slot.key)

def endpointRequestLedgerIsCanonical : Bool :=
  if ledger.nextFreeHint ≥ kEndpointRequestLedgerCapacity ∨
      ledger.activeCount > kEndpointRequestLedgerCapacity then false
  else if ledger.state = .uninitialized then
    ledger.identity = kInvalidEndpointRequestLedgerIdentity ∧
      ledger.nextRequestId = kEndpointRequestIdInvalid ∧ ledger.activeCount = 0 ∧
      ledger.nextFreeHint = 0 ∧ ∀ index, slotIsClear (ledger.slots index)
  else if ¬endpointRequestLedgerIdentityIsValid ledger.identity then false
  else if ledger.state = .open ∧ ledger.nextRequestId = kEndpointRequestIdInvalid then false
  else if ledger.state = .sequenceRetired ∧
    ledger.nextRequestId ≠ kEndpointRequestIdInvalid then false
  else if ledger.state = .draining ∧
      (ledger.nextRequestId ≠ kEndpointRequestIdInvalid ∨ ledger.activeCount ≠ 0) then false
  else (∀ index, rowIsCanonical ledger index) ∧
    (List.finRange kEndpointRequestLedgerCapacity).countP
      (fun index => (ledger.slots index).state ≠ .free) = ledger.activeCount

def validateLedger : EndpointRequestLedgerStatus :=
  if ¬endpointRequestLedgerIsCanonical ledger then .corruptState
  else if ledger.state = .uninitialized then .notInitialized
  else .ok

def validateKeyForLedger : EndpointRequestLedgerStatus :=
  if ¬endpointRequestKeyIsValid key then .invalidArgument
  else if key.ledgerIdentity ≠ ledger.identity then .staleIdentity
  else .ok

def commitFailure (status : EndpointRequestLedgerStatus) : EndpointRequestCommitResult :=
  ⟨status, kInvalidEndpointRequestCompletionAuthority⟩

def drainFailure (status : EndpointRequestLedgerStatus) : EndpointRequestDrainResult := ⟨status, []⟩

def classifyMissingKey : EndpointRequestLedgerStatus :=
  if ledger.state = .draining then .draining
  else if ledger.state = .sequenceRetired then .replayRejected
  else if key.requestId < ledger.nextRequestId then .replayRejected
  else if key.requestId > ledger.nextRequestId then .outOfOrder
  else .notFound

def endpointRequestLedgerInitialize (identity : EndpointRequestLedgerIdentity)
    (firstRequestId : Nat) :
    EndpointRequestLedgerStatus × EndpointRequestLedger :=
  if ¬endpointRequestLedgerIsCanonical ledger then (.corruptState, ledger)
  else if ledger.state ≠ .uninitialized then (.alreadyInitialized, ledger)
  else if ¬endpointRequestLedgerIdentityIsValid identity ∨
      firstRequestId = kEndpointRequestIdInvalid then (.invalidArgument, ledger)
  else
    (.ok, { ledger with identity, nextRequestId := firstRequestId, state := .open })

def endpointRequestLedgerReset (nextIdentity : EndpointRequestLedgerIdentity)
    (firstRequestId : Nat) :
    EndpointRequestLedgerStatus × EndpointRequestLedger :=
  if ¬endpointRequestLedgerIsCanonical ledger then (.corruptState, ledger)
  else if ledger.state = .uninitialized then (.notInitialized, ledger)
  else if ledger.state ≠ .draining then (.resetNotDrained, ledger)
  else if ¬endpointRequestLedgerIdentityIsValid nextIdentity ∨
    firstRequestId = kEndpointRequestIdInvalid ∨
      nextIdentity.direction ≠ ledger.identity.direction then (.invalidArgument, ledger)
  else if ledger.identity.endpointEpoch = kEndpointRequestEpochMaximum then
    (.identityExhausted, ledger)
  else if nextIdentity.endpointEpoch ≤ ledger.identity.endpointEpoch then (.staleIdentity, ledger)
  else
    (.ok, { ledger with
      identity := nextIdentity, nextRequestId := firstRequestId, activeCount := 0,
      nextFreeHint := 0,
      state := .open })

def endpointRequestLedgerReserve : EndpointRequestLedgerStatus × EndpointRequestLedger :=
  if validateLedger ledger ≠ .ok then (validateLedger ledger, ledger)
  else if validateKeyForLedger ledger key ≠ .ok then (validateKeyForLedger ledger key, ledger)
  else if ledger.state = .draining then (.draining, ledger)
  else if ledger.state = .sequenceRetired then (.sequenceExhausted, ledger)
  else if key.requestId < ledger.nextRequestId then (.replayRejected, ledger)
  else if key.requestId > ledger.nextRequestId then (.outOfOrder, ledger)
  else
    match findFreeSlot ledger with
    | none => (.full, ledger)
    | some index =>
      let retired := key.requestId = kEndpointRequestIdMaximum
      (.ok, { ledger with
        slots := Function.update ledger.slots index ⟨key, .reserved⟩,
        activeCount := add32 ledger.activeCount 1,
        nextFreeHint := (index.val + 1) % kEndpointRequestLedgerCapacity,
        nextRequestId := if retired then kEndpointRequestIdInvalid else add64 key.requestId 1,
        state := if retired then .sequenceRetired else ledger.state })

def endpointRequestLedgerCommit : EndpointRequestCommitResult × EndpointRequestLedger :=
  if validateLedger ledger ≠ .ok then (commitFailure (validateLedger ledger), ledger)
  else if validateKeyForLedger ledger key ≠ .ok then
    (commitFailure (validateKeyForLedger ledger key), ledger)
  else if ledger.state = .draining then (commitFailure .draining, ledger)
  else
    match findLiveSlot ledger key with
    | none => (commitFailure (classifyMissingKey ledger key), ledger)
    | some index =>
      if (ledger.slots index).state ≠ .reserved then (commitFailure .replayRejected, ledger)
      else
        (⟨.ok, ⟨key⟩⟩, { ledger with
          slots := Function.update ledger.slots index { ledger.slots index with
            state := .committed } })

def endpointRequestLedgerCancel : EndpointRequestLedgerStatus × EndpointRequestLedger :=
  if validateLedger ledger ≠ .ok then (validateLedger ledger, ledger)
  else if validateKeyForLedger ledger key ≠ .ok then (validateKeyForLedger ledger key, ledger)
  else if ledger.state = .draining then (.draining, ledger)
  else
    match findLiveSlot ledger key with
    | none => (classifyMissingKey ledger key, ledger)
    | some index => (.ok, consumeSlot ledger index)

def endpointRequestLedgerComplete (completionAuthority : EndpointRequestCompletionAuthority) :
    EndpointRequestLedgerStatus × EndpointRequestLedger :=
  let key := completionAuthority.requestKey
  if validateLedger ledger ≠ .ok then (validateLedger ledger, ledger)
  else if ¬endpointRequestCompletionAuthorityIsValid completionAuthority then
    (.invalidArgument, ledger)
  else if validateKeyForLedger ledger key ≠ .ok then (validateKeyForLedger ledger key, ledger)
  else if ledger.state = .draining then (.draining, ledger)
  else
    match findLiveSlot ledger key with
    | none => (classifyMissingKey ledger key, ledger)
    | some index =>
      if (ledger.slots index).state ≠ .committed then (.notCommitted, ledger)
      else (.ok, consumeSlot ledger index)

def liveKey (slot : EndpointRequestSlot) : Option EndpointRequestKey :=
  if slot.state ≠ .free then some slot.key else none

def endpointRequestLedgerDrain : EndpointRequestDrainResult × EndpointRequestLedger :=
  if validateLedger ledger ≠ .ok then (drainFailure (validateLedger ledger), ledger)
  else if ledger.state = .draining then (drainFailure .ok, ledger)
  else
    (⟨.ok, (List.finRange kEndpointRequestLedgerCapacity).filterMap fun index =>
        liveKey (ledger.slots index)⟩,
      { ledger with
        slots := fun _ => clearSlot
        nextRequestId := kEndpointRequestIdInvalid
        activeCount := 0
        nextFreeHint := 0
        state := .draining })

end

inductive Event where
  | initialized (identity : EndpointRequestLedgerIdentity) (firstRequestId : Nat)
      (status : EndpointRequestLedgerStatus)
  | reset (nextIdentity : EndpointRequestLedgerIdentity) (firstRequestId : Nat)
    (status : EndpointRequestLedgerStatus)
  | reserve (key : EndpointRequestKey) (status : EndpointRequestLedgerStatus)
  | commit (key : EndpointRequestKey) (result : EndpointRequestCommitResult)
  | cancel (key : EndpointRequestKey) (status : EndpointRequestLedgerStatus)
  | complete (authority : EndpointRequestCompletionAuthority) (status : EndpointRequestLedgerStatus)
  | drain (result : EndpointRequestDrainResult)
  deriving DecidableEq

/-- One operation. The first request identifier of an identity is any 64-bit word. -/
inductive Step : EndpointRequestLedger → Event → EndpointRequestLedger → Prop where
  | initialized : firstRequestId ≤ max64 →
    endpointRequestLedgerInitialize ledger identity firstRequestId = (status, ledger') →
    Step ledger (.initialized identity firstRequestId status) ledger'
  | reset : firstRequestId ≤ max64 →
    endpointRequestLedgerReset ledger nextIdentity firstRequestId = (status, ledger') →
    Step ledger (.reset nextIdentity firstRequestId status) ledger'
  | reserve {ledger ledger' key status} : endpointRequestLedgerReserve ledger key =
    (status, ledger') →
    Step ledger (.reserve key status) ledger'
  | commit {ledger ledger' key result} : endpointRequestLedgerCommit ledger key =
    (result, ledger') →
    Step ledger (.commit key result) ledger'
  | cancel : endpointRequestLedgerCancel ledger key = (status, ledger') →
    Step ledger (.cancel key status) ledger'
  | complete {ledger ledger' authority status} : endpointRequestLedgerComplete ledger authority =
    (status, ledger') →
    Step ledger (.complete authority status) ledger'
  | drain : endpointRequestLedgerDrain ledger = (result, ledger') →
    Step ledger (.drain result) ledger'

abbrev Run := Lts.Run Step

end DuetOS.Ledger
