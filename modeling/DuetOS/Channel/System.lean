import DuetOS.Channel.ChannelCore

/-!
# One channel core and its callers

An operation with a single locked section is one step. A drain leaves the lock to close the ports
and the transfer tables, and a reset to prepare resources and to allocate an epoch; in between every
other caller may run. Epochs come from one counter that other cores allocate from as well. What the
close of a table reports is arbitrary.
-/

namespace DuetOS.Channel

open Word DuetOS.Ledger DuetOS.Resource

/-- Where a drain or a reset is outside the core lock. The expected epoch of a drain is the one
`ChannelCoreDrainExpected` was given. -/
inductive Call where
  | idle
  | closingPorts (expected : Option Nat) (window : DrainWindow)
  | closingTables (expected : Option Nat) (window : DrainWindow)
  | closed (expected : Option Nat) (window : DrainWindow)
      (transferStatus : ChannelCoreDirection → TransferCloseStatus)
  | preparing (previousEpoch : Nat)
  | prepared (previousEpoch : Nat) (resources : ChannelResources)
  | allocated (previousEpoch nextEpoch : Nat) (resources : ChannelResources)

/-- The core, `g_next_channel_epoch`, and the callers that are between two locked sections. -/
structure State where
  core : ChannelCore
  nextChannelEpoch : Nat
  calls : Nat → Call

def State.setCall (s : State) (i : Nat) (call : Call) : State :=
  { s with calls := Function.update s.calls i call }

inductive Event where
  | acquire (expectedEpoch binding : Nat) (result : ChannelCorePinResult)
  | release (pin : ChannelCoreOperationPin) (status : ChannelCoreStatus)
  | borrow (pin : ChannelCoreOperationPin) (direction : ChannelCoreDirection)
    (lease : ChannelCoreDirectionLease)
  | reserve (pin : ChannelCoreOperationPin) (direction : ChannelCoreDirection) (requestId : Nat)
      (result : ChannelCoreRequestReserveResult)
  | commit (pin : ChannelCoreOperationPin) (direction : ChannelCoreDirection)
    (key : EndpointRequestKey)
      (result : ChannelCoreRequestCommitResult)
  | cancel (pin : ChannelCoreOperationPin) (direction : ChannelCoreDirection)
    (key : EndpointRequestKey)
      (result : ChannelCoreRequestTransitionResult)
  | complete (pin : ChannelCoreOperationPin) (direction : ChannelCoreDirection)
      (authority : EndpointRequestCompletionAuthority) (result : ChannelCoreRequestTransitionResult)
  | drainBegun (expected : Option Nat)
  | drain (expected : Option Nat) (result : ChannelCoreDrainResult)
  | reset (result : ChannelCoreOpenResult)
  | internal

/-- `ChannelCoreDrain` and `ChannelCoreDrainExpected` up to the end of the first locked section. -/
def drainCall (core : ChannelCore) :
    Option Nat → (ChannelCoreDrainResult ⊕ DrainWindow) × ChannelCore
  | none => drainBegin core kChannelEpochInvalid false
  | some expectedEpoch =>
    if expectedEpoch = kChannelEpochInvalid then (.inl (drainFailure .invalidArgument), core)
    else drainBegin core expectedEpoch true

inductive Step : State → Event → State → Prop where
  | acquire {s core' expectedEpoch binding result} :
    channelCoreAcquireOperation s.core expectedEpoch binding = (result, core') →
    Step s (.acquire expectedEpoch binding result) { s with core := core' }
  | release : channelCoreReleaseOperation s.core pin = (status, core') →
    Step s (.release pin status) { s with core := core' }
  | borrow : Step s (.borrow pin direction (channelCoreBorrowDirection s.core pin direction)) s
  | reserve :
    channelCoreReserveRequest s.core pin direction requestId = (result, core') →
    Step s (.reserve pin direction requestId result) { s with core := core' }
  | commit : channelCoreCommitRequest s.core pin direction key = (result, core') →
    Step s (.commit pin direction key result) { s with core := core' }
  | cancel : channelCoreCancelRequest s.core pin direction key = (result, core') →
    Step s (.cancel pin direction key result) { s with core := core' }
  | complete :
    channelCoreCompleteRequest s.core pin direction authority = (result, core') →
    Step s (.complete pin direction authority result) { s with core := core' }
  | drainReturn : drainCall s.core expected = (.inl result, core') →
    Step s (.drain expected result) { s with core := core' }
  | drainBegin {s core' i expected window} : s.calls i = .idle →
    drainCall s.core expected = (.inr window, core') →
    Step s (.drainBegun expected)
      (State.setCall { s with core := core' } i (.closingPorts expected window))
  | closePorts {s i expected window} : s.calls i = .closingPorts expected window →
    Step s .internal (s.setCall i (.closingTables expected window))
  | closeTables {s i expected window transferStatus} : s.calls i = .closingTables expected window →
    (window.attemptFinalize = false → transferStatus = fun _ => .busy) →
    Step s .internal (s.setCall i (.closed expected window transferStatus))
  | drainEnd {s core' i expected window transferStatus result} : s.calls i =
    .closed expected window transferStatus →
    drainEnd s.core window transferStatus = (result, core') →
    Step s (.drain expected result) (State.setCall { s with core := core' } i .idle)
  | resetReturn : resetBegin s.core resourceDomain = .error status →
    Step s (.reset (openFailure status)) s
  | resetBegin {s i resourceDomain previousEpoch} : s.calls i = .idle →
    resetBegin s.core resourceDomain = .ok previousEpoch →
    Step s .internal (s.setCall i (.preparing previousEpoch))
  | prepareFailed : s.calls i = .preparing previousEpoch → status ≠ .ok →
    Step s (.reset (openFailure status)) (s.setCall i .idle)
  | prepare {s i previousEpoch resources} : s.calls i = .preparing previousEpoch →
    attachedResourcesAreCanonical resources →
    Step s .internal (s.setCall i (.prepared previousEpoch resources))
  | allocateFailed {s i previousEpoch resources epoch nextChannelEpoch} :
    s.calls i = .prepared previousEpoch resources →
    allocateChannelEpoch s.nextChannelEpoch = (epoch, nextChannelEpoch) →
    epoch = kChannelEpochInvalid ∨ epoch ≤ previousEpoch →
    Step s (.reset (openFailure
      (if epoch = kChannelEpochInvalid then .epochExhausted else .staleEpoch)))
      (State.setCall { s with nextChannelEpoch } i .idle)
  | allocate {s i previousEpoch resources epoch nextChannelEpoch} : s.calls i =
    .prepared previousEpoch resources →
    allocateChannelEpoch s.nextChannelEpoch = (epoch, nextChannelEpoch) →
    epoch ≠ kChannelEpochInvalid →
    previousEpoch < epoch →
    Step s .internal (State.setCall { s with nextChannelEpoch } i
      (.allocated previousEpoch epoch resources))
  | resetEnd {s core' i previousEpoch nextEpoch resources result} :
    s.calls i = .allocated previousEpoch nextEpoch resources →
    resetEnd s.core previousEpoch nextEpoch resources = (result, core') →
    Step s (.reset result) (State.setCall { s with core := core' } i .idle)
  | elsewhere : allocateChannelEpoch s.nextChannelEpoch = (epoch, nextChannelEpoch) →
    Step s .internal { s with nextChannelEpoch }

abbrev Run := Lts.Run Step

/-- The system right after `ChannelCoreInitialize` opened the core. -/
inductive Opened : State → Prop where
  | intro : nextChannelEpoch ≤ max64 →
    attachedResourcesAreCanonical resources →
    channelCoreInitialize nextChannelEpoch (.ok resources) = (result, some core) →
    Opened ⟨core, (allocateChannelEpoch nextChannelEpoch).2, fun _ => .idle⟩

end DuetOS.Channel
