import DuetOS.Channel.Canonical

/-!
# What a locked section does to the core

A locked section leaves the core alone, or makes one of the transitions of `Effect`.
-/

namespace DuetOS.Channel

open Word DuetOS.Ledger DuetOS.Resource

def Event.pinIssued : Event → Option ChannelCoreOperationPin
  | .acquire _ _ result => if result.status = .ok then some result.pin else none
  | _ => none

def Event.pinReleased : Event → Option ChannelCoreOperationPin
  | .release pin status => if status = .ok then some pin else none
  | _ => none

def Event.requestReserved : Event → Option EndpointRequestKey
  | .reserve _ _ _ result => if result.status = .ok then some result.requestKey else none
  | _ => none

/-- The resource bundle the call returned, with its epoch. -/
def Event.detached : Event → Option (Nat × ChannelResources)
  | .drain _ result => result.detached
  | _ => none

def Event.cleanup : Event → Option (ChannelCoreDirection → EndpointRequestDrainResult)
  | .drain _ result => result.requestCleanup
  | _ => none

def Event.opened : Event → Option Nat
  | .reset result => if result.status = .ok then some result.channelEpoch else none
  | _ => none

/-- The event issues, releases, reserves, detaches and opens nothing. -/
structure Event.Quiet (e : Event) : Prop where
  pinIssued : e.pinIssued = none
  pinReleased : e.pinReleased = none
  requestReserved : e.requestReserved = none
  detached : e.detached = none
  cleanup : e.cleanup = none
  opened : e.opened = none

/-- Slot `index` is pinned for `binding`. -/
def ChannelCore.pinned (core : ChannelCore) (index : Fin kChannelCoreOperationCapacity)
    (binding : Nat) : ChannelCore :=
  { core with
    operationSlots := Function.update core.operationSlots index
      ⟨add32 (core.operationSlots index).generation 1, .live, binding⟩
    activeOperations := add32 core.activeOperations 1
    nextOperationHint := (index.val + 1) % kChannelCoreOperationCapacity }

def ChannelCore.unpinned (core : ChannelCore) (index : Fin kChannelCoreOperationCapacity) :
    ChannelCore :=
  { core with
    operationSlots := Function.update core.operationSlots index ⟨(core.operationSlots
      index).generation,
        if (core.operationSlots index).generation = kChannelCoreOperationGenerationMaximum
          then .retired
        else .free, kInvalidChannelCoreOperationBinding⟩
    activeOperations := sub32 core.activeOperations 1
    nextOperationHint := index }

/-- The ledgers are drained and the resources given up. -/
def ChannelCore.detached (core : ChannelCore) : ChannelCore :=
  { core with
    portsCloseNotified := 1
    drainDriverActive := 0
    requestLedgers := fun direction => (core.requestLedgers direction).drained
    requestLedgersDrained := 1
    resources := .none
    state := .drained }

def ChannelCore.reopened (core : ChannelCore) (nextEpoch : Nat) (resources : ChannelResources) :
    ChannelCore :=
  { core with
    requestLedgers := fun direction =>
      (core.requestLedgers direction).opened ⟨nextEpoch, channelCoreLedgerDirection direction⟩ 1
    resources
    channelEpoch := nextEpoch
    drainDriverActive := 0
    portsCloseNotified := 0
    requestLedgersDrained := 0
    state := .open }

inductive Effect (core : ChannelCore) : Event → ChannelCore → Prop where
  | quiet : e.Quiet → Effect core e core
  | acquire : core.state = .open → (core.operationSlots index).state = .free →
    (core.operationSlots index).generation < max32 →
    channelCoreOperationBindingIsValid binding →
    Effect core (.acquire core.channelEpoch binding
      ⟨.ok, ⟨core.channelEpoch, index, (core.operationSlots index).generation + 1, binding⟩⟩)
      (core.pinned index binding)
  | release : (core.operationSlots index).state = .live →
    Effect core (.release ⟨core.channelEpoch, index, (core.operationSlots index).generation,
      (core.operationSlots index).binding⟩ .ok) (core.unpinned index)
  | request {e direction ledger} :
    e.pinIssued = none ∧ e.pinReleased = none ∧ e.detached = none ∧ e.cleanup = none ∧
      e.opened = none →
    core.state = .open ∨ core.state = .draining →
    Ledger.Canonical ledger →
    ledger.identity = (core.requestLedgers direction).identity →
    Accepting ledger →
    (∀ key, e.requestReserved = some key →
      core.state = .open ∧ key.ledgerIdentity = (core.requestLedgers direction).identity) →
    Effect core e (core.setLedger direction ledger)
  | begun : core.state = .open ∨ core.state = .draining → core.drainDriverActive = 0 →
    Effect core (.drainBegun expected) { core with state := .draining, drainDriverActive := 1 }
  | notified : core.state = .draining → result.detached = none → result.requestCleanup = none →
    Effect core (.drain expected result)
      { core with portsCloseNotified := 1, drainDriverActive := 0 }
  | detached : core.state = .draining → core.activeOperations = 0 → Effect core (.drain expected
      ⟨.ok, epoch, some fun direction => ⟨.ok, (core.requestLedgers direction).keys⟩,
        some (core.channelEpoch, core.resources)⟩) core.detached
  | reopened : core.state = .drained → core.channelEpoch < nextEpoch →
    attachedResourcesAreCanonical resources →
    Effect core (.reset ⟨.ok, nextEpoch⟩) (core.reopened nextEpoch resources)

lemma quiet_acquire (no : result.status ≠ .ok) :
    (Event.acquire expectedEpoch binding result).Quiet :=
  ⟨if_neg no, rfl, rfl, rfl, rfl, rfl⟩

lemma quiet_release (no : status ≠ .ok) : (Event.release pin status).Quiet :=
  ⟨rfl, if_neg no, rfl, rfl, rfl, rfl⟩

lemma quiet_drain (kept : result.detached = none) (clean : result.requestCleanup = none) :
    (Event.drain expected result).Quiet :=
  ⟨rfl, rfl, rfl, kept, clean, rfl⟩

lemma quiet_reset (no : result.status ≠ .ok) : (Event.reset result).Quiet :=
  ⟨rfl, rfl, rfl, rfl, rfl, if_neg no⟩

lemma acquire_effect (ok : CoreOk core)
    (call : channelCoreAcquireOperation core expectedEpoch binding = (result, core')) :
    Effect core (.acquire expectedEpoch binding result) core' := by
  unfold channelCoreAcquireOperation at call
  rw [if_neg (not_not.mpr ok.readyStatus)] at call
  split at call
  · cases call
    exact .quiet (quiet_acquire nofun)
  next arguments =>
  rw [if_neg (not_not.mpr ok.coreIsCanonical)] at call
  split at call
  · cases call
    exact .quiet (quiet_acquire nofun)
  next same =>
  split at call
  · cases call
    exact .quiet (quiet_acquire nofun)
  split at call
  · cases call
    exact .quiet (quiet_acquire nofun)
  split at call
  · cases call
    exact .quiet (quiet_acquire nofun)
  next opened =>
  split at call
  · cases call
    exact .quiet (quiet_acquire nofun)
  split at call
  · cases call
    refine .quiet (quiet_acquire ?_)
    split_ifs <;> nofun
  next index found =>
  cases call
  have free := List.find?_some found
  rw [decide_eq_true_eq] at free
  have room : (core.operationSlots index).generation < max32 :=
    Nat.lt_of_le_of_ne (ok.generations index) free.2
  have valid := not_not.mp (not_or.mp arguments).2
  rw [not_not.mp same]
  have effect := Effect.acquire (not_not.mp opened) free.1 room valid
  rw [← add32_eq (Nat.succ_le_of_lt room)] at effect
  exact effect

lemma release_effect (ok : CoreOk core)
    (call : channelCoreReleaseOperation core pin = (status, core')) :
    Effect core (.release pin status) core' := by
  unfold channelCoreReleaseOperation at call
  rw [if_neg (not_not.mpr ok.readyStatus)] at call
  split at call
  next valid =>
    rw [if_neg (not_not.mpr ok.coreIsCanonical)] at call
    split at call
    · cases call
      exact .quiet (quiet_release nofun)
    next same =>
    dsimp only at call
    split at call
    · cases call
      exact .quiet (quiet_release nofun)
    next guard =>
    split at call
    · cases call
      exact .quiet (quiet_release nofun)
    next active =>
    cases call
    simp only [not_or, not_not] at guard
    obtain ⟨live, generation, binding⟩ := guard
    have effect := Effect.release live
    rw [generation, binding, ← not_not.mp same] at effect
    exact effect
  · cases call
    exact .quiet (quiet_release nofun)

section requests

lemma validatePinLocked_ok (valid : validatePinLocked core pin allowDraining = .ok) :
    pin.channelEpoch = core.channelEpoch ∧
      (core.state = .open ∨ allowDraining ∧ core.state = .draining) := by
  unfold validatePinLocked at valid
  split at valid
  · split at valid
    · exact nomatch valid
    next same =>
    dsimp only at valid
    split at valid
    · exact nomatch valid
    split at valid
    · exact nomatch valid
    split at valid
    · exact nomatch valid
    split at valid
    next state => exact ⟨not_not.mp same, state⟩
    · exact nomatch valid
  · exact nomatch valid

/-- A ledger that takes or settles a request keeps its identity and goes on accepting. -/
lemma accepting_of_effect (accepting : Accepting ledger)
    (effect : Ledger.Effect ledger e ledger') (request : ∀ result, e ≠ .drain result) :
    Accepting ledger' ∧ ledger'.identity = ledger.identity := by
  cases effect with
  | refused | commit | cancel | complete => exact ⟨accepting, rfl⟩
  | initialized fresh =>
    rcases accepting with state | state
    all_goals exact nomatch state.symm.trans fresh
  | reset drained =>
    rcases accepting with state | state
    all_goals exact nomatch state.symm.trans drained
  | reserve opened =>
    refine ⟨?_, rfl⟩
    unfold Accepting EndpointRequestLedger.reserved
    split_ifs
    · exact .inr rfl
    · exact .inl opened
  | drained | drain => exact absurd rfl (request _)

section

variable (ok : CoreOk core)

include ok

lemma CoreOk.accepting (state : core.state = .open ∨ core.state = .draining)
    (direction : ChannelCoreDirection) : Accepting (core.requestLedgers direction) := by
  have phase := ok.phase
  rcases state with state | state
  all_goals
    rw [state] at phase
    exact phase.2.2.2.2 direction

lemma request_effect (state : core.state = .open ∨ core.state = .draining)
    (effect : Ledger.Effect (core.requestLedgers direction) event ledger)
    (request : ∀ result, event ≠ .drain result)
    (silent : e.pinIssued = none ∧ e.pinReleased = none ∧ e.detached = none ∧ e.cleanup = none ∧
      e.opened = none) (reserved : ∀ key, e.requestReserved = some key →
      core.state = .open ∧ key.ledgerIdentity = (core.requestLedgers direction).identity) :
    Effect core e (core.setLedger direction ledger) := by
  obtain ⟨accepting, named⟩ := accepting_of_effect (ok.accepting state direction) effect request
  exact .request silent state (effect.canonical (ok.ledger direction)) named accepting reserved

lemma request_checked {bad : Prop} [Decidable bad] {unready invalid corrupt stale rest out : α}
    (call : (if readyStatus core ≠ .ok then unready else if bad then invalid
      else if ¬coreIsCanonical core then corrupt
      else if validatePinLocked core pin allowDraining ≠ .ok then stale else rest) = out) :
    invalid = out ∨ validatePinLocked core pin allowDraining ≠ .ok ∧ stale = out ∨
      validatePinLocked core pin allowDraining = .ok ∧ rest = out := by
  rw [if_neg (not_not.mpr ok.readyStatus), if_neg (not_not.mpr ok.coreIsCanonical)] at call
  split at call
  · exact .inl call
  split at call
  next refused => exact .inr (.inl ⟨refused, call⟩)
  next valid => exact .inr (.inr ⟨not_not.mp valid, call⟩)

lemma reserve_effect
    (call : channelCoreReserveRequest core pin direction requestId = (result, core')) :
    Effect core (.reserve pin direction requestId result) core' := by
  have refused : ∀ {r : ChannelCoreRequestReserveResult}, r.status ≠ .ok →
      (Event.reserve pin direction requestId r).Quiet :=
    fun no => ⟨rfl, rfl, if_neg no, rfl, rfl, rfl⟩
  rcases request_checked ok call with done | ⟨invalid, done⟩ | ⟨valid, done⟩ <;> cases done
  · exact .quiet (refused nofun)
  · exact .quiet (refused invalid)
  have state : core.state = .open := by
    rcases (validatePinLocked_ok valid).2 with state | ⟨no, _⟩
    · exact state
    · exact nomatch no
  refine request_effect ok (.inl state) (Ledger.reserve_effect rfl) nofun
    ⟨rfl, rfl, rfl, rfl, rfl⟩ ?_
  intro key reserved
  by_cases granted : (endpointRequestLedgerReserve (core.requestLedgers direction)
      ⟨(core.requestLedgers direction).identity, requestId⟩).1 = .ok
  · simp only [Event.requestReserved, if_pos granted, if_true] at reserved
    cases reserved
    exact ⟨state, rfl⟩
  · simp only [Event.requestReserved, if_neg granted, reserveFailure] at reserved
    exact nomatch reserved

lemma commit_effect {key result}
    (call : channelCoreCommitRequest core pin direction key = (result, core')) :
    Effect core (.commit pin direction key result) core' := by
  rcases request_checked ok call with done | ⟨_, done⟩ | ⟨valid, done⟩ <;> cases done
  · exact .quiet ⟨rfl, rfl, rfl, rfl, rfl, rfl⟩
  · exact .quiet ⟨rfl, rfl, rfl, rfl, rfl, rfl⟩
  have state := (validatePinLocked_ok valid).2.imp_right And.right
  exact request_effect ok state (Ledger.commit_effect rfl) nofun ⟨rfl, rfl, rfl, rfl, rfl⟩ nofun

lemma cancel_effect {key result}
    (call : channelCoreCancelRequest core pin direction key = (result, core')) :
    Effect core (.cancel pin direction key result) core' := by
  rcases request_checked ok call with done | ⟨_, done⟩ | ⟨valid, done⟩ <;> cases done
  · exact .quiet ⟨rfl, rfl, rfl, rfl, rfl, rfl⟩
  · exact .quiet ⟨rfl, rfl, rfl, rfl, rfl, rfl⟩
  have state := (validatePinLocked_ok valid).2.imp_right And.right
  exact request_effect ok state (Ledger.cancel_effect rfl) nofun ⟨rfl, rfl, rfl, rfl, rfl⟩ nofun

lemma complete_effect {authority result}
    (call : channelCoreCompleteRequest core pin direction authority = (result, core')) :
    Effect core (.complete pin direction authority result) core' := by
  rcases request_checked ok call with done | ⟨_, done⟩ | ⟨valid, done⟩ <;> cases done
  · exact .quiet ⟨rfl, rfl, rfl, rfl, rfl, rfl⟩
  · exact .quiet ⟨rfl, rfl, rfl, rfl, rfl, rfl⟩
  have state := (validatePinLocked_ok valid).2.imp_right And.right
  exact request_effect ok state (Ledger.complete_effect rfl) nofun ⟨rfl, rfl, rfl, rfl, rfl⟩ nofun

end

end requests

section drains

/-- The expected epoch of a drain, if it has one, is `epoch`. -/
def Expects (expected : Option Nat) (epoch : Nat) : Prop :=
  ∀ e, expected = some e → e = epoch

def ChannelCoreDrainResult.Admitted (result : ChannelCoreDrainResult) : Prop :=
  result.status = .ok ∨ result.status = .busy ∨ result.status = .transferCloseFailed

variable (ok : CoreOk core)

include ok

lemma CoreOk.open_or_draining (undrained : core.state ≠ .drained) :
    core.state = .open ∧ core.drainDriverActive = 0 ∨ core.state = .draining := by
  have phase := ok.phase
  cases state : core.state with
  | uninitialized => exact (state ▸ phase : Phase core .uninitialized).elim
  | «open» => exact .inl ⟨rfl, (state ▸ phase : Phase core .open).2.1⟩
  | draining => exact .inr rfl
  | drained => exact absurd state undrained

/-- The first section of a drain of the current epoch publishes Draining and makes its caller the
driver, unless there is one. -/
lemma drainBegin_eq {expectedEpoch enforce}
    (named : enforce = true → expectedEpoch = core.channelEpoch)
    (undrained : core.state ≠ .drained) :
    drainBegin core expectedEpoch enforce =
      if core.drainDriverActive ≠ 0 then (.inl ⟨.busy, core.channelEpoch, .none, .none⟩, core) else
        (.inr ⟨core.channelEpoch, core.activeOperations = 0, core.resources.ports,
          if core.activeOperations = 0 then core.resources.transferTables else fun _ => 0⟩,
          { core with state := .draining, drainDriverActive := 1 }) := by
  have current : ¬ (enforce = true ∧ core.channelEpoch ≠ expectedEpoch) :=
    fun h => h.2 (named h.1).symm
  unfold drainBegin
  rw [if_neg (not_not.mpr ok.readyStatus), if_neg (not_not.mpr ok.coreIsCanonical), if_neg current,
    if_neg undrained]
  rcases ok.open_or_draining undrained with ⟨state, driver⟩ | state
  · simp [state, driver]
  · simp [state]

lemma drainBegin_return (call : drainBegin core expectedEpoch enforce = (.inl result, core')) :
    core' = core ∧ result.detached = none ∧ result.requestCleanup = none ∧
      (result.Admitted → enforce → expectedEpoch = core.channelEpoch) := by
  by_cases stale : enforce ∧ core.channelEpoch ≠ expectedEpoch
  · unfold drainBegin at call
    rw [if_neg (not_not.mpr ok.readyStatus), if_neg (not_not.mpr ok.coreIsCanonical), if_pos stale]
      at call
    cases call
    refine ⟨rfl, rfl, rfl, ?_⟩
    rintro (no | no | no) <;> exact nomatch no
  have named : enforce → expectedEpoch = core.channelEpoch := by
    intro enforced
    by_contra other
    exact stale ⟨enforced, fun h => other h.symm⟩
  by_cases drained : core.state = .drained
  · unfold drainBegin at call
    rw [if_neg (not_not.mpr ok.readyStatus), if_neg (not_not.mpr ok.coreIsCanonical), if_neg stale,
      if_pos drained] at call
    cases call
    exact ⟨rfl, rfl, rfl, fun _ => named⟩
  rw [drainBegin_eq ok named drained] at call
  split at call
  · cases call
    exact ⟨rfl, rfl, rfl, fun _ => named⟩
  · cases call

/-- A drain that goes on to close the ports has published Draining and is the only driver. -/
lemma drainBegin_begun (call : drainBegin core expectedEpoch enforce = (.inr window, core')) :
    core' = { core with state := .draining, drainDriverActive := 1 } ∧
      (core.state = .open ∨ core.state = .draining) ∧ core.drainDriverActive = 0 ∧
      window.channelEpoch = core.channelEpoch ∧ window.ports = core.resources.ports ∧
      (window.attemptFinalize → core.activeOperations = 0) ∧
      (enforce → expectedEpoch = core.channelEpoch) := by
  have named : enforce → expectedEpoch = core.channelEpoch := by
    intro enforced
    by_contra other
    unfold drainBegin at call
    rw [if_neg (not_not.mpr ok.readyStatus), if_neg (not_not.mpr ok.coreIsCanonical),
      if_pos ⟨enforced, fun h => other h.symm⟩] at call
    cases call
  have undrained : core.state ≠ .drained := by
    intro drained
    unfold drainBegin at call
    rw [if_neg (not_not.mpr ok.readyStatus), if_neg (not_not.mpr ok.coreIsCanonical),
      if_neg (fun h => h.2 (named h.1).symm), if_pos drained] at call
    cases call
  rw [drainBegin_eq ok named undrained] at call
  split at call
  · cases call
  next idle =>
  cases call
  have state := (ok.open_or_draining undrained).imp_left And.left
  exact ⟨rfl, state, not_not.mp idle, rfl, rfl, of_decide_eq_true, named⟩

lemma drainCall_return (call : drainCall core expected = (.inl result, core')) :
    core' = core ∧ result.detached = none ∧ result.requestCleanup = none ∧
      (result.Admitted → Expects expected core.channelEpoch) := by
  cases expected with
  | none =>
    obtain ⟨same, kept, clean, _⟩ := drainBegin_return ok call
    exact ⟨same, kept, clean, nofun⟩
  | some expectedEpoch =>
    rw [drainCall] at call
    split at call
    · cases call
      refine ⟨rfl, rfl, rfl, ?_⟩
      rintro (no | no | no) <;> exact nomatch no
    obtain ⟨same, kept, clean, named⟩ := drainBegin_return ok call
    refine ⟨same, kept, clean, fun admitted e eq => ?_⟩
    cases eq
    exact named admitted rfl

lemma drainCall_begun (call : drainCall core expected = (.inr window, core')) :
    core' = { core with state := .draining, drainDriverActive := 1 } ∧
      (core.state = .open ∨ core.state = .draining) ∧ core.drainDriverActive = 0 ∧
      window.channelEpoch = core.channelEpoch ∧ window.ports = core.resources.ports ∧
      (window.attemptFinalize → core.activeOperations = 0) ∧
        Expects expected core.channelEpoch := by
  cases expected with
  | none =>
    obtain ⟨h1, h2, h3, h4, h5, h6, _⟩ := drainBegin_begun ok call
    exact ⟨h1, h2, h3, h4, h5, h6, nofun⟩
  | some expectedEpoch =>
    rw [drainCall] at call
    split at call
    · cases call
    obtain ⟨h1, h2, h3, h4, h5, h6, named⟩ := drainBegin_begun ok call
    refine ⟨h1, h2, h3, h4, h5, h6, fun e eq => ?_⟩
    cases eq
    exact named rfl

/-- The ledgers of a core that drains are live, and a drain takes them over. -/
lemma drains_ledger (state : core.state = .draining) (direction : ChannelCoreDirection) :
    endpointRequestLedgerDrain (core.requestLedgers direction) =
      (⟨.ok, (core.requestLedgers direction).keys⟩, (core.requestLedgers direction).drained) := by
  obtain ⟨_, _, _, _, accepting⟩ := (state ▸ ok.phase : Phase core .draining)
  have ready : (core.requestLedgers direction).state ≠ .uninitialized ∧
      (core.requestLedgers direction).state ≠ .draining := by
    rcases accepting direction with h | h
    all_goals
      rw [h]
      exact ⟨nofun, nofun⟩
  unfold endpointRequestLedgerDrain
  rw [if_neg (not_not.mpr ((ok.ledger direction).validate ready.1)), if_neg ready.2]
  rfl

/-- What the drain that ends an epoch returns. -/
def ChannelCore.ended (core : ChannelCore) : ChannelCoreDrainResult :=
  ⟨.ok, core.channelEpoch, some fun direction => ⟨.ok, (core.requestLedgers direction).keys⟩,
    some (core.channelEpoch, core.resources)⟩

/-- A driver that closed both tables while no pin is left returns the resources and the cleanup. -/
lemma drainEnd_ended (state : core.state = .draining)
    (epoch : window.channelEpoch = core.channelEpoch)
    (quiet : core.activeOperations = 0)
    (finalize : window.attemptFinalize = true)
    (closed : ∀ direction, transferStatus direction = .ok) :
    (drainEnd core window transferStatus).1 = core.ended := by
  obtain ⟨_, _, _, undrained, _⟩ := (state ▸ ok.phase : Phase core .draining)
  unfold drainEnd
  rw [if_neg (not_not.mpr ok.coreIsCanonical)]
  simp only [drains_ledger ok state, undrained, quiet, finalize, closed, epoch, ne_eq,
    not_true_eq_false, or_self,
    and_false, if_false, if_true, reduceCtorEq]
  rfl

/-- The second section of a drain finds the ledgers live and drains them both. -/
lemma drainEnd_effect (state : core.state = .draining)
    (call : drainEnd core window transferStatus = (result, core')) :
    Effect core (.drain expected result) core' := by
  obtain ⟨_, _, _, undrained, _⟩ := (state ▸ ok.phase : Phase core .draining)
  unfold drainEnd at call
  rw [if_neg (not_not.mpr ok.coreIsCanonical)] at call
  dsimp only at call
  split at call
  · cases call
    exact .notified state rfl rfl
  next quiet =>
  split at call
  · cases call
    exact .notified state rfl rfl
  split at call
  · cases call
    exact .notified state rfl rfl
  simp only [drains_ledger ok state, undrained, ne_eq, not_true_eq_false, or_self, and_false,
    if_false] at call
  cases call
  exact .detached state (not_not.mp (not_or.mp quiet).1)

end drains

lemma resetBegin_error (call : resetBegin core resourceDomain = .error status) : status ≠ .ok := by
  unfold resetBegin at call
  split_ifs at call with ready
  · cases call
    exact ready
  all_goals
    cases call
    exact nofun

lemma identityIsValid_of_epoch (valid : epoch ≠ kChannelEpochInvalid) (direction) :
    endpointRequestLedgerIdentityIsValid ⟨epoch, channelCoreLedgerDirection direction⟩ := by
  refine decide_eq_true ⟨valid, ?_⟩
  cases direction <;> rfl

lemma resetEnd_effect (ok : CoreOk core) (newer : previousEpoch < nextEpoch)
    (word : nextEpoch ≤ max64)
    (attached : attachedResourcesAreCanonical resources)
    (call : resetEnd core previousEpoch nextEpoch resources = (result, core')) :
    Effect core (.reset result) core' := by
  unfold resetEnd at call
  rw [if_neg (not_not.mpr ok.coreIsCanonical)] at call
  split at call
  · cases call
    exact .quiet (quiet_reset nofun)
  next guard =>
  simp only [not_or, not_not] at guard
  obtain ⟨state, same⟩ := guard
  have draining := (state ▸ ok.phase : Phase core .drained).2.2.2.2.2
  have resets : ∀ direction, endpointRequestLedgerReset (core.requestLedgers direction)
      ⟨nextEpoch, channelCoreLedgerDirection direction⟩ 1
      = (.ok, (core.requestLedgers direction).opened
        ⟨nextEpoch, channelCoreLedgerDirection direction⟩ 1) := by
    intro direction
    have named := ok.identity direction
    have valid := identityIsValid_of_epoch (Nat.ne_of_gt (Nat.zero_lt_of_lt newer)) direction
    have exhausted : core.channelEpoch ≠ kEndpointRequestEpochMaximum := by
      rw [same]
      exact Nat.ne_of_lt (newer.trans_le word)
    unfold endpointRequestLedgerReset
    rw [if_neg (not_not.mpr (ok.ledger direction).isCanonical), if_neg (by rw [draining]; nofun),
      if_neg (not_not.mpr (draining direction)), if_neg, named, if_neg exhausted,
      if_neg (by rw [same]; exact Nat.not_le.mpr newer)]
    · rfl
    · rw [named, not_or, not_or, not_not, not_not]
      exact ⟨valid, nofun, rfl⟩
  simp only [resets, ne_eq, not_true_eq_false, or_self, if_false] at call
  cases call
  exact .reopened state (by rw [same]; exact newer) attached

end DuetOS.Channel
