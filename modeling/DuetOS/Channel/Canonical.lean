import DuetOS.Channel.System
import DuetOS.Ledger.Canonical

/-!
# Canonical cores

The invariant of a core, which implies `CoreIsCanonical`, and of its callers: while a drain is
outside the lock the core stays Draining under the drain's epoch, and a drain that attempts to
finalize saw the last pin go.
-/

namespace DuetOS.Channel

open Word DuetOS.Ledger DuetOS.Resource

def pinOf (epoch : Nat) (row : Fin kChannelCoreOperationCapacity × ChannelCoreOperationSlot) :
    Option ChannelCoreOperationPin :=
  if row.2.state = .live then some ⟨epoch, row.1, row.2.generation, row.2.binding⟩ else none

def ChannelCore.livePins (core : ChannelCore) : Multiset ChannelCoreOperationPin :=
  Slots.gather (pinOf core.channelEpoch) fun index => (index, core.operationSlots index)

/-- The ledger takes or settles requests. -/
def Accepting (ledger : EndpointRequestLedger) : Prop :=
  ledger.state = .open ∨ ledger.state = .sequenceRetired

def Phase (core : ChannelCore) : ChannelCoreState → Prop
  | .uninitialized => False
  | .open => attachedResourcesAreCanonical core.resources ∧ core.drainDriverActive = 0 ∧
      core.portsCloseNotified = 0 ∧ core.requestLedgersDrained = 0 ∧
      ∀ direction, Accepting (core.requestLedgers direction)
  | .draining => attachedResourcesAreCanonical core.resources ∧ core.drainDriverActive ≤ 1 ∧
      core.portsCloseNotified ≤ 1 ∧ core.requestLedgersDrained = 0 ∧
      ∀ direction, Accepting (core.requestLedgers direction)
  | .drained => core.resources = .none ∧ core.activeOperations = 0 ∧ core.drainDriverActive = 0 ∧
      core.portsCloseNotified = 1 ∧ core.requestLedgersDrained = 1 ∧
      ∀ direction, (core.requestLedgers direction).state = .draining

structure CoreOk (core : ChannelCore) : Prop where
  ready : core.initialized = kChannelCoreInitializeReady
  epoch_ne : core.channelEpoch ≠ kChannelEpochInvalid
  hint : core.nextOperationHint < kChannelCoreOperationCapacity
  slots : ∀ index, operationSlotIsCanonical (core.operationSlots index)
  generations : ∀ index, (core.operationSlots index).generation ≤ max32
  active : core.activeOperations = core.livePins.card
  ledger : ∀ direction, Ledger.Canonical (core.requestLedgers direction)
  identity : ∀ direction, (core.requestLedgers direction).identity
    = ⟨core.channelEpoch, channelCoreLedgerDirection direction⟩
  phase : Phase core core.state

section core

lemma isSome_pinOf (epoch row) : (pinOf epoch row).isSome = decide (row.2.state = .live) := by
  unfold pinOf
  by_cases live : row.2.state = .live
  · rw [if_pos live, decide_eq_true live]
    rfl
  · rw [if_neg live, decide_eq_false live]
    rfl

lemma card_livePins (core : ChannelCore) :
    core.livePins.card = (List.finRange kChannelCoreOperationCapacity).countP
      fun index => (core.operationSlots index).state = .live := by
  rw [ChannelCore.livePins, Slots.card_gather]
  simp only [isSome_pinOf]

lemma card_livePins_le (core : ChannelCore) :
    core.livePins.card ≤ kChannelCoreOperationCapacity := by
  rw [card_livePins]
  exact List.countP_le_length.trans (Nat.le_of_eq List.length_finRange)

variable (ok : CoreOk core)

include ok

lemma CoreOk.operationSlotsAreCanonical : operationSlotsAreCanonical core := by
  rw [Channel.operationSlotsAreCanonical, decide_eq_true_eq]
  exact ⟨ok.slots, by rw [ok.active, card_livePins]⟩

lemma CoreOk.requestLedgerMatches (direction)
    (state : if required = .open then Accepting (core.requestLedgers direction)
      else (core.requestLedgers direction).state = required)
    : requestLedgerMatches core required direction := by
  have named := ok.identity direction
  rw [Channel.requestLedgerMatches, if_neg (by simp [(ok.ledger direction).isCanonical, named])]
  split_ifs at state ⊢
  all_goals exact decide_eq_true state

lemma CoreOk.requestLedgersMatch_open
    (accepting : ∀ direction, Accepting (core.requestLedgers direction)) :
    requestLedgersMatch core .open :=
  decide_eq_true ⟨ok.requestLedgerMatches _ (by rw [if_pos rfl]; exact accepting _),
    ok.requestLedgerMatches _ (by rw [if_pos rfl]; exact accepting _)⟩

lemma CoreOk.requestLedgersMatch_draining
    (draining : ∀ direction, (core.requestLedgers direction).state = .draining) :
    requestLedgersMatch core .draining :=
  decide_eq_true ⟨ok.requestLedgerMatches _ (draining _), ok.requestLedgerMatches _ (draining _)⟩

lemma CoreOk.coreIsCanonical : coreIsCanonical core := by
  have phase := ok.phase
  have flags : core.drainDriverActive ≤ 1 ∧ core.portsCloseNotified ≤ 1 ∧
    core.requestLedgersDrained ≤ 1 := by
    cases state : core.state with
    | uninitialized => exact (state ▸ phase : Phase core .uninitialized).elim
    | «open» =>
      obtain ⟨_, h1, h2, h3, _⟩ := (state ▸ phase : Phase core .open)
      omega
    | draining =>
      obtain ⟨_, h1, h2, h3, _⟩ := (state ▸ phase : Phase core .draining)
      omega
    | drained =>
      obtain ⟨_, _, h1, h2, h3, _⟩ := (state ▸ phase : Phase core .drained)
      omega
  unfold Channel.coreIsCanonical
  rw [if_neg]
  · cases state : core.state with
    | uninitialized => exact (state ▸ phase : Phase core .uninitialized).elim
    | «open» =>
      obtain ⟨attached, driver, notified, undrained, accepting⟩ :=
        (state ▸ phase : Phase core .open)
      exact decide_eq_true
        ⟨attached, driver, notified, undrained, ok.requestLedgersMatch_open accepting⟩
    | draining =>
      obtain ⟨attached, _, _, undrained, accepting⟩ := (state ▸ phase : Phase core .draining)
      rw [if_neg (not_not.mpr attached), if_pos undrained]
      exact ok.requestLedgersMatch_open accepting
    | drained =>
      obtain ⟨none, quiet, driver, notified, drained, draining⟩ :=
        (state ▸ phase : Phase core .drained)
      have detached : detachedResourcesAreCanonical core.resources := by
        rw [none]
        rfl
      exact decide_eq_true
        ⟨detached, quiet, driver, notified, drained, ok.requestLedgersMatch_draining draining⟩
  · simp only [ok.ready, ok.epoch_ne, ok.operationSlotsAreCanonical, not_or, ge_iff_le, gt_iff_lt,
      not_le, not_lt,
      not_true_eq_false, not_false_eq_true, ne_eq, and_true, true_and]
    exact ⟨ok.hint, flags⟩

lemma CoreOk.readyStatus : readyStatus core = .ok := if_pos ok.ready

end core

end DuetOS.Channel
