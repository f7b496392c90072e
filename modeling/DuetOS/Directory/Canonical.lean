import DuetOS.Directory.Queue
import DuetOS.Lib.Slots

/-!
# Canonical rows

What the trackers of a row hold, and `RowIsCanonical` of a registered row as a record of facts.
-/

namespace DuetOS.Directory

open Word DuetOS.Lifecycle Multiset Slots

variable {row : ServiceDirectoryRow} {index : Fin kServiceDirectoryAcceptedCapacity}
  {accepted : ServiceDirectoryAcceptedChannel}

namespace ServiceDirectoryAcceptedChannel

section

variable (accepted : ServiceDirectoryAcceptedChannel)

/-- The receipt an occupied tracker holds. -/
def holds : Option ServiceEndpointOwnerReceipt :=
  if accepted.occupied then some accepted.owner else none

def driven : Option (ServiceDirectoryAcceptedChannelKey × ServiceEndpointOwnerReceipt) :=
  if accepted.releaseDriverActive then some (accepted.key, accepted.owner) else none

def served : Option (ProcessKey × Nat) :=
  if accepted.state = .published ∨ accepted.state = .releasing then
    some (accepted.serverProcess, accepted.serverHandle)
  else none

end

end ServiceDirectoryAcceptedChannel

namespace ServiceDirectoryRow

section

variable (row : ServiceDirectoryRow)

def queueReceipts : Multiset ServiceEndpointOwnerReceipt :=
  (row.queue.map fun queued => queued.owned.owner : List _)

def acceptedReceipts : Multiset ServiceEndpointOwnerReceipt :=
  gather ServiceDirectoryAcceptedChannel.holds row.acceptedChannels

def driven (row : ServiceDirectoryRow) :
    Multiset (ServiceDirectoryAcceptedChannelKey × ServiceEndpointOwnerReceipt) :=
  gather ServiceDirectoryAcceptedChannel.driven row.acceptedChannels

/-- The handles of the accepted channels. -/
def served (row : ServiceDirectoryRow) : Multiset (ProcessKey × Nat) :=
  gather ServiceDirectoryAcceptedChannel.served row.acceptedChannels

/-- The receipts the row holds: in its queue, in its trackers, and in its closing array. -/
def held : Multiset ServiceEndpointOwnerReceipt :=
  row.queueReceipts + row.acceptedReceipts +
    (row.closingChannels.map fun channel => channel.owner : List _)

end

end ServiceDirectoryRow

lemma held_trade {row row' : ServiceDirectoryRow} {lost lost' gained gained'}
    (queue : row'.queueReceipts + lost = row.queueReceipts + gained)
    (accepted : row'.acceptedReceipts + lost' = row.acceptedReceipts + gained')
    (closing : row'.closingChannels = row.closingChannels) :
    row'.held + (lost + lost') = row.held + (gained + gained') := by
  rw [ServiceDirectoryRow.held, ServiceDirectoryRow.held, closing, add_right_comm,
    add_right_comm (row.queueReceipts + row.acceptedReceipts), add_add_add_comm, queue, accepted,
    add_add_add_comm]

lemma occupiedAccepted_eq (row : ServiceDirectoryRow) :
    row.occupiedAccepted = row.acceptedReceipts.card := by
  rw [ServiceDirectoryRow.acceptedReceipts, card_gather, ServiceDirectoryRow.occupiedAccepted]
  congr 1
  funext index
  unfold ServiceDirectoryAcceptedChannel.holds
  cases (row.acceptedChannels index).occupied <;> rfl

/-- `AcceptedChannelsAreCanonical`: each tracker is canonical and the occupied ones are counted. -/
structure AcceptedSound (row : ServiceDirectoryRow) : Prop where
  count : row.acceptedReceipts.card = row.acceptedCount
  hint : row.nextAcceptedHint < kServiceDirectoryAcceptedCapacity
  tracker : ∀ index, acceptedChannelIsCanonical row.key index (row.acceptedChannels index) = true

lemma acceptedChannelsAreCanonical_iff : acceptedChannelsAreCanonical row ↔ AcceptedSound row := by
  rw [acceptedChannelsAreCanonical, decide_eq_true_iff, occupiedAccepted_eq]
  constructor
  · exact fun ⟨_, hint, trackers, count⟩ => ⟨count, hint, trackers⟩
  · rintro ⟨count, hint, trackers⟩
    refine ⟨?_, hint, trackers, count⟩
    rw [← count, ← occupiedAccepted_eq]
    exact List.countP_le_length.trans_eq (List.length_finRange ..)

/-- The facts `AcceptedChannelsAreCanonical` checks of an occupied tracker. -/
structure OccupiedTracker (service : ServiceKey) (index : Fin kServiceDirectoryAcceptedCapacity)
    (accepted : ServiceDirectoryAcceptedChannel) : Prop where
  valid : serviceDirectoryAcceptedChannelKeyIsValid accepted.key
  service : accepted.key.service = service
  slot : accepted.key.slot = index
  receipt : serviceEndpointOwnerReceiptIsValid accepted.owner
  channel : accepted.owner.channel = accepted.key.channel
  process : processKeyIsValid accepted.serverProcess
  publishing : accepted.state = .publishing →
    accepted.serverHandle = kHandleInvalid ∧ accepted.releaseDriverActive = false
  published : accepted.state = .published →
    accepted.serverHandle ≠ kHandleInvalid ∧ accepted.releaseDriverActive = false
  releasing : accepted.state = .releasing → accepted.serverHandle ≠ kHandleInvalid

lemma acceptedChannelIsCanonical_iff (occupied : accepted.occupied) :
    acceptedChannelIsCanonical service index accepted ↔ OccupiedTracker service index accepted := by
  rw [acceptedChannelIsCanonical, if_neg (by rw [occupied]; decide), decide_eq_true_iff]
  simp only [Bool.not_eq_true]
  exact ⟨fun ⟨a, b, c, d, e, f, g, h, i⟩ => ⟨a, b, c, d, e, f, g, h, i⟩,
    fun ⟨a, b, c, d, e, f, g, h, i⟩ => ⟨a, b, c, d, e, f, g, h, i⟩⟩

lemma clear_canonical (service index accepted) :
    acceptedChannelIsCanonical service index (clearAcceptedLocked accepted) := by
  unfold clearAcceptedLocked
  split
  next last =>
    rw [last]
    rfl
  next later =>
  simp only [acceptedChannelIsCanonical, ServiceDirectoryAcceptedChannel.idle,
    ServiceDirectoryAcceptedChannel.occupied]
  simp [later]
  decide

lemma idle_of_not_occupied (idle : accepted.occupied = false)
    (canonical : acceptedChannelIsCanonical service index accepted) :
    accepted.holds = none ∧ accepted.driven = none ∧ accepted.served = none := by
  rw [acceptedChannelIsCanonical, if_pos (by rw [idle]; decide), decide_eq_true_iff] at canonical
  obtain ⟨_, _, _, _, _, _, driver, _⟩ := canonical
  have free : accepted.state = .free ∨ accepted.state = .retired := by
    cases state : accepted.state <;>
      simp [ServiceDirectoryAcceptedChannel.occupied, state] at idle ⊢
  refine ⟨by simp [ServiceDirectoryAcceptedChannel.holds, idle],
    by simpa [ServiceDirectoryAcceptedChannel.driven] using driver, ?_⟩
  rcases free with free | retired
  · simp [ServiceDirectoryAcceptedChannel.served, free]
  · simp [ServiceDirectoryAcceptedChannel.served, retired]

section SetAccepted

variable {count : Nat}

lemma setAccepted_receipts : (row.setAccepted index accepted count).acceptedReceipts +
        ((row.acceptedChannels index).holds.toList : Multiset _) =
      row.acceptedReceipts + (accepted.holds.toList : Multiset _) :=
  gather_update (add_comm ..)

lemma setAccepted_served : (row.setAccepted index accepted count).served +
        ((row.acceptedChannels index).served.toList : Multiset _) =
      row.served + (accepted.served.toList : Multiset _) :=
  gather_update (add_comm ..)

lemma setAccepted_held (same : accepted.holds = (row.acceptedChannels index).holds) :
    (row.setAccepted index accepted count).held = row.held := by
  have trade := @setAccepted_receipts row index accepted count
  rw [same] at trade
  rw [ServiceDirectoryRow.held, add_right_cancel trade]
  rfl

lemma setAccepted_held_lost {receipt : ServiceEndpointOwnerReceipt} (none : accepted.holds = none)
    (held : (row.acceptedChannels index).holds = some receipt) :
    (row.setAccepted index accepted count).held + {receipt} = row.held := by
  have trade := @setAccepted_receipts row index accepted count
  rw [none, held] at trade
  have total := @held_trade row (row.setAccepted index accepted count) 0 {receipt} 0 0 rfl trade rfl
  rwa [zero_add, add_zero, add_zero] at total

lemma setAccepted_served_le
    (served : accepted.served = none ∨ accepted.served = (row.acceptedChannels index).served) :
    (row.setAccepted index accepted count).served ≤ row.served := by
  have trade := @setAccepted_served row index accepted count
  rcases served with none | same
  · rw [none] at trade
    exact (le_add_right ..).trans (trade.le.trans (add_zero _).le)
  · rw [same] at trade
    exact (add_right_cancel trade).le

lemma setAccepted_served_new (served : accepted.served = some handle) :
    (row.setAccepted index accepted count).served ≤ row.served + {handle} := by
  have trade := @setAccepted_served row index accepted count
  rw [served] at trade
  exact (le_add_right ..).trans trade.le

lemma AcceptedSound.set (sound : AcceptedSound row)
    (canonical : acceptedChannelIsCanonical row.key index accepted)
    (counted : count + (row.acceptedChannels index).holds.toList.length =
      row.acceptedCount + accepted.holds.toList.length) :
        AcceptedSound (row.setAccepted index accepted count) where
  count := by
    have card := congrArg card (@setAccepted_receipts row index accepted count)
    rw [card_add, card_add, sound.count, coe_card, coe_card] at card
    simp only [ServiceDirectoryRow.setAccepted] at card ⊢
    omega
  hint := sound.hint
  tracker := by
    intro other
    simp only [ServiceDirectoryRow.setAccepted]
    rcases eq_or_ne other index with rfl | ne
    · rw [Function.update_self]
      exact canonical
    · rw [Function.update_of_ne ne]
      exact sound.tracker other

end SetAccepted

structure ActiveRow (row : ServiceDirectoryRow) : Prop where
  authority : row.reservationAuthority = 0
  closing : row.closingChannels = []
  outstanding : row.closeBatchOutstanding = 0
  driver : row.closeDriverActive = 0
  reason : row.closeReason = .none

structure ReservedRow (row : ServiceDirectoryRow) : Prop where
  authority : row.reservationAuthority = row.key.generation
  operations : row.activeOperations = 0
  queue : row.acceptCount = 0
  accepted : row.acceptedCount = 0
  publishers : row.externalPublishers = 0
  closing : row.closingChannels = []
  outstanding : row.closeBatchOutstanding = 0
  driver : row.closeDriverActive = 0
  ready : row.ready = false
  reason : row.closeReason = .none

structure ClosingRow (row : ServiceDirectoryRow) : Prop where
  authority : row.reservationAuthority = 0 ∨ row.reservationAuthority = row.key.generation
  ready : row.ready = false
  reason : row.closeReason ≠ .none

structure OperationsSound (row : ServiceDirectoryRow) : Prop where
  slot : ∀ index, operationSlotIsCanonical (row.operationSlots index)
  live : row.liveOperations = row.activeOperations
  hint : row.nextOperationHint < kServiceDirectoryOperationCapacity

structure ClosingSound (row : ServiceDirectoryRow) : Prop where
  length : row.closingChannels.length ≤ kServiceDirectoryCloseBatchCapacity
  outstanding : row.closeBatchOutstanding ≤ kServiceDirectoryCloseBatchCapacity
  driver : row.closeDriverActive ≤ 1
  channel : ∀ channel ∈ row.closingChannels,
    ownedChannelIsCanonical channel ∧ serviceDirectoryOwnedChannelIsEmpty channel = false
  driving : row.closeDriverActive ≠ 0 → row.closeBatchOutstanding ≠ 0 ∧ row.closingChannels = []
  idle : row.closeDriverActive = 0 → row.closeBatchOutstanding = 0

structure RowCanonical (row : ServiceDirectoryRow) : Prop where
  name : serviceDirectoryNameIsCanonical row.name
  owner : serviceInstanceTokenIsValid row.owner
  credential : serviceEndpointCredentialSnapshotIsCanonical row.ownerCredential
  key : serviceKeyIsValid row.key
  manifestSlot : row.manifestSlot < kServiceDirectoryCapacity
  operations : OperationsSound row
  queue : QueueSound row
  accepted : AcceptedSound row
  closing : ClosingSound row
  state : row.state = .reserved ∧ ReservedRow row ∨ row.state = .active ∧ ActiveRow row ∨
    row.state = .closing ∧ ClosingRow row

lemma operationSlotsAreCanonical_iff : operationSlotsAreCanonical row ↔ OperationsSound row := by
  rw [operationSlotsAreCanonical, decide_eq_true_iff]
  exact ⟨fun ⟨slot, live, hint⟩ => ⟨slot, live, hint⟩, fun ⟨slot, live, hint⟩ => ⟨slot, live, hint⟩⟩

lemma closingChannelsAreCanonical_iff : closingChannelsAreCanonical row ↔ ClosingSound row := by
  rw [closingChannelsAreCanonical, decide_eq_true_iff]
  constructor
  · rintro ⟨length, outstanding, driver, channel, exclusive⟩
    refine ⟨length, outstanding, driver, ?_, fun active => ?_, fun idle => ?_⟩
    · simpa using channel
    · rw [if_pos active] at exclusive
      exact ⟨exclusive.1, List.length_eq_zero_iff.mp exclusive.2⟩
    · rwa [if_neg (not_not.mpr idle)] at exclusive
  · rintro ⟨length, outstanding, driver, channel, driving, idle⟩
    refine ⟨length, outstanding, driver, by simpa using channel, ?_⟩
    split
    next active => exact ⟨(driving active).1, List.length_eq_zero_iff.mpr (driving active).2⟩
    next inactive => exact idle (not_not.mp inactive)

lemma rowIsCanonical_iff (occupied : row.occupied) : rowIsCanonical row ↔ RowCanonical row := by
  have used : row.state ≠ .empty ∧ row.state ≠ .retired := of_decide_eq_true occupied
  have bound : serviceKeyIsValid row.key → row.key.slot < kServiceDirectoryCapacity :=
    fun valid => (of_decide_eq_true valid).1
  rw [rowIsCanonical, if_neg (not_or.mpr used)]
  constructor
  · intro canonical
    split at canonical
    · cases canonical
    next sound =>
    simp only [not_or, not_not, not_le] at sound
    obtain ⟨name, owner, credential, key, _, manifestSlot, operations, queue, accepted, closing⟩ :=
      sound
    refine ⟨name, owner, credential, key, manifestSlot,
      operationSlotsAreCanonical_iff.mp operations, acceptQueueIsCanonical_iff.mp queue,
      acceptedChannelsAreCanonical_iff.mp accepted, closingChannelsAreCanonical_iff.mp closing, ?_⟩
    cases state : row.state <;> rw [state] at canonical
    case empty => exact absurd state used.1
    case retired => exact absurd state used.2
    case reserved =>
      obtain ⟨a, b, c, d, e, f, g, h, i, j⟩ := of_decide_eq_true canonical
      exact .inl ⟨rfl, a, b, c, d, e, List.length_eq_zero_iff.mp f, g, h, Bool.not_eq_true _ ▸ i, j⟩
    case active =>
      obtain ⟨a, b, c, d, e⟩ := of_decide_eq_true canonical
      exact .inr (.inl ⟨rfl, a, List.length_eq_zero_iff.mp b, c, d, e⟩)
    case closing =>
      obtain ⟨a, b, c⟩ := of_decide_eq_true canonical
      exact .inr (.inr ⟨rfl, a, Bool.not_eq_true _ ▸ b, c⟩)
  · intro sound
    rw [if_neg]
    · rcases sound.state with ⟨state, facts⟩ | ⟨state, facts⟩ | ⟨state, facts⟩ <;> rw [state]
      · exact decide_eq_true ⟨facts.authority, facts.operations, facts.queue, facts.accepted,
          facts.publishers, List.length_eq_zero_iff.mpr facts.closing, facts.outstanding,
          facts.driver,
          by rw [facts.ready]; decide, facts.reason⟩
      · exact decide_eq_true ⟨facts.authority, List.length_eq_zero_iff.mpr facts.closing,
          facts.outstanding, facts.driver, facts.reason⟩
      · exact decide_eq_true ⟨facts.authority, by rw [facts.ready]; decide, facts.reason⟩
    · simp only [not_or, not_not, not_le]
      exact ⟨sound.name, sound.owner, sound.credential, sound.key, bound sound.key,
        sound.manifestSlot, operationSlotsAreCanonical_iff.mpr sound.operations,
        acceptQueueIsCanonical_iff.mpr sound.queue,
        acceptedChannelsAreCanonical_iff.mpr sound.accepted,
        closingChannelsAreCanonical_iff.mpr sound.closing⟩

end DuetOS.Directory
