import DuetOS.Directory.Registration

/-!
# Channels of a row

What each section of `Connect`, `Accept` and the releases makes of a sound row, and of the receipts
and handles it has.
-/

namespace DuetOS.Directory

open Word DuetOS.Lifecycle Multiset ServiceDirectoryRow

/-- The rows differ in their queue, their trackers and their publishers only. -/
structure Rechanneled (row row' : ServiceDirectoryRow) : Prop where
  name : row'.name = row.name
  owner : row'.owner = row.owner
  credential : row'.ownerCredential = row.ownerCredential
  key : row'.key = row.key
  authority : row'.reservationAuthority = row.reservationAuthority
  manifestSlot : row'.manifestSlot = row.manifestSlot
  active : row'.activeOperations = row.activeOperations
  hint : row'.nextOperationHint = row.nextOperationHint
  operations : row'.operationSlots = row.operationSlots
  closing : row'.closingChannels = row.closingChannels
  outstanding : row'.closeBatchOutstanding = row.closeBatchOutstanding
  driver : row'.closeDriverActive = row.closeDriverActive
  ready : row'.ready = row.ready
  state : row'.state = row.state
  reason : row'.closeReason = row.closeReason

lemma Rechanneled.trans (first : Rechanneled row row') (second : Rechanneled row' row'') :
    Rechanneled row row'' := by
  obtain ⟨⟩ := row'
  obtain ⟨rfl, rfl, rfl, rfl, rfl, rfl, rfl, rfl, rfl, rfl, rfl, rfl, rfl, rfl, rfl⟩ := first
  exact { second with }

/-- A row that is not Reserved stays canonical when its queue and its trackers do. -/
lemma RowCanonical.rechannel (canonical : RowCanonical row) (same : Rechanneled row row')
    (opened : row.state ≠ .reserved) (queue : QueueSound row') (accepted : AcceptedSound row') :
    RowCanonical row' := by
  obtain ⟨⟩ := row'
  obtain ⟨rfl, rfl, rfl, rfl, rfl, rfl, rfl, rfl, rfl, rfl, rfl, rfl, rfl, rfl, rfl⟩ := same
  refine { canonical with
    operations := { canonical.operations with }, queue, accepted,
    closing := { canonical.closing with }, state := ?_ }
  rcases canonical.state with ⟨reserved, _⟩ | ⟨active, facts⟩ | ⟨closing, facts⟩
  · exact absurd reserved opened
  · exact .inr (.inl ⟨active, { facts with }⟩)
  · exact .inr (.inr ⟨closing, { facts with }⟩)

lemma RowSound.rechannel (sound : RowSound row calls) (same : Rechanneled row row')
    (opened : row.state ≠ .reserved) (queue : QueueSound row') (accepted : AcceptedSound row')
    (registered : ∀ call ∈ calls', call.service = some row.key)
    (publishers : row'.externalPublishers = Bag.tally Call.publishes calls')
    (closers : CloserSound row calls') (trackers : TrackersSound row'.acceptedChannels calls') :
    RowSound row' calls' where
  canonical := sound.canonical.rechannel same opened queue accepted
  registered := same.key ▸ registered
  pins := same.operations ▸ sound.pins
  publishers
  closers := {
    count := same.driver.trans closers.count
    closer := fun mem => by
      rw [same.owner, same.state, same.outstanding]
      exact closers.closer mem }
  trackers

lemma RowSound.opened_of_publisher (sound : RowSound row calls) (mem : call ∈ calls)
    (publishes : call.publishes) : row.state ≠ .reserved := by
  intro reserved
  have pos := Bag.tally_pos mem publishes
  rw [← sound.publishers, (sound.canonical.reservedRow reserved).publishers] at pos
  exact Nat.lt_irrefl _ pos

lemma RowSound.opened_of_occupied (sound : RowSound row calls)
    (occupied : (row.acceptedChannels index).occupied) : row.state ≠ .reserved := by
  intro reserved
  have idle := sound.canonical.accepted.idle (sound.canonical.reservedRow reserved).accepted index
  rw [idle] at occupied
  cases occupied

/-- What a section makes of a sound row: the calls that work on it now, the receipts it lost and
gained, and the handles it serves in addition. -/
structure Change (row row' : ServiceDirectoryRow) (calls : Multiset Call)
    (lost gained : Multiset ServiceEndpointOwnerReceipt) (published : Multiset (ProcessKey × Nat)) :
    Prop where
  next : Next row row' calls
  held : row'.held + lost = row.held + gained
  served : row'.served ≤ row.served + published

lemma RowSound.recycled (sound : RowSound row' calls) (same : row'.key = row.key)
    (name : row'.name = row.name) (owner : row'.owner = row.owner)
    (held : row'.held + lost = row.held + gained) (served : row'.served ≤ row.served + published) :
    Change row (tryRecycleLocked row').2 calls lost gained published where
  next := by
    rcases sound.recycle with ⟨kept, key', name', owner'⟩ | ⟨empty, canonical, none⟩
    · exact .kept kept (key'.trans same) (name'.trans name) (owner'.trans owner)
    · exact .recycled empty canonical none
  held := by rw [recycle_held sound.canonical, held]
  served := (recycle_served row').trans served

lemma RowSound.leave (sound : RowSound row (call ::ₘ calls)) (publishes : call.publishes)
    (same : Rechanneled row row') (publishers : row'.externalPublishers = row.externalPublishers)
    (queue : QueueSound row') (accepted : AcceptedSound row')
    (trackers : TrackersSound row'.acceptedChannels calls)
    (held : row'.held + lost = row.held + gained) (served : row'.served ≤ row.served + published) :
    row'.externalPublishers ≠ 0 ∧
      Change row (tryRecycleLocked
        { row' with externalPublishers := row'.externalPublishers - 1 }).2
        calls lost gained published := by
  have count : row'.externalPublishers = Bag.tally Call.publishes calls + 1 := by
    rw [publishers, sound.publishers, Bag.tally_cons, if_pos publishes]
  have notCloser : call.closes = false := by
    cases call <;> first | rfl | cases publishes
  refine ⟨by omega, RowSound.recycled ?_ same.key same.name same.owner held served⟩
  refine sound.rechannel { same with } (sound.opened_of_publisher (mem_cons_self ..) publishes)
    { queue with } { accepted with } (fun call mem => sound.registered call (mem_cons_of_mem mem))
    ?_ ((closerSound_cons notCloser).mp sound.closers) trackers
  show row'.externalPublishers - 1 = Bag.tally Call.publishes calls
  omega

structure Requeued (row row' : ServiceDirectoryRow) : Prop extends Rechanneled row row' where
  publishers : row'.externalPublishers = row.externalPublishers
  channels : row'.acceptedChannels = row.acceptedChannels
  count : row'.acceptedCount = row.acceptedCount
  next : row'.nextAcceptedHint = row.nextAcceptedHint

lemma Requeued.refl (row) : Requeued row row := by
  constructor <;> first | rfl | constructor <;> rfl

section

variable (same : Requeued row row')

include same

lemma Requeued.acceptedReceipts : row'.acceptedReceipts = row.acceptedReceipts := by
  rw [ServiceDirectoryRow.acceptedReceipts, same.channels]
  rfl

lemma Requeued.accepted (sound : AcceptedSound row) : AcceptedSound row' where
  count := by rw [same.acceptedReceipts, same.count, sound.count]
  hint := same.next ▸ sound.hint
  tracker := by
    rw [same.channels, same.key]
    exact sound.tracker

lemma Requeued.held (queue : row'.queueReceipts + lost = row.queueReceipts + gained) :
    row'.held + lost = row.held + gained := by
  have trade := @held_trade _ _ _ 0 _ 0 queue (congrArg (· + 0) same.acceptedReceipts) same.closing
  simpa using trade

lemma Requeued.served : row'.served = row.served := by
  rw [ServiceDirectoryRow.served, same.channels]
  rfl

end

lemma RowSound.leaveQueue (sound : RowSound row (.queued row.key channel ::ₘ calls))
    (same : Requeued row row') (queue : QueueSound row')
    (receipts : row'.queueReceipts + lost = row.queueReceipts) :
    row'.externalPublishers ≠ 0 ∧
      Change row (tryRecycleLocked
        { row' with externalPublishers := row'.externalPublishers - 1 }).2
        calls lost 0 0 := by
  refine sound.leave rfl same.toRechanneled same.publishers queue
    (same.accepted sound.canonical.accepted) ?_ (same.held (receipts.trans (add_zero _).symm)) ?_
  · rw [same.channels]
    exact (trackersSound_cons rfl rfl).mp sound.trackers
  · rw [same.served, add_zero]

lemma RowSound.enqueue (sound : RowSound row calls) (opened : row.state ≠ .reserved)
    (queued_sound : QueuedSound queued) (room : row.acceptCount < kServiceDirectoryAcceptCapacity) :
    Change row { enqueueTailLocked row queued with
      externalPublishers := row.externalPublishers + 1 }
      (.queued row.key channel ::ₘ calls) 0 {queued.owned.owner} 0 where
  next := by
    refine .kept (sound.rechannel (by constructor <;> rfl) opened ?_ ?_ ?_ ?_ ?_ ?_) rfl rfl rfl
    · exact { sound.canonical.queue.enqueueTail queued_sound room with }
    · exact { sound.canonical.accepted with }
    · intro call mem
      rcases mem_cons.mp mem with rfl | mem
      · rfl
      · exact sound.registered call mem
    · simp [Call.publishes, sound.publishers]
    · exact (closerSound_cons rfl).mpr sound.closers
    · exact (trackersSound_cons rfl rfl).mpr sound.trackers
  held := by
    have same : Requeued row (enqueueTailLocked row queued) := by
      constructor <;> first | rfl | constructor <;> rfl
    have queue : (enqueueTailLocked row queued).queueReceipts + 0 =
      row.queueReceipts + {queued.owned.owner} := by
      rw [queueReceipts, enqueueTail_queue room, List.map_append, ← coe_add, add_zero]
      rfl
    exact same.held queue
  served := (add_zero _).ge

/-- The receipt of the entry that was taken out of the queue, if any. -/
def removedReceipts (removed : Option ServiceDirectoryQueuedChannel) :
    Multiset ServiceEndpointOwnerReceipt :=
  removed.elim 0 fun queued => {queued.owned.owner}

lemma remove_requeued (sound : QueueSound row) (channel) :
    let removed := removeQueuedLocked row channel
    let rest := removed.elim row Prod.snd
    Requeued row rest ∧ QueueSound rest ∧
      rest.queueReceipts + removedReceipts (removed.map Prod.fst) = row.queueReceipts := by
  intro removed rest
  cases eq : removeQueuedLocked row channel with
  | none =>
    have rest_eq : rest = row := by simp [rest, removed, eq]
    have removed_eq : removed.map Prod.fst = none := by simp [removed, eq]
    rw [rest_eq, removed_eq]
    exact ⟨Requeued.refl _, sound, add_zero _⟩
  | some taken =>
    obtain ⟨queued, row'⟩ := taken
    have rest_eq : rest = row' := by simp [rest, removed, eq]
    have removed_eq : removed.map Prod.fst = some queued := by simp [removed, eq]
    rw [rest_eq, removed_eq]
    obtain ⟨before, after, queue, queue'⟩ := remove_queue sound.count eq
    refine ⟨?_, (sound.remove eq).2, ?_⟩
    · unfold removeQueuedLocked at eq
      split at eq
      · cases eq
      · cases eq
        constructor <;> first | rfl | constructor <;> rfl
    · rw [queueReceipts, queueReceipts, queue, queue']
      simp only [List.map_append, List.map_cons, ← coe_add, ← cons_coe, removedReceipts,
        Option.elim]
      rw [add_cons, add_comm, singleton_add]

lemma markReady_requeued (sound : QueueSound row) (lt : offset < row.acceptCount) :
    Requeued row (row.markReady offset) ∧ QueueSound (row.markReady offset) ∧
      (row.markReady offset).queueReceipts = row.queueReceipts := by
  obtain ⟨before, after, queue, queue'⟩ := markReady_queue sound.count lt
  refine ⟨?_, sound.markReady lt, ?_⟩
  · constructor <;> first | rfl | constructor <;> rfl
  · rw [queueReceipts, queueReceipts, queue, queue']
    simp

end DuetOS.Directory
