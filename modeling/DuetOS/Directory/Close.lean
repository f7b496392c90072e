import DuetOS.Directory.Trackers

/-!
# Closing a row

`CloseEntry` moves the channels of a Closing row into a batch, drains the batch outside the lock,
and puts what it could not drain into the closing array. Every receipt that leaves the row is in the
batch.
-/

namespace DuetOS.Directory

open Word DuetOS.Lifecycle Multiset List Bag

def receiptsOf (batch : List ServiceDirectoryOwnedChannel) : Multiset ServiceEndpointOwnerReceipt :=
  (batch.map fun channel => channel.owner : List _)

lemma receiptsOf_append (batch batch') :
    receiptsOf (batch ++ batch') = receiptsOf batch + receiptsOf batch' := by
  rw [receiptsOf, map_append, ← coe_add]
  rfl

/-- The loops of `CloseEntry` move channels from the row to the batch. -/
structure Drains (calls : Multiset Call) (row : ServiceDirectoryRow)
    (batch : List ServiceDirectoryOwnedChannel) (row' : ServiceDirectoryRow)
    (batch' : List ServiceDirectoryOwnedChannel) : Prop where
  sound : RowSound row' calls
  same : Rechanneled row row'
  held : row'.held + receiptsOf batch' = row.held + receiptsOf batch
  served : row'.served ≤ row.served
  count : row'.acceptCount + row'.acceptedCount + batch'.length =
    row.acceptCount + row.acceptedCount + batch.length
  undriven : ∀ index, (row'.acceptedChannels index).releaseDriverActive = false
  drainable : ∀ channel ∈ batch', channel ∈ batch ∨ drainable channel = true

lemma Drains.trans (first : Drains calls row batch row' batch')
    (second : Drains calls row' batch' row'' batch'') :
    Drains calls row batch row'' batch'' where
  sound := second.sound
  same := first.same.trans second.same
  held := second.held.trans first.held
  served := second.served.trans first.served
  count := second.count.trans first.count
  undriven := second.undriven
  drainable := fun channel mem =>
    (second.drainable channel mem).elim (first.drainable channel) .inr

section

variable (sound : RowSound row calls)
  (undriven : ∀ index, (row.acceptedChannels index).releaseDriverActive = false)

include sound undriven

lemma Drains.refl : Drains calls row batch row batch :=
  ⟨sound, (Requeued.refl row).toRechanneled, rfl, le_rfl, rfl, undriven, fun _ => .inl⟩

lemma Drains.dequeue (some : row.acceptCount ≠ 0) :
    Drains calls row batch (dequeueLocked row).2 (batch ++ [(dequeueLocked row).1.owned]) := by
  obtain ⟨queued_sound, queue⟩ := sound.canonical.queue.dequeue some
  have same : Requeued row (dequeueLocked row).2 := by
    constructor <;> first | rfl | constructor <;> rfl
  have opened : row.state ≠ .reserved := fun reserved =>
    some (sound.canonical.reservedRow reserved).queue
  have eq := dequeue_queue sound.canonical.queue.head sound.canonical.queue.count some
  have receipts : (dequeueLocked row).2.queueReceipts + {(dequeueLocked row).1.owned.owner} =
      row.queueReceipts + 0 := by
    rw [add_zero, ServiceDirectoryRow.queueReceipts, ServiceDirectoryRow.queueReceipts, eq,
      List.map_cons,
      ← cons_coe, ← singleton_add, add_comm]
  refine ⟨?_, same.toRechanneled, ?_, same.served.le, ?_, undriven, fun channel mem => ?_⟩
  · exact sound.rechannel same.toRechanneled opened queue (same.accepted sound.canonical.accepted)
      sound.registered sound.publishers sound.closers sound.trackers
  · have held := same.held receipts
    rw [add_zero] at held
    rw [receiptsOf_append, add_comm (receiptsOf batch), ← add_assoc, ← held]
    rfl
  · rw [length_append, length_singleton]
    show row.acceptCount - 1 + row.acceptedCount + _ = _
    omega
  · refine (mem_append.mp mem).imp_right fun last => ?_
    obtain ⟨_, valid, _, idle, _⟩ := queuedSound_iff.mp queued_sound
    rw [List.mem_singleton.mp last]
    exact decide_eq_true ⟨valid, by rw [idle]; decide⟩

lemma Drains.queue :
    Drains calls row batch (drainQueue row.acceptCount row batch).2
      (drainQueue row.acceptCount row batch).1 := by
  generalize eq : row.acceptCount = count
  induction count generalizing row batch with
  | zero => exact .refl sound undriven
  | succ count ih =>
    have first := @Drains.dequeue row calls sound undriven batch (by omega)
    refine first.trans (ih first.sound undriven ?_)
    show row.acceptCount - 1 = count
    omega

lemma Drains.clear {index} (occupied : (row.acceptedChannels index).occupied) :
    Drains calls row batch
      (row.setAccepted index (clearAcceptedLocked (row.acceptedChannels index))
        (row.acceptedCount - 1))
      (batch ++ [⟨(row.acceptedChannels index).owner, none, false⟩]) := by
  have facts := sound.canonical.accepted.facts occupied
  have holds : (row.acceptedChannels index).holds = some (row.acceptedChannels index).owner :=
    if_pos occupied
  have cleared := clear_idle (row.acceptedChannels index)
  have positive := sound.canonical.accepted.positive occupied
  refine ⟨sound.rechannel (by constructor <;> rfl) (sound.opened_of_occupied occupied)
    { sound.canonical.queue with } (sound.canonical.accepted.clear occupied) sound.registered
    sound.publishers sound.closers ?_, by constructor <;> rfl, ?_,
    setAccepted_served_le (.inl cleared.2.2.2), ?_, fun other => ?_, fun channel mem => ?_⟩
  · refine sound.trackers.clear ?_ sound.trackers.claims id
    rw [show (row.acceptedChannels index).driven = none by
      simp [ServiceDirectoryAcceptedChannel.driven, undriven index]]
    exact add_zero _
  · have held := @setAccepted_held_lost row index (clearAcceptedLocked (row.acceptedChannels index))
      (row.acceptedCount - 1) _ cleared.2.1 holds
    rw [receiptsOf_append, add_comm (receiptsOf batch), ← add_assoc, ← held]
    rfl
  · rw [length_append, length_singleton]
    show row.acceptCount + (row.acceptedCount - 1) + _ = _
    omega
  · simp only [ServiceDirectoryRow.setAccepted]
    rcases eq_or_ne other index with rfl | ne
    · rw [Function.update_self]
      rfl
    · rw [Function.update_of_ne ne]
      exact undriven other
  · refine (mem_append.mp mem).imp_right fun last => ?_
    rw [List.mem_singleton.mp last]
    exact decide_eq_true ⟨facts.receipt, Bool.false_ne_true⟩

lemma Drains.accepted (slots) :
    Drains calls row batch (drainAccepted slots row batch).2 (drainAccepted slots row batch).1 := by
  induction slots generalizing row batch with
  | nil => exact .refl sound undriven
  | cons slot slots ih =>
    rw [drainAccepted]
    split
    · exact ih sound undriven
    next taken =>
    have occupied : (row.acceptedChannels slot).occupied := by
      by_contra free
      exact taken (.inl free)
    have first := @Drains.clear row calls sound undriven batch slot occupied
    exact first.trans (ih first.sound first.undriven)

end

lemma canonical_of_drainable (able : drainable channel) :
    ownedChannelIsCanonical channel ∧ serviceDirectoryOwnedChannelIsEmpty channel = false := by
  obtain ⟨valid, idle⟩ := of_decide_eq_true able
  exact ⟨decide_eq_true (.inr ⟨valid, idle⟩), decide_eq_false fun empty => empty.1 valid⟩

lemma drainable_of_canonical (canonical : ownedChannelIsCanonical channel)
    (used : serviceDirectoryOwnedChannelIsEmpty channel = false) : drainable channel := by
  refine decide_eq_true ((of_decide_eq_true canonical).resolve_left fun empty => ?_)
  rw [used] at empty
  cases empty

lemma RowCanonical.reclose (canonical : RowCanonical row) (closing : row.state = .closing)
    (sound : ClosingSound { row with
      closingChannels := channels, closeBatchOutstanding := outstanding,
      closeDriverActive := driver }) :
    RowCanonical { row with
      closingChannels := channels, closeBatchOutstanding := outstanding,
      closeDriverActive := driver } :=
  { canonical with
    operations := { canonical.operations with }, queue := { canonical.queue with },
    accepted := { canonical.accepted with }, closing := sound,
    state := .inr (.inr ⟨closing, { canonical.closingRow closing with }⟩) }

lemma Drains.closing (sound : RowSound row calls) (closing : row.state = .closing)
    (idle : row.closeDriverActive = 0) :
    RowSound { row with closingChannels := [] } calls ∧
      ({ row with closingChannels := [] } : ServiceDirectoryRow).held + receiptsOf
        row.closingChannels =
        row.held := by
  have old := sound.canonical
  refine ⟨sound.admin (old.reclose closing ?_) rfl rfl rfl rfl rfl rfl sound.pins id, ?_⟩
  · exact { old.closing with
      length := Nat.zero_le _
      channel := nofun
      driving := fun active => absurd idle active }
  · show row.queueReceipts + row.acceptedReceipts + 0 + _ = _
    rw [add_zero]
    rfl

/-- A Closing row without drivers, when its batch was taken out of it. -/
structure Taken (calls : Multiset Call) (row row' : ServiceDirectoryRow)
    (batch : List ServiceDirectoryOwnedChannel) : Prop where
  sound : RowSound row' calls
  key : row'.key = row.key
  name : row'.name = row.name
  owner : row'.owner = row.owner
  state : row'.state = row.state
  driver : row'.closeDriverActive = row.closeDriverActive
  closing : row'.closingChannels = []
  held : row'.held + receiptsOf batch = row.held
  served : row'.served ≤ row.served
  drainable : ∀ channel ∈ batch, drainable channel
  length : batch.length ≤ kServiceDirectoryCloseBatchCapacity

lemma RowSound.closeBatch (sound : RowSound row calls) (closing : row.state = .closing)
    (idle : row.closeDriverActive = 0)
    (undriven : ∀ index, (row.acceptedChannels index).releaseDriverActive = false) :
    Taken calls row (closeBatch row).2 (closeBatch row).1 := by
  unfold Directory.closeBatch
  split
  · obtain ⟨rest, held⟩ := Drains.closing sound closing idle
    exact ⟨rest, rfl, rfl, rfl, rfl, rfl, rfl, held, le_rfl, fun channel mem =>
      (sound.canonical.closing.channel channel mem).elim drainable_of_canonical,
      sound.canonical.closing.length⟩
  next empty =>
  have queue := @Drains.queue row calls sound undriven []
  have all := queue.trans
    (.accepted queue.sound queue.undriven (finRange kServiceDirectoryAcceptedCapacity))
  refine ⟨all.sound, all.same.key, all.same.name, all.same.owner, all.same.state,
    all.same.driver, ?_,
    ?_, all.served, fun channel mem => (all.drainable channel mem).resolve_left nofun, ?_⟩
  · rw [all.same.closing]
    exact length_eq_zero_iff.mp (not_not.mp empty)
  · exact all.held.trans (add_zero _)
  · have queued := sound.canonical.queue.count
    have tracked : row.acceptedCount ≤ kServiceDirectoryAcceptedCapacity := by
      rw [← sound.canonical.accepted.count, ← occupiedAccepted_eq]
      exact countP_le_length.trans_eq (length_finRange ..)
    have total := all.count
    rw [length_nil] at total
    show _ ≤ kServiceDirectoryAcceptCapacity + kServiceDirectoryAcceptedCapacity
    dsimp only
    omega

lemma RowSound.takeBatch (sound : RowSound row calls) {progress} (closing : row.state = .closing)
    (idle : row.closeDriverActive = 0) (empty : row.closingChannels = [])
    (service : progress.service = row.key)
    (owner : progress.owner = row.owner) (some : progress.count ≠ 0)
    (bound : progress.count ≤ kServiceDirectoryCloseBatchCapacity) :
    RowSound { row with closeBatchOutstanding := progress.count, closeDriverActive := 1 }
      (.closing progress ::ₘ calls) := by
  have old := sound.canonical
  have nobody : tally Call.closes calls = 0 := sound.closers.count.symm.trans idle
  exact {
    canonical := old.reclose closing {
      length := old.closing.length
      outstanding := bound
      driver := Nat.le_refl 1
      channel := old.closing.channel
      driving := fun _ => ⟨some, empty⟩
      idle := nofun }
    registered := by
      intro call mem
      rcases mem_cons.mp mem with rfl | mem
      · exact congrArg _ service
      · exact sound.registered call mem
    pins := sound.pins
    publishers := by simp [Call.publishes, sound.publishers]
    closers := {
      count := by simp [Call.closes, nobody]
      closer := by
        intro other mem
        rcases mem_cons.mp mem with eq | mem
        · cases eq
          exact ⟨owner, closing, rfl⟩
        · have pos := tally_pos (p := Call.closes) mem rfl
          rw [nobody] at pos
          exact absurd pos (Nat.lt_irrefl 0) }
    trackers := (trackersSound_cons rfl rfl).mpr sound.trackers }

lemma RowSound.closer (sound : RowSound row (.closing progress ::ₘ calls)) :
    progress.owner = row.owner ∧ row.state = .closing ∧ row.closeBatchOutstanding = progress.count ∧
      row.closeDriverActive = 1 ∧ tally Call.closes calls = 0 ∧ row.closingChannels = [] := by
  obtain ⟨owner, closing, count⟩ := sound.closers.closer (mem_cons_self ..)
  have tally : row.closeDriverActive = tally Call.closes calls + 1 :=
    sound.closers.count.trans (tally_cons ..)
  have single := sound.canonical.closing.driver
  have one : row.closeDriverActive = 1 := by omega
  exact ⟨owner, closing, count, one, by omega, (sound.canonical.closing.driving (by omega)).2⟩

/-- The close gives back what it could not drain. -/
lemma RowSound.returnBatch (sound : RowSound row (.closing progress ::ₘ calls))
    (able : ∀ channel ∈ failed, drainable channel) (bound : failed.length ≤ progress.count) :
    Change row (tryRecycleLocked { row with
        closeDriverActive := 0, closeBatchOutstanding := 0, closingChannels := failed }).2
      calls 0 (receiptsOf failed) 0 := by
  obtain ⟨_, closing, count, _, nobody, empty⟩ := sound.closer
  have old := sound.canonical
  have fits := old.closing.outstanding
  have next : RowSound { row with
      closeDriverActive := 0, closeBatchOutstanding := 0, closingChannels := failed } calls := {
    canonical := old.reclose closing {
      length := show failed.length ≤ _ by omega
      outstanding := Nat.zero_le _
      driver := Nat.zero_le _
      channel := fun channel mem => canonical_of_drainable (able channel mem)
      driving := fun active => absurd rfl active
      idle := fun _ => rfl }
    registered := fun call mem => sound.registered call (mem_cons_of_mem mem)
    pins := sound.pins
    publishers := by simp [Call.publishes, sound.publishers]
    closers := {
      count := nobody.symm
      closer := by
        intro other mem
        have pos := tally_pos (p := Call.closes) mem rfl
        rw [nobody] at pos
        exact absurd pos (Nat.lt_irrefl 0) }
    trackers := (trackersSound_cons rfl rfl).mp sound.trackers }
  have held : row.held = row.queueReceipts + row.acceptedReceipts := by
    rw [ServiceDirectoryRow.held, empty]
    exact add_zero _
  refine next.recycled rfl rfl rfl ?_ (add_zero _).ge
  rw [add_zero, held]
  rfl

end DuetOS.Directory
