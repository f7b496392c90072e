import DuetOS.Directory.Channels

/-!
# Accepted channels

What the sections of `Accept` and of the releases make of a tracker: claiming it, publishing it,
giving its channel back to the queue, releasing it, and deferring it.
-/

namespace DuetOS.Directory

open Word DuetOS.Lifecycle Multiset Function ServiceDirectoryAcceptedChannel

variable {row : ServiceDirectoryRow} {calls : Multiset Call}
  {index : Fin kServiceDirectoryAcceptedCapacity}
  {accepted : ServiceDirectoryAcceptedChannel}
  {channels : Fin kServiceDirectoryAcceptedCapacity → ServiceDirectoryAcceptedChannel}
  {key : ServiceDirectoryAcceptedChannelKey} {process : ProcessKey} {acceptor : Option KObject}

lemma resolveAccepted_some (resolved : resolveAcceptedLocked row key = some index) :
    (row.acceptedChannels index).occupied ∧ (row.acceptedChannels index).key = key := by
  unfold resolveAcceptedLocked at resolved
  split_ifs at resolved with _ _ found
  cases resolved
  exact found

lemma resolveAccepted_key (canonical : AcceptedSound row)
    (occupied : (row.acceptedChannels index).occupied) :
    resolveAcceptedLocked row (row.acceptedChannels index).key = some index := by
  have facts := canonical.facts occupied
  have lt : (row.acceptedChannels index).key.slot < kServiceDirectoryAcceptedCapacity :=
    facts.slot.trans_lt index.isLt
  have same : (⟨(row.acceptedChannels index).key.slot, lt⟩ : Fin _) = index := Fin.ext facts.slot
  rw [resolveAcceptedLocked, if_pos ⟨facts.valid, facts.service⟩, dif_pos lt, same,
    if_pos ⟨occupied, rfl⟩]

lemma ClaimSound.update (claim : ClaimSound channels key process)
    (keeps : key.slot = index → ClaimAt (channels index) key process →
      ClaimAt accepted key process) :
    ClaimSound (update channels index accepted) key process := by
  obtain ⟨other, slot, sound⟩ := claim
  refine ⟨other, slot, ?_⟩
  rcases eq_or_ne other index with rfl | ne
  · rw [update_self]
    exact keeps slot sound
  · rw [update_of_ne ne]
    exact sound

/-- Written trackers and the calls that now release or claim them. -/
lemma TrackersSound.update (sound : TrackersSound channels calls)
    (bound : accepted.key.generation ≤ max32)
    (drivers : calls'.filterMap Call.drives + ((channels index).driven.toList : Multiset _) =
      calls.filterMap Call.drives + (accepted.driven.toList : Multiset _))
    (claims : (calls'.filterMap Call.claims).Nodup)
    (claimed : ∀ {key process acceptor}, .claimed key process acceptor ∈ calls' →
      ClaimSound (update channels index accepted) key process) :
    TrackersSound (update channels index accepted) calls' where
  generation := by
    intro other
    rcases eq_or_ne other index with rfl | ne
    · rw [update_self]
      exact bound
    · rw [update_of_ne ne]
      exact sound.generation other
  drivers := by
    have trade := @Slots.gather_update _ _ _ driven channels index accepted _ _ (add_comm ..)
    rw [sound.drivers, ← drivers] at trade
    exact add_right_cancel trade
  claims
  claimed

def claimedTracker (service : ServiceKey) (index : Fin kServiceDirectoryAcceptedCapacity)
    (generation : Nat) (queued : ServiceDirectoryQueuedChannel) (process : ProcessKey) :
    ServiceDirectoryAcceptedChannel :=
  { ServiceDirectoryAcceptedChannel.idle generation .publishing with
    key := ⟨service, index, generation, queued.channel⟩, serverProcess := process,
    owner := queued.owned.owner }

lemma allocateAccepted_some (sound : TrackersSound row.acceptedChannels calls)
    (allocated : allocateAcceptedLocked row channel process = some (index, row')) :
    (row.acceptedChannels index).state = .free ∧
    (row.acceptedChannels index).key.generation < max32 ∧
      row' = { row.setAccepted index
          { idle ((row.acceptedChannels index).key.generation + 1) .publishing with
            key := ⟨row.key, index, (row.acceptedChannels index).key.generation + 1, channel⟩
            serverProcess := process } (row.acceptedCount + 1) with
        nextAcceptedHint := (index + 1) % kServiceDirectoryAcceptedCapacity } := by
  unfold allocateAcceptedLocked at allocated
  split at allocated
  · cases allocated
  next found eq =>
  cases allocated
  have free := List.find?_some eq
  rw [decide_eq_true_eq] at free
  have less : (row.acceptedChannels index).key.generation < max32 :=
    Nat.lt_of_le_of_ne (sound.generation index) free.2
  refine ⟨free.1, less, ?_⟩
  rw [add32_eq (show (row.acceptedChannels index).key.generation + 1 ≤ max32 from less)]

/-- The row after `ServiceDirectoryAccept` claimed the head of its queue for tracker `index`. -/
def claimedRow (row : ServiceDirectoryRow) (index : Fin kServiceDirectoryAcceptedCapacity)
    (process : ProcessKey) : ServiceDirectoryRow :=
  { (dequeueLocked row).2.setAccepted index
      (claimedTracker row.key index ((row.acceptedChannels index).key.generation + 1)
        (dequeueLocked row).1 process) (row.acceptedCount + 1) with
    nextAcceptedHint := (index + 1) % kServiceDirectoryAcceptedCapacity
    externalPublishers := row.externalPublishers + 1 }

lemma allocateAccepted_claims (sound : TrackersSound row.acceptedChannels calls)
    (allocated : allocateAcceptedLocked (dequeueLocked row).2
      (dequeueLocked row).1.channel process =
      some (index, row')) :
    (row.acceptedChannels index).state = .free ∧
    (row.acceptedChannels index).key.generation < max32 ∧
      { row'.setAccepted index
          { row'.acceptedChannels index with owner := (dequeueLocked row).1.owned.owner }
          row'.acceptedCount with
        externalPublishers := row.externalPublishers + 1 } = claimedRow row index process ∧
      (row'.acceptedChannels index).key =
        ((claimedRow row index process).acceptedChannels index).key := by
  have trackers : TrackersSound (dequeueLocked row).2.acceptedChannels calls := sound
  obtain ⟨free, room, rfl⟩ := allocateAccepted_some trackers allocated
  refine ⟨free, room, ?_, ?_⟩
  · simp only [claimedRow, ServiceDirectoryRow.setAccepted, update_self, update_idem]
    rfl
  · simp only [claimedRow, ServiceDirectoryRow.setAccepted, update_self]
    rfl

lemma TrackersSound.claim (sound : TrackersSound channels calls)
    (free : (channels index).driven = none)
    (room : (channels index).key.generation < max32) (service queued) :
    TrackersSound (Function.update channels index
        (claimedTracker service index ((channels index).key.generation + 1) queued process))
      (.claimed (claimedTracker service index ((channels index).key.generation + 1) queued
        process).key
        process acceptor ::ₘ calls) := by
  -- a claim in progress is at most as old as the tracker, so the new key is nobody's
  have fresh : ∀ {key' process' acceptor'}, .claimed key' process' acceptor' ∈ calls →
      key'.slot = index.val → key'.generation ≤ (channels index).key.generation := by
    intro key' process' acceptor' mem slot
    obtain ⟨other, slot', old, _⟩ := sound.claimed mem
    obtain rfl : other = index := Fin.ext (slot'.symm.trans slot)
    exact old
  refine sound.update (Nat.succ_le_of_lt room) ?_ ?_ ?_
  · rw [filterMap_cons_none _ _ rfl, free]
    rfl
  · rw [filterMap_cons_some Call.claims _ calls rfl, nodup_cons]
    refine ⟨fun mem => ?_, sound.claims⟩
    obtain ⟨call, mem, eq⟩ := (mem_filterMap _ _).mp mem
    cases call <;> cases eq
    exact absurd (fresh mem rfl) (Nat.not_succ_le_self _)
  · intro key' process' acceptor' mem
    rcases mem_cons.mp mem with eq | mem
    · cases eq
      refine ⟨index, rfl, ?_⟩
      rw [update_self]
      exact ⟨Nat.le_refl _, fun _ _ => ⟨rfl, rfl⟩⟩
    · refine (sound.claimed mem).update fun slot claim => ⟨claim.1.trans (Nat.le_succ _), ?_⟩
      rintro _ rfl
      exact absurd (fresh mem slot) (Nat.not_succ_le_self _)

lemma claimedTracker_canonical (valid : serviceKeyIsValid service)
    (queued_sound : QueuedSound queued) (processValid : processKeyIsValid process)
    (positive : generation ≠ 0) :
    acceptedChannelIsCanonical service index
      (claimedTracker service index generation queued process) := by
  obtain ⟨_, receipt, _, _, channel⟩ := queuedSound_iff.mp queued_sound
  refine (acceptedChannelIsCanonical_iff rfl).mpr
    ⟨?_, rfl, rfl, receipt, channel.symm, processValid,
    fun _ => ⟨rfl, rfl⟩, nofun, nofun⟩
  have keyValid : serviceEndpointChannelKeyIsValid queued.channel := by
    rw [channel]
    exact (of_decide_eq_true receipt).2
  exact decide_eq_true ⟨valid, index.isLt, positive, keyValid⟩

lemma RowSound.claim (sound : RowSound row calls) (opened : row.state ≠ .reserved)
    (some : row.acceptCount ≠ 0) (processValid : processKeyIsValid process)
    (free : (row.acceptedChannels index).state = .free)
    (room : (row.acceptedChannels index).key.generation < max32) :
    Change row (claimedRow row index process)
      (.claimed ((claimedRow row index process).acceptedChannels index).key process acceptor ::ₘ
        calls) 0 0 0 := by
  have idle := idle_of_not_occupied (by rw [occupied, free]; rfl)
    (sound.canonical.accepted.tracker index)
  obtain ⟨queued_sound, queue⟩ := sound.canonical.queue.dequeue some
  have tracker : (claimedRow row index process).acceptedChannels index =
      claimedTracker row.key index ((row.acceptedChannels index).key.generation + 1)
        (dequeueLocked row).1 process := update_self ..
  rw [tracker]
  have accepted : AcceptedSound ((dequeueLocked row).2.setAccepted index
      (claimedTracker row.key index ((row.acceptedChannels index).key.generation + 1)
        (dequeueLocked row).1 process) (row.acceptedCount + 1)) := by
    refine AcceptedSound.set { sound.canonical.accepted with } (claimedTracker_canonical
      sound.canonical.key queued_sound processValid (Nat.succ_ne_zero _)) ?_
    rw [show ((dequeueLocked row).2.acceptedChannels index).holds = none from idle.1]
    rfl
  refine ⟨.kept (sound.rechannel (by constructor <;> rfl) opened { queue with } ?_ ?_ ?_ ?_ ?_)
    rfl rfl rfl, ?_, ?_⟩
  · exact { accepted with hint := Nat.mod_lt _ (by decide) }
  · intro call mem
    rcases mem_cons.mp mem with rfl | mem
    · rfl
    · exact sound.registered call mem
  · simp [Call.publishes, sound.publishers, claimedRow]
  · exact (closerSound_cons rfl).mpr sound.closers
  · exact sound.trackers.claim idle.2.1 room row.key (dequeueLocked row).1
  · have eq := dequeue_queue sound.canonical.queue.head sound.canonical.queue.count some
    have queueTrade : (claimedRow row index process).queueReceipts +
      {(dequeueLocked row).1.owned.owner} =
        row.queueReceipts + 0 := by
      rw [add_zero, ServiceDirectoryRow.queueReceipts, ServiceDirectoryRow.queueReceipts, eq,
        List.map_cons, ← cons_coe, ← singleton_add, add_comm]
      rfl
    have acceptedTrade : (claimedRow row index process).acceptedReceipts + 0 =
        row.acceptedReceipts + {(dequeueLocked row).1.owned.owner} := by
      have trade := @setAccepted_receipts (dequeueLocked row).2 index
        (claimedTracker row.key index ((row.acceptedChannels index).key.generation + 1)
          (dequeueLocked row).1 process) (row.acceptedCount + 1)
      rw [show ((dequeueLocked row).2.acceptedChannels index).holds = none from idle.1] at trade
      exact trade
    have trade := held_trade queueTrade acceptedTrade rfl
    rw [add_right_cancel trade]
  · rw [add_zero]
    exact @setAccepted_served_le (dequeueLocked row).2 index _ (row.acceptedCount + 1) (.inl rfl)

lemma TrackersSound.publishing
    (sound : TrackersSound channels (.claimed key process acceptor ::ₘ calls))
    (slot : key.slot = index) (occupied : (channels index).occupied)
    (same : (channels index).key = key) :
    (channels index).state = .publishing ∧ (channels index).serverProcess = process := by
  obtain ⟨other, slot', _, publishing⟩ := sound.claimed (mem_cons_self ..)
  obtain rfl : other = index := Fin.ext (slot'.symm.trans slot)
  exact publishing occupied same

lemma TrackersSound.sole (sound : TrackersSound channels (.claimed key process acceptor ::ₘ calls))
    : .claimed key process' acceptor' ∉ calls := by
  intro mem
  have nodup := sound.claims
  rw [filterMap_cons_some Call.claims _ calls rfl, nodup_cons] at nodup
  exact nodup.1 ((mem_filterMap _ _).mpr ⟨_, mem, rfl⟩)

lemma clear_idle (accepted) :
    (clearAcceptedLocked accepted).occupied = false ∧ (clearAcceptedLocked accepted).holds = none ∧
      (clearAcceptedLocked accepted).driven = none ∧
      (clearAcceptedLocked accepted).served = none := by
  have idle : (clearAcceptedLocked accepted).occupied = false := by
    unfold clearAcceptedLocked
    split
    · rfl
    · rfl
  exact ⟨idle, idle_of_not_occupied idle (clear_canonical ⟨0, 0⟩ ⟨0, by decide⟩ accepted)⟩

lemma AcceptedSound.clear (sound : AcceptedSound row)
    (occupied : (row.acceptedChannels index).occupied) :
    AcceptedSound (row.setAccepted index (clearAcceptedLocked (row.acceptedChannels index))
      (row.acceptedCount - 1)) := by
  have holds : (row.acceptedChannels index).holds = some (row.acceptedChannels index).owner :=
    if_pos occupied
  refine sound.set (clear_canonical ..) ?_
  rw [(clear_idle _).2.1, holds]
  exact Nat.sub_add_cancel (Nat.pos_of_ne_zero (sound.positive occupied))

lemma TrackersSound.clear {calls'} (sound : TrackersSound channels calls)
    (drivers : calls'.filterMap Call.drives + ((channels index).driven.toList : Multiset _) =
      calls.filterMap Call.drives) (claims : (calls'.filterMap Call.claims).Nodup)
    (claimed : ∀ {key process acceptor}, .claimed key process acceptor ∈ calls' →
      .claimed key process acceptor ∈ calls) :
    TrackersSound (Function.update channels index (clearAcceptedLocked (channels index)))
      calls' := by
  obtain ⟨idle, _, undriven, _⟩ := clear_idle (channels index)
  refine sound.update (sound.generation index) ?_ claims fun mem => ?_
  · rw [drivers, undriven]
    exact (add_zero _).symm
  · refine (sound.claimed (claimed mem)).update fun _ claim => ⟨claim.1, fun occupied => ?_⟩
    rw [idle] at occupied
    cases occupied

lemma resolveAccepted_slot (sound : AcceptedSound row)
    (resolved : resolveAcceptedLocked row key = some index) : key.slot = index := by
  obtain ⟨occupied, same⟩ := resolveAccepted_some resolved
  rw [← same]
  exact (sound.facts occupied).slot

section

variable (sound : RowSound row (.claimed key process acceptor ::ₘ calls))

include sound

lemma RowSound.acceptPublished
    (resolved : resolveAcceptedLocked row key = some index) (given : handle ≠ kHandleInvalid) :
    let row' := row.setAccepted index
      { row.acceptedChannels index with serverHandle := handle, state := .published }
        row.acceptedCount
    row'.externalPublishers ≠ 0 ∧
      Change row (tryRecycleLocked
        { row' with externalPublishers := row'.externalPublishers - 1 }).2
        calls 0 0 {(process, handle)} := by
  obtain ⟨occupied, same⟩ := resolveAccepted_some resolved
  obtain ⟨publishing, served⟩ := sound.trackers.publishing
    (resolveAccepted_slot sound.canonical.accepted resolved) occupied same
  have facts := sound.canonical.accepted.facts occupied
  have idle := (facts.publishing publishing).2
  have holds : (row.acceptedChannels index).holds = some (row.acceptedChannels index).owner :=
    if_pos occupied
  have undriven : (row.acceptedChannels index).driven = none := by
    simp [driven, idle]
  refine sound.leave rfl (by constructor <;> rfl) rfl { sound.canonical.queue with } ?_ ?_ ?_ ?_
  · refine sound.canonical.accepted.set ?_ (by rw [holds]; rfl)
    exact (acceptedChannelIsCanonical_iff rfl).mpr { facts with
      publishing := (by cases ·)
      published := fun _ => ⟨given, idle⟩
      releasing := (by cases ·) }
  · refine sound.trackers.update (sound.trackers.generation index) ?_
      (sound.trackers.of_cons rfl).claims fun mem => ?_
    · rw [filterMap_cons_none _ _ rfl, undriven]
      simp [driven, idle]
    · refine (sound.trackers.claimed (mem_cons_of_mem mem)).update fun _ claim =>
        ⟨claim.1, fun _ eq => ?_⟩
      rw [← eq, same] at mem
      exact absurd mem sound.trackers.sole
  · rw [add_zero, add_zero]
    exact setAccepted_held (holds ▸ rfl)
  · rw [← served]
    exact setAccepted_served_new rfl

/-- The server handle was not published and the channel goes back to the front of the queue. -/
lemma RowSound.acceptRestored (resolved : resolveAcceptedLocked row key = some index)
    (given : acceptor ≠ none)
    (room : row.acceptCount < kServiceDirectoryAcceptCapacity) :
    let accepted := row.acceptedChannels index
    let row' := (enqueueFrontLocked row
      ⟨⟨accepted.owner, acceptor, false⟩, accepted.key.channel, .ready⟩).setAccepted index
        (clearAcceptedLocked accepted) (row.acceptedCount - 1)
    row'.externalPublishers ≠ 0 ∧
      Change row (tryRecycleLocked
        { row' with externalPublishers := row'.externalPublishers - 1 }).2
        calls 0 0 0 := by
  intro accepted row'
  obtain ⟨occupied, same⟩ := resolveAccepted_some resolved
  have facts := sound.canonical.accepted.facts occupied
  obtain ⟨publishing, _⟩ := sound.trackers.publishing
    (resolveAccepted_slot sound.canonical.accepted resolved) occupied same
  have holds : accepted.holds = some accepted.owner := if_pos occupied
  have cleared := clear_idle accepted
  have queued_sound :
    QueuedSound ⟨⟨accepted.owner, acceptor, false⟩, accepted.key.channel, .ready⟩ :=
    queuedSound_iff.mpr ⟨by simp, facts.receipt, given, rfl, facts.channel.symm⟩
  have queue := sound.canonical.queue.enqueueFront queued_sound room
  refine sound.leave rfl (by constructor <;> rfl) rfl { queue with }
    { sound.canonical.accepted.clear occupied with } ?_ ?_ ?_
  · refine sound.trackers.clear ?_ (sound.trackers.of_cons rfl).claims mem_cons_of_mem
    rw [filterMap_cons_none _ _ rfl,
      show (row.acceptedChannels index).driven = none by
        simp [driven, (facts.publishing publishing).2]]
    exact add_zero _
  · have queueTrade : row'.queueReceipts + 0 = row.queueReceipts + {accepted.owner} := by
      have eq : row'.queue = _ :: row.queue := enqueueFront_queue room
      rw [ServiceDirectoryRow.queueReceipts, eq, add_zero, List.map_cons, ← cons_coe,
        ← singleton_add, add_comm]
      rfl
    have acceptedTrade : row'.acceptedReceipts + {accepted.owner} = row.acceptedReceipts + 0 := by
      have trade := @setAccepted_receipts row index (clearAcceptedLocked accepted)
        (row.acceptedCount - 1)
      rw [cleared.2.1, show (row.acceptedChannels index).holds = some accepted.owner from holds]
        at trade
      exact trade
    have trade := held_trade queueTrade acceptedTrade rfl
    rw [add_right_cancel trade]
  · rw [add_zero]
    exact @setAccepted_served_le row index _ (row.acceptedCount - 1) (.inl cleared.2.2.2)

lemma RowSound.acceptAbandoned : row.externalPublishers ≠ 0 ∧
      Change row (tryRecycleLocked { row with externalPublishers := row.externalPublishers - 1 }).2
        calls 0 0 0 :=
  sound.leave rfl (Requeued.refl row).toRechanneled rfl sound.canonical.queue
    sound.canonical.accepted
    (sound.trackers.of_cons rfl) rfl (add_zero _).ge

end

section Release

lemma RowSound.releaseBegin (sound : RowSound row calls)
    (resolved : resolveAcceptedLocked row key = some index)
    (idle : (row.acceptedChannels index).releaseDriverActive = false)
    (state : (row.acceptedChannels index).state = .published ∨
      (row.acceptedChannels index).state = .releasing) :
    Change row (row.setAccepted index
        { row.acceptedChannels index with state := .releasing, releaseDriverActive := true }
        row.acceptedCount)
      (.releasing key (row.acceptedChannels index).owner drive ::ₘ calls) 0 0 0 := by
  obtain ⟨occupied, same⟩ := resolveAccepted_some resolved
  have facts := sound.canonical.accepted.facts occupied
  have holds : (row.acceptedChannels index).holds = some (row.acceptedChannels index).owner :=
    if_pos occupied
  refine ⟨.kept (sound.rechannel (by constructor <;> rfl) (sound.opened_of_occupied occupied)
    { sound.canonical.queue with } ?_ ?_ ?_ ?_ ?_) rfl rfl rfl, ?_, ?_⟩
  · refine sound.canonical.accepted.set ?_ (by rw [holds]; rfl)
    refine (acceptedChannelIsCanonical_iff rfl).mpr { facts with
      publishing := nofun
      published := nofun
      releasing := fun _ => ?_ }
    exact state.elim (fun published => (facts.published published).1) facts.releasing
  · intro call mem
    rcases mem_cons.mp mem with rfl | mem
    · rw [← facts.service, same]
      rfl
    · exact sound.registered call mem
  · simp [Call.publishes, sound.publishers, ServiceDirectoryRow.setAccepted]
  · exact (closerSound_cons rfl).mpr sound.closers
  · refine sound.trackers.update (sound.trackers.generation index) ?_ ?_ fun mem => ?_
    · rw [filterMap_cons_some Call.drives _ calls rfl,
        show (row.acceptedChannels index).driven = none by
          simp [driven, idle], ← singleton_add, ← same]
      exact (add_zero _).trans (add_comm ..)
    · rw [filterMap_cons_none _ _ rfl]
      exact sound.trackers.claims
    · have old := (mem_cons.mp mem).resolve_left (by simp)
      refine (sound.trackers.claimed old).update fun _ claim => ⟨claim.1, fun _ eq => ?_⟩
      have publishing := (claim.2 occupied eq).1
      rcases state with published | releasing
      · rw [publishing] at published
        cases published
      · rw [publishing] at releasing
        cases releasing
  · rw [add_zero, add_zero]
    exact setAccepted_held (holds ▸ rfl)
  · rw [add_zero]
    refine setAccepted_served_le (.inr ?_)
    simp [served, state]

section

variable (sound : RowSound row (.released key receipt endpointStatus drive ::ₘ calls))

include sound

lemma RowSound.releasing : ∃ index, resolveAcceptedLocked row key = some index ∧
      (row.acceptedChannels index).occupied ∧ (row.acceptedChannels index).key = key ∧
      (row.acceptedChannels index).owner = receipt ∧
      (row.acceptedChannels index).state = .releasing ∧
      (row.acceptedChannels index).releaseDriverActive := by
  have mem : (key, receipt) ∈ Slots.gather driven row.acceptedChannels := by
    rw [sound.trackers.drivers]
    exact (mem_filterMap _ _).mpr ⟨_, mem_cons_self .., rfl⟩
  obtain ⟨index, driven⟩ := Slots.mem_gather.mp mem
  have active : (row.acceptedChannels index).releaseDriverActive := by
    by_contra idle
    simp [ServiceDirectoryAcceptedChannel.driven, idle] at driven
  have occupied : (row.acceptedChannels index).occupied := by
    by_contra free
    have idle := idle_of_not_occupied (Bool.not_eq_true _ ▸ free)
      (sound.canonical.accepted.tracker index)
    rw [idle.2.1] at driven
    cases driven
  rw [ServiceDirectoryAcceptedChannel.driven, if_pos active] at driven
  cases driven
  have facts := sound.canonical.accepted.facts occupied
  refine ⟨index, resolveAccepted_key sound.canonical.accepted occupied, occupied, rfl, rfl,
    ?_, active⟩
  cases state : (row.acceptedChannels index).state
  case free => simp [ServiceDirectoryAcceptedChannel.occupied, state] at occupied
  case retired => simp [ServiceDirectoryAcceptedChannel.occupied, state] at occupied
  case publishing =>
    rw [(facts.publishing state).2] at active
    cases active
  case published =>
    rw [(facts.published state).2] at active
    cases active
  case releasing => rfl

/-- The endpoint owner took the receipt back, and the tracker is free again. -/
lemma RowSound.releaseDone (resolved : resolveAcceptedLocked row key = some index) :
    Change row (tryRecycleLocked
      (row.setAccepted index (clearAcceptedLocked (row.acceptedChannels index))
        (row.acceptedCount - 1))).2 calls {receipt} 0 0 := by
  obtain ⟨found, resolved', occupied, same, owner, _, active⟩ := sound.releasing
  obtain rfl : found = index := Option.some.inj (resolved'.symm.trans resolved)
  have holds : (row.acceptedChannels found).holds = some receipt := by
    rw [← owner]
    exact if_pos occupied
  have cleared := clear_idle (row.acceptedChannels found)
  refine RowSound.recycled
    (sound.rechannel (by constructor <;> rfl) (sound.opened_of_occupied occupied)
    { sound.canonical.queue with } (sound.canonical.accepted.clear occupied) (fun call mem => ?_) ?_
      ?_ ?_) rfl rfl rfl
    ?_ ?_
  · exact sound.registered call (mem_cons_of_mem mem)
  · simp [Call.publishes, sound.publishers, ServiceDirectoryRow.setAccepted]
  · exact (closerSound_cons rfl).mp sound.closers
  · refine sound.trackers.clear ?_ ?_ mem_cons_of_mem
    · rw [filterMap_cons_some Call.drives _ calls rfl, ← singleton_add, add_comm,
        driven, if_pos active, same, owner]
      rfl
    · have claims := sound.trackers.claims
      rwa [filterMap_cons_none _ _ rfl] at claims
  · rw [add_zero]
    exact setAccepted_held_lost cleared.2.1 holds
  · rw [add_zero]
    exact setAccepted_served_le (.inl cleared.2.2.2)

/-- The endpoint owner kept the receipt, and the tracker waits for the next driver. -/
lemma RowSound.releaseFailed (resolved : resolveAcceptedLocked row key = some index) :
    Change row (row.setAccepted index
      { row.acceptedChannels index with releaseDriverActive := false }
        row.acceptedCount) calls 0 0 0 := by
  obtain ⟨found, resolved', occupied, same, owner, releasing, active⟩ := sound.releasing
  obtain rfl : found = index := Option.some.inj (resolved'.symm.trans resolved)
  have facts := sound.canonical.accepted.facts occupied
  have holds : (row.acceptedChannels found).holds = some (row.acceptedChannels found).owner :=
    if_pos occupied
  have stays : ServiceDirectoryAcceptedChannel.occupied
      { row.acceptedChannels found with releaseDriverActive := false } := occupied
  refine ⟨.kept (sound.rechannel (by constructor <;> rfl) (sound.opened_of_occupied occupied)
    { sound.canonical.queue with } ?_ (fun call mem => ?_) ?_ ?_ ?_) rfl rfl rfl, ?_, ?_⟩
  · refine sound.canonical.accepted.set ?_ ?_
    · refine (acceptedChannelIsCanonical_iff stays).mpr { facts with
        publishing := fun publishing => ⟨(facts.publishing publishing).1, rfl⟩
        published := fun published => ⟨(facts.published published).1, rfl⟩ }
    · rw [holds, ServiceDirectoryAcceptedChannel.holds, if_pos stays]
  · exact sound.registered call (mem_cons_of_mem mem)
  · simp [Call.publishes, sound.publishers, ServiceDirectoryRow.setAccepted]
  · exact (closerSound_cons rfl).mp sound.closers
  · refine sound.trackers.update (sound.trackers.generation found) ?_ ?_ fun mem => ?_
    · rw [filterMap_cons_some Call.drives _ calls rfl, ← singleton_add,
        driven, if_pos active, same, owner, add_comm]
      exact (add_zero _).symm
    · have claims := sound.trackers.claims
      rwa [filterMap_cons_none _ _ rfl] at claims
    · exact (sound.trackers.claimed (mem_cons_of_mem mem)).update fun _ claim => claim
  · rw [add_zero, add_zero]
    refine setAccepted_held ?_
    rw [holds]
    exact if_pos stays
  · rw [add_zero]
    exact setAccepted_served_le (.inr rfl)

end

lemma RowSound.defer (sound : RowSound row calls) (process) :
    RowSound (row.deferProcess process) calls ∧ (row.deferProcess process).held = row.held ∧
      (row.deferProcess process).served = row.served := by
  -- a deferred tracker differs in its mark only
  have same : ∀ index, (row.deferProcess process).acceptedChannels index =
    row.acceptedChannels index ∨
      (row.acceptedChannels index).occupied ∧ (row.deferProcess process).acceptedChannels index =
        { row.acceptedChannels index with processTeardownDeferred := true } := by
    intro index
    simp only [ServiceDirectoryRow.deferProcess]
    split
    next marked => exact .inr ⟨(of_decide_eq_true marked.2).1, rfl⟩
    · exact .inl rfl
  have holds : ∀ index, ((row.deferProcess process).acceptedChannels index).holds =
      (row.acceptedChannels index).holds := by
    intro index
    rcases same index with eq | ⟨_, eq⟩ <;> rw [eq]
    rfl
  have receipts : (row.deferProcess process).acceptedReceipts = row.acceptedReceipts :=
    Slots.gather_congr holds
  refine ⟨?_, ?_, ?_⟩
  · by_cases reserved : row.state = .reserved
    · have idle := sound.canonical.accepted.idle (sound.canonical.reservedRow reserved).accepted
      have unchanged : row.deferProcess process = row := by
        have eq : (row.deferProcess process).acceptedChannels = row.acceptedChannels :=
          funext fun index => (same index).resolve_right fun ⟨occupied, _⟩ => by
            rw [idle index] at occupied
            cases occupied
        exact congrArg (fun channels => { row with acceptedChannels := channels }) eq
      rw [unchanged]
      exact sound
    · refine sound.rechannel (by constructor <;> rfl) reserved { sound.canonical.queue with }
        ⟨?_, sound.canonical.accepted.hint, fun index => ?_⟩ sound.registered sound.publishers
        sound.closers ⟨fun index => ?_, ?_, sound.trackers.claims, fun mem => ?_⟩
      · rw [receipts]
        exact sound.canonical.accepted.count
      · rcases same index with eq | ⟨occupied, eq⟩ <;> rw [eq]
        · exact sound.canonical.accepted.tracker index
        · have facts := sound.canonical.accepted.facts occupied
          have deferred : ServiceDirectoryAcceptedChannel.occupied
            { row.acceptedChannels index with processTeardownDeferred := true } := occupied
          exact (acceptedChannelIsCanonical_iff deferred).mpr { facts with }
      · rcases same index with eq | ⟨_, eq⟩ <;> rw [eq] <;> exact sound.trackers.generation index
      · rw [← sound.trackers.drivers]
        refine Slots.gather_congr fun index => ?_
        rcases same index with eq | ⟨_, eq⟩ <;> rw [eq]
        rfl
      · obtain ⟨index, slot, claim⟩ := sound.trackers.claimed mem
        refine ⟨index, slot, ?_⟩
        rcases same index with eq | ⟨_, eq⟩ <;> rw [eq] <;> exact claim
  · rw [ServiceDirectoryRow.held, receipts]
    rfl
  · refine Slots.gather_congr fun index => ?_
    rcases same index with eq | ⟨_, eq⟩ <;> rw [eq]
    rfl

end Release

end DuetOS.Directory
