import DuetOS.Directory.Invariant

/-!
# What each section does

The locked sections in terms of the row they move. No section finds the directory corrupt.
-/

namespace DuetOS.Directory

open Word DuetOS.Lifecycle

variable {directory directory' : ServiceDirectory} {last : LastServiceGenerations}
  {calls : Multiset Call}
  {index : Fin kServiceDirectoryCapacity}

lemma resolveExact_some (resolved : resolveExactLocked directory key = some index) :
    (directory.rows index).occupied ∧ (directory.rows index).key = key := by
  unfold resolveExactLocked at resolved
  split_ifs at resolved with _ _ found
  cases resolved
  exact found

lemma DirectorySound.resolves (sound : DirectorySound directory last calls)
    (occupied : (directory.rows index).occupied) :
    resolveExactLocked directory (directory.rows index).key = some index := by
  have valid := (sound.row occupied).canonical.key
  have slot := sound.slot occupied
  have lt : (directory.rows index).key.slot < kServiceDirectoryCapacity := slot.trans_lt index.isLt
  have same : (⟨(directory.rows index).key.slot, lt⟩ : Fin _) = index := Fin.ext slot
  rw [resolveExactLocked, if_pos valid, dif_pos lt, same, if_pos ⟨occupied, rfl⟩]

lemma resolveOwned_ok (resolved : resolveOwned directory service owner = .ok index) :
    (directory.rows index).occupied ∧ (directory.rows index).key = service ∧
    (directory.rows index).owner = owner := by
  unfold resolveOwned at resolved
  split at resolved
  · cases resolved
  next found =>
  split at resolved
  · cases resolved
  next owned =>
  cases resolved
  obtain ⟨occupied, key⟩ := resolveExact_some found
  exact ⟨occupied, key, not_not.mp owned⟩

lemma resolveOwned_error (refused : resolveOwned directory service owner = .error status) :
    status ≠ .corruptState := by
  unfold resolveOwned at refused
  split at refused
  · cases refused
    decide
  split at refused
  · cases refused
    decide
  · cases refused

/-- A section that has nothing to do with channels moves a row, or none. -/
def Administers (calls : Multiset Call) (directory directory' : ServiceDirectory) : Prop :=
  directory' = directory ∨ ∃ index row', (directory.rows index).occupied ∧
    directory' = directory.setRow index row' ∧
    Change (directory.rows index) row' (registered (directory.rows index).key calls) 0 0 0

section

variable (occupied : (directory.rows index).occupied)
  (sound : RowSound row' (registered (directory.rows index).key calls))
  (key : row'.key = (directory.rows index).key) (name : row'.name = (directory.rows index).name)
  (owner : row'.owner = (directory.rows index).owner)
  (held : row'.held = (directory.rows index).held)
  (served : row'.served = (directory.rows index).served)

include occupied sound key name owner held served

lemma Administers.kept : Administers calls directory (directory.setRow index row') :=
  .inr ⟨index, row', occupied, rfl, .kept sound key name owner, congrArg (· + 0) held,
    (served.trans (add_zero _).symm).le⟩

lemma Administers.recycled :
    Administers calls directory (directory.setRow index (tryRecycleLocked row').2) :=
  .inr ⟨index, _, occupied, rfl, sound.recycled key name owner (congrArg (· + 0) held)
    (served.trans (add_zero _).symm).le⟩

end

section

variable (sound : DirectorySound directory last calls)

include sound

lemma publishRegistration_spec
    (eq : serviceDirectoryPublishRegistration directory reservation owner = (status, directory')) :
    status ≠ .corruptState ∧ Administers calls directory directory' := by
  unfold serviceDirectoryPublishRegistration at eq
  rw [sound.enters] at eq
  split at eq
  · cases eq
    exact ⟨by decide, .inl rfl⟩
  rw [if_neg (by decide)] at eq
  split at eq
  next refused =>
    cases eq
    exact ⟨resolveOwned_error refused, .inl rfl⟩
  next resolved =>
  obtain ⟨occupied, _, _⟩ := resolveOwned_ok resolved
  dsimp only at eq
  split_ifs at eq with _ reserved
  iterate 2
    cases eq
    exact ⟨by decide, .inl rfl⟩
  cases eq
  rw [not_or, not_not] at reserved
  exact ⟨by decide, .kept occupied ((sound.row occupied).publish reserved.1) rfl rfl rfl rfl rfl⟩

lemma commitJointReady_spec
    (eq : serviceDirectoryCommitJointReady directory service owner = (status, directory')) :
    status ≠ .corruptState ∧ Administers calls directory directory' := by
  unfold serviceDirectoryCommitJointReady at eq
  rw [sound.enters] at eq
  split at eq
  · cases eq
    exact ⟨by decide, .inl rfl⟩
  rw [if_neg (by decide)] at eq
  split at eq
  next refused =>
    cases eq
    exact ⟨resolveOwned_error refused, .inl rfl⟩
  next resolved =>
  obtain ⟨occupied, _, _⟩ := resolveOwned_ok resolved
  dsimp only at eq
  split_ifs at eq with _ active
  iterate 2
    cases eq
    exact ⟨by decide, .inl rfl⟩
  cases eq
  have ready := (sound.row occupied).commitReady (not_not.mp active)
  exact ⟨by decide, .kept occupied ready rfl rfl rfl rfl rfl⟩

lemma abortRegistration_spec
    (eq : serviceDirectoryAbortRegistration directory reservation owner = (status, directory')) :
    status ≠ .corruptState ∧ Administers calls directory directory' := by
  unfold serviceDirectoryAbortRegistration at eq
  rw [sound.enters] at eq
  split at eq
  · cases eq
    exact ⟨by decide, .inl rfl⟩
  rw [if_neg (by decide)] at eq
  split at eq
  next refused =>
    cases eq
    exact ⟨resolveOwned_error refused, .inl rfl⟩
  next index resolved =>
  obtain ⟨occupied, _, _⟩ := resolveOwned_ok resolved
  have row_sound := sound.row occupied
  dsimp only at eq
  split at eq
  · cases eq
    exact ⟨by decide, .inl rfl⟩
  next given =>
  rw [not_or, not_and_or, not_not, not_not] at given
  cases eq
  refine ⟨by decide, ?_⟩
  split
  next reserved =>
    have closing := (@RowSound.closes _ _ row_sound .registrationAbort (by decide)
      (.inl reserved)).dropAuthority rfl
    exact .recycled occupied closing rfl rfl rfl rfl rfl
  next notReserved =>
    have closing := row_sound.dropAuthority (given.1.resolve_left notReserved)
    exact .recycled occupied closing rfl rfl rfl rfl rfl

lemma lookup_spec (eq : serviceDirectoryLookup directory name = (result, directory')) :
    result.status ≠ .corruptState ∧ Administers calls directory directory' := by
  unfold serviceDirectoryLookup at eq
  rw [sound.enters] at eq
  split at eq
  · cases eq
    exact ⟨by decide, .inl rfl⟩
  rw [if_neg (by decide)] at eq
  split at eq
  · cases eq
    exact ⟨by decide, .inl rfl⟩
  next index found =>
  have test := List.find?_some found
  rw [decide_eq_true_eq] at test
  have occupied := test.1
  have row_sound := sound.row occupied
  dsimp only at eq
  split at eq
  · cases eq
    exact ⟨by decide, .inl rfl⟩
  next notReserved =>
  split at eq
  · cases eq
    exact ⟨by decide, .inl rfl⟩
  next notClosing =>
  have active : (directory.rows index).state = .active := by
    rcases row_sound.canonical.state with ⟨reserved, _⟩ | ⟨active, _⟩ | ⟨closing, _⟩
    · exact absurd reserved notReserved
    · exact active
    · exact absurd closing notClosing
  rw [if_neg (not_not.mpr active)] at eq
  split at eq
  · cases eq
    exact ⟨by decide, .inl rfl⟩
  next slot free =>
  have free := List.find?_some free
  rw [decide_eq_true_eq] at free
  have less := Nat.lt_of_le_of_ne (row_sound.pins slot) free.2
  rw [add32_eq (Nat.succ_le_of_lt less)] at eq
  cases eq
  refine ⟨nofun, .kept occupied (row_sound.setOperation notReserved ?_ ?_ ?_ ?_) rfl rfl
    rfl rfl rfl⟩
  · simp [operationSlotIsCanonical]
  · exact less
  · exact Nat.mod_lt _ (by decide)
  · simp [free.1]

end

lemma validateOperation_ok (ok : validateOperationLocked row pin = .ok) :
    ∃ h : pin.slot < kServiceDirectoryOperationCapacity, (row.operationSlots ⟨pin.slot, h⟩).state =
      .live := by
  unfold validateOperationLocked at ok
  split_ifs at ok with _ h _ live
  exact ⟨h, not_not.mp (not_or.mp live).1⟩

lemma validateOperation_ne_corrupt (row pin) : validateOperationLocked row pin ≠ .corruptState := by
  unfold validateOperationLocked
  repeat' split
  all_goals decide

lemma OperationsSound.positive {row} (sound : OperationsSound row) {slot}
    (live : (row.operationSlots slot).state = .live) : row.activeOperations ≠ 0 := by
  rw [← sound.live]
  refine Nat.ne_of_gt (List.countP_pos_iff.mpr ⟨slot, List.mem_finRange slot, decide_eq_true live⟩)

lemma releaseOperation_spec (sound : DirectorySound directory last calls)
    (eq : serviceDirectoryReleaseOperation directory pin = (status, directory')) :
    status ≠ .corruptState ∧ Administers calls directory directory' := by
  unfold serviceDirectoryReleaseOperation at eq
  rw [sound.enters] at eq
  split at eq
  · cases eq
    exact ⟨by decide, .inl rfl⟩
  rw [if_neg (by decide)] at eq
  split at eq
  · cases eq
    exact ⟨by decide, .inl rfl⟩
  next index resolved =>
  obtain ⟨occupied, _⟩ := resolveExact_some resolved
  have row_sound := sound.row occupied
  dsimp only at eq
  split at eq
  · cases eq
    exact ⟨validateOperation_ne_corrupt _ _, .inl rfl⟩
  next valid =>
  obtain ⟨lt, live⟩ := validateOperation_ok (not_not.mp valid)
  rw [dif_pos lt] at eq
  cases eq
  have positive := row_sound.canonical.operations.positive live
  have opened : (directory.rows index).state ≠ .reserved := fun reserved =>
    positive (row_sound.canonical.reservedRow reserved).operations
  refine ⟨by decide, .recycled occupied
    (row_sound.setOperation opened ?_ (row_sound.pins _) row_sound.canonical.operations.hint ?_)
    rfl rfl rfl rfl rfl⟩
  · split
    next last => exact decide_eq_true last
    next later => exact decide_eq_true later
  · rw [if_pos live, if_neg]
    · omega
    · split <;> nofun

section Connect

variable {service : ServiceKey} {channel : ServiceEndpointChannelKey}

lemma connectEnqueue_spec (sound : DirectorySound directory last calls)
    (valid : serviceEndpointOwnerReceiptIsValid receipt)
    (eq : connectEnqueue directory pin receipt acceptor = (status, directory')) :
    status ≠ .corruptState ∧ (status ≠ .ok ∧ directory' = directory ∨
      status = .ok ∧ ∃ index row', (directory.rows index).occupied ∧
        (directory.rows index).key = pin.service ∧ directory' = directory.setRow index row' ∧
        Change (directory.rows index) row'
          (.queued pin.service receipt.channel ::ₘ registered (directory.rows index).key calls) 0
          {receipt} 0) := by
  unfold connectEnqueue at eq
  rw [if_neg (by rw [sound.isCanonical]; decide)] at eq
  split at eq
  · cases eq
    exact ⟨by decide, .inl ⟨by decide, rfl⟩⟩
  next index resolved =>
  obtain ⟨occupied, key⟩ := resolveExact_some resolved
  have row_sound := sound.row occupied
  dsimp only at eq
  split at eq
  · cases eq
    exact ⟨by decide, .inl ⟨by decide, rfl⟩⟩
  split at eq
  · cases eq
    exact ⟨by decide, .inl ⟨by decide, rfl⟩⟩
  next active =>
  split at eq
  · cases eq
    exact ⟨by decide, .inl ⟨by decide, rfl⟩⟩
  split at eq
  next refused =>
    cases eq
    exact ⟨validateOperation_ne_corrupt _ _, .inl ⟨refused, rfl⟩⟩
  split at eq
  · cases eq
    exact ⟨by decide, .inl ⟨by decide, rfl⟩⟩
  next notFull =>
  cases eq
  have room := Nat.lt_of_le_of_ne row_sound.canonical.queue.count notFull
  have opened : (directory.rows index).state ≠ .reserved := by
    rw [not_not.mp active]
    decide
  refine ⟨by decide, .inr ⟨rfl, index, _, occupied, key, rfl, ?_⟩⟩
  rw [← key]
  exact row_sound.enqueue opened (queuedSound_iff.mpr ⟨by simp, valid, by simp, rfl, rfl⟩) room

lemma DirectorySound.resolves_call (sound : DirectorySound directory last (call ::ₘ calls))
    (works : call.service = some service) :
    ∃ index, resolveExactLocked directory service = some index ∧
      (directory.rows index).occupied ∧ (directory.rows index).key = service ∧
      RowSound (directory.rows index) (call ::ₘ registered service calls) := by
  obtain ⟨index, occupied, rfl⟩ := sound.live (Multiset.mem_cons_self ..) works
  have row_sound := sound.row occupied
  rw [registered_cons works] at row_sound
  exact ⟨index, sound.resolves occupied, occupied, rfl, row_sound⟩

/-- What a `ServiceDirectoryConnect` that leaves the row does to it. -/
def LeavesQueue (calls : Multiset Call) (service : ServiceKey)
    (removed : Option ServiceDirectoryQueuedChannel)
    (directory directory' : ServiceDirectory) : Prop :=
  (∀ queued, removed = some queued → drainable queued.owned) ∧
    ∃ index row', (directory.rows index).occupied ∧ (directory.rows index).key = service ∧
      directory' = directory.setRow index row' ∧
      Change (directory.rows index) row' (registered service calls) (removedReceipts removed) 0 0

lemma drainable_of_queued (sound : QueuedSound queued) : drainable queued.owned := by
  obtain ⟨_, valid, _, idle, _⟩ := queuedSound_iff.mp sound
  exact decide_eq_true ⟨valid, by rw [idle]; decide⟩

lemma remove_drainable (sound : QueueSound row) :
    ∀ queued, (removeQueuedLocked row channel).map Prod.fst = some queued →
      drainable queued.owned := by
  intro queued eq
  obtain ⟨⟨_, row'⟩, removed, rfl⟩ := Option.map_eq_some_iff.mp eq
  exact drainable_of_queued (sound.remove removed).1

section

variable (sound : DirectorySound directory last (.queued service channel ::ₘ calls))

include sound

lemma connectUnpublish_spec
    (eq : connectUnpublish directory service channel = (corrupt, removed, directory')) :
    corrupt = false ∧ LeavesQueue calls service removed directory directory' := by
  obtain ⟨index, resolved, occupied, rfl, row_sound⟩ := sound.resolves_call rfl
  obtain ⟨same, queue, receipts⟩ := remove_requeued row_sound.canonical.queue channel
  obtain ⟨counted, change⟩ := row_sound.leaveQueue same queue receipts
  unfold connectUnpublish at eq
  rw [resolved] at eq
  dsimp only at eq
  rw [leavePublisher, if_neg counted] at eq
  cases eq
  exact ⟨rfl, remove_drainable row_sound.canonical.queue, index, _, occupied, rfl, rfl, change⟩

lemma connectCommit_spec
    (eq : connectCommit directory service channel activated = (commit, directory')) :
    commit.corrupt = false ∧ LeavesQueue calls service commit.removed directory directory' := by
  obtain ⟨index, resolved, occupied, rfl, row_sound⟩ := sound.resolves_call rfl
  have queue := row_sound.canonical.queue
  unfold connectCommit at eq
  rw [resolved] at eq
  dsimp only at eq
  generalize pending_eq : (if activated ∧ (directory.rows index).state = .active then _ else none) =
    pending at eq
  cases pending with
  | some offset =>
    -- the entry is marked Ready
    have lt : offset < (directory.rows index).acceptCount := by
      split at pending_eq
      · exact List.mem_range.mp (List.mem_of_find?_eq_some pending_eq)
      · cases pending_eq
    obtain ⟨same, queue', receipts⟩ := markReady_requeued queue lt
    obtain ⟨counted, change⟩ := row_sound.leaveQueue same queue' ((add_zero _).trans receipts)
    rw [if_neg (by simp)] at eq
    dsimp only [Option.elim] at eq
    rw [leavePublisher, if_neg counted] at eq
    cases eq
    exact ⟨rfl, nofun, index, _, occupied, rfl, rfl, change⟩
  | none =>
    by_cases active : (directory.rows index).state = .active
    · -- the entry is taken back
      obtain ⟨same, queue', receipts⟩ := remove_requeued queue channel
      obtain ⟨counted, change⟩ := row_sound.leaveQueue same queue' receipts
      rw [if_pos ⟨rfl, active⟩] at eq
      dsimp only [Option.elim_none] at eq
      rw [leavePublisher, if_neg counted] at eq
      cases eq
      exact ⟨rfl, remove_drainable queue, index, _, occupied, rfl, rfl, change⟩
    · -- the close has the entry
      obtain ⟨counted, change⟩ := row_sound.leaveQueue (Requeued.refl _) queue (add_zero _)
      rw [if_neg fun both => active both.2] at eq
      dsimp only [Option.elim_none] at eq
      rw [leavePublisher, if_neg counted] at eq
      cases eq
      exact ⟨rfl, nofun, index, _, occupied, rfl, rfl, change⟩

end

end Connect

end DuetOS.Directory
