import DuetOS.Directory.Effect

/-!
# What the sections of Accept, of the releases and of the close do
-/

namespace DuetOS.Directory

open Word DuetOS.Lifecycle

lemma acceptResolve_error
    (refused : acceptResolve directory service owner process credential = .error status) :
    status ≠ .corruptState := by
  unfold acceptResolve at refused
  split at refused
  next refused' =>
    cases refused
    exact resolveOwned_error refused'
  · dsimp only at refused
    repeat' split at refused
    all_goals first | (cases refused; decide) | cases refused

lemma acceptResolve_ok
    (resolved : acceptResolve directory service owner process credential = .ok index) :
    (directory.rows index).occupied ∧ (directory.rows index).key = service ∧
      processKeyFromInstance (directory.rows index).owner.process = process ∧
      (directory.rows index).state = .active := by
  unfold acceptResolve at resolved
  split at resolved
  · cases resolved
  next found =>
  obtain ⟨occupied, same, _⟩ := resolveOwned_ok found
  dsimp only at resolved
  split_ifs at resolved with served _ _ active
  cases resolved
  exact ⟨occupied, same, not_not.mp served, not_not.mp active⟩

lemma processKeyFromInstance_valid (valid : serviceInstanceTokenIsValid token) :
    processKeyIsValid (processKeyFromInstance token.process) :=
  decide_eq_true (of_decide_eq_true (of_decide_eq_true valid).2)

lemma RowSound.putBack (sound : RowSound row calls) (opened : row.state ≠ .reserved)
    (some : row.acceptCount ≠ 0) :
    Change row (enqueueFrontLocked (dequeueLocked row).2 (dequeueLocked row).1) calls 0 0 0 := by
  obtain ⟨queued_sound, queue⟩ := sound.canonical.queue.dequeue some
  have bound := sound.canonical.queue.count
  have room : (dequeueLocked row).2.acceptCount < kServiceDirectoryAcceptCapacity :=
    show row.acceptCount - 1 < _ by omega
  have same : Requeued row (enqueueFrontLocked (dequeueLocked row).2 (dequeueLocked row).1) := by
    constructor <;> first | rfl | constructor <;> rfl
  have unchanged : (enqueueFrontLocked (dequeueLocked row).2 (dequeueLocked row).1).queue =
    row.queue := by
    rw [enqueueFront_queue room, ← dequeue_queue sound.canonical.queue.head bound some]
  refine ⟨.kept (sound.rechannel same.toRechanneled opened (queue.enqueueFront queued_sound room)
    (same.accepted sound.canonical.accepted) sound.registered sound.publishers sound.closers
    sound.trackers) rfl rfl rfl, same.held ?_, ?_⟩
  · rw [ServiceDirectoryRow.queueReceipts, unchanged]
    rfl
  · rw [same.served, add_zero]

lemma acceptClaim_spec (sound : DirectorySound directory last calls)
    (eq : acceptClaim directory service owner process credential = (result, directory')) :
    (∃ status, result = .error status ∧ status ≠ .corruptState ∧
      Administers calls directory directory') ∨
    ∃ key acceptor index row', result = .ok (key, acceptor) ∧ acceptor ≠ none ∧
      (directory.rows index).occupied ∧ key.service = (directory.rows index).key ∧
      directory' = directory.setRow index row' ∧ Change (directory.rows index) row'
        (.claimed key process acceptor ::ₘ registered (directory.rows index).key calls) 0 0 0 := by
  unfold acceptClaim at eq
  rw [if_neg (by rw [sound.isCanonical]; decide)] at eq
  split at eq
  next refused =>
    cases eq
    exact .inl ⟨_, rfl, acceptResolve_error refused, .inl rfl⟩
  next index resolved =>
  obtain ⟨occupied, _, rfl, active⟩ := acceptResolve_ok resolved
  have row_sound := sound.row occupied
  have opened : (directory.rows index).state ≠ .reserved := by
    rw [active]
    decide
  dsimp only at eq
  split at eq
  · cases eq
    exact .inl ⟨_, rfl, by decide, .inl rfl⟩
  next ready =>
  obtain ⟨some, _⟩ := not_or.mp ready
  have queued_sound := (row_sound.canonical.queue.dequeue some).1
  split at eq
  · cases eq
    exact .inl ⟨_, rfl, by decide, .inr ⟨index, _, occupied, rfl, row_sound.putBack opened some⟩⟩
  next slot allocated found =>
  obtain ⟨free, room, row_eq, key_eq⟩ := allocateAccepted_claims row_sound.trackers found
  obtain ⟨rfl, rfl⟩ := Prod.mk.inj eq
  refine .inr ⟨_, _, index, _, congrArg (fun key => Except.ok (key, _)) key_eq,
    (queuedSound_iff.mp queued_sound).2.2.1, occupied, ?_,
    congrArg (directory.setRow index) row_eq, ?_⟩
  · simp only [claimedRow, ServiceDirectoryRow.setAccepted, Function.update_self]
    rfl
  · exact row_sound.claim opened some
      (processKeyFromInstance_valid row_sound.canonical.owner) free room

def publishedHandles (process : ProcessKey) (published : Option Nat) :
    Multiset (ProcessKey × Nat) :=
  published.elim 0 fun handle => {(process, handle)}

lemma Change.publishes (change : Change row row' calls lost gained 0) :
    Change row row' calls lost gained published :=
  ⟨change.next, change.held, change.served.trans (add_le_add_right (Multiset.zero_le _) _)⟩

lemma acceptCommit_spec
    (sound : DirectorySound directory last (.claimed key process acceptor ::ₘ calls))
    (present : acceptor ≠ none)
    (given : ∀ handle, published = some handle → handle ≠ kHandleInvalid)
    (roomy : published = none → ∀ index, resolveExactLocked directory key.service = some index →
      (directory.rows index).state = .active →
      (directory.rows index).acceptCount < kServiceDirectoryAcceptCapacity)
    (eq : acceptCommit directory key published acceptor = (commit, directory')) :
    commit.corrupt = false ∧ ∃ index row', (directory.rows index).occupied ∧
      (directory.rows index).key = key.service ∧ directory' = directory.setRow index row' ∧
      Change (directory.rows index) row' (registered key.service calls) 0 0
        (publishedHandles process published) := by
  obtain ⟨index, resolved, occupied, same, row_sound⟩ := sound.resolves_call rfl
  unfold acceptCommit at eq
  rw [resolved] at eq
  dsimp only at eq
  cases tracker : resolveAcceptedLocked (directory.rows index) key with
  | none =>
    -- the close took the tracker
    obtain ⟨counted, change⟩ := row_sound.acceptAbandoned
    rw [tracker] at eq
    rw [leavePublisher, if_neg counted] at eq
    cases eq
    exact ⟨rfl, index, _, occupied, same, rfl, change.publishes⟩
  | some slot =>
    rw [tracker] at eq
    cases published with
    | some handle =>
      obtain ⟨counted, change⟩ := row_sound.acceptPublished tracker (given handle rfl)
      rw [leavePublisher, if_neg counted] at eq
      cases eq
      exact ⟨rfl, index, _, occupied, same, rfl, change⟩
    | none =>
      by_cases restores : (directory.rows index).state = .active ∧
          ((directory.rows index).acceptedChannels slot).state = .publishing
      · obtain ⟨counted, change⟩ :=
          row_sound.acceptRestored tracker present (roomy rfl index resolved restores.1)
        dsimp only at eq
        rw [if_pos restores, leavePublisher, if_neg counted] at eq
        cases eq
        exact ⟨rfl, index, _, occupied, same, rfl, change.publishes⟩
      · obtain ⟨counted, change⟩ := row_sound.acceptAbandoned
        dsimp only at eq
        rw [if_neg restores, leavePublisher, if_neg counted] at eq
        cases eq
        exact ⟨rfl, index, _, occupied, same, rfl, change.publishes⟩

lemma releaseBegin_spec (sound : DirectorySound directory last calls) {result}
    (eq : releaseBegin directory key = (result, directory')) :
    (∃ refused, result = .error refused ∧ refused.status ≠ .corruptState ∧ directory' = directory) ∨
    ∃ receipt index row', result = .ok receipt ∧ (directory.rows index).occupied ∧
      (directory.rows index).key = key.service ∧ directory' = directory.setRow index row' ∧
      Change (directory.rows index) row'
        (.releasing key receipt drive ::ₘ registered (directory.rows index).key calls) 0 0 0 := by
  unfold releaseBegin at eq
  rw [sound.enters] at eq
  split at eq
  · cases eq
    exact .inl ⟨_, rfl, nofun, rfl⟩
  rw [if_neg (by decide)] at eq
  split at eq
  · cases eq
    exact .inl ⟨_, rfl, nofun, rfl⟩
  next index resolved =>
  obtain ⟨occupied, same⟩ := resolveExact_some resolved
  dsimp only at eq
  split at eq
  · cases eq
    exact .inl ⟨_, rfl, nofun, rfl⟩
  next slot tracker =>
  split_ifs at eq with quiet state
  iterate 2
    cases eq
    exact .inl ⟨_, rfl, nofun, rfl⟩
  cases eq
  rw [not_or, Bool.not_eq_true] at quiet
  rw [not_and_or, not_not, not_not] at state
  exact .inr ⟨_, index, _, rfl, occupied, same, rfl,
    (sound.row occupied).releaseBegin tracker quiet.2 state⟩

lemma releaseEnd_spec
    (sound : DirectorySound directory last (.released key receipt endpointStatus drive ::ₘ calls))
    (eq : releaseEnd directory key endpointStatus = (result, directory')) :
    result.status ≠ .corruptState ∧ ∃ index row', (directory.rows index).occupied ∧
      (directory.rows index).key = key.service ∧ directory' = directory.setRow index row' ∧
      Change (directory.rows index) row' (registered key.service calls)
        (Call.released key receipt endpointStatus drive).spent 0 0 := by
  obtain ⟨index, resolved, occupied, same, row_sound⟩ := sound.resolves_call rfl
  obtain ⟨slot, tracker, _, _, _, releasing, active⟩ := row_sound.releasing
  unfold releaseEnd at eq
  rw [if_neg (by rw [sound.isCanonical]; decide), resolved] at eq
  dsimp only at eq
  rw [tracker] at eq
  dsimp only at eq
  rw [if_neg (by rw [releasing, active]; decide)] at eq
  split at eq
  next done =>
    cases eq
    rw [done] at row_sound ⊢
    exact ⟨nofun, index, _, occupied, same, rfl, row_sound.releaseDone tracker⟩
  next failed =>
    cases eq
    have unspent : (Call.released key receipt endpointStatus drive).spent = 0 := by
      cases endpointStatus <;> first | rfl | exact absurd rfl failed
    rw [unspent]
    refine ⟨?_, index, _, occupied, same, rfl, row_sound.releaseFailed tracker⟩
    split <;> nofun

lemma RowSound.startsClosing (sound : RowSound row calls) (given : reason ≠ .none) :
    RowSound (startClosing row reason) calls ∧ (startClosing row reason).state = .closing ∧
      (startClosing row reason).key = row.key ∧ (startClosing row reason).name = row.name ∧
      (startClosing row reason).owner = row.owner ∧ (startClosing row reason).held = row.held ∧
      (startClosing row reason).served = row.served := by
  unfold startClosing
  split
  next opened => exact ⟨sound.closes given opened, rfl, rfl, rfl, rfl, rfl, rfl⟩
  next notOpened =>
  refine ⟨sound, ?_, rfl, rfl, rfl, rfl, rfl⟩
  obtain ⟨notReserved, notActive⟩ := not_or.mp notOpened
  rcases sound.canonical.state with ⟨reserved, _⟩ | ⟨active, _⟩ | ⟨closing, _⟩
  · exact absurd reserved notReserved
  · exact absurd active notActive
  · exact closing

lemma closeBegin_spec (sound : DirectorySound directory last calls)
    (eq : closeBegin directory service owner reason = (result, directory')) :
    (∃ refused, result = .error refused ∧ refused.status ≠ .corruptState ∧
      Administers calls directory directory') ∨
    ∃ batch index row', result = .ok batch ∧ (∀ channel ∈ batch, drainable channel) ∧
      (directory.rows index).occupied ∧ (directory.rows index).key = service ∧
      directory' = directory.setRow index row' ∧
      Change (directory.rows index) row'
        (.closing ⟨service, owner, batch.length, batch, [], .ok, 0⟩ ::ₘ
          registered (directory.rows index).key calls) (receiptsOf batch) 0 0 := by
  unfold closeBegin at eq
  rw [sound.enters] at eq
  split at eq
  · cases eq
    exact .inl ⟨_, rfl, nofun, .inl rfl⟩
  next arguments =>
  rw [if_neg (by decide)] at eq
  split at eq
  next refused =>
    cases eq
    exact .inl ⟨_, rfl, resolveOwned_error refused, .inl rfl⟩
  next index resolved =>
  obtain ⟨occupied, rfl, rfl⟩ := resolveOwned_ok resolved
  have given : reason ≠ .none := fun none => arguments (.inr (.inr (.inl none)))
  obtain ⟨row_sound, closing, key, name, owner, held, served⟩ :=
    (sound.row occupied).startsClosing given
  dsimp only at eq
  rw [if_neg (not_not.mpr closing)] at eq
  split at eq
  · cases eq
    exact .inl ⟨_, rfl, nofun, .kept occupied row_sound key name owner held served⟩
  next free =>
  rw [not_or, not_not] at free
  have undriven : ∀ slot, ((startClosing (directory.rows index) reason).acceptedChannels
      slot).releaseDriverActive = false := by
    intro slot
    by_contra active
    exact free.2 (decide_eq_true ⟨slot, Bool.not_eq_false _ ▸ active⟩)
  have taken := row_sound.closeBatch closing free.1 undriven
  split at eq
  next none =>
    cases eq
    refine .inl ⟨_, rfl, ?_, ?_⟩
    · split <;> nofun
    · refine .inr ⟨index, _, occupied, rfl, taken.sound.recycled (taken.key.trans key)
        (taken.name.trans name) (taken.owner.trans owner) ?_ ?_⟩
      · rw [← held, ← taken.held, List.length_eq_zero_iff.mp none]
        exact (add_zero _).symm
      · rw [add_zero, ← served]
        exact taken.served
  next some =>
    cases eq
    refine .inr ⟨_, index, _, rfl, taken.drainable, occupied, rfl, rfl, ?_, ?_, ?_⟩
    · refine .kept ?_ (taken.key.trans key) (taken.name.trans name) (taken.owner.trans owner)
      exact @RowSound.takeBatch _ _ taken.sound ⟨_, _, _, _, _, _, _⟩ (taken.state.trans closing)
        (taken.driver.trans free.1) taken.closing (taken.key.trans key).symm
        (taken.owner.trans owner).symm some taken.length
    · rw [add_zero, ← held, ← taken.held]
      rfl
    · rw [add_zero, ← served]
      exact taken.served

lemma closeEnd_spec (sound : DirectorySound directory last (.closing progress ::ₘ calls))
    (able : ∀ channel ∈ progress.failed, drainable channel)
    (bound : progress.failed.length ≤ progress.count)
    (eq : closeEnd directory progress.service progress.owner progress.count progress.failed
      progress.firstFailure progress.drained = (result, directory')) :
    result.status ≠ .corruptState ∧ ∃ index row', (directory.rows index).occupied ∧
      (directory.rows index).key = progress.service ∧ directory' = directory.setRow index row' ∧
      Change (directory.rows index) row' (registered progress.service calls) 0
        (receiptsOf progress.failed) 0 := by
  obtain ⟨index, resolved, occupied, same, row_sound⟩ := sound.resolves_call rfl
  obtain ⟨owner, closing, count, active, _, _⟩ := row_sound.closer
  have owned : resolveOwned directory progress.service progress.owner = .ok index := by
    rw [resolveOwned, resolved]
    exact if_neg (not_not.mpr owner.symm)
  unfold closeEnd at eq
  rw [if_neg (by rw [sound.isCanonical]; decide), owned] at eq
  dsimp only at eq
  rw [if_neg (by rw [closing, active, count]; simp)] at eq
  cases eq
  refine ⟨?_, index, _, occupied, same, rfl, row_sound.returnBatch able bound⟩
  repeat' split
  all_goals nofun

end DuetOS.Directory
