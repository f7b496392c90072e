import DuetOS.Directory.Reserve

/-!
# The invariant along every run

No section finds the directory corrupt, and every section keeps the invariant.
-/

namespace DuetOS.Directory

open Word DuetOS.Lifecycle Multiset

variable {calls : Multiset Call} {directory : ServiceDirectory} {last : LastServiceGenerations}

lemma deferProcess_of_not_occupied {row : ServiceDirectoryRow}
    (free : row.occupied = false) (process)
    : row.deferProcess process = row := by
  have same : (row.deferProcess process).acceptedChannels = row.acceptedChannels :=
    funext fun slot => if_neg (by rw [free]; simp)
  exact congrArg (fun channels => { row with acceptedChannels := channels }) same

lemma DirectorySound.defer (sound : DirectorySound directory last calls) (process : ProcessKey) :
    DirectorySound { directory with
      rows := fun index => (directory.rows index).deferProcess process } last calls :=
  { sound with
    row := fun occupied => ((sound.row occupied).defer process).1
    idle := fun {index} free => by
      have same := @deferProcess_of_not_occupied (directory.rows index) free process
      exact (congrArg rowIsCanonical same).trans (sound.idle free) }

lemma deferAcceptedProcess_sound (sound : Sound s) {process : ProcessKey} {result}
    (eq : serviceDirectoryDeferAcceptedProcess s.directory process = (result, directory)) :
    result.status ≠ .corruptState ∧ Sound { s with directory } := by
  unfold serviceDirectoryDeferAcceptedProcess at eq
  split at eq
  · cases eq; exact ⟨nofun, sound⟩
  rw [if_neg (not_not_intro sound.directory.enters)] at eq
  cases eq
  have same : ∀ index, ((s.directory.rows index).deferProcess process).held =
    (s.directory.rows index).held ∧
      ((s.directory.rows index).deferProcess process).served = (s.directory.rows index).served := by
    intro index
    cases occupied : (s.directory.rows index).occupied with
    | false =>
      rw [deferProcess_of_not_occupied occupied]
      exact ⟨rfl, rfl⟩
    | true => exact ((sound.directory.row occupied).defer process).2
  exact ⟨nofun, sound.rows (sound.directory.defer process)
    (rowsHeld_congr fun index => (same index).1)
    (rowsServed_congr fun index => (same index).2)⟩

lemma deferAcceptedProcess_keeps
    (eq : serviceDirectoryDeferAcceptedProcess directory process = (result, directory'))
    (index) (used : (directory'.rows index).occupied) :
    (directory.rows index).occupied ∧ (directory'.rows index).key = (directory.rows index).key := by
  unfold serviceDirectoryDeferAcceptedProcess at eq
  repeat' split at eq
  all_goals cases eq; exact ⟨used, rfl⟩

lemma scanDeferred_hint (left position batch) :
    (scanDeferred directory left position batch).2 < kServiceDirectoryDeferredAcceptedCapacity := by
  induction left generalizing position batch with
  | zero => exact Nat.mod_lt _ (by decide)
  | succ left ih =>
    unfold scanDeferred
    split
    · exact ih ..
    · exact Nat.mod_lt _ (by decide)

lemma DirectorySound.rehint (sound : DirectorySound directory last calls) {hint}
    (bound : hint < kServiceDirectoryDeferredAcceptedCapacity) :
    DirectorySound { directory with deferredScanHint := hint } last calls :=
  { sound with hint := bound }

lemma driveBegin_sound (sound : Sound s) (eq : driveBegin s.directory = (result, directory)) :
    (∃ batch, result = .ok batch) ∧ Sound { s with directory } := by
  unfold driveBegin at eq
  rw [if_neg (not_not_intro sound.directory.enters)] at eq
  have bound := @scanDeferred_hint s.directory kServiceDirectoryDeferredAcceptedCapacity
    s.directory.deferredScanHint []
  generalize scanDeferred _ _ _ _ = scanned at eq bound
  cases eq
  refine ⟨⟨_, rfl⟩, sound.rows (sound.directory.rehint bound) ?_ ?_⟩
  · exact rowsHeld_congr fun _ => rfl
  · exact rowsServed_congr fun _ => rfl

lemma driveBegin_rows (eq : driveBegin directory = (result, directory')) :
    directory'.rows = directory.rows := by
  unfold driveBegin at eq
  generalize scanDeferred _ _ _ _ = scanned at eq
  split at eq <;> cases eq <;> rfl

section

variable (sound : Sound s)

include sound

lemma driveEnd_status (eq : s.calls = .driving progress ::ₘ calls) :
    (progress.result (drivePending s.directory)).status ≠ .corruptState := by
  have honest : progress.failureStatus ≠ .corruptState :=
    sound.calls (.driving progress) (eq ▸ mem_cons_self ..)
  unfold drivePending
  rw [if_neg (not_not_intro sound.directory.isCanonical)]
  simp only [DriveProgress.result]
  split
  · exact honest
  · split <;> exact nofun

/-- A handle names at most one accepted channel. -/
lemma publishedAs_length (process handle) :
    (publishedAs s.directory process handle).length ≤ 1 := by
  have once : (rowsServed s.directory).count (process, handle) ≤ 1 :=
    (count_le_of_le _ sound.served).trans
      (nodup_iff_count_le_one.mp (coe_nodup.mpr sound.handles) _)
  refine le_trans ?_ once
  rw [rowsServed_eq, count, coe_countP, List.countP_filterMap, publishedAs,
    List.length_filterMap_eq_countP]
  refine List.countP_mono_left fun ⟨index, slot⟩ _ used => ?_
  obtain ⟨key, eq⟩ := Option.isSome_iff_exists.mp used
  simp only [Option.ite_none_right_eq_some] at eq
  obtain ⟨⟨_, published, process_eq, handle_eq⟩, _⟩ := eq
  simp [ServiceDirectoryAcceptedChannel.served, if_pos published, process_eq, handle_eq]

lemma releaseHandleResolve_status
    (eq : releaseHandleResolve s.directory process handle = .error result) :
    result.status ≠ .corruptState := by
  have length := publishedAs_length sound process handle
  unfold releaseHandleResolve at eq
  split at eq
  · cases eq; exact nofun
  rw [if_neg (not_not_intro sound.directory.enters)] at eq
  split at eq
  · cases eq; exact nofun
  · cases eq
  next keys none one =>
  rcases keys_eq : publishedAs s.directory process handle with _ | ⟨key, _ | ⟨other, rest⟩⟩
  · exact absurd keys_eq none
  · exact absurd keys_eq (one key)
  · rw [keys_eq] at length
    simp at length

lemma connectCheck_status (pin identity) :
    connectCheck s.directory pin identity ≠ .corruptState := by
  unfold connectCheck
  split
  · exact nofun
  rw [if_neg (not_not_intro sound.directory.enters)]
  split
  · exact nofun
  next index _ =>
  have fine := validateOperation_ne_corrupt (s.directory.rows index) pin
  dsimp only
  repeat' split
  all_goals first | exact fine | decide

lemma acceptCheck_status (service owner process credential) :
    acceptCheck s.directory service owner process credential ≠ .corruptState := by
  unfold acceptCheck
  split
  · exact nofun
  rw [if_neg (not_not_intro sound.directory.enters)]
  split
  next status refused => exact acceptResolve_error refused
  · dsimp only
    repeat' split
    all_goals decide

end

lemma connectUnpublished_status :
    (connectUnpublished false aborted error).status ≠ .corruptState := by
  cases aborted <;> exact nofun

lemma connectCommitted_status (fine : commit.corrupt = false) :
    (connectCommitted commit channel handle status detached).status ≠ .corruptState := by
  unfold connectCommitted
  rw [fine, if_neg Bool.false_ne_true]
  repeat' split
  all_goals exact nofun

lemma acceptCommitted_status (fine : commit.corrupt = false) :
    (acceptCommitted commit key published safe).status ≠ .corruptState := by
  unfold acceptCommitted
  rw [fine, if_neg Bool.false_ne_true]
  cases published with
  | ok handle =>
    simp only
    split
    · exact nofun
    · cases safe <;> exact nofun
  | error error =>
    simp only [acceptFailure]
    split
    · split <;> exact nofun
    · exact nofun

structure Fine (s : State) (e : Event) (s' : State) : Prop where
  status : e.status ≠ .corruptState
  sound : Sound s'
  registers : Registers s e s'

lemma Effect.fine (effect : Effect s s') (sound : Sound s) (status : e.status ≠ .corruptState)
    (none : e.reserved = none) : Fine s e s' :=
  ⟨status, effect.sound sound, effect.registers none⟩

lemma Sound.fine (sound : Sound s) (status : e.status ≠ .corruptState) (none : e.reserved = none) :
    Fine s e s :=
  ⟨status, sound, .keeps none rfl fun _ used => ⟨used, rfl⟩⟩

lemma Sound.effects (sound : Sound s) (spec : e.status ≠ .corruptState ∧ Effect s s')
    (none : e.reserved = none) :
    Fine s e s' := spec.2.fine sound spec.1 none

lemma Sound.administers (sound : Sound s)
    (spec : e.status ≠ .corruptState ∧ Administers s.calls s.directory directory')
    (none : e.reserved = none) :
    Fine s e { s with directory := directory' } :=
      sound.effects ⟨spec.1, .administration spec.2⟩ none

lemma RoomyStep.fine (sound : Sound s) (step : RoomyStep s e s') : Fine s e s' := by
  obtain ⟨step, roomy⟩ := step
  cases step with
  | reserveRegistration name manifestSlot owner credential eq =>
    obtain ⟨status, sound', registers⟩ := reserveRegistration_sound sound eq
    exact ⟨status, sound', registers⟩
  | publishRegistration reservation owner eq =>
    exact sound.administers (publishRegistration_spec sound.directory eq) rfl
  | commitJointReady service owner eq =>
    exact sound.administers (commitJointReady_spec sound.directory eq) rfl
  | abortRegistration reservation owner eq =>
    exact sound.administers (abortRegistration_spec sound.directory eq) rfl
  | lookup name eq =>
    exact sound.administers (lookup_spec sound.directory eq) rfl
  | releaseOperation pin eq =>
    exact sound.administers (releaseOperation_spec sound.directory eq) rfl
  | connectRefused pin identity _ => exact sound.fine (connectCheck_status sound pin identity) rfl
  | connectCheck pin identity _ =>
    exact (@Effect.begins s (.connecting pin) rfl trivial rfl).fine sound nofun rfl
  | handleReserveFailed error eq | acceptReserveFailed error eq =>
    exact (Effect.ends eq rfl rfl).fine sound nofun rfl
  | endpointCreateFailed endpointStatus aborted eq _ =>
    refine (Effect.ends eq rfl rfl).fine sound ?_ rfl
    cases aborted <;> exact nofun
  | connectCreate receipt acceptor eq valid _ fresh =>
    exact (connectCreate_effect eq valid fresh).fine sound nofun rfl
  | connectRejected aborted eq enqueue refused =>
    exact sound.effects (connectRejected_effect sound eq enqueue refused aborted) rfl
  | connectEnqueue eq enqueue => exact (connectEnqueue_effect sound eq enqueue).fine sound nofun rfl
  | connectUnpublish error aborted eq unpublish =>
    have directory := sound.directory
    rw [eq] at directory
    obtain ⟨rfl, leaves⟩ := connectUnpublish_spec directory unpublish
    exact (leavesQueue_effect eq connectUnpublished_status leaves).fine sound
      connectUnpublished_status rfl
  | connectCommit clientHandle activationStatus detached eq committed =>
    have directory := sound.directory
    rw [eq] at directory
    obtain ⟨fine, leaves⟩ := connectCommit_spec directory committed
    rw [fine]
    exact (leavesQueue_effect eq (connectCommitted_status fine) leaves).fine sound
      (connectCommitted_status fine) rfl
  | connectCleanup endpointStatus eq =>
    exact sound.effects (connectCleanup_effect sound eq) rfl
  | rollbackDrain endpointStatus eq => exact (rollbackDrain_effect sound eq).fine sound nofun rfl
  | acceptRefused service owner serverProcess credential _ =>
    exact sound.fine (acceptCheck_status sound service owner serverProcess credential) rfl
  | acceptCheck service owner serverProcess credential _ =>
    exact (@Effect.begins s (.accepting service owner serverProcess credential) rfl trivial
      rfl).fine sound nofun rfl
  | acceptUnclaimed aborted eq claim =>
    obtain ⟨status, effect⟩ := acceptUnclaimed_effect sound eq claim
    refine effect.fine sound ?_ rfl
    cases aborted
    · exact nofun
    · exact status
  | acceptClaim eq claim => exact (acceptClaim_effect sound eq claim).fine sound nofun rfl
  | acceptUnpublished error aborted eq committed =>
    obtain ⟨fine, effect⟩ := acceptFinish_effect sound eq (fun _ given => by cases given)
      (fun _ given => by cases given)
      (fun _ index resolved active full => roomy ⟨index, resolved, active, full⟩) committed
    exact effect.fine sound (acceptCommitted_status fine) rfl
  | acceptPublished handle detached eq given fresh committed =>
    obtain ⟨fine, effect⟩ := acceptFinish_effect sound eq
      (fun _ same => Option.some.inj same ▸ given)
        (fun _ same => Option.some.inj same ▸ fresh) nofun
      committed
    exact effect.fine sound (acceptCommitted_status fine) rfl
  | handleUnresolved serverProcess serverHandle result eq =>
    exact sound.fine (releaseHandleResolve_status sound eq) rfl
  | handleResolved serverProcess serverHandle key _ =>
    exact (@Effect.begins s (.resolved key) rfl trivial rfl).fine sound nofun rfl
  | releaseRefused releases eq refused =>
    exact sound.effects (releaseRefused_effect sound releases eq refused) rfl
  | releaseBegin releases eq begins =>
    exact (releaseBegin_effect sound releases eq begins).fine sound nofun rfl
  | releaseOwner endpointStatus eq =>
    exact (releaseOwner_effect sound eq endpointStatus).fine sound nofun rfl
  | releaseEnd eq ends =>
    exact sound.effects (releaseEnd_effect sound eq ends) rfl
  | deferAcceptedProcess serverProcess eq =>
    obtain ⟨status, sound'⟩ := deferAcceptedProcess_sound sound eq
    exact ⟨status, sound', .keeps rfl rfl (deferAcceptedProcess_keeps eq)⟩
  | driveRefused eq =>
    obtain ⟨⟨_, ok⟩, _⟩ := driveBegin_sound sound eq
    cases ok
  | @driveBegin _ batch directory eq =>
    obtain ⟨_, sound'⟩ := driveBegin_sound sound eq
    have honest : (Call.driving ⟨batch, 0, .ok, .ok⟩).WellFormed := nofun
    refine ⟨nofun, (Effect.begins rfl honest rfl).sound sound', .keeps rfl rfl fun index used => ?_⟩
    rw [driveBegin_rows eq] at used ⊢
    exact ⟨used, rfl⟩
  | driveEnd eq _ => exact (Effect.ends eq rfl rfl).fine sound (driveEnd_status sound eq) rfl
  | closeRefused service owner reason refused =>
    exact sound.effects (closeRefused_effect sound refused) rfl
  | closeBegin service owner reason begins =>
    exact (closeBegin_effect sound begins).fine sound nofun rfl
  | closeDrain endpointStatus eq pending =>
    exact (closeDrain_effect sound eq pending endpointStatus).fine sound nofun rfl
  | closeEnd eq done ends =>
    exact sound.effects (closeEnd_effect sound eq done ends) rfl

end DuetOS.Directory
