import DuetOS.Directory.AcceptEffect

/-!
# Every section keeps the invariant

An Accept that gives its channel back needs a free cell in the queue of an Active row; every other
section keeps the invariant whatever the state.
-/

namespace DuetOS.Directory

open Word DuetOS.Lifecycle Multiset Bag Call

variable {s : State} {calls : Multiset Call}

/-- An Accept whose handle was not published gives its channel back to an Active row whose queue is
full. -/
def Overflows (s : State) : Event → Prop
  | .acceptFinish key none _ => ∃ index, resolveExactLocked s.directory key.service = some index ∧
      (s.directory.rows index).state = .active ∧
      (s.directory.rows index).acceptCount = kServiceDirectoryAcceptCapacity
  | _ => False

def RoomyStep (s : State) (e : Event) (s' : State) : Prop := Step s e s' ∧ ¬Overflows s e

section Members

variable {P : Call → Prop} {before after : Multiset Call}

lemma forall_zero : ∀ call ∈ (0 : Multiset Call), P call :=
  fun call mem => absurd mem (notMem_zero call)

lemma forall_one (holds : P call) : ∀ other ∈ ({call} : Multiset Call), P other :=
  fun _ mem => mem_singleton.mp mem ▸ holds

lemma forall_add (old : ∀ call ∈ before, P call) (new : ∀ call ∈ after, P call) :
    ∀ call ∈ before + after, P call :=
  fun call mem => (mem_add.mp mem).elim (old call) (new call)

end Members

lemma Effect.moves {after} (eq : s.calls = before + rest)
    (rows : RowsEffect s.directory directory' before after rest lost gained 0)
    (wellFormed : ∀ call ∈ after, call.WellFormed)
    (balance : callsHeld after + gained + callsSpent before =
      callsHeld before + lost + callsSpent after) :
    Effect s { s with directory := directory', calls := after + rest } := by
  refine .intro eq rfl rows rfl wellFormed (fun _ => .inl) id ?_ id (zero_add _).symm
  ext receipt
  have balance' := congrArg (count receipt) balance
  simp only [count_add] at balance' ⊢
  omega

lemma Effect.onlyCalls {after} (eq : s.calls = before + rest)
    (idle : ∀ call ∈ before + after, call.service = none)
    (wellFormed : ∀ call ∈ after, call.WellFormed)
    (balance : callsHeld after + callsSpent before = callsHeld before + callsSpent after) :
    Effect s { s with calls := after + rest } := by
  refine Effect.moves eq (.frame rfl idle) wellFormed ?_
  rw [add_zero, add_zero]
  exact balance

/-- A section that has nothing to do with channels, at the end of a call that works on no row. -/
lemma Effect.administers (eq : s.calls = before + rest)
    (idle : ∀ call ∈ before, call.service = none) (balance : callsSpent before = callsHeld before)
    (administers : Administers s.calls s.directory directory') :
    Effect s { s with directory := directory', calls := rest } := by
  have idle' : ∀ call ∈ before + 0, call.service = none := forall_add idle forall_zero
  have effect : ∀ {directory'}, RowsEffect s.directory directory' before 0 rest 0 0 0 →
      Effect s { s with directory := directory', calls := rest } := by
    intro directory' rows
    have moves := Effect.moves eq rows forall_zero
      (by simpa [callsHeld, callsSpent] using balance)
    rwa [zero_add] at moves
  rcases administers with rfl | ⟨index, row', occupied, rfl, change⟩
  · exact effect (.frame rfl idle')
  refine effect (.move occupied rfl (fun call mem => .inl (idle' call mem)) ?_)
  rw [eq, registered_add_idle idle] at change
  rw [zero_add]
  exact change

lemma Effect.administration (administers : Administers s.calls s.directory directory') :
    Effect s { s with directory := directory' } :=
  Effect.administers (zero_add _).symm forall_zero rfl administers

@[simp]
lemma callsHeld_zero : callsHeld 0 = 0 := rfl

@[simp]
lemma callsSpent_zero : callsSpent 0 = 0 := rfl

@[simp]
lemma callsHeld_singleton (call) : callsHeld {call} = call.holds := by
  simp [callsHeld]

@[simp]
lemma callsSpent_singleton (call) : callsSpent {call} = call.spent := by
  simp [callsSpent]

section Swap

variable {key : ServiceDirectoryAcceptedChannelKey} {receipt : ServiceEndpointOwnerReceipt}
  {drive : Option DriveProgress}

lemma RowSound.releaseOwner (sound : RowSound row (.releasing key receipt drive ::ₘ calls))
    (endpointStatus)
    : RowSound row (.released key receipt endpointStatus drive ::ₘ calls) where
  canonical := sound.canonical
  registered := by
    intro call mem
    rcases mem_cons.mp mem with rfl | mem
    · exact sound.registered (.releasing key receipt drive) (mem_cons_self ..)
    · exact sound.registered call (mem_cons_of_mem mem)
  pins := sound.pins
  publishers := by
    rw [sound.publishers, tally_cons, tally_cons]
    rfl
  closers := (closerSound_cons rfl).mpr ((closerSound_cons rfl).mp sound.closers)
  trackers := {
    generation := sound.trackers.generation
    drivers := by
      rw [sound.trackers.drivers, filterMap_cons_some drives _ calls rfl,
        filterMap_cons_some drives _ calls rfl]
    claims := by
      have claims := sound.trackers.claims
      rw [filterMap_cons_none _ _ rfl] at claims ⊢
      exact claims
    claimed := fun mem => sound.trackers.claimed (mem_cons_of_mem
      ((mem_cons.mp mem).resolve_left (by simp))) }

lemma RowSound.closeDrain (sound : RowSound row (.closing progress ::ₘ calls))
    (service : progress'.service = progress.service) (owner : progress'.owner = progress.owner)
    (count : progress'.count = progress.count) : RowSound row (.closing progress' ::ₘ calls) where
  canonical := sound.canonical
  registered := by
    intro call mem
    rcases mem_cons.mp mem with rfl | mem
    · rw [← sound.registered (.closing progress) (mem_cons_self ..)]
      exact congrArg some service
    · exact sound.registered call (mem_cons_of_mem mem)
  pins := sound.pins
  publishers := by
    rw [sound.publishers, tally_cons, tally_cons]
    rfl
  closers := {
    count := by
      rw [sound.closers.count, tally_cons, tally_cons]
      rfl
    closer := by
      intro other mem
      rcases mem_cons.mp mem with eq | mem
      · cases eq
        rw [owner, count]
        exact sound.closers.closer (mem_cons_self ..)
      · exact sound.closers.closer (mem_cons_of_mem mem) }
  trackers := (trackersSound_cons rfl rfl).mpr ((trackersSound_cons rfl rfl).mp sound.trackers)

lemma Change.same (sound : RowSound row calls) : Change row row calls 0 0 0 :=
  ⟨.kept sound rfl rfl rfl, rfl, (add_zero _).ge⟩

end Swap

section Connect

variable {pin : ServiceDirectoryOperationPin} {receipt : ServiceEndpointOwnerReceipt}
  {acceptor : KObject}
  {directory : ServiceDirectory} {status : ServiceDirectoryStatus} {service : ServiceKey}
  {channel : ServiceEndpointChannelKey}

lemma Effect.begins {call} (idle : call.service = none) (wellFormed : call.WellFormed)
    (balance : call.holds = call.spent) : Effect s { s with calls := call ::ₘ s.calls } := by
  rw [← singleton_add]
  refine Effect.onlyCalls (zero_add _).symm (forall_add forall_zero (forall_one idle))
    (forall_one wellFormed) ?_
  simp [balance]

lemma Effect.ends (eq : s.calls = call ::ₘ calls) (idle : call.service = none)
    (balance : call.spent = call.holds) : Effect s { s with calls } := by
  rw [← zero_add calls]
  refine Effect.onlyCalls (eq.trans (singleton_add ..).symm)
    (forall_add (forall_one idle) forall_zero) forall_zero ?_
  simp [balance]

lemma connectCreate_effect (eq : s.calls = .connecting pin ::ₘ calls)
    (valid : serviceEndpointOwnerReceiptIsValid receipt) (fresh : receipt ∉ s.created) :
    Effect s { s with
      calls := .paired pin receipt acceptor ::ₘ calls, created := receipt :: s.created } := by
  refine .intro (eq.trans (singleton_add ..).symm) (singleton_add ..).symm
    (.frame rfl (forall_add (forall_one rfl) (forall_one rfl))) rfl (forall_one valid)
      (fun _ => .inl)
    (fun nodup => List.nodup_cons.mpr ⟨fresh, nodup⟩) ?_ id (zero_add _).symm
  ext other
  simp only [callsHeld_singleton, callsSpent_singleton, holds, spent, ← cons_coe,
    count_add, count_cons, count_singleton, count_zero]
  omega

section

variable (sound : Sound s) (eq : s.calls = .paired pin receipt acceptor ::ₘ calls)

include sound eq

lemma connectRejected_effect
    (enqueue : connectEnqueue s.directory pin receipt acceptor = (status, directory))
    (refused : status ≠ .ok) (aborted) : status ≠ .corruptState ∧ Effect s { s with
      directory, calls := connectRejected receipt acceptor status aborted ::ₘ calls } := by
  have valid : serviceEndpointOwnerReceiptIsValid receipt :=
    sound.calls (.paired pin receipt acceptor) (eq ▸ mem_cons_self ..)
  obtain ⟨fine, ⟨_, rfl⟩ | ⟨ok, _⟩⟩ := connectEnqueue_spec sound.directory valid enqueue
  · refine ⟨fine, ?_⟩
    rw [← singleton_add]
    refine Effect.onlyCalls (eq.trans (singleton_add ..).symm)
      (forall_add (forall_one rfl) (forall_one rfl))
      (forall_one ?_) ?_
    · refine ⟨decide_eq_true ⟨valid, Bool.false_ne_true⟩, ?_⟩
      show (if aborted then status else _) ≠ _
      split
      · exact fine
      · decide
    · simp [connectRejected, holds, spent]
  · exact absurd ok refused

lemma connectEnqueue_effect
    (enqueue : connectEnqueue s.directory pin receipt acceptor = (.ok, directory)) :
    Effect s { s with directory, calls := .queued pin.service receipt.channel ::ₘ calls } := by
  have valid : serviceEndpointOwnerReceiptIsValid receipt :=
    sound.calls (.paired pin receipt acceptor) (eq ▸ mem_cons_self ..)
  obtain ⟨_, ⟨refused, _⟩ | ⟨_, index, row', occupied, key, rfl, change⟩⟩ :=
    connectEnqueue_spec sound.directory valid enqueue
  · exact absurd rfl refused
  · have works : (queued pin.service receipt.channel).service =
        some (s.directory.rows index).key := congrArg some key.symm
    rw [eq, registered_cons_none rfl, ← registered_cons works, ← singleton_add] at change
    refine Effect.moves (eq.trans (singleton_add ..).symm)
      (.move occupied rfl (forall_add (forall_one (.inl rfl)) (forall_one (.inr works))) change)
        (forall_one trivial) ?_
    simp [holds, spent]

end

lemma leavesQueue_effect (eq : s.calls = .queued service channel ::ₘ calls)
    (fine : result.status ≠ .corruptState)
    (leaves : LeavesQueue calls service removed s.directory directory) :
    Effect s { s with
      directory, calls := connectCleanup removed result handleStatus + calls } := by
  obtain ⟨able, index, row', occupied, rfl, rfl, change⟩ := leaves
  have idle : ∀ call ∈ connectCleanup removed result handleStatus, call.service = none := by
    cases removed with
    | none => exact forall_zero
    | some queued => exact forall_one rfl
  rw [← registered_add_idle idle] at change
  refine Effect.moves (eq.trans (singleton_add ..).symm)
    (.move occupied rfl (forall_add (forall_one (.inr rfl)) fun call mem => .inl (idle call mem))
      change) ?_ ?_
  · cases removed with
    | none => exact forall_zero
    | some queued => exact forall_one ⟨able queued rfl, fine⟩
  · cases removed with
    | none => rfl
    | some queued => simp [connectCleanup, removedReceipts, holds, spent]

end Connect

section Drain

variable {owned : ServiceDirectoryOwnedChannel} {endpointStatus : ServiceEndpointStatus}

/-- A channel that is drained is released, or its receipt stays in it. -/
lemma drain_spec (able : drainable owned) (s : State) :
    let drained := serviceDirectoryDrainOwnedChannel owned endpointStatus
    drained.1 = endpointStatus ∧
      (endpointStatus = .ok ∧
        s.drain owned endpointStatus = { s with released := owned.owner :: s.released } ∨
        endpointStatus ≠ .ok ∧ s.drain owned endpointStatus = s ∧ drained.2.owner = owned.owner ∧
          drainable drained.2) := by
  intro drained
  obtain ⟨valid, idle⟩ := of_decide_eq_true able
  have used : ¬(serviceDirectoryOwnedChannelIsEmpty owned ∨
      ¬serviceEndpointOwnerReceiptIsValid owned.owner) := by
    rw [(canonical_of_drainable able).2, valid]
    decide
  simp only [drained, serviceDirectoryDrainOwnedChannel, State.drain, State.releaseOwner]
  rw [if_neg used, if_neg idle, if_pos able]
  by_cases ok : endpointStatus = .ok
  · rw [if_pos ok, if_pos ok]
    exact ⟨ok.symm, .inl ⟨ok, rfl⟩⟩
  · rw [if_neg ok, if_neg ok]
    exact ⟨rfl, .inr ⟨ok, rfl, rfl, decide_eq_true ⟨valid, Bool.false_ne_true⟩⟩⟩

lemma drain_effect (able : drainable owned) (eq : s.calls = before + rest)
    (idle : ∀ call ∈ before, call.service = none) (spent : callsSpent before = 0)
    (kept : ∀ other ∈ rollbacks, other ∈ s.rollbacks)
    (balance : callsHeld before + rollbackReceipts s.rollbacks =
      {owned.owner} + rollbackReceipts rollbacks) : Effect s ({ s with
      calls := rest
      rollbacks := returnedRollback (serviceDirectoryDrainOwnedChannel owned endpointStatus) +
        rollbacks }.drain owned endpointStatus) := by
  have idle' : ∀ call ∈ before + 0, call.service = none := forall_add idle forall_zero
  obtain ⟨status, drained⟩ := @drain_spec owned endpointStatus able { s with
    calls := rest
    rollbacks := returnedRollback (serviceDirectoryDrainOwnedChannel owned
      endpointStatus) + rollbacks }
  rcases drained with ⟨ok, released⟩ | ⟨failed, same, owner, able'⟩
  · have none : returnedRollback (serviceDirectoryDrainOwnedChannel owned endpointStatus) = 0 :=
      if_pos (status.trans ok)
    rw [released, none, zero_add]
    refine .intro eq (zero_add _).symm (.frame rfl idle') rfl
      forall_zero (fun other mem => .inl (kept other mem)) id
      ?_ id (zero_add _).symm
    rw [spent, balance]
    ext receipt
    simp only [callsHeld_zero, callsSpent_zero, ← cons_coe, count_add, count_cons, count_singleton,
      count_zero]
    omega
  · have returned : returnedRollback (serviceDirectoryDrainOwnedChannel owned endpointStatus) =
        {(serviceDirectoryDrainOwnedChannel owned endpointStatus).2} :=
      if_neg (by rw [status]; exact failed)
    rw [same, returned]
    refine .intro eq (zero_add _).symm (.frame rfl idle') rfl
      forall_zero (fun other mem => ?_) id
      ?_ id (zero_add _).symm
    · rcases mem_add.mp mem with new | old
      · rw [mem_singleton.mp new]
        exact .inr able'
      · exact .inl (kept other old)
    · rw [spent, balance, rollbackReceipts, rollbackReceipts, map_add, map_singleton, owner]
      ext receipt
      simp only [callsHeld_zero, callsSpent_zero, count_add, count_zero]
      omega

lemma connectCleanup_effect (sound : Sound s)
    (eq : s.calls = .cleaning owned result handleStatus ::ₘ calls) :
    (connectCleaned (serviceDirectoryDrainOwnedChannel owned endpointStatus) result
      handleStatus).status ≠
        .corruptState ∧ Effect s ({ s with
        calls
        rollbacks := returnedRollback (serviceDirectoryDrainOwnedChannel owned endpointStatus) +
          s.rollbacks }.drain owned endpointStatus) := by
  have wellFormed : drainable owned ∧ result.status ≠ .corruptState :=
    sound.calls (.cleaning owned result handleStatus) (eq ▸ mem_cons_self ..)
  constructor
  · unfold connectCleaned
    split
    · exact wellFormed.2
    · exact nofun
  · refine drain_effect wellFormed.1 (eq.trans (singleton_add ..).symm) (forall_one rfl) ?_
      (fun _ => id) ?_
    · exact callsSpent_singleton _
    · rfl

lemma rollbackDrain_effect (sound : Sound s) (eq : s.rollbacks = owned ::ₘ rollbacks) :
    Effect s ({ s with
      rollbacks := returnedRollback (serviceDirectoryDrainOwnedChannel owned endpointStatus) +
        rollbacks }.drain owned endpointStatus) := by
  refine drain_effect (sound.rollbacks owned (eq ▸ mem_cons_self ..)) (zero_add _).symm
    forall_zero rfl
    (fun other mem => eq ▸ mem_cons_of_mem mem) ?_
  rw [eq, callsHeld_zero, zero_add, rollbackReceipts, map_cons, ← singleton_add]
  rfl

end Drain

section Accept

variable {service : ServiceKey} {owner : ServiceInstanceToken} {process : ProcessKey}
  {credential : ServiceEndpointCredentialSnapshot} {key : ServiceDirectoryAcceptedChannelKey}
  {acceptor : Option KObject} {directory : ServiceDirectory}

section

variable (sound : Sound s) (eq : s.calls = .accepting service owner process credential ::ₘ calls)

include sound eq

lemma acceptUnclaimed_effect
    (claim : acceptClaim s.directory service owner process credential =
      (.error status, directory)) :
    status ≠ .corruptState ∧ Effect s { s with directory, calls } := by
  obtain ⟨_, refused, fine, administers⟩ | ⟨_, _, _, _, claimed, _⟩ :=
    acceptClaim_spec sound.directory claim
  · cases refused
    exact ⟨fine, Effect.administers (eq.trans (singleton_add ..).symm) (forall_one rfl) rfl
      administers⟩
  · cases claimed

lemma acceptClaim_effect
    (claim : acceptClaim s.directory service owner process credential =
      (.ok (key, acceptor), directory)) :
    Effect s { s with directory, calls := .claimed key process acceptor ::ₘ calls } := by
  obtain ⟨_, refused, _⟩ | ⟨_, _, index, row', claimed, present, occupied, same, rfl, change⟩ :=
    acceptClaim_spec sound.directory claim
  · cases refused
  · cases claimed
    have works : (claimed key process acceptor).service = some (s.directory.rows index).key :=
      congrArg some same
    rw [eq, registered_cons_none rfl, ← registered_cons works, ← singleton_add] at change
    refine Effect.moves (eq.trans (singleton_add ..).symm)
      (.move occupied rfl (forall_add (forall_one (.inl rfl)) (forall_one (.inr works))) change)
        (forall_one present) ?_
    simp [holds, spent]

end

lemma acceptFinish_effect (sound : Sound s) (eq : s.calls = .claimed key process acceptor ::ₘ calls)
    (given : ∀ handle, published = some handle → handle ≠ kHandleInvalid)
    (fresh : ∀ handle, published = some handle → (process, handle) ∉ s.handles)
    (roomy : published = none → ∀ index, resolveExactLocked s.directory key.service = some index →
      (s.directory.rows index).state = .active →
      (s.directory.rows index).acceptCount ≠ kServiceDirectoryAcceptCapacity)
    (committed : acceptCommit s.directory key published acceptor = (commit, directory)) :
    commit.corrupt = false ∧ Effect s { s with
      directory
      calls
      handles := published.elim s.handles fun handle => (process, handle) :: s.handles } := by
  have present : acceptor ≠ none :=
    sound.calls (.claimed key process acceptor) (eq ▸ mem_cons_self ..)
  have directory_sound := sound.directory
  rw [eq] at directory_sound
  have room : published = none → ∀ index, resolveExactLocked s.directory key.service = some index →
      (s.directory.rows index).state = .active →
      (s.directory.rows index).acceptCount < kServiceDirectoryAcceptCapacity := by
    intro none index resolved active
    have count := (sound.directory.row (resolveExact_some resolved).1).canonical.queue.count
    exact Nat.lt_of_le_of_ne count (roomy none index resolved active)
  obtain ⟨fine, index, row', occupied, same, rfl, change⟩ :=
    acceptCommit_spec directory_sound present given room committed
  rw [← same, ← zero_add calls] at change
  refine ⟨fine, .intro (eq.trans (singleton_add ..).symm) (zero_add _).symm
    (.move occupied rfl (forall_add (forall_one (.inr (congrArg some same.symm))) forall_zero)
      change) rfl
    forall_zero (fun _ => .inl) id ?_ ?_ ?_⟩
  · simp [holds, spent]
  · cases published with
    | none => exact id
    | some handle => exact fun nodup => List.nodup_cons.mpr ⟨fresh handle rfl, nodup⟩
  · cases published with
    | none => exact (zero_add _).symm
    | some handle => exact (cons_coe ..).symm.trans (singleton_add ..).symm

end Accept

section Release

variable {key : ServiceDirectoryAcceptedChannelKey} {drive : Option DriveProgress}
  {caller : Multiset Call}
  {receipt : ServiceEndpointOwnerReceipt} {endpointStatus : ServiceEndpointStatus}
  {result : ServiceDirectoryReleaseAcceptedResult} {directory : ServiceDirectory}

lemma Releases.idle (releases : Releases key drive caller) :
    (∀ call ∈ caller, call.service = none) ∧ callsHeld caller = 0 ∧ callsSpent caller = 0 := by
  cases releases with
  | client => exact ⟨forall_zero, rfl, rfl⟩
  | handle | drive =>
    exact ⟨forall_one rfl, callsHeld_singleton _, callsSpent_singleton _⟩

lemma Releases.honest (releases : Releases key drive caller) (sound : Sound s)
    (eq : s.calls = caller + calls) :
    ∀ progress, drive = some progress → progress.failureStatus ≠ .corruptState := by
  intro progress some_eq
  cases releases with
  | client | handle => cases some_eq
  | @drive rest driving batch =>
    cases some_eq
    refine sound.calls (.driving driving) ?_
    rw [eq]
    exact mem_add.mpr (.inl (mem_singleton_self _))

lemma resume_idle (drive result) :
    (∀ call ∈ resume drive result, call.service = none) ∧ callsHeld (resume drive result) = 0 ∧
      callsSpent (resume drive result) = 0 := by
  cases drive with
  | none => exact ⟨forall_zero, rfl, rfl⟩
  | some progress =>
    exact ⟨forall_one rfl, callsHeld_singleton _, callsSpent_singleton _⟩

lemma resume_wellFormed
    (honest : ∀ progress, drive = some progress → progress.failureStatus ≠ .corruptState)
    (fine : result.status ≠ .corruptState) : ∀ call ∈ resume drive result, call.WellFormed := by
  cases drive with
  | none => exact forall_zero
  | some progress =>
    refine forall_one ?_
    unfold DriveProgress.observe
    split
    all_goals first | exact honest progress rfl | exact fine

section

variable (sound : Sound s) (releases : Releases key drive caller) (eq : s.calls = caller + calls)

include sound releases eq

lemma releaseRefused_effect (refused : releaseBegin s.directory key = (.error result, directory)) :
    result.status ≠ .corruptState ∧
      Effect s { s with directory, calls := resume drive result + calls } := by
  obtain ⟨_, error, fine, rfl⟩ | ⟨_, _, _, ok, _⟩ :=
    @releaseBegin_spec _ _ _ _ _ drive sound.directory _ refused
  · cases error
    obtain ⟨idle, held, spent⟩ := releases.idle
    obtain ⟨idle', held', spent'⟩ := resume_idle drive result
    refine ⟨fine, Effect.onlyCalls eq (forall_add idle idle')
      (resume_wellFormed (releases.honest sound eq) fine) ?_⟩
    rw [held, spent, held', spent']
  · cases ok

lemma releaseBegin_effect (begins : releaseBegin s.directory key = (.ok receipt, directory)) :
    Effect s { s with directory, calls := .releasing key receipt drive ::ₘ calls } := by
  obtain ⟨_, error, _⟩ | ⟨_, index, row', ok, occupied, same, rfl, change⟩ :=
    @releaseBegin_spec _ _ _ _ _ drive sound.directory _ begins
  · cases error
  · cases ok
    obtain ⟨idle, held, spent⟩ := releases.idle
    have works : (releasing key receipt drive).service = some (s.directory.rows index).key :=
      congrArg some same.symm
    rw [eq, registered_add_idle idle, ← registered_cons works, ← singleton_add] at change
    refine Effect.moves eq (.move occupied rfl
      (forall_add (fun call mem => .inl (idle call mem)) (forall_one (.inr works))) change)
      (forall_one (releases.honest sound eq)) ?_
    rw [held, spent]
    simp [Call.holds, Call.spent]

end

lemma releaseOwner_effect (sound : Sound s) (eq : s.calls = .releasing key receipt drive ::ₘ calls)
    (endpointStatus) :
    Effect s ({ s with calls := .released key receipt endpointStatus drive ::ₘ calls }.releaseOwner
      receipt endpointStatus) := by
  have directory_sound := sound.directory
  rw [eq] at directory_sound
  obtain ⟨index, _, occupied, same, row_sound⟩ := directory_sound.resolves_call rfl
  have works : (released key receipt endpointStatus drive).service =
      some (s.directory.rows index).key := congrArg some same.symm
  have change := Change.same (row_sound.releaseOwner endpointStatus)
  rw [← same, ← registered_cons works, ← singleton_add] at change
  have rows : RowsEffect s.directory s.directory {.releasing key receipt drive}
      {.released key receipt endpointStatus drive} calls 0 0 0 := by
    refine .move occupied ?_ (forall_add (forall_one (.inr works)) (forall_one (.inr works))) change
    rw [ServiceDirectory.setRow, Function.update_eq_self]
  have wellFormed : ∀ call ∈ ({.released key receipt endpointStatus drive} : Multiset Call),
    call.WellFormed :=
    forall_one (sound.calls (.releasing key receipt drive) (eq ▸ mem_cons_self ..))
  unfold State.releaseOwner
  split
  next ok =>
    refine .intro (eq.trans (singleton_add ..).symm) (singleton_add ..).symm rows rfl
      wellFormed (fun _ => .inl) id ?_ id (zero_add _).symm
    rw [ok]
    ext other
    simp only [callsHeld_singleton, callsSpent_singleton, holds, spent, ← cons_coe,
      count_add, count_cons, count_singleton, count_zero]
    omega
  next failed =>
    have unspent : callsSpent {released key receipt endpointStatus drive} = 0 := by
      cases endpointStatus <;> first | rfl | exact absurd rfl failed
    refine .intro (eq.trans (singleton_add ..).symm) (singleton_add ..).symm rows rfl
      wellFormed (fun _ => .inl) id ?_ id (zero_add _).symm
    rw [unspent]
    simp [holds, spent]

lemma releaseEnd_effect (sound : Sound s)
    (eq : s.calls = .released key receipt endpointStatus drive ::ₘ calls)
    (ends : releaseEnd s.directory key endpointStatus = (result, directory)) :
    result.status ≠ .corruptState ∧
      Effect s { s with directory, calls := resume drive result + calls } := by
  have directory_sound := sound.directory
  rw [eq] at directory_sound
  obtain ⟨fine, index, row', occupied, same, rfl, change⟩ := releaseEnd_spec directory_sound ends
  obtain ⟨idle, held, spent⟩ := resume_idle drive result
  have honest := sound.calls (.released key receipt endpointStatus drive) (eq ▸ mem_cons_self ..)
  rw [← same, ← registered_add_idle idle] at change
  refine ⟨fine, Effect.moves (eq.trans (singleton_add ..).symm)
    (.move occupied rfl
      (forall_add (forall_one (.inr (congrArg some same.symm))) fun call mem =>
      .inl (idle call mem))
      change) (resume_wellFormed honest fine) ?_⟩
  rw [held, spent, callsHeld_singleton, callsSpent_singleton]
  simp [holds]

end Release

section Close

variable {service : ServiceKey} {owner : ServiceInstanceToken}
  {reason : ServiceDirectoryCloseReason}
  {directory : ServiceDirectory} {progress : CloseProgress}

lemma closeRefused_effect (sound : Sound s)
    (refused : closeBegin s.directory service owner reason = (.error result, directory)) :
    result.status ≠ .corruptState ∧ Effect s { s with directory } := by
  obtain ⟨_, error, fine, administers⟩ | ⟨_, _, _, ok, _⟩ := closeBegin_spec sound.directory refused
  · cases error
    exact ⟨fine, Effect.administration administers⟩
  · cases ok

lemma closeBegin_effect (sound : Sound s)
    (begins : closeBegin s.directory service owner reason = (.ok batch, directory)) :
    Effect s { s with
      directory
      calls := .closing ⟨service, owner, batch.length, batch, [], .ok, 0⟩ ::ₘ s.calls } := by
  obtain ⟨_, error, _⟩ | ⟨_, index, row', ok, able, occupied, same, rfl, change⟩ :=
    closeBegin_spec sound.directory begins
  · cases error
  · cases ok
    have works : (closing ⟨service, owner, batch.length, batch, [], .ok, 0⟩).service =
        some (s.directory.rows index).key := congrArg some same.symm
    rw [← registered_cons works, ← singleton_add] at change
    refine Effect.moves (zero_add _).symm
      (.move occupied rfl (forall_add forall_zero (forall_one (.inr works))) change)
      (forall_one ⟨able, nofun, Nat.le_refl _⟩) ?_
    simp [holds, spent, receiptsOf]

lemma closeDrain_effect (sound : Sound s) (eq : s.calls = .closing progress ::ₘ calls)
    (pending : progress.pending = owned :: rest) (endpointStatus) : Effect s ({ s with
      calls := .closing (progress.observe rest
        (serviceDirectoryDrainOwnedChannel owned endpointStatus)) ::ₘ calls }.drain owned
          endpointStatus) := by
  obtain ⟨able, failed, bound⟩ : (closing progress).WellFormed :=
    sound.calls (.closing progress) (eq ▸ mem_cons_self ..)
  rw [pending] at able bound
  have ableRest : ∀ channel ∈ rest, drainable channel :=
    fun channel mem => able channel (List.mem_cons_of_mem _ mem)
  have receipts : receiptsOf progress.pending = {owned.owner} + receiptsOf rest := by
    rw [pending]
    exact (receiptsOf_append [owned] rest)
  rw [List.length_cons] at bound
  have directory_sound := sound.directory
  rw [eq] at directory_sound
  obtain ⟨index, _, occupied, same, row_sound⟩ := directory_sound.resolves_call rfl
  -- the row sees the same close before and after
  have rows : ∀ progress', progress'.service = progress.service → progress'.owner = progress.owner →
      progress'.count = progress.count →
      RowsEffect s.directory s.directory {.closing progress} {.closing progress'} calls 0 0 0 := by
    intro progress' service owner count
    have works : (closing progress').service = some (s.directory.rows index).key :=
      congrArg some (service.trans same.symm)
    have change := Change.same (row_sound.closeDrain service owner count)
    rw [← same, ← registered_cons works, ← singleton_add] at change
    refine .move occupied ?_
      (forall_add (forall_one (.inr (congrArg some same.symm))) (forall_one (.inr works))) change
    rw [ServiceDirectory.setRow, Function.update_eq_self]
  obtain ⟨status, drained⟩ :=
    @drain_spec owned endpointStatus (able owned (List.mem_cons_self ..)) { s with
    calls := .closing (progress.observe rest
      (serviceDirectoryDrainOwnedChannel owned endpointStatus)) ::ₘ calls }
  rcases drained with ⟨ok, released⟩ | ⟨notOk, unchanged, ownerKept, able'⟩
  · have observed : progress.observe rest (serviceDirectoryDrainOwnedChannel owned endpointStatus) =
        { progress with pending := rest, drained := progress.drained + 1 } :=
          if_pos (status.trans ok)
    rw [released, observed]
    refine .intro (eq.trans (singleton_add ..).symm) (singleton_add ..).symm
      (rows _ rfl rfl rfl) rfl (forall_one ?_) (fun _ => .inl) id ?_ id (zero_add _).symm
    · exact ⟨ableRest, failed, show rest.length + progress.failed.length ≤ progress.count by omega⟩
    · ext other
      simp only [callsHeld_singleton, callsSpent_singleton, holds, spent, receipts,
        ← cons_coe, count_add, count_cons, count_singleton,
        count_zero]
      omega
  · have observed : progress.observe rest (serviceDirectoryDrainOwnedChannel owned endpointStatus) =
      { progress with
          pending := rest
          failed := progress.failed ++ [(serviceDirectoryDrainOwnedChannel owned endpointStatus).2]
          firstFailure := if progress.firstFailure = .ok then
            (serviceDirectoryDrainOwnedChannel owned
              endpointStatus).1 else progress.firstFailure } :=
      if_neg (by rw [status]; exact notOk)
    rw [unchanged, observed]
    refine .intro (eq.trans (singleton_add ..).symm) (singleton_add ..).symm
      (rows _ rfl rfl rfl) rfl (forall_one ?_) (fun _ => .inl) id ?_ id (zero_add _).symm
    · refine ⟨ableRest, fun channel mem => ?_, ?_⟩
      · rcases List.mem_append.mp mem with old | new
        · exact failed channel old
        · rw [List.mem_singleton.mp new]
          exact able'
      · rw [List.length_append, List.length_singleton]
        show rest.length + (progress.failed.length + 1) ≤ progress.count
        omega
    · have moved : receiptsOf [(serviceDirectoryDrainOwnedChannel owned endpointStatus).2] =
        {owned.owner} := by
        rw [← ownerKept]
        rfl
      ext other
      simp only [callsHeld_singleton, callsSpent_singleton, holds, spent, receipts,
        receiptsOf_append, moved, count_add, count_zero]
      omega

lemma closeEnd_effect (sound : Sound s) (eq : s.calls = .closing progress ::ₘ calls)
    (done : progress.pending = [])
    (ends : closeEnd s.directory progress.service progress.owner progress.count progress.failed
      progress.firstFailure progress.drained = (result, directory)) :
    result.status ≠ .corruptState ∧ Effect s { s with directory, calls } := by
  obtain ⟨_, failed, bound⟩ : (closing progress).WellFormed :=
    sound.calls (.closing progress) (eq ▸ mem_cons_self ..)
  have directory_sound := sound.directory
  rw [eq] at directory_sound
  obtain ⟨fine, index, row', occupied, same, rfl, change⟩ :=
    closeEnd_spec directory_sound failed (by omega) ends
  rw [← same, ← zero_add calls] at change
  rw [← zero_add calls]
  refine ⟨fine, Effect.moves (eq.trans (singleton_add ..).symm) (.move occupied rfl
    (forall_add (forall_one (.inr (congrArg some same.symm))) forall_zero) change) forall_zero ?_⟩
  simp [holds, spent, done, receiptsOf]

end Close

end DuetOS.Directory
