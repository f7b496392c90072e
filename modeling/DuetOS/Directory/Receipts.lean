import DuetOS.Directory.Reachable

/-!
# Receipts and registration keys

Along every run without an overflow the directory stays canonical, a key resolves from its
reservation to the recycling of its row and never again, and every receipt is in one place until the
endpoint owner takes it back.
-/

namespace DuetOS.Directory

open Word DuetOS.Lifecycle List Prod
open scoped BigOperators

variable {s s' : State} {e : Event} {calls : Multiset Call} {directory : ServiceDirectory}
  {last : LastServiceGenerations}

lemma callsSpent_le_drives (calls) : callsSpent calls ≤ (calls.filterMap Call.drives).map snd := by
  induction calls using Multiset.induction with
  | empty => exact le_refl _
  | cons call calls ih =>
    rw [← Multiset.singleton_add, callsSpent_add, callsSpent_singleton, Multiset.filterMap_add,
      Multiset.map_add]
    refine add_le_add ?_ ih
    cases call with
    | released key receipt endpointStatus drive =>
      cases endpointStatus with
      | ok => exact le_refl _
      | _ => exact Multiset.zero_le _
    | _ => exact Multiset.zero_le _

/-- The tracker of a release holds its receipt. -/
lemma driven_le (sound : AcceptedSound row) : row.driven.map snd ≤ row.acceptedReceipts := by
  have receipts : row.driven.map snd =
      Slots.gather (fun accepted => accepted.driven.map snd) row.acceptedChannels := by
    rw [ServiceDirectoryRow.driven, Slots.gather_eq_filterMap, Slots.gather_eq_filterMap,
      Multiset.map_coe, map_filterMap]
  rw [receipts]
  refine Finset.sum_le_sum fun index _ => ?_
  dsimp only
  cases occupied : (row.acceptedChannels index).occupied with
  | false =>
    rw [(idle_of_not_occupied occupied (sound.tracker index)).2.1]
    exact Multiset.zero_le _
  | true =>
    simp only [ServiceDirectoryAcceptedChannel.driven,
      ServiceDirectoryAcceptedChannel.holds, occupied]
    cases (row.acceptedChannels index).releaseDriverActive with
    | false => exact Multiset.zero_le _
    | true => exact le_refl _

lemma RowSound.spent_le (sound : RowSound row calls) : callsSpent calls ≤ row.held := by
  calc callsSpent calls ≤ (calls.filterMap Call.drives).map snd := callsSpent_le_drives calls
    _ = row.driven.map snd := by rw [← sound.trackers.drivers]; rfl
    _ ≤ row.acceptedReceipts := driven_le sound.canonical.accepted
    _ ≤ row.held := (Multiset.le_add_left ..).trans (Multiset.le_add_right ..)

def workers (directory : ServiceDirectory) (calls : Multiset Call)
    (index : Fin kServiceDirectoryCapacity) : Multiset Call :=
  if (directory.rows index).occupied then registered (directory.rows index).key calls else 0

lemma callsSpent_le_workers (live : ∀ {call key}, call ∈ calls → call.service = some key →
      ∃ index, (directory.rows index).occupied ∧ (directory.rows index).key = key) :
    callsSpent calls ≤ ∑ index, callsSpent (workers directory calls index) := by
  induction calls using Multiset.induction with
  | empty => exact Multiset.zero_le _
  | cons call calls ih =>
    have ih := ih fun mem => live (Multiset.mem_cons_of_mem mem)
    rw [← Multiset.singleton_add, callsSpent_add, callsSpent_singleton]
    have split : ∀ index, callsSpent (workers directory ({call} + calls) index) =
        callsSpent (workers directory {call} index) + callsSpent
          (workers directory calls index) := by
      intro index
      unfold workers
      split
      · rw [registered_add, callsSpent_add]
      · rfl
    simp only [split, Finset.sum_add_distrib]
    refine add_le_add ?_ ih
    cases works : call.service with
    | none =>
      have none : call.spent = 0 := by
        cases call with
        | released => cases works
        | _ => rfl
      rw [none]
      exact Multiset.zero_le _
    | some key =>
      obtain ⟨index, occupied, rfl⟩ := live (Multiset.mem_cons_self ..) works
      have here : call.spent = callsSpent (workers directory {call} index) := by
        rw [workers, if_pos occupied, registered, Multiset.filter_singleton, if_pos works,
          callsSpent_singleton]
      rw [here]
      exact Slots.part_le_sum (fun index => callsSpent (workers directory {call} index)) index

lemma DirectorySound.spent_le (sound : DirectorySound directory last calls) :
    callsSpent calls ≤ rowsHeld directory := by
  refine (callsSpent_le_workers sound.live).trans (le_rowsHeld fun index => ?_)
  unfold workers
  split
  next occupied => exact (sound.row occupied).spent_le
  · exact Multiset.zero_le _

/-- A call that knows its receipt was released. -/
def SpentReleased (s : State) : Prop :=
  ∀ {key receipt drive}, .released key receipt .ok drive ∈ s.calls → receipt ∈ s.released

lemma releaseOwner_released (s : State) (receipt endpointStatus)
    : (s.releaseOwner receipt endpointStatus).calls = s.calls ∧
      s.released ⊆ (s.releaseOwner receipt endpointStatus).released := by
  unfold State.releaseOwner
  split
  · exact ⟨rfl, subset_cons_self ..⟩
  · exact ⟨rfl, List.Subset.refl _⟩

lemma drain_released (s : State) (owned endpointStatus) :
    (s.drain owned endpointStatus).calls = s.calls ∧ s.released ⊆
    (s.drain owned endpointStatus).released := by
  unfold State.drain
  split
  · exact releaseOwner_released ..
  · exact ⟨rfl, List.Subset.refl _⟩

lemma SpentReleased.swap (spent : SpentReleased s) {before after rest}
    (eq : s.calls = before + rest)
    (other : ∀ {key receipt drive}, .released key receipt .ok drive ∉ after) {key receipt drive}
    (mem : .released key receipt .ok drive ∈ after + rest) : receipt ∈ s.released := by
  refine @spent key receipt drive ?_
  rw [eq]
  exact Multiset.mem_add.mpr (.inr ((Multiset.mem_add.mp mem).resolve_left other))

lemma connectCleanup_other {removed} {result : ServiceDirectoryConnectResult}
    {handleStatus : ErrorCode}
    {corrupt : Bool} {key : ServiceDirectoryAcceptedChannelKey}
    {receipt : ServiceEndpointOwnerReceipt}
    {drive : Option DriveProgress} :
    .released key receipt .ok drive ∉
      (if corrupt then 0 else connectCleanup removed result handleStatus) := by
  cases corrupt <;> cases removed <;> simp [connectCleanup]

lemma resume_other {drive' result key receipt drive} :
    .released key receipt .ok drive ∉ resume drive' result := by
  cases drive' <;> simp [resume]

lemma Step.spentReleased (step : Step s e s') (spent : SpentReleased s) : SpentReleased s' := by
  intro key receipt drive mem
  have begins : ∀ {call}, .released key receipt .ok drive ∈ call ::ₘ s.calls →
      .released key receipt .ok drive ≠ call → receipt ∈ s.released :=
    fun mem ne => spent ((Multiset.mem_cons.mp mem).resolve_left ne)
  have ends : ∀ {call calls}, s.calls = call ::ₘ calls → .released key receipt .ok drive ∈ calls →
      receipt ∈ s.released := by
    intro call calls eq mem
    refine @spent key receipt drive ?_
    rw [eq]
    exact Multiset.mem_cons_of_mem mem
  have swaps : ∀ {call call' calls}, s.calls = call ::ₘ calls →
    .released key receipt .ok drive ∈ call' ::ₘ calls →
      .released key receipt .ok drive ≠ call' → receipt ∈ s.released :=
    fun eq mem ne => ends eq ((Multiset.mem_cons.mp mem).resolve_left ne)
  have drains : ∀ {s₁ : State} {owned endpointStatus}, s₁.released = s.released →
      (.released key receipt .ok drive ∈ s₁.calls → receipt ∈ s.released) →
      .released key receipt .ok drive ∈ (s₁.drain owned endpointStatus).calls →
      receipt ∈ (s₁.drain owned endpointStatus).released := by
    intro s₁ owned endpointStatus same old mem
    obtain ⟨calls, released⟩ := drain_released s₁ owned endpointStatus
    rw [calls] at mem
    refine released ?_
    rw [same]
    exact old mem
  cases step with
  | connectCheck | acceptCheck | handleResolved | driveBegin | closeBegin => exact begins mem nofun
  | handleReserveFailed _ eq | endpointCreateFailed _ _ eq | acceptReserveFailed _ eq
  | acceptUnclaimed _ eq | acceptUnpublished _ _ eq | acceptPublished _ _ eq | driveEnd eq
  | closeEnd eq => exact ends eq mem
  | connectCreate _ _ eq | connectRejected _ eq | connectEnqueue eq | acceptClaim eq =>
    exact swaps eq mem nofun
  | connectUnpublish _ _ eq | connectCommit _ _ _ eq =>
    exact spent.swap (eq.trans (Multiset.singleton_add ..).symm) connectCleanup_other mem
  | connectCleanup _ eq => exact drains rfl (ends eq) mem
  | rollbackDrain _ eq => exact drains rfl spent mem
  | releaseRefused _ eq => exact spent.swap eq resume_other mem
  | releaseBegin _ eq =>
    rw [← Multiset.singleton_add] at mem
    exact spent.swap eq (by simp) mem
  | releaseOwner endpointStatus eq =>
    unfold State.releaseOwner at mem ⊢
    split at mem
    next ok =>
      rw [if_pos ok]
      rcases Multiset.mem_cons.mp mem with same | mem
      · cases same
        exact mem_cons_self ..
      · exact mem_cons_of_mem _ (ends eq mem)
    next failed =>
      rw [if_neg failed]
      exact swaps eq mem fun same => failed (by cases same; rfl)
  | releaseEnd eq _ => exact spent.swap (eq.trans (Multiset.singleton_add ..).symm) resume_other mem
  | closeDrain _ eq _ => exact drains rfl (fun mem => swaps eq mem nofun) mem
  | _ => exact spent mem

section Keys

variable {key : ServiceKey} {index : Fin kServiceDirectoryCapacity}

lemma DirectorySound.resolves_iff (sound : DirectorySound directory last calls) :
    resolveExactLocked directory key = some index ↔
      (directory.rows index).occupied ∧ (directory.rows index).key = key := by
  constructor
  · exact resolveExact_some
  · rintro ⟨occupied, rfl⟩
    exact sound.resolves occupied

lemma DirectorySound.unresolved (sound : DirectorySound directory last calls) {slot}
    (later : last slot < key.generation) (at_slot : key.slot = slot) :
    resolveExactLocked directory key = none := by
  rw [Option.eq_none_iff_forall_ne_some]
  intro index resolved
  obtain ⟨occupied, rfl⟩ := resolveExact_some resolved
  obtain rfl : index = slot := Fin.ext ((sound.slot occupied).symm.trans at_slot)
  exact absurd (sound.generation occupied) (Nat.not_le.mpr later)

lemma Fine.resolved (fine : Fine s e s') (sound : Sound s)
    (resolves : resolveExactLocked s'.directory key = some index) :
    resolveExactLocked s.directory key = some index ∨ e.reserved = some key := by
  obtain ⟨used, rfl⟩ := resolveExact_some resolves
  cases fine.registers with
  | keeps _ _ keeps =>
    obtain ⟨occupied, same⟩ := keeps index used
    exact .inl (sound.directory.resolves_iff.mpr ⟨occupied, same.symm⟩)
  | @reserves slot reserved _ _ _ new keeps =>
    rcases eq_or_ne index slot with rfl | ne
    · exact .inr (reserved.trans (congrArg some new.symm))
    · obtain ⟨occupied, same⟩ := keeps index ne used
      exact .inl (sound.directory.resolves_iff.mpr ⟨occupied, same.symm⟩)

lemma Fine.reserved (fine : Fine s e s') (sound : Sound s) (reserved : e.reserved = some key) :
    resolveExactLocked s.directory key = none ∧
      ∃ index, resolveExactLocked s'.directory key = some index := by
  cases fine.registers with
  | keeps none =>
    rw [none] at reserved
    cases reserved
  | @reserves slot some _ _ used new _ =>
    rw [some] at reserved
    cases reserved
    exact ⟨sound.directory.unresolved (Nat.lt_succ_self _) rfl, slot,
      fine.sound.directory.resolves_iff.mpr ⟨used, new⟩⟩

lemma Fine.resolving (fine : Fine s e s')
    (resolves : resolveExactLocked s.directory key = some index) :
    resolveExactLocked s'.directory key = some index ∨
      (s'.directory.rows index).state = .empty ∨ (s'.directory.rows index).state = .retired := by
  obtain ⟨occupied, rfl⟩ := resolveExact_some resolves
  cases used : (s'.directory.rows index).occupied with
  | false =>
    refine .inr ?_
    by_contra neither
    rw [ServiceDirectoryRow.occupied, decide_eq_true (not_or.mp neither)] at used
    cases used
  | true =>
    refine .inl (fine.sound.directory.resolves_iff.mpr ⟨used, ?_⟩)
    cases fine.registers with
    | keeps _ _ keeps => exact (keeps index used).2
    | @reserves slot _ _ free _ _ keeps =>
      have ne : index ≠ slot := by
        rintro rfl
        rw [free] at occupied
        cases occupied
      exact (keeps index ne used).2

lemma Registers.last_le (registers : Registers s e s') (slot) : s.last slot ≤ s'.last slot := by
  cases registers with
  | keeps _ last => rw [last]
  | @reserves new _ last =>
    rw [last]
    rcases eq_or_ne slot new with rfl | ne
    · rw [Function.update_self]
      exact Nat.le_succ _
    · rw [Function.update_of_ne ne]

/-- The key was allocated, and does not resolve any more. -/
def KeyEnded (key : ServiceKey) (s : State) : Prop :=
  resolveExactLocked s.directory key = none ∧
    ∃ slot : Fin kServiceDirectoryCapacity, key.slot = slot ∧ key.generation ≤ s.last slot

lemma Fine.keyEnded (fine : Fine s e s') (sound : Sound s) (ended : KeyEnded key s) :
    KeyEnded key s' := by
  obtain ⟨unresolved, slot, at_slot, allocated⟩ := ended
  constructor
  · rw [Option.eq_none_iff_forall_ne_some]
    intro index resolves
    rcases fine.resolved sound resolves with before | reserved
    · rw [unresolved] at before
      cases before
    cases fine.registers with
    | keeps none =>
      rw [none] at reserved
      cases reserved
    | @reserves new some =>
      rw [some] at reserved
      cases reserved
      obtain rfl : new = slot := Fin.ext at_slot
      exact absurd allocated (Nat.not_succ_le_self _)
  · exact ⟨slot, at_slot, allocated.trans (fine.registers.last_le slot)⟩

lemma Fine.ends (fine : Fine s e s') (sound : Sound s)
    (before : resolveExactLocked s.directory key = some index)
    (after : resolveExactLocked s'.directory key = none) : KeyEnded key s' := by
  obtain ⟨occupied, rfl⟩ := resolveExact_some before
  exact ⟨after, index, sound.directory.slot occupied,
    (sound.directory.generation occupied).trans (fine.registers.last_le index)⟩

end Keys

lemma Initialized.sound (start : Initialized s) : Sound s := by
  obtain ⟨⟨_, _, _, _, _⟩, _, _, _, _, _, _⟩ := s
  obtain ⟨rfl, rfl, endpointOwner, rfl, rows, last, rfl, rfl, rfl, rfl, rfl⟩ := start
  cases funext rows
  have used : ∀ {P : Prop}, (ServiceDirectoryRow.zero .empty).occupied → P := by
    intro P occupied
    cases occupied
  obtain ⟨held, served⟩ := @rows_eq_zero ⟨_, .open, _, 0, fun _ => .zero .empty⟩ fun _ =>
    ⟨zero_held _, zero_served _⟩
  refine ⟨⟨rfl, rfl, endpointOwner,
    show 0 < _ by decide, used, fun _ => zero_rowIsCanonical False, used,
    fun mem _ => (by cases mem), fun occupied => used occupied, fun occupied => used occupied,
    used, last⟩,
    fun call mem => (by cases mem), fun owned mem => (by cases mem), nodup_nil, ?_, nodup_nil, ?_⟩
  · rw [State.held, held]
    rfl
  · rw [served]
    exact Multiset.zero_le _

/-- Every receipt that was created is in one place until it is released, once. -/
structure ReceiptsSettled (s : State) : Prop where
  created : s.created.Nodup
  released : s.released.Nodup
  made : ∀ receipt ∈ s.released, receipt ∈ s.created
  once : ∀ receipt ∈ s.created, receipt ∉ s.released → s.held.count receipt = 1
  gone : ∀ receipt ∈ s.released, s.held.count receipt = (callsSpent s.calls).count receipt
  known : ∀ receipt ∈ s.held, receipt ∈ s.created

lemma Sound.receiptsSettled (sound : Sound s) (spent : SpentReleased s) : ReceiptsSettled s := by
  have balance : ∀ receipt, s.held.count receipt + s.released.count receipt =
      s.created.count receipt + (callsSpent s.calls).count receipt := by
    intro receipt
    have conserved := congrArg (Multiset.count receipt) sound.conserved
    simpa only [Multiset.count_add, Multiset.coe_count] using conserved
  have shown : ∀ receipt, (callsSpent s.calls).count receipt ≤ s.held.count receipt := by
    refine fun receipt => Multiset.count_le_of_le _ (sound.directory.spent_le.trans ?_)
    exact (Multiset.le_add_right ..).trans (Multiset.le_add_right ..)
  have single : ∀ receipt, s.created.count receipt ≤ 1 := nodup_iff_count_le_one.mp sound.created
  have unspent : ∀ receipt ∉ s.released, (callsSpent s.calls).count receipt = 0 := by
    intro receipt kept
    rw [Multiset.count_eq_zero]
    intro mem
    obtain ⟨call, live, mem⟩ := Multiset.mem_bind.mp mem
    unfold Call.spent at mem
    split at mem
    · cases Multiset.mem_singleton.mp mem
      exact kept (spent live)
    · cases mem
  refine ⟨sound.created, nodup_iff_count_le_one.mpr fun receipt => ?_, fun receipt mem => ?_,
    fun receipt mem kept => ?_, fun receipt mem => ?_, fun receipt mem => ?_⟩
  all_goals
    have balance := balance receipt
    have shown := shown receipt
    have single := single receipt
  · omega
  · have := count_pos_iff.mpr mem
    exact count_pos_iff.mp (by omega)
  · have := count_pos_iff.mpr mem
    have := count_eq_zero.mpr kept
    have := unspent receipt kept
    omega
  · have := count_pos_iff.mpr mem
    omega
  · by_contra unknown
    have := count_eq_zero.mpr unknown
    have := Multiset.count_pos.mpr mem
    have kept : receipt ∉ s.released := fun gone => by
      have := count_pos_iff.mpr gone
      omega
    have := unspent receipt kept
    omega

lemma run_sound (start : Initialized s₀) (run : Lts.Run RoomyStep s₀ es s) :
    Sound s ∧ SpentReleased s := by
  have none : SpentReleased s₀ := by
    intro key receipt drive mem
    rw [start.calls] at mem
    cases mem
  exact run.invariant (P := fun s => Sound s ∧ SpentReleased s) ⟨start.sound, none⟩
    fun ⟨sound, spent⟩ step => ⟨(step.fine sound).sound, step.1.spentReleased spent⟩

lemma run_reserved (start : Initialized s₀) (run : Lts.Run RoomyStep s₀ es s)
    (resolves : resolveExactLocked s.directory key = some index) :
    ∃ e ∈ es, e.reserved = some key := by
  induction run generalizing index with
  | nil =>
    obtain ⟨occupied, _⟩ := resolveExact_some resolves
    rw [start.rows index] at occupied
    cases occupied
  | snoc run step reserved =>
    have sound := (run_sound start run).1
    rcases (step.fine sound).resolved sound resolves with before | now
    · obtain ⟨e', mem, eq⟩ := reserved before
      exact ⟨e', mem_append_left _ mem, eq⟩
    · exact ⟨_, mem_append_right _ (mem_singleton_self _), now⟩

end DuetOS.Directory
