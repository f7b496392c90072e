import DuetOS.Lifecycle.Broker

/-!
# The invariant of the lifecycle broker

`BrokerIsCanonical` alone is not kept by every operation: a running row that was never published
would be canonical until its exit is observed. `Sound` adds what ties the counters to the phase. It
implies `BrokerIsCanonical`, and an initialised broker has it.
-/

namespace DuetOS.Lifecycle

open Word

/-- One for each start that is in progress. -/
def ServiceTransitionState.starts (state : ServiceTransitionState) : Nat :=
  if state.phase = .starting then 1 else 0

/-- One for each process that is still live. -/
def ServiceTransitionState.processes (state : ServiceTransitionState) : Nat :=
  if state.live then 1 else 0

structure RowOk (row : ServiceLifecycleRow) : Prop where
  canonical : serviceTransitionIsCanonical row.transition
  builder : builderStateIsCanonical row
  failedExits : row.failedExits ≤ row.observedExits
  observedExits : row.observedExits ≤ row.successfulPublications
  /-- Every live process was published and its exit is not counted, until the count saturates. -/
  processes : row.observedExits + row.transition.processes ≤ row.successfulPublications ∨
    row.successfulPublications = max32
  publications : row.successfulPublications ≤ max32
  /-- Every generation was published, failed, is starting or was cancelled. -/
  starts : row.successfulPublications + row.spawnFailures + row.transition.starts ≤
    row.transition.generation
  generation : row.transition.generation ≤ max64
  ready : row.ready → row.transition.phase = .running ∧ row.builderState = .none

/-- What no operation changes in a row: its identity and what the manifest said about it. -/
structure Fixed (count : Nat) (index : Fin kServiceLifecycleCapacity) (row : ServiceLifecycleRow) :
    Prop where
  reserved : row.reserved8 = 0 ∧ row.reserved16 = 0 ∧ row.reserved32 = 0
  known : row.dependencyMask &&& (max64 ^^^ (2 ^ count - 1)) = 0
  irreflexive : row.dependencyMask.testBit index = false

structure Sound (b : ServiceLifecycleBroker) : Prop where
  header : brokerHeaderIsCanonical b
  sorted : ∀ i j : Fin kServiceLifecycleCapacity, i < j → j.val < b.serviceCount →
    (b.rows i).transition.serviceIdentity < (b.rows j).transition.serviceIdentity
  fixed : ∀ index : Fin kServiceLifecycleCapacity, index.val < b.serviceCount →
    Fixed b.serviceCount index (b.rows index)
  row : ∀ index : Fin kServiceLifecycleCapacity, index.val < b.serviceCount → RowOk (b.rows index)
  draining : b.state ≠ .open → ∀ index : Fin kServiceLifecycleCapacity, index.val < b.serviceCount →
    (b.rows index).transition.phase ≠ .starting ∧ (b.rows index).transition.phase ≠ .running
  closed : b.state = .closed → ∀ index : Fin kServiceLifecycleCapacity, index.val < b.serviceCount →
    (b.rows index).transition.phase ≠ .stopping ∧ (b.rows index).builderState = .none
  unused : ∀ index : Fin kServiceLifecycleCapacity, b.serviceCount ≤ index.val →
    (b.rows index).builderState = .none ∧ (b.rows index).transition.idle

lemma Sound.previousIdentity_lt (sound : Sound b) (used : index.val < b.serviceCount) :
    previousIdentity b index < (b.rows index).transition.serviceIdentity := by
  unfold previousIdentity
  split
  next positive =>
    refine sound.sorted _ index ?_ used
    exact Fin.mk_lt_of_lt_val (Nat.sub_lt positive Nat.one_pos)
  · exact Nat.pos_of_ne_zero (identity_ne_zero (sound.row index used).canonical)

lemma Sound.rowIsCanonical (sound : Sound b) (used : index.val < b.serviceCount) :
    brokerRowIsCanonical b index := by
  have ok := sound.row index used
  have fixed := sound.fixed index used
  have sorted := sound.previousIdentity_lt used
  have failedExits := ok.failedExits
  have observedExits := ok.observedExits
  have starts := ok.starts
  unfold brokerRowIsCanonical
  rw [if_neg, if_neg, if_neg, if_neg]
  · rintro ⟨closed, phase | builder⟩
    · exact (sound.closed closed index used).1 phase
    · exact builder (sound.closed closed index used).2
  · rintro ⟨draining, phase | phase⟩
    · exact (sound.draining draining index used).1 phase
    · exact (sound.draining draining index used).2 phase
  · rintro ⟨ready, phase | process | builder⟩
    · exact phase (ok.ready ready).1
    · exact process (running_desired ok.canonical (ok.ready ready).1).2.1
    · exact builder (ok.ready ready).2
  · rintro (h | h | h | h | h | h | h | h | h | h | h | h | h)
    · exact h ok.canonical
    · omega
    · exact h ok.builder
    · exact h fixed.reserved.1
    · exact h fixed.reserved.2.1
    · exact h fixed.reserved.2.2
    · exact h fixed.known
    · exact Bool.false_ne_true (fixed.irreflexive.symm.trans h)
    all_goals omega

theorem Sound.isCanonical (sound : Sound b) : brokerIsCanonical b :=
  decide_eq_true ⟨sound.header, decide_eq_true fun _ used => sound.rowIsCanonical used⟩

lemma transition_canonical (canonical : brokerIsCanonical b) (used : index.val < b.serviceCount) :
    serviceTransitionIsCanonical (b.rows index).transition := by
  have row := of_decide_eq_true (of_decide_eq_true canonical).2 index used
  unfold brokerRowIsCanonical at row
  dsimp only at row
  split at row
  · cases row
  next checks => exact not_not.mp (not_or.mp checks).1

lemma Sound.ready (sound : Sound b) : readyBroker b = .ok := by
  have header := sound.header
  unfold brokerHeaderIsCanonical at header
  split at header
  · cases header
  next checks => exact if_neg (not_or.mp checks).1

lemma state_cases (header : brokerHeaderIsCanonical b) :
    b.state = .open ∨ b.state = .draining ∨ b.state = .closed := by
  unfold brokerHeaderIsCanonical at header
  split at header
  · cases header
  · exact of_decide_eq_true header

lemma Sound.identity_unique (sound : Sound b) (used_i : i.val < b.serviceCount)
    (used_j : j.val < b.serviceCount)
    (same : (b.rows i).transition.serviceIdentity = (b.rows j).transition.serviceIdentity) :
    i = j := by
  rcases lt_trichotomy i j with less | eq | more
  · exact absurd same (Nat.ne_of_lt (sound.sorted i j less used_j))
  · exact eq
  · exact absurd same.symm (Nat.ne_of_lt (sound.sorted j i more used_i))

lemma identityAt_of_lt : identityAt b index.val = (b.rows index).transition.serviceIdentity :=
  dif_pos index.isLt

lemma findBrokerIndex_some (found : findBrokerIndex b identity = some index) :
    index.val < b.serviceCount ∧ (b.rows index).transition.serviceIdentity = identity := by
  simp only [findBrokerIndex] at found
  split_ifs at found with within hit
  cases found
  exact ⟨hit.1, identityAt_of_lt.symm.trans hit.2⟩

/-- The search finds the row of a service, and nothing for any other identity. -/
lemma Sound.findBrokerIndex_eq_some (sound : Sound b) : findBrokerIndex b identity = some index ↔
      index.val < b.serviceCount ∧ (b.rows index).transition.serviceIdentity = identity := by
  refine ⟨findBrokerIndex_some, ?_⟩
  rintro ⟨used, rfl⟩
  have bound : b.serviceCount ≤ kServiceLifecycleCapacity := by
    by_contra exceeds
    have header := sound.header
    rw [brokerHeaderIsCanonical, if_pos (.inr (.inr (.inl (not_le.mp exceeds))))] at header
    cases header
  have mono : ∀ i j, i < j → j < b.serviceCount → identityAt b i < identityAt b j := by
    intro i j less used_j
    have sorted := sound.sorted ⟨i, by omega⟩ ⟨j, by omega⟩ (Fin.mk_lt_mk.mpr less) used_j
    rwa [← identityAt_of_lt, ← identityAt_of_lt] at sorted
  have low := Search.lowerBound_of_mem mono used (Nat.zero_le _) used.le le_rfl
  rw [identityAt_of_lt] at low
  simp only [findBrokerIndex, low]
  rw [dif_pos index.isLt, if_pos ⟨used, identityAt_of_lt⟩]

lemma sorted_of_previousIdentity
    (adjacent : ∀ index : Fin kServiceLifecycleCapacity, index.val < b.serviceCount →
      previousIdentity b index < (b.rows index).transition.serviceIdentity)
    (i j) (less : i < j) (used : j.val < b.serviceCount) :
    (b.rows i).transition.serviceIdentity < (b.rows j).transition.serviceIdentity := by
  obtain ⟨j, bound⟩ := j
  induction j with
  | zero => exact absurd less (Nat.not_lt_zero _)
  | succ j ih =>
    have step := adjacent ⟨j + 1, bound⟩ used
    rcases Nat.lt_or_eq_of_le (Nat.le_of_lt_succ less) with earlier | same
    · exact (ih (Nat.lt_of_succ_lt bound) earlier (Nat.lt_of_succ_lt used)).trans step
    · have eq : i = ⟨j, Nat.lt_of_succ_lt bound⟩ := Fin.ext same
      rw [eq]
      exact step

lemma RowOk.fresh (valid : identity ≠ 0) :
    RowOk ⟨serviceTransitionInitialize identity, mask, 0, 0, 0, 0, 0, .none, false, 0, 0, 0⟩ where
  canonical := by
    have valid' : identity ≠ kInvalidServiceTransitionIdentity := valid
    simp [serviceTransitionIsCanonical, serviceTransitionInitialize, valid']
  builder := rfl
  failedExits := Nat.le_refl 0
  observedExits := Nat.le_refl 0
  processes := .inl (Nat.le_refl 0)
  publications := Nat.zero_le _
  starts := Nat.le_refl 0
  generation := Nat.zero_le _
  ready := fun ready => absurd ready Bool.false_ne_true

theorem Sound.of_initialized (init : Initialized b) : Sound b := by
  obtain ⟨header, rows⟩ := of_decide_eq_true init.canonical
  have checks : ∀ index : Fin kServiceLifecycleCapacity, index.val < b.serviceCount →
      previousIdentity b index < (b.rows index).transition.serviceIdentity ∧
        (b.rows index).dependencyMask &&& (max64 ^^^ (2 ^ b.serviceCount - 1)) = 0 ∧
        (b.rows index).dependencyMask.testBit index = false := by
    intro index used
    have canonical := of_decide_eq_true rows index used
    simp only [brokerRowIsCanonical] at canonical
    split at canonical
    · cases canonical
    next passed =>
      simp only [not_or] at passed
      exact ⟨not_le.mp passed.2.1, not_not.mp passed.2.2.2.2.2.2.1,
        Bool.eq_false_iff.mpr passed.2.2.2.2.2.2.2.1⟩
  refine ⟨header, sorted_of_previousIdentity fun index used => (checks index used).1,
    fun index used => ?_, fun index used => ?_, fun draining => absurd init.state draining,
    fun closed => (nomatch init.state.symm.trans closed), fun index _ => ?_⟩
  · obtain ⟨identity, mask, eq⟩ := init.row index
    refine ⟨?_, (checks index used).2.1, (checks index used).2.2⟩
    rw [eq]
    exact ⟨rfl, rfl, rfl⟩
  · obtain ⟨identity, mask, eq⟩ := init.row index
    have positive := (checks index used).1
    rw [eq] at positive
    rw [eq]
    exact RowOk.fresh (Nat.ne_of_gt (Nat.zero_lt_of_lt positive))
  · obtain ⟨identity, mask, eq⟩ := init.row index
    rw [eq]
    exact ⟨rfl, nofun, nofun, nofun⟩

end DuetOS.Lifecycle
