import DuetOS.Lifecycle.Effect

/-!
# The broker stays canonical

Every move keeps a row sound, so every operation keeps the broker sound.
-/

namespace DuetOS.Lifecycle

open Word

lemma incrementSaturating_le (value) : incrementSaturating value ≤ value + 1 := by
  unfold incrementSaturating
  split
  · exact Nat.mod_le ..
  · exact Nat.le_succ value

lemma incrementSaturating_of_lt (less : value < max32) : incrementSaturating value = value + 1 := by
  rw [incrementSaturating, if_pos (Nat.ne_of_lt less), add32_eq less]

lemma incrementSaturating_max : incrementSaturating max32 = max32 := if_neg (not_not.mpr rfl)

lemma incrementSaturating_mono (le : a ≤ b) (bound : b ≤ max32) :
    incrementSaturating a ≤ incrementSaturating b := by
  rcases Nat.lt_or_eq_of_le bound with less | rfl
  · have least := incrementSaturating_le a
    rw [incrementSaturating_of_lt less]
    omega
  rcases Nat.lt_or_eq_of_le le with less | rfl
  · rw [incrementSaturating_of_lt less]
    exact less
  · exact incrementSaturating_max.le

lemma le_incrementSaturating (bound : value ≤ max32) : value ≤ incrementSaturating value := by
  rcases Nat.lt_or_eq_of_le bound with less | rfl
  · rw [incrementSaturating_of_lt less]
    exact Nat.le_succ value
  · exact incrementSaturating_max.ge

lemma incrementSaturating_le_max (bound : value ≤ max32) : incrementSaturating value ≤ max32 := by
  have mono := incrementSaturating_mono bound (Nat.le_refl _)
  rwa [incrementSaturating_max] at mono

lemma settled_canonical (canonical : serviceTransitionIsCanonical state)
    (generation : state.generation ≠ 0)
    (idle : phase ≠ .starting ∧ phase ≠ .running ∧ phase ≠ .stopping)
    (spent : phase = .generationExhausted →
      state.generation = kServiceTransitionGenerationMaximum) :
    serviceTransitionIsCanonical (state.settled phase) := by
  rw [serviceTransitionIsCanonical]
  simp only [ServiceTransitionState.settled]
  rw [if_neg (identity_ne_zero canonical)]
  cases phase <;> first | contradiction | skip
  all_goals simp [generation, spent]

lemma stoppedPhase_spent (spent : stoppedPhase generation = .generationExhausted) :
    generation = kServiceTransitionGenerationMaximum := by
  unfold stoppedPhase at spent
  split at spent
  next last => exact last
  · cases spent

lemma stoppedPhase_cases (generation) :
    stoppedPhase generation = .stopped ∨ stoppedPhase generation = .generationExhausted := by
  unfold stoppedPhase
  split
  · exact .inr rfl
  · exact .inl rfl

lemma counts_of_idle {state : ServiceTransitionState} (idle : state.idle) :
    state.starts = 0 ∧ state.processes = 0 :=
  ⟨if_neg idle.1, if_neg fun live => live.elim idle.2.1 idle.2.2⟩

lemma live_generation (canonical : serviceTransitionIsCanonical state) (live : state.live) :
    state.generation ≠ 0 ∧ serviceInstanceKeyIsValid state.instance := by
  rcases live with running | stopping
  · exact ⟨(running_desired canonical running).1, (running_desired canonical running).2.1⟩
  · exact stopping_instance canonical stopping

lemma live_builder (ok : RowOk row) (live : row.transition.live) : row.builderState = .none := by
  refine builder_none ok.builder (fun starting => ?_) fun cancelled => ?_
  · rcases live with eq | eq <;> exact nomatch starting.symm.trans eq
  · have canonical := ok.builder
    rw [builderStateIsCanonical, cancelled] at canonical
    rcases live with eq | eq <;> rcases (of_decide_eq_true canonical).2 with eq' | eq' <;>
      exact nomatch eq.symm.trans eq'

lemma cancelled_idle (ok : RowOk row)
    (cancelled : row.builderState = .cancelledAwaitingRetirement) :
    row.transition.idle := by
  have canonical := ok.builder
  rw [builderStateIsCanonical, cancelled] at canonical
  rcases (of_decide_eq_true canonical).2 with phase | phase <;>
    rw [ServiceTransitionState.idle, phase] <;>
    decide

section Move

variable {row : ServiceLifecycleRow} {outcome : Outcome}

section

variable (ok : RowOk row)

include ok

lemma RowOk.settle_start (starting : row.transition.phase = .starting)
    {phase : ServiceTransitionPhase}
    (idle : phase ≠ .starting ∧ phase ≠ .running ∧ phase ≠ .stopping)
    (spent : phase = .generationExhausted →
      row.transition.generation = kServiceTransitionGenerationMaximum)
    (builder : builderState = .none ∨ builderState = .cancelledAwaitingRetirement ∧
      (phase = .stopped ∨ phase = .generationExhausted))
    (counted : spawnFailures ≤ row.spawnFailures + 1) : RowOk { row with
      transition := row.transition.settled phase
      builderState
      ready := false
      lastTransitionNs := nowNs
      spawnFailures } := by
  have generation := (starting_inFlight ok.canonical starting).1
  have started : row.transition.starts = 1 := if_pos starting
  have before := ok.starts
  obtain ⟨starts, processes⟩ := @counts_of_idle (row.transition.settled phase) idle
  refine ⟨settled_canonical ok.canonical generation idle spent, ?_, ok.failedExits,
    ok.observedExits,
    ?_, ok.publications, ?_, ok.generation, nofun⟩
  · rcases builder with rfl | ⟨rfl, stopped⟩
    · exact decide_eq_true idle.1
    · exact decide_eq_true ⟨generation, stopped⟩
  · left
    simp only [processes]
    exact ok.observedExits
  · simp only [starts]
    have same : (row.transition.settled phase).generation = row.transition.generation := rfl
    omega

lemma RowOk.reserve (room : row.transition.generation ≠ max64) {nowNs} : RowOk { row with
      transition := ⟨row.transition.serviceIdentity, .starting, add64 row.transition.generation 1,
        kInvalidServiceInstanceKey, true, true⟩
      builderState := .constructing
      ready := false
      lastTransitionNs := nowNs } := by
  have bound : row.transition.generation + 1 ≤ max64 := by
    have := ok.generation
    omega
  have next := add64_eq bound
  have before := ok.starts
  refine ⟨?_, rfl, ok.failedExits, ok.observedExits, .inl ok.observedExits, ok.publications, ?_,
    ?_, nofun⟩
  · refine starting_canonical (identity_ne_zero ok.canonical) ?_
    rw [next]
    exact Nat.succ_ne_zero _
  · show row.successfulPublications + row.spawnFailures + 1 ≤ add64 row.transition.generation 1
    omega
  · rw [next]
    exact bound

lemma RowOk.publish (starting : row.transition.phase = .starting) {process}
    (valid : serviceInstanceKeyIsValid process) {nowNs} :
    RowOk (row.published
      ⟨row.transition.serviceIdentity, .running, row.transition.generation, process,
      true, false⟩ nowNs) := by
  have generation := (starting_inFlight ok.canonical starting).1
  have started : row.transition.starts = 1 := if_pos starting
  have before := ok.starts
  have exits := ok.observedExits
  have least := incrementSaturating_le row.successfulPublications
  have grows := le_incrementSaturating ok.publications
  refine ⟨running_canonical (identity_ne_zero ok.canonical) generation valid, rfl, ok.failedExits,
    exits.trans grows, ?_, incrementSaturating_le_max ok.publications, ?_, ok.generation, nofun⟩
  · show row.observedExits + 1 ≤ incrementSaturating row.successfulPublications ∨
      incrementSaturating row.successfulPublications = max32
    rcases Nat.lt_or_eq_of_le ok.publications with less | saturated
    · left
      rw [incrementSaturating_of_lt less]
      omega
    · right
      rw [saturated]
      exact incrementSaturating_max
  · show incrementSaturating row.successfulPublications + row.spawnFailures + 0 ≤
      row.transition.generation
    omega

lemma RowOk.kill (running : row.transition.phase = .running) :
    RowOk (row.stopped row.transition.stopping row.builderState nowNs) := by
  obtain ⟨generation, valid, _⟩ := running_desired ok.canonical running
  have before := ok.starts
  have processes := ok.processes
  have counted : row.transition.processes = 1 := if_pos (.inl running)
  refine ⟨stopping_canonical (identity_ne_zero ok.canonical) generation valid, ?_, ok.failedExits,
    ok.observedExits, ?_, ok.publications, ?_, ok.generation, nofun⟩
  · simp only [ServiceLifecycleRow.stopped, live_builder ok (.inl running)]
    rfl
  · rw [counted] at processes
    exact processes
  · exact (Nat.le_add_right ..).trans before

lemma RowOk.exit (live : row.transition.live) {failedExits nowNs : Nat} {phase}
    (idle : phase ≠ .starting ∧ phase ≠ .running ∧ phase ≠ .stopping)
    (spent : phase = .generationExhausted →
      row.transition.generation = kServiceTransitionGenerationMaximum)
    (failed : failedExits ≤ incrementSaturating row.observedExits) : RowOk { row with
      transition := row.transition.settled phase
      ready := false
      lastTransitionNs := nowNs
      observedExits := incrementSaturating row.observedExits
      failedExits } := by
  obtain ⟨generation, _⟩ := live_generation ok.canonical live
  obtain ⟨starts, processes⟩ := @counts_of_idle (row.transition.settled phase) idle
  have counted : row.transition.processes = 1 := if_pos live
  have exits : incrementSaturating row.observedExits ≤ row.successfulPublications := by
    have least := incrementSaturating_le row.observedExits
    rcases ok.processes with before | saturated
    · omega
    · rw [saturated]
      exact incrementSaturating_le_max (ok.observedExits.trans ok.publications)
  refine ⟨settled_canonical ok.canonical generation idle spent, ?_, failed, exits, ?_,
    ok.publications,
    ?_, ok.generation, nofun⟩
  · simp only [builderStateIsCanonical, live_builder ok live]
    exact decide_eq_true idle.1
  · left
    simp only [processes]
    exact exits
  · simp only [starts]
    exact (Nat.le_add_right ..).trans ok.starts

end

lemma Move.rowOk (move : Move epoch row outcome row') (ok : RowOk row) : RowOk row' := by
  cases move with
  | reserve idle notExhausted room builder => exact ok.reserve room
  | exhaust idle last builder =>
    have generation : row.transition.generation ≠ 0 := by
      rw [last]
      decide
    refine ⟨settled_canonical ok.canonical generation (by decide) fun _ => last, ?_, ok.failedExits,
      ok.observedExits, .inl ok.observedExits, ok.publications, ?_, ok.generation, fun ready => ?_⟩
    · simp only [builderStateIsCanonical, builder]
      rfl
    · exact (Nat.le_add_right ..).trans ok.starts
    · exact absurd (ok.ready ready).1 idle.2.1
  | fail starting constructing =>
    exact ok.settle_start starting (by decide) nofun (.inl rfl) (incrementSaturating_le _)
  | acknowledge cancelled =>
    exact ⟨ok.canonical, decide_eq_true (cancelled_idle ok cancelled).1, ok.failedExits,
      ok.observedExits, ok.processes, ok.publications, ok.starts, ok.generation, nofun⟩
  | publish starting constructing valid => exact ok.publish starting valid
  | ready running builder =>
    exact ⟨ok.canonical, ok.builder, ok.failedExits, ok.observedExits, ok.processes,
      ok.publications,
      ok.starts, ok.generation, fun _ => ⟨running, builder⟩⟩
  | cancel starting =>
    exact ok.settle_start starting (stoppedPhase_idle _) stoppedPhase_spent
      (.inr ⟨rfl, stoppedPhase_cases _⟩) (Nat.le_succ _)
  | kill running => exact ok.kill running
  | @exit _ failed live =>
    have bound := ok.observedExits.trans ok.publications
    refine ok.exit live (exitedPhase_idle ..) ?_ ?_
    · split
      · exact stoppedPhase_spent
      · exact nofun
    · split
      · exact incrementSaturating_mono ok.failedExits bound
      · exact ok.failedExits.trans (le_incrementSaturating bound)

/-- How far a generation has come: starting, running, stopping, ended. -/
def ServiceTransitionPhase.rank : ServiceTransitionPhase → Nat
  | .starting => 0
  | .running => 1
  | .stopping => 2
  | _ => 3

/-- `row'` is the same service as `row`, no earlier in its generations. -/
structure Later (row row' : ServiceLifecycleRow) : Prop where
  identity : row'.transition.serviceIdentity = row.transition.serviceIdentity
  dependencyMask : row'.dependencyMask = row.dependencyMask
  reserved : row'.reserved8 = row.reserved8 ∧ row'.reserved16 = row.reserved16 ∧
    row'.reserved32 = row.reserved32
  age : row.transition.generation < row'.transition.generation ∨
    row.transition.generation = row'.transition.generation ∧
      row.transition.phase.rank ≤ row'.transition.phase.rank

lemma Later.refl (row) : Later row row := ⟨rfl, rfl, ⟨rfl, rfl, rfl⟩, .inr ⟨rfl, Nat.le_refl _⟩⟩

lemma rank_le (phase : ServiceTransitionPhase) : phase.rank ≤ 3 := by
  cases phase <;> decide

lemma rank_of_idle {phase : ServiceTransitionPhase}
    (idle : phase ≠ .starting ∧ phase ≠ .running ∧ phase ≠ .stopping) : phase.rank = 3 := by
  cases phase <;> first | contradiction | rfl

lemma Move.later (move : Move epoch row outcome row') (ok : RowOk row) : Later row row' := by
  cases move with
  | reserve idle notExhausted room builder =>
    refine ⟨rfl, rfl, ⟨rfl, rfl, rfl⟩, .inl ?_⟩
    have bound := ok.generation
    rw [add64_eq (by omega)]
    exact Nat.lt_succ_self _
  | exhaust idle last builder | fail starting constructing =>
    exact ⟨rfl, rfl, ⟨rfl, rfl, rfl⟩, .inr ⟨rfl, rank_le _⟩⟩
  | acknowledge cancelled | ready running builder =>
    exact ⟨rfl, rfl, ⟨rfl, rfl, rfl⟩, .inr ⟨rfl, Nat.le_refl _⟩⟩
  | publish starting constructing valid | cancel starting =>
    refine ⟨rfl, rfl, ⟨rfl, rfl, rfl⟩, .inr ⟨rfl, ?_⟩⟩
    rw [starting]
    exact Nat.zero_le _
  | kill running =>
    refine ⟨rfl, rfl, ⟨rfl, rfl, rfl⟩, .inr ⟨rfl, ?_⟩⟩
    rw [running]
    exact Nat.le_succ 1
  | exit live =>
    refine ⟨rfl, rfl, ⟨rfl, rfl, rfl⟩, .inr ⟨rfl, ?_⟩⟩
    exact (rank_le _).trans_eq (rank_of_idle (exitedPhase_idle ..)).symm

lemma drained_cases (epoch nowNs row) :
    (row.drained nowNs = row ∧ row.transition.phase ≠ .starting ∧ row.transition.phase ≠ .running) ∨
      (row.transition.phase = .starting ∧
        Move epoch row (.cancelled (row.ticket epoch)) (row.drained nowNs)) ∨
      (row.transition.phase = .running ∧
        Move epoch row (.killed (row.token epoch)) (row.drained nowNs)) := by
  unfold ServiceLifecycleRow.drained
  split
  next starting => exact .inr (.inl ⟨starting, .cancel starting⟩)
  next notStarting =>
  split
  next running => exact .inr (.inr ⟨running, .kill running⟩)
  next notRunning => exact .inl ⟨rfl, notStarting, notRunning⟩

end Move

section Effect

variable {b b' : ServiceLifecycleBroker} {outcome : Outcome}

lemma drainedAt_row_of_mem (mem : index ∈ indices) :
    (b.drainedAt indices nowNs).rows index = (b.rows index).drained nowNs :=
  if_pos (List.contains_iff_mem.mpr mem)

lemma drainedAt_row_of_not_mem (absent : index ∉ indices) :
    (b.drainedAt indices nowNs).rows index = b.rows index :=
  if_neg (absent ∘ List.contains_iff_mem.mp)

lemma forall_setRow {P : Fin kServiceLifecycleCapacity → ServiceLifecycleRow → Prop}
    (old : ∀ other, P other (b.rows other)) (new : P index row) (other) :
    P other ((b.setRow index row).rows other) := by
  unfold ServiceLifecycleBroker.setRow
  by_cases same : other = index
  · subst same
    simp only [Function.update_self]
    exact new
  · simp only [Function.update_of_ne same]
    exact old other

lemma forall_drainedAt {P : Fin kServiceLifecycleCapacity → ServiceLifecycleRow → Prop} {nowNs}
    (old : ∀ other, P other (b.rows other))
    (new : ∀ other, other.val < b.serviceCount → P other ((b.rows other).drained nowNs)) (other) :
    P other ((b.drainedAt b.indices nowNs).rows other) := by
  by_cases mem : other ∈ b.indices
  · rw [drainedAt_row_of_mem mem]
    exact new other (mem_indices.mp mem)
  · rw [drainedAt_row_of_not_mem mem]
    exact old other

lemma drained_later (ok : RowOk row) (nowNs) :
    Later row (row.drained nowNs) ∧ RowOk (row.drained nowNs) := by
  rcases drained_cases 0 nowNs row with ⟨same, _, _⟩ | ⟨_, move⟩ | ⟨_, move⟩
  · rw [same]
    exact ⟨Later.refl row, ok⟩
  all_goals exact ⟨move.later ok, move.rowOk ok⟩

lemma drained_phase (row : ServiceLifecycleRow) (nowNs) :
    (row.drained nowNs).transition.phase ≠ .starting ∧
      (row.drained nowNs).transition.phase ≠ .running := by
  unfold ServiceLifecycleRow.drained
  split
  · exact ⟨(stoppedPhase_idle _).1, (stoppedPhase_idle _).2.1⟩
  next notStarting =>
  split
  · exact ⟨nofun, nofun⟩
  next notRunning => exact ⟨notStarting, notRunning⟩

/-- An operation keeps the number of rows and the epoch, and moves no row back. -/
lemma Effect.later (effect : Effect b outcome b') (sound : Sound b) :
    b'.serviceCount = b.serviceCount ∧ b'.brokerEpoch = b.brokerEpoch ∧
      ∀ index, Later (b.rows index) (b'.rows index) := by
  cases effect with
  | refused | closed => exact ⟨rfl, rfl, fun index => Later.refl _⟩
  | @moved _ row index used _ _ move =>
    refine ⟨rfl, rfl, fun other => ?_⟩
    exact forall_setRow (P := fun other row' => Later (b.rows other) row')
      (fun other => Later.refl _) (move.later (sound.row index used)) other
  | @drained nowNs _ =>
    refine ⟨rfl, rfl, fun other => ?_⟩
    exact forall_drainedAt (P := fun other row' => Later (b.rows other) row')
      (fun other => Later.refl _) (fun other used => (drained_later (sound.row other used) nowNs).1)
      other

lemma Fixed.of_later {count} (fixed : Fixed count index row) (later : Later row row') :
    Fixed count index row' := by
  obtain ⟨_, mask, reserved, _⟩ := later
  refine ⟨?_, ?_, ?_⟩
  · rw [reserved.1, reserved.2.1, reserved.2.2]
    exact fixed.reserved
  · rw [mask]
    exact fixed.known
  · rw [mask]
    exact fixed.irreflexive

lemma Effect.rowOk (effect : Effect b outcome b') (sound : Sound b) :
    ∀ index : Fin kServiceLifecycleCapacity, index.val < b.serviceCount →
      RowOk (b'.rows index) := by
  cases effect with
  | refused | closed => exact sound.row
  | @moved _ row index used _ _ move =>
    exact forall_setRow (P := fun other row' => other.val < b.serviceCount → RowOk row') sound.row
      fun _ => move.rowOk (sound.row index used)
  | @drained nowNs _ =>
    exact forall_drainedAt (b := { b with state := .draining })
      (P := fun other row' => other.val < b.serviceCount → RowOk row') sound.row
      fun other used _ => (drained_later (sound.row other used) nowNs).2

lemma Effect.draining (effect : Effect b outcome b') (sound : Sound b)
    (notOpen : b'.state ≠ .open) :
    ∀ index : Fin kServiceLifecycleCapacity, index.val < b.serviceCount →
      (b'.rows index).transition.phase ≠ .starting ∧
      (b'.rows index).transition.phase ≠ .running := by
  cases effect with
  | refused => exact sound.draining notOpen
  | @moved _ row index used _ opens move =>
    exact forall_setRow (P := fun other row' => other.val < b.serviceCount →
      row'.transition.phase ≠ .starting ∧ row'.transition.phase ≠ .running)
      (fun other used => sound.draining notOpen other used) fun _ => opens notOpen
  | @drained nowNs _ =>
    intro index used
    have mem : index ∈ b.indices := mem_indices.mpr used
    rw [drainedAt_row_of_mem mem]
    exact drained_phase _ nowNs
  | closed draining _ =>
    refine sound.draining fun isOpen => ?_
    exact nomatch draining.symm.trans isOpen

lemma Effect.closes (effect : Effect b outcome b') (sound : Sound b)
    (isClosed : b'.state = .closed) :
    ∀ index : Fin kServiceLifecycleCapacity, index.val < b.serviceCount →
      (b'.rows index).transition.phase ≠ .stopping ∧ (b'.rows index).builderState = .none := by
  cases effect with
  | refused => exact sound.closed isClosed
  | moved _ notClosed _ _ => exact absurd isClosed notClosed
  | drained _ => exact nomatch isClosed
  | closed _ calm =>
    intro index used
    obtain ⟨builder, idle⟩ := calm index (mem_indices.mpr used)
    exact ⟨idle.2.2, builder⟩

lemma Effect.unused (effect : Effect b outcome b') :
    ∀ index : Fin kServiceLifecycleCapacity, b.serviceCount ≤ index.val →
      b'.rows index = b.rows index := by
  cases effect with
  | refused | closed => exact fun _ _ => rfl
  | @moved _ row index used _ _ _ =>
    exact forall_setRow (P := fun other row' => b.serviceCount ≤ other.val → row' = b.rows other)
      (fun _ _ => rfl) fun beyond => absurd used (Nat.not_lt.mpr beyond)
  | drained _ =>
    exact forall_drainedAt (b := { b with state := .draining })
      (P := fun other row' => b.serviceCount ≤ other.val → row' = b.rows other) (fun _ _ => rfl)
      fun other used beyond => absurd used (Nat.not_lt.mpr beyond)

lemma header_withState (header : brokerHeaderIsCanonical b)
    (next : state = .draining ∨ state = .closed) :
    brokerHeaderIsCanonical { b with state } := by
  unfold brokerHeaderIsCanonical at header ⊢
  split at header
  · cases header
  next checks =>
    rw [if_neg checks]
    exact decide_eq_true (.inr next)

lemma Effect.header (effect : Effect b outcome b') (sound : Sound b) :
    brokerHeaderIsCanonical b' := by
  cases effect with
  | refused | moved _ _ _ _ => exact sound.header
  | drained _ => exact header_withState (b := b) sound.header (.inl rfl)
  | closed => exact header_withState sound.header (.inr rfl)

/-- Every operation keeps the broker sound. -/
theorem Effect.sound (effect : Effect b outcome b') (sound : Sound b) : Sound b' := by
  obtain ⟨count, _, later⟩ := effect.later sound
  refine ⟨effect.header sound, fun i j less used => ?_, ?_, ?_, fun notOpen => ?_,
    fun isClosed => ?_,
    fun index beyond => ?_⟩ <;> rw [count] at *
  · rw [(later i).identity, (later j).identity]
    exact sound.sorted i j less used
  · exact fun index used => (sound.fixed index used).of_later (later index)
  · exact effect.rowOk sound
  · exact effect.draining sound notOpen
  · exact effect.closes sound isClosed
  · rw [effect.unused index beyond]
    exact sound.unused index beyond

end Effect

lemma Step.sound (sound : Sound b) (st : Step b event b') : Sound b' :=
  (st.explained sound).effect.sound sound

/-- An initialised broker is sound along every run. -/
theorem Run.sound (init : Initialized b) (run : Run b es b') : Sound b' :=
  run.invariant (Sound.of_initialized init) Step.sound

end DuetOS.Lifecycle
