import DuetOS.HandleTable.References
import DuetOS.ObjectTransfer.Invariant

/-!
# Lifetime of transfer rows and references

As for handles, no step makes a row younger, and a reference can be pinned only at the live age of
its generation in an open table. References to objects are conserved: what exports put into rows is
what rows still own together with what revokes and closes took out.
-/

namespace DuetOS.ObjectTransfer

open Word Bag Slots
open scoped BigOperators

/-- How far a row has come in its generation. -/
def ObjectTransferSlotState.phase : ObjectTransferSlotState → Nat
  | .live => 0
  | .closing => 1
  | .free => 2
  | .retired => 2

/-- Generation and phase of a row in one number. -/
def ObjectTransferSlot.age (slot : ObjectTransferSlot) : Nat :=
  3 * slot.generation + ObjectTransferSlotState.phase slot.state

/-- A section that marked the row of this reference closing, or began to close the table. -/
def Event.invalidates (reference : ObjectTransferRef) : Event → Bool
  | .revoke revoked .ok _ => revoked = reference
  | .revoke revoked .busy _ => revoked = reference
  | .close _ _ => true
  | _ => false

def Event.pins (reference : ObjectTransferRef) : Event → Bool
  | .importPin pinned _ _ (.ok _) => pinned = reference
  | _ => false

def Event.imports (reference : ObjectTransferRef) : Event → Bool
  | .importPublish imported _ _ _ (.ok _) _ => imported = reference
  | _ => false

def Event.exported : Event → Multiset KObject
  | .exportClaim _ _ _ object (.ok _) => {object}
  | _ => 0

/-- The references a revoke or close took out of rows, to release them. -/
def Event.released : Event → Multiset KObject
  | .revoke _ _ detached => detached.toList
  | .close _ detached => detached
  | _ => 0

/-- Is this an import of the reference that has pinned the row and not yet returned? -/
def InFlight.holds (reference : ObjectTransferRef) : InFlight → Bool
  | .pinned held _ _ _ _ _ _ _ => held = reference
  | .publishing held _ _ _ _ _ _ => held = reference
  | _ => false

lemma phase_le (state) : ObjectTransferSlotState.phase state ≤ 2 := by
  cases state <;> decide

lemma phase_closedState (generation) :
    ObjectTransferSlotState.phase (closedState generation) = 2 := by
  unfold closedState
  split <;> rfl

lemma age_setSlot {table : ObjectTransferTable} {index slot}
    (older : ObjectTransferSlot.age (table.slots index) ≤ ObjectTransferSlot.age slot) (j) :
    ObjectTransferSlot.age (table.slots j) ≤
      ObjectTransferSlot.age ((table.setSlot index slot).slots j) := by
  by_cases eq : j = index
  · subst eq
    rw [ObjectTransferTable.setSlot_slots_self]
    exact older
  · rw [ObjectTransferTable.setSlot_slots_of_ne _ eq]

lemma age_closeBegin (table j) :
    ObjectTransferSlot.age (table.slots j) ≤
      ObjectTransferSlot.age ((closeBegin table).slots j) := by
  by_cases isOpen : table.state = .open
  · rw [closeBegin_slots isOpen]
    split
    · rename_i live
      unfold ObjectTransferSlot.age
      rw [live.2]
      exact Nat.le_succ _
    · exact Nat.le_refl _
  · rw [closeBegin, if_neg isOpen]

lemma age_released (slot) :
    ObjectTransferSlot.age slot ≤ ObjectTransferSlot.age (released slot) := by
  unfold released
  split
  · exact Nat.le_refl _
  have le := phase_le slot.state
  have two := phase_closedState slot.generation
  simp only [ObjectTransferSlot.age, ObjectTransferSlot.closedAt_generation,
    ObjectTransferSlot.closedAt_state]
  omega

lemma Effect.age_le (effect : Effect table pinned e table' pinned')
    (j : Fin kObjectTransferTableCapacity) :
    ObjectTransferSlot.age (table.slots j) ≤ ObjectTransferSlot.age (table'.slots j) := by
  cases effect with
  | quiet | closeAgain => exact Nat.le_refl _
  | claim _ _ _ _ row =>
    refine age_setSlot ?_ j
    rw [row]
    exact Nat.le_succ _
  | pin _ _ _ _ _ _ row | unpin _ _ _ _ _ row =>
    exact age_setSlot (by rw [row]; exact Nat.le_refl _) j
  | mark _ _ owns _ _ _ _ row =>
    refine age_setSlot ?_ j
    rw [row]
    rcases owns with rfl | rfl
    · exact Nat.le_succ _
    · exact Nat.le_refl _
  | @release _ _ decoded state _ _ _ _ owns _ row =>
    refine age_setSlot ?_ j
    rw [row]
    have le := phase_le state
    have two := phase_closedState decoded.generation
    simp only [ObjectTransferSlot.age, ObjectTransferSlot.owning_generation,
      ObjectTransferSlot.owning_state, ObjectTransferSlot.closedAt_generation,
      ObjectTransferSlot.closedAt_state]
    omega
  | closeBusy => exact age_closeBegin table j
  | closeDone => exact (age_closeBegin table j).trans (age_released _)

def Dead (reference : ObjectTransferRef) (s : State) : Prop :=
  (∀ decoded, decodeTransferRefNospec reference = some decoded →
    3 * decoded.generation + 1 ≤ ObjectTransferSlot.age (s.table.slots decoded.slot)) ∨
  s.table.state ≠ .open

lemma Effect.state_ne_open (effect : Effect table pinned e table' pinned')
    (shut : table.state ≠ .open) :
    table'.state ≠ .open := by
  cases effect with
  | closeBusy =>
    rw [closeBegin, if_neg shut]
    exact shut
  | closeDone => exact nofun
  | _ => exact shut

lemma Dead.mono (inv : Inv s) (dead : Dead reference s) (st : Step s e s') : Dead reference s' := by
  have effect := st.effect inv
  rcases dead with past | shut
  · exact .inl fun decoded decodes => (past decoded decodes).trans (effect.age_le decoded.slot)
  · exact .inr (effect.state_ne_open shut)

lemma dead_of_age (decodes : decodeTransferRefNospec reference = some decoded)
    (past : 3 * decoded.generation + 1 ≤ ObjectTransferSlot.age (table.slots decoded.slot)) :
    Dead reference ⟨table, inflight⟩ := by
  refine .inl fun decoded' decodes' => ?_
  cases decodes.symm.trans decodes'
  exact past

lemma Effect.invalidates_dead (inv : Pinned table pinned)
    (effect : Effect table pinned e table' pinned')
    (invalidates : e.invalidates reference) : Dead reference ⟨table', inflight⟩ := by
  cases effect with
  | quiet q =>
    cases q with
    | @revoke _ status ne nb =>
      cases status with
      | ok => exact absurd rfl ne
      | busy => exact absurd rfl nb
      | _ => cases invalidates
    | _ => cases invalidates
  | mark decodes _ _ _ _ _ _ _ =>
    cases of_decide_eq_true invalidates
    refine dead_of_age decodes ?_
    rw [ObjectTransferTable.setSlot_slots_self]
    exact Nat.le_refl _
  | release decodes _ _ _ _ =>
    cases of_decide_eq_true invalidates
    refine dead_of_age decodes ?_
    rw [ObjectTransferTable.setSlot_slots_self]
    simp only [ObjectTransferSlot.age, ObjectTransferSlot.closedAt_generation,
      ObjectTransferSlot.closedAt_state, phase_closedState]
    omega
  | closeAgain closed => exact .inr fun isOpen => by cases closed.symm.trans isOpen
  | closeBusy unfinished =>
    refine .inr fun isOpen => ?_
    cases (inv.closeBegin_state unfinished).symm.trans isOpen
  | closeDone => exact .inr nofun
  | _ => cases invalidates

lemma Effect.pins_alive {table pinned e table' pinned' inflight reference}
    (effect : Effect table pinned e table' pinned') (pins : e.pins reference) :
    ¬Dead reference ⟨table, inflight⟩ := by
  cases effect with
  | quiet q => cases q <;> cases pins
  | pin decodes isOpen _ _ _ _ row =>
    cases of_decide_eq_true pins
    rintro (past | shut)
    · have le := past _ decodes
      rw [row] at le
      exact absurd le (Nat.not_succ_le_self _)
    · exact shut isOpen
  | _ => cases pins

lemma Step.holds_le (inv : Inv s) (dead : Dead reference s) (st : Step s e s') :
    tally (InFlight.holds reference) s'.inflight + (if e.imports reference then 1 else 0) ≤
      tally (InFlight.holds reference) s.inflight := by
  have alive : e.pins reference → False := fun pins =>
    @Effect.pins_alive _ _ _ _ _ s.inflight _ (st.effect inv) pins dead
  cases st with
  | @importPin _ _ _ pinned =>
    have other : ¬pinned = reference := fun eq => alive (decide_eq_true eq)
    simp [InFlight.holds, Event.imports, other]
  | _ => simp [InFlight.holds, Event.imports]

def owned (table : ObjectTransferTable) : Multiset KObject :=
  gather ObjectTransferSlot.object table.slots

lemma Pinned.owned_eq_detached (inv : Pinned table pinned) :
    owned table = (closeIndices.filterMap fun index =>
      (table.slots index).object : List KObject) := by
  have sentinel : (table.slots ⟨0, by decide⟩).object = none := inv.sentinel _ rfl
  have split : List.finRange kObjectTransferTableCapacity = ⟨0, by decide⟩ :: closeIndices := rfl
  rw [owned, gather_eq_filterMap, split]
  exact congrArg _ (List.filterMap_cons_none
    (f := fun index => (table.slots index).object) sentinel)

lemma Effect.conserves (inv : Pinned table pinned) (effect : Effect table pinned e table' pinned') :
    owned table' + e.released = owned table + e.exported := by
  cases effect with
  | quiet q => cases q <;> rfl
  | claim _ _ _ _ row | pin _ _ _ _ _ _ row | unpin _ _ _ _ _ row | mark _ _ _ _ _ _ _ row
  | release _ _ _ _ row => exact gather_update (by rw [row]; rfl)
  | closeAgain => rfl
  | closeBusy =>
    have same : owned (closeBegin table) = owned table :=
      gather_congr fun j => (inv.closeBegin_row j).1
    rw [same]
    rfl
  | closeDone _ zero =>
    have emptied := inv.closeDone zero
    rw [inv.owned_eq_detached]
    refine (add_comm (G := Multiset KObject) _ _).trans (congrArg _ ?_)
    exact gather_eq_zero (emptied.closed rfl)

lemma keeps_setSlot {table : ObjectTransferTable} {index j slot}
    (keeps : 0 < (table.slots index).acquisitionPins → slot.object = (table.slots index).object ∧
      slot.generation = (table.slots index).generation)
    (held : 0 < (table.slots j).acquisitionPins) :
    ((table.setSlot index slot).slots j).object = (table.slots j).object ∧
      ((table.setSlot index slot).slots j).generation = (table.slots j).generation := by
  by_cases eq : j = index
  · subst eq
    rw [ObjectTransferTable.setSlot_slots_self]
    exact keeps held
  · rw [ObjectTransferTable.setSlot_slots_of_ne _ eq]
    exact ⟨rfl, rfl⟩

lemma Effect.pinned_row (inv : Pinned table pinned)
    (effect : Effect table pinned e table' pinned') {j : Fin kObjectTransferTableCapacity}
    (held : 0 < (table.slots j).acquisitionPins) :
    (table'.slots j).object = (table.slots j).object ∧ (table'.slots j).generation =
    (table.slots j).generation := by
  cases effect with
  | quiet | closeAgain => exact ⟨rfl, rfl⟩
  | claim _ _ _ _ row | pin _ _ _ _ _ _ row | unpin _ _ _ _ _ row | mark _ _ _ _ _ _ _ row
  | release _ _ _ _ row => exact keeps_setSlot (by simp [row]) held
  | closeBusy =>
    obtain ⟨object, generation, _⟩ := inv.closeBegin_row j
    exact ⟨object, generation⟩
  | closeDone _ zero =>
    have le := le_sum table.slots j (·.acquisitionPins)
    have total := inv.active
    omega

lemma RowOk.owns_iff (ok : RowOk slot) :
    (slot.state = .live ∨ slot.state = .closing) ↔ ∃ object, slot.object = some object := by
  constructor
  · intro owns
    by_contra unowned
    have empty : slot.object = none := by
      by_contra held
      exact unowned (Option.ne_none_iff_exists'.mp held)
    obtain ⟨_, live, closing⟩ := ok.of_none empty
    rcases owns with eq | eq
    · exact live eq
    · exact closing eq
  · rintro ⟨object, owned⟩
    obtain ⟨_, _, owns, _⟩ := ok.of_object owned
    exact owns

lemma Run.conserves (initialized : (objectTransferTableInitialize .zero firstGeneration).1 = .ok)
    (run : Run (State.init firstGeneration) es s) :
    owned s.table + (es.map Event.released).sum = (es.map Event.exported).sum := by
  have start : owned (State.init firstGeneration).table = 0 := by
    rw [(State.init_table initialized).2.2]
    exact gather_eq_zero fun _ => rfl
  have balance := run.conserved (h := fun s => owned s.table) (p := Event.exported)
    (q := Event.released) (Inv.init initialized) Step.preserves
    fun inv st => (st.effect inv).conserves inv.pinned
  rw [start, zero_add] at balance
  exact balance

/-- After a reference is dead, the imports of it that return a handle were holding its pin. -/
lemma Run.imports_le (run : Run s es t) (inv : Inv s) (dead : Dead reference s) :
    es.countP (Event.imports reference) ≤ tally (InFlight.holds reference) s.inflight := by
  have all : Inv t ∧ Dead reference t ∧
      tally (InFlight.holds reference) t.inflight + es.countP (Event.imports reference) ≤
        tally (InFlight.holds reference) s.inflight := by
    induction run with
    | nil => exact ⟨inv, dead, Nat.le_refl _⟩
    | snoc _ st ih =>
      obtain ⟨inv, dead, ih⟩ := ih
      refine ⟨st.preserves inv, dead.mono inv st, ?_⟩
      have step := st.holds_le inv dead
      simp only [List.countP_append, List.countP_singleton]
      omega
  exact Nat.le_trans (Nat.le_add_left _ _) all.2.2

/-- No section of a run reports corruption: no close, and no re-validation of an import. -/
lemma Run.no_corruption
    (initialized : (objectTransferTableInitialize .zero firstGeneration).1 = .ok)
    (run : Run (State.init firstGeneration) es s) :
    (∀ detached, Event.close .corruptState detached ∉ es) ∧
      ∀ reference retained, Event.importUnpin reference retained false ∉ es := by
  have effects : ∀ e ∈ es, ∃ table pinned table' pinned', Effect table pinned e table' pinned' := by
    intro e mem
    obtain ⟨before, after, rfl⟩ := List.append_of_mem mem
    obtain ⟨t, t', run1, st, _⟩ := run.split_at
    exact ⟨_, _, _, _, st.effect (Run.inv initialized run1)⟩
  refine ⟨fun detached mem => ?_, fun reference retained mem => ?_⟩
  all_goals
    obtain ⟨_, _, _, _, effect⟩ := effects _ mem
    cases effect with
    | quiet q => cases q

/-- In every state any interleaving reaches on an initialised table: `activeOperations` is the
number of pins; a row owns one reference exactly while it is live or closing; no step clears a
pinned row; neither a close nor the re-validation of an import has reported corruption; the
references exported so far are exactly those rows still own and those released by a revoke or close;
and once a revoke has marked the row of a reference, or a close has begun, no import pins the
reference again and only imports that already held its pin return a handle. -/
theorem transfer_rows_released_once {firstGeneration es s}
    (initialized : (objectTransferTableInitialize .zero firstGeneration).1 = .ok)
    (run : Run (State.init firstGeneration) es s) :
    s.table.activeOperations = ∑ index, (s.table.slots index).acquisitionPins ∧
    (∀ index, ((s.table.slots index).state = .live ∨ (s.table.slots index).state = .closing) ↔
      ∃ object, (s.table.slots index).object = some object) ∧
    (∀ e s', Step s e s' → ∀ index : Fin kObjectTransferTableCapacity,
      0 < (s.table.slots index).acquisitionPins →
        (s'.table.slots index).object = (s.table.slots index).object ∧
        (s'.table.slots index).generation = (s.table.slots index).generation) ∧
    (∀ detached, Event.close .corruptState detached ∉ es) ∧
    (∀ reference retained, Event.importUnpin reference retained false ∉ es) ∧
    (es.map Event.exported).sum = owned s.table + (es.map Event.released).sum ∧
    (s.table.state = .closed → owned s.table = 0) ∧
    (∀ reference before kill after t t', es = before ++ kill :: after →
      Run (State.init firstGeneration) before t → Step t kill t' → Run t' after s →
      kill.invalidates reference → (∀ e ∈ after, e.pins reference = false) ∧
        after.countP (Event.imports reference) ≤ tally (InFlight.holds reference) t'.inflight) := by
  have inv := Run.inv initialized run
  refine ⟨inv.pinned.active, fun index => (inv.pinned.ok.rows index).owns_iff,
    fun e s' st index held => ?_, (Run.no_corruption initialized run).1,
    (Run.no_corruption initialized run).2, (Run.conserves initialized run).symm,
    fun closed => ?_, ?_⟩
  · exact (st.effect inv).pinned_row inv.pinned held
  · exact gather_eq_zero (inv.pinned.closed closed)
  · rintro reference before kill after t t' rfl run1 st run2 invalidates
    have inv1 := Run.inv initialized run1
    have dead : Dead reference t' := (st.effect inv1).invalidates_dead inv1.pinned invalidates
    refine ⟨fun e mem => ?_, Run.imports_le run2 (st.preserves inv1) dead⟩
    obtain ⟨between, rest, rfl⟩ := List.append_of_mem mem
    by_contra pins
    exact run.never_after (P := Dead reference) (Inv.init initialized) Step.preserves
      (fun inv dead st => dead.mono inv st)
      (fun inv st => (st.effect inv).invalidates_dead inv.pinned invalidates)
      (fun inv st => (st.effect inv).pins_alive (eq_true_of_ne_false pins))

/-- An event object, exported with the right to wait on it. -/
def sampleObject : KObject := ⟨7, .event⟩

def sampleAuthority : ObjectTransferAuthority :=
  ⟨.event, kHandleRightWait, ⟨1, 0, Vector.replicate 32 0, kObjectTransferMetadataSealed, 0⟩⟩

def sampleSnapshot : RetainedSnapshot := ⟨sampleObject, typeAllowedRights .event⟩

/-- Export; start an import; revoke while the import holds its pin; let the import finish. -/
def sampleEvents : List Event :=
  [.exportPin 0 4097 sampleAuthority (.ok sampleSnapshot),
   .exportUnpin 0 HandleTable.sampleToken (.ok sampleSnapshot),
   .exportClaim 0 4097 sampleAuthority sampleObject (.ok 65),
   .importReserve 65 1 .event kHandleRightWait (.ok ⟨4097, 1⟩),
   .importPin 65 .event kHandleRightWait (.ok (sampleObject, sampleAuthority.metadata)),
   .revoke 65 .busy none,
   .importUnpin 65 true true,
   .importPublish 65 1 ⟨4097, 1⟩ sampleObject (.ok 4097)
     (some ⟨.ok, .ok, 4097, ⟨.event, kHandleRightWait, sampleAuthority.metadata⟩⟩)]

lemma sampleEvents_run : ∃ s, Run (State.init 1) sampleEvents s :=
  ⟨_, .snoc (.snoc (.snoc
    (.snoc (.snoc (.snoc (.snoc (.snoc .nil (.exportPin rfl rfl)) .exportUnpin)
    (.exportClaim rfl)) (.importReserve rfl)) (.importPin rfl)) (.revoke rfl)) (.importUnpin rfl))
    .importPublished⟩

theorem transfer_rows_released_once_sample : (objectTransferTableInitialize .zero 1).1 = .ok ∧
      ∃ s, Run (State.init 1) sampleEvents s ∧ s.table.activeOperations =
          ∑ index, (s.table.slots index).acquisitionPins ∧
            ({sampleObject} : Multiset KObject) = owned s.table + 0 := by
  have initialized : (objectTransferTableInitialize .zero 1).1 = .ok := rfl
  obtain ⟨s, run⟩ := sampleEvents_run
  obtain ⟨active, _, _, _, _, conserved, _⟩ := transfer_rows_released_once initialized run
  exact ⟨initialized, s, run, active, conserved⟩

end DuetOS.ObjectTransfer
