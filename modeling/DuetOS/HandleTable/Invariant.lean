import DuetOS.HandleTable.Effect

/-!
# The accounting invariant is preserved

`Inv.write` is the common part of every effect that rewrites one row: the rows, pins and closers of
the other rows are untouched, and only the counts of the written row have to be compared. The drain
effects change the table's state or all rows at once and are proved on their own.
-/

namespace DuetOS.HandleTable

open Word Bag Multiset InFlight
open scoped BigOperators

lemma Inv.index_pos (inv : Inv s) (used : (s.table.slots index).state ≠ .free) : 0 < index.val := by
  by_contra zero
  exact used (inv.sentinel index (by omega))

lemma HandleSlot.closedAt_state_ne : (HandleSlot.closedAt generation).state ≠ .closing := by
  rw [HandleSlot.closedAt_state]
  split <;> simp

/-- A call keeps its knowledge when a row is written that keeps what the call relies on. -/
lemma InFlight.Ok.write {op : InFlight} {table table' index} (known : op.Ok table)
    (unseen : op.sawQuiescence = false)
    (others : ∀ j, j ≠ index → table'.slots j = table.slots j)
    (obj : op.pinsSlot index → (table'.slots index).obj = (table.slots index).obj)
    (generation : op.closesSlot index →
      (table'.slots index).generation = (table.slots index).generation)
    : op.Ok table' := by
  cases op with
  | retaining decoded snapshot =>
    by_cases eq : decoded.slot = index
    · subst eq
      exact (obj (decide_eq_true rfl)).trans known
    · exact (congrArg HandleSlot.obj (others _ eq)).trans known
  | detaching decoded =>
    by_cases eq : decoded.slot = index
    · subst eq
      exact (generation (decide_eq_true rfl)).trans known
    · exact (congrArg HandleSlot.generation (others _ eq)).trans known
  | adopting decoded replacement rights =>
    obtain ⟨same, rest⟩ := known
    by_cases eq : decoded.slot = index
    · subst eq
      exact ⟨(generation (decide_eq_true rfl)).trans same, rest⟩
    · exact ⟨(congrArg HandleSlot.generation (others _ eq)).trans same, rest⟩
  | drainPolling | drainWaiting => trivial
  | drainDetaching | drainReleasing => cases unseen

/-- Writing one row of an open or active table preserves the invariant when the counts of that row
are kept. -/
lemma Inv.write {table inflight inflight' nonce nonce' hint active}
    {index : Fin kHandleTableCapacity} {slot}
    (inv : Inv ⟨table, inflight, nonce⟩) (busy : table.state = .open ∨ 0 < table.activeOperations)
    (pos : 0 < index.val) (rowOk : RowOk slot) (hintOk : hint < kHandleTableCapacity)
    (activeOk : active ≤ max32)
    (pins : slot.acquisitionPins = tally (pinsSlot index) inflight')
    (otherPins : ∀ j, j ≠ index → tally (pinsSlot j) inflight' = tally (pinsSlot j) inflight)
    (closing : tally (closesSlot index) inflight' = if slot.state = .closing then 1 else 0)
    (otherClosing : ∀ j, j ≠ index → tally (closesSlot j) inflight' = tally (closesSlot j) inflight)
    (total : active + (table.slots index).acquisitionPins + tally closes inflight =
      table.activeOperations + slot.acquisitionPins + tally closes inflight')
    (drain : tally ownsDrain inflight' = tally ownsDrain inflight)
    (calls : ∀ op ∈ inflight', op ∈ inflight ∧
      (op.pinsSlot index → slot.obj = (table.slots index).obj) ∧
      (op.closesSlot index → slot.generation = (table.slots index).generation) ∨
        op.Ok { table.setSlot index slot with
          nextFreeHint := hint, activeOperations := active }) :
    Inv ⟨{ table.setSlot index slot with nextFreeHint := hint, activeOperations := active },
      inflight', nonce'⟩ := by
  have self := table.setSlot_slots_self index slot
  have others : ∀ j, j ≠ index → (table.setSlot index slot).slots j = table.slots j :=
    fun j ne => table.setSlot_slots_of_ne ne slot
  refine ⟨⟨fun j => ?_, hintOk, activeOk⟩, fun j zero => ?_, fun j => ?_, fun j => ?_, ?_, ?_,
    fun op mem => ?_, fun closed => ?_⟩
  · by_cases eq : j = index
    · subst eq
      exact self.symm ▸ rowOk
    · exact (others j eq).symm ▸ inv.ok.rows j
  · have ne : j ≠ index := fun eq => by
      omega
    exact (congrArg HandleSlot.state (others j ne)).trans (inv.sentinel j zero)
  · by_cases eq : j = index
    · subst eq
      exact (congrArg HandleSlot.acquisitionPins self).trans pins
    · exact ((congrArg HandleSlot.acquisitionPins (others j eq)).trans (inv.pins j)).trans
        (otherPins j eq).symm
  · by_cases eq : j = index
    · subst eq
      rw [self]
      exact closing
    · rw [others j eq]
      exact (otherClosing j eq).trans (inv.closing j)
  · have sum := Slots.sum_update table.slots index slot (·.acquisitionPins)
    have before : table.activeOperations =
      ∑ j, (table.slots j).acquisitionPins + tally closes inflight := inv.active
    show active = ∑ j,
      (Function.update table.slots index slot j).acquisitionPins + tally closes inflight'
    omega
  · exact drain.trans inv.drain
  · rcases calls op mem with ⟨old, obj, generation⟩ | known
    · exact (inv.calls op old).write (inv.not_sawQuiescence busy old) others
        (fun h => (congrArg HandleSlot.obj self).trans (obj h))
        (fun h => (congrArg HandleSlot.generation self).trans (generation h))
    · exact known
  · have none_active := (inv.closed closed).1
    rcases busy with isOpen | active
    · cases isOpen.symm.trans closed
    · exact absurd none_active (Nat.ne_of_gt active)

/-- Writing one row, with no call entering or leaving, preserves the invariant when the row keeps
its pins, keeps its object while pinned, and is not closing before or after. -/
lemma Inv.rewrite (inv : Inv ⟨table, inflight, nonce⟩)
    (isOpen : table.state = .open) (pos : 0 < index.val) (rowOk : RowOk slot)
    (hintOk : hint < kHandleTableCapacity)
    (row : table.slots index = before) (pins : slot.acquisitionPins = before.acquisitionPins)
    (old : before.state ≠ .closing) (new : slot.state ≠ .closing)
    (obj : 0 < before.acquisitionPins → slot.obj = before.obj) :
    Inv ⟨{ table.setSlot index slot with nextFreeHint := hint }, inflight, nonce'⟩ := by
  subst row
  refine inv.write (.inl isOpen) pos rowOk hintOk inv.ok.active (pins.trans (inv.pins index))
    (fun _ _ => rfl) ?_ (fun _ _ => rfl) (by rw [pins]; rfl) rfl fun op mem => .inl ⟨mem, ?_, ?_⟩
  · rw [if_neg new]
    exact (inv.closing index).trans (if_neg old)
  · exact fun h => obj (inv.pinned_of_mem mem h)
  · exact fun h => absurd (inv.closing_of_mem mem h) old

/-- `op` is the detach or adopt-replace that marked the row of `decoded`. -/
inductive InFlight.Closer (decoded : DecodedHandle) : InFlight → Prop where
  | detaching : Closer decoded (.detaching decoded)
  | adopting : Closer decoded (.adopting decoded replacement rights)

lemma InFlight.Closer.tests (closer : InFlight.Closer decoded op) :
    (∀ index, op.pinsSlot index = false) ∧
    (∀ index, op.closesSlot index = decide (decoded.slot = index)) ∧
      op.closes ∧ op.ownsDrain = false := by
  cases closer with
  | detaching | adopting => exact ⟨fun _ => rfl, fun _ => rfl, rfl, rfl⟩

/-- Marking a live row closing, with its closer now in progress, preserves the invariant. -/
lemma Inv.mark {table inflight nonce op decoded pins obj rights}
    (inv : Inv ⟨table, inflight, nonce⟩) (closer : InFlight.Closer decoded op)
    (isOpen : table.state = .open) (active : table.activeOperations < max32)
    (rowOk : RowOk (.owning .closing decoded.generation pins obj rights))
    (row : table.slots decoded.slot = .owning .live decoded.generation pins obj rights)
    (known : op.Ok
      { table.setSlot decoded.slot (.owning .closing decoded.generation pins obj rights)
      with activeOperations := table.activeOperations + 1 }) :
    Inv ⟨{ table.setSlot decoded.slot (.owning .closing decoded.generation pins obj rights) with
      activeOperations := table.activeOperations + 1 }, op ::ₘ inflight, nonce⟩ := by
  obtain ⟨noPin, closes, isCloser, noDrain⟩ := closer.tests
  have pos : 0 < decoded.slot.val := inv.index_pos (by simp [row])
  have counted := inv.pins decoded.slot
  have unclosed := inv.closing decoded.slot
  simp only [row, HandleSlot.owning_acquisitionPins, HandleSlot.owning_state] at counted unclosed
  refine inv.write (.inl isOpen) pos rowOk inv.ok.hint active ?_ (fun j ne => ?_) ?_
    (fun j ne => ?_) ?_ ?_ fun op mem => ?_
  · simpa [noPin] using counted
  · simp [noPin]
  · simpa [closes] using unclosed
  · simp [closes, ne.symm]
  · simp [isCloser, row]
    omega
  · simp [noDrain]
  · rcases mem_cons.mp mem with rfl | mem
    · exact .inr known
    · exact .inl ⟨mem, by simp [row], by simp [row]⟩

/-- Finishing a closer on its unpinned row preserves the invariant when the row written back is
unpinned and not closing. -/
lemma Inv.finish (inv : Inv ⟨table, op ::ₘ inflight, nonce⟩)
    (closer : InFlight.Closer decoded op) (active : 0 < table.activeOperations) (rowOk : RowOk slot)
    (unpinned : slot.acquisitionPins = 0) (reopened : slot.state ≠ .closing)
    (row : table.slots decoded.slot = .owning .closing decoded.generation 0 obj rights) :
    Inv ⟨{ table.setSlot decoded.slot slot with
      activeOperations := table.activeOperations - 1 }, inflight, nonce⟩ := by
  obtain ⟨noPin, closes, isCloser, noDrain⟩ := closer.tests
  have pos : 0 < decoded.slot.val := inv.index_pos (by simp [row])
  have counted := inv.pins decoded.slot
  have one := inv.closing decoded.slot
  simp [row, noPin, closes] at counted one
  refine inv.write (.inr active) pos rowOk inv.ok.hint
    (Nat.le_trans (Nat.sub_le _ _) inv.ok.active) ?_ (fun j ne => ?_) ?_ (fun j ne => ?_) ?_ ?_
    fun op mem => ?_
  · exact unpinned.trans counted
  · simp [noPin]
  · rw [if_neg reopened]
    exact one
  · simp [closes, ne.symm]
  · simp [isCloser, row, unpinned]
    omega
  · simp [noDrain]
  · refine .inl ⟨mem_cons_of_mem mem, fun pins => ?_, fun closes => ?_⟩
    · have := tally_pos mem pins
      omega
    · have := tally_pos mem closes
      omega

lemma Inv.closeRows_slots (inv : Inv ⟨table, inflight, nonce⟩) (index) :
    (table.closeRows drainIndices).slots index = .closedAt (table.slots index).generation := by
  by_cases pos : 0 < index.val
  · exact if_pos (mem_drainIndices.mpr pos)
  · have free := inv.sentinel index (by omega)
    refine (if_neg fun mem => pos (mem_drainIndices.mp mem)).trans ?_
    exact ((inv.ok.rows index).of_free free).1

/-- The invariant reads the calls in progress through its tallies alone. -/
lemma Inv.reframe (inv : Inv ⟨table, inflight, nonce⟩)
    (pins : ∀ index, tally (pinsSlot index) inflight' = tally (pinsSlot index) inflight)
    (closing : ∀ index, tally (closesSlot index) inflight' = tally (closesSlot index) inflight)
    (closes : tally closes inflight' = tally closes inflight)
    (drain : tally ownsDrain inflight' = tally ownsDrain inflight)
    (calls : ∀ op ∈ inflight', op.Ok table) : Inv ⟨table, inflight', nonce⟩ :=
  { inv with
    pins index := (inv.pins index).trans (pins index).symm
    closing index := (closing index).trans (inv.closing index)
    active := by
      rw [closes]
      exact inv.active
    drain := drain.trans inv.drain
    calls }

/-- Detaching every row of a quiescent draining table preserves the invariant. -/
lemma Inv.drainDetach (inv : Inv ⟨table, .drainDetaching ::ₘ inflight, nonce⟩)
    (draining : table.state = .draining)
    (zero : table.activeOperations = 0) :
    Inv ⟨table.closeRows drainIndices, .drainReleasing victims ::ₘ inflight, nonce⟩ := by
  have rows := inv.closeRows_slots
  have emptied : Emptied (table.closeRows drainIndices) := fun j => by rw [rows j]; rfl
  have quiet := inv.quiescent zero
  have pins := inv.pins
  have closing := inv.closing
  have active := inv.active
  refine ⟨⟨fun j => ?_, inv.ok.hint, inv.ok.active⟩, fun j index_zero => ?_, fun j => ?_,
    fun j => ?_,
    ?_, ?_, fun op mem => ?_, fun closed => by cases draining.symm.trans closed⟩
  · rw [rows j]
    exact .closed (inv.ok.rows j).generation_le
  · rw [rows j, ← ((inv.ok.rows j).of_free (inv.sentinel j index_zero)).1]
    exact inv.sentinel j index_zero
  · rw [rows j]
    have none_pinned := pins j
    rw [(quiet j).2] at none_pinned
    simpa [pinsSlot] using none_pinned
  · rw [rows j, if_neg HandleSlot.closedAt_state_ne]
    have none_closing := closing j
    rw [if_neg (quiet j).1] at none_closing
    simpa [closesSlot] using none_closing
  · have none_active : tally closes inflight = 0 := by
      simp [closes, zero] at active
      omega
    simp [rows, closes, none_active]
    exact zero
  · have owned := inv.drain
    simp [ownsDrain, draining] at owned
    simp [ownsDrain, HandleTable.closeRows, draining, owned]
  · rcases mem_cons.mp mem with rfl | mem
    · exact ⟨zero, emptied⟩
    · have mem := mem_cons_of_mem (b := InFlight.drainDetaching) mem
      -- a quiescent table has no lookup and no closer in progress
      cases op with
      | retaining decoded _ =>
        have pinned := inv.pinned_of_mem mem (decide_eq_true (rfl : decoded.slot = _))
        exact absurd (quiet decoded.slot).2 (Nat.ne_of_gt pinned)
      | detaching | adopting => exact absurd zero (Nat.ne_of_gt (inv.active_of_closes mem rfl))
      | drainPolling | drainWaiting => trivial
      | drainDetaching => exact zero
      | drainReleasing => exact ⟨zero, emptied⟩

lemma Effect.preserves (inv : Inv s) (effect : Effect s e s') : Inv s' := by
  cases effect with
  | quiet => exact { inv with }
  | rights | checkRight => exact inv
  | @insert table _ _ obj _ generation index ok isOpen pos lt row =>
    exact inv.rewrite isOpen pos (.live ⟨Nat.succ_pos _, lt⟩ (Nat.zero_le _) ok) index.isLt row rfl
      HandleSlot.closedAt_state_ne (by simp) fun pinned => absurd pinned (Nat.lt_irrefl 0)
  | @reserve table _ _ _ _ _ generation index ok concrete ne isOpen pos lt row =>
    exact inv.rewrite isOpen pos (.reserved ⟨Nat.succ_pos _, lt⟩ ne concrete ok) index.isLt row rfl
      HandleSlot.closedAt_state_ne (by simp) fun pinned => absurd pinned (Nat.lt_irrefl 0)
  | @publish table _ _ _ obj decoded _ _ decodes isOpen gen ok row =>
    have pos : 0 < decoded.slot.val := inv.index_pos (by simp [row])
    exact inv.rewrite isOpen pos (.live gen (Nat.zero_le _) ok) inv.ok.hint row rfl
      (by simp) (by simp)
      fun pinned => absurd pinned (Nat.lt_irrefl 0)
  | @abort table _ _ _ decoded _ _ decodes isOpen gen row =>
    have pos : 0 < decoded.slot.val := inv.index_pos (by simp [row])
    exact inv.rewrite isOpen pos (.closed gen.2) inv.ok.hint row rfl (by simp)
      HandleSlot.closedAt_state_ne fun pinned => absurd pinned (Nat.lt_irrefl 0)
  | @replace table _ _ _ _ decoded pins obj _ decodes isOpen gen lt le ok ne sub row =>
    have pos : 0 < decoded.slot.val := inv.index_pos (by simp [row])
    exact inv.rewrite isOpen pos (.live ⟨Nat.succ_pos _, lt⟩ le ⟨ne, sub.trans ok.2⟩) inv.ok.hint
      row rfl (by simp)
      (by simp) fun _ => rfl
  | @pin table inflight _ _ _ _ decoded pins obj rights decodes isOpen gen lt ok active row =>
    have pos : 0 < decoded.slot.val := inv.index_pos (by simp [row])
    have counted := inv.pins decoded.slot
    have unclosed := inv.closing decoded.slot
    simp only [row, HandleSlot.owning_acquisitionPins, HandleSlot.owning_state] at counted unclosed
    refine inv.write (.inl isOpen) pos (.live gen lt ok) inv.ok.hint active ?_ (fun j ne => ?_) ?_
      (fun j ne => ?_) ?_ ?_ fun op mem => ?_
    · simp [pinsSlot, counted]
    · simp [pinsSlot, ne.symm]
    · simpa [closesSlot] using unclosed
    · simp [closesSlot]
    · simp [closes, row]
      omega
    · simp [ownsDrain]
    · rcases mem_cons.mp mem with rfl | mem
      · exact .inr (by simp [InFlight.Ok, HandleTable.setSlot])
      · exact .inl ⟨mem, by simp [row], by simp [row]⟩
  | @unpin table inflight _ decoded snapshot _ state generation pins rights used gen lt ok
    active row =>
    have pos : 0 < decoded.slot.val := inv.index_pos (by rcases used with rfl | rfl <;> simp [row])
    have rowOk : RowOk (.owning state generation pins snapshot.obj rights) := by
      rcases used with rfl | rfl
      · exact .live gen (Nat.le_of_lt lt) ok
      · exact .closing gen (Nat.le_of_lt lt) ok
    have counted := inv.pins decoded.slot
    have unclosed := inv.closing decoded.slot
    have bound := inv.ok.active
    simp [row, pinsSlot, closesSlot] at counted unclosed
    refine inv.write (.inr active) pos rowOk inv.ok.hint (Nat.le_trans (Nat.sub_le _ _) bound) ?_
      (fun j ne => ?_) ?_ (fun j ne => ?_) ?_ ?_ fun op mem => ?_
    · exact counted
    · simp [pinsSlot, ne.symm]
    · exact unclosed
    · simp [closesSlot]
    · simp [closes, row]
      omega
    · simp [ownsDrain]
    · exact .inl ⟨mem_cons_of_mem mem, by simp [row], by simp [row]⟩
  | detachMark decodes isOpen gen le ok active row =>
    exact inv.mark .detaching isOpen active (.closing gen le ok) row
      (by simp [InFlight.Ok, HandleTable.setSlot])
  | detachFinish gen active row =>
    exact inv.finish .detaching active (.closed gen.2) rfl HandleSlot.closedAt_state_ne row
  | adoptMark decodes isOpen gen lt le ok new active row =>
    exact inv.mark .adopting isOpen active (.closing gen le ok) row
      ⟨by simp [HandleTable.setSlot], lt, inv.index_pos (by simp [row]), new⟩
  | adoptFinish lt pos ok active row =>
    exact inv.finish .adopting active (.live ⟨Nat.succ_pos _, lt⟩ (Nat.zero_le _) ok) rfl
      (by simp) row
  | @drainOwner table inflight _ isOpen =>
    have unowned : tally ownsDrain inflight = 0 := inv.drain.trans (by simp [isOpen])
    refine ⟨⟨inv.ok.rows, inv.ok.hint, inv.ok.active⟩, inv.sentinel, fun j => ?_,
      fun j => ?_, ?_, ?_,
      fun op mem => ?_, fun closed => by cases closed⟩
    · simpa [pinsSlot] using inv.pins j
    · simpa [closesSlot] using inv.closing j
    · simpa [closes] using inv.active
    · simp [ownsDrain, unowned]
    · rcases mem_cons.mp mem with rfl | mem
      · trivial
      · have known := inv.calls op mem
        cases op with
        | _ => exact known
  | drainWaiter =>
    refine inv.reframe (by simp [pinsSlot]) (by simp [closesSlot])
      (by simp [closes]) (by simp [ownsDrain]) fun op mem => ?_
    rcases mem_cons.mp mem with rfl | mem
    · trivial
    · exact inv.calls op mem
  | drainQuiescent zero =>
    refine inv.reframe (by simp [pinsSlot]) (by simp [closesSlot])
      (by simp [closes]) (by simp [ownsDrain]) fun op mem => ?_
    rcases mem_cons.mp mem with rfl | mem
    · exact zero
    · exact inv.calls op (mem_cons_of_mem mem)
  | drainReturn =>
    refine inv.reframe (by simp [pinsSlot]) (by simp [closesSlot])
      (by simp [closes]) (by simp [ownsDrain]) fun op mem => ?_
    exact inv.calls op (mem_cons_of_mem mem)
  | drainDetach draining zero => exact inv.drainDetach draining zero
  | @drainComplete table inflight _ _ draining zero emptied =>
    have owned := inv.drain
    simp [ownsDrain, draining] at owned
    refine ⟨⟨inv.ok.rows, inv.ok.hint, inv.ok.active⟩, inv.sentinel, fun j => ?_,
      fun j => ?_, ?_, ?_,
      fun op mem => ?_, fun _ => ⟨zero, emptied⟩⟩
    · simpa [pinsSlot] using inv.pins j
    · simpa [closesSlot] using inv.closing j
    · simpa [closes] using inv.active
    · simpa using owned
    · have known := inv.calls op (mem_cons_of_mem mem)
      cases op with
      | _ => exact known

lemma Step.preserves (inv : Inv s) (st : Step s e s') : Inv s' := (st.effect inv).preserves inv

lemma Run.inv (run : Run State.init es s) : Inv s := run.invariant Inv.init Step.preserves

end DuetOS.HandleTable
