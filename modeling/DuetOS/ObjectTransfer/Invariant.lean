import DuetOS.ObjectTransfer.Effect

/-!
# The pin invariant is preserved

`Pinned.write` is the common part of the effects that rewrite one row; the close effects rewrite all
rows at once. `Run.inv` is what the rest of the development uses.
-/

namespace DuetOS.ObjectTransfer

open Word Bag Multiset
open scoped BigOperators

lemma Pinned.write {table pinned pinned' hint active index slot} (inv : Pinned table pinned)
    (unfinished : table.state ≠ .closed) (pos : 0 < index.val) (row : table.slots index = before)
    (rowOk : RowOk slot)
    (activeOk : active ≤ max32)
    (pins : slot.acquisitionPins + tally (onSlot index) pinned =
      before.acquisitionPins + tally (onSlot index) pinned')
    (others : ∀ j, j ≠ index → tally (onSlot j) pinned' = tally (onSlot j) pinned)
    (total : active + before.acquisitionPins = table.activeOperations + slot.acquisitionPins)
    (live : slot.state = .live → table.state = .open ∨ before.state = .live)
    (rows : ∀ pin ∈ pinned', pin ∈ pinned ∧ (pin.1.slot = index → slot.object = before.object ∧
          slot.generation = before.generation) ∨
      pin.1.slot = index ∧ slot.object = some pin.2 ∧ slot.generation = pin.1.generation) :
    Pinned { table.setSlot index slot with nextFreeHint := hint, activeOperations := active }
      pinned' := by
  subst row
  have counted := inv.pins index
  have self := table.setSlot_slots_self index slot
  have other : ∀ j, j ≠ index → (table.setSlot index slot).slots j = table.slots j :=
    fun j ne => table.setSlot_slots_of_ne ne slot
  refine ⟨⟨fun j => ?_, activeOk, inv.ok.initialized, inv.ok.ready⟩, fun j zero => ?_,
    fun j => ?_, ?_,
    fun pin mem => ?_, fun shut j => ?_, fun closed => absurd closed unfinished⟩
  · by_cases eq : j = index
    · subst eq
      exact self.symm ▸ rowOk
    · exact (other j eq).symm ▸ inv.ok.rows j
  · have ne : j ≠ index := fun eq => by
      omega
    exact (congrArg ObjectTransferSlot.object (other j ne)).trans (inv.sentinel j zero)
  · by_cases eq : j = index
    · subst eq
      exact (congrArg ObjectTransferSlot.acquisitionPins self).trans (by omega)
    · exact ((congrArg ObjectTransferSlot.acquisitionPins (other j eq)).trans (inv.pins j)).trans
        (others j eq).symm
  · have sum := Slots.sum_update table.slots index slot (·.acquisitionPins)
    have before := inv.active
    show active = ∑ j, (Function.update table.slots index slot j).acquisitionPins
    omega
  · show ((table.setSlot index slot).slots pin.1.slot).object = _ ∧
      ((table.setSlot index slot).slots pin.1.slot).generation = _
    rcases rows pin mem with ⟨old, keeps⟩ | ⟨eq, owned, same⟩
    · by_cases eq : pin.1.slot = index
      · rw [eq, self, (keeps eq).1, (keeps eq).2, ← eq]
        exact inv.rows pin old
      · rw [other _ eq]
        exact inv.rows pin old
    · rw [eq, self]
      exact ⟨owned, same⟩
  · by_cases eq : j = index
    · subst eq
      rw [self]
      intro isLive
      rcases live isLive with isOpen | wasLive
      · exact shut isOpen
      · exact inv.marked shut j wasLive
    · rw [other j eq]
      exact inv.marked shut j

lemma Pinned.index_pos (inv : Pinned table pinned)
    (owned : (table.slots index).object = some object) : 0 < index.val := by
  by_contra zero
  have none := inv.sentinel index (by omega)
  cases none.symm.trans owned

lemma ne_closed_of_open {table : ObjectTransferTable} (isOpen : table.state = .open) :
    table.state ≠ .closed := by
  rw [isOpen]
  nofun

lemma Pinned.ne_closed (inv : Pinned table pinned)
    (owned : (table.slots index).object = some object) : table.state ≠ .closed := by
  intro closed
  cases (inv.closed closed index).symm.trans owned

lemma Pinned.not_onSlot (inv : Pinned table pinned)
    (unpinned : (table.slots index).acquisitionPins = 0) (mem : pin ∈ pinned) :
    pin.1.slot ≠ index := by
  intro eq
  have pos := tally_pos (p := onSlot index) mem (decide_eq_true eq)
  rw [← inv.pins index, unpinned] at pos
  cases pos

lemma Pinned.closeBegin (inv : Pinned table pinned)
    (unfinished : table.state ≠ .closed) : Pinned (closeBegin table) pinned := by
  obtain ⟨active, initialized, _⟩ := closeBegin_frame table
  have state := inv.closeBegin_state unfinished
  refine ⟨⟨fun j => (inv.closeBegin_row j).2.2.2.1, active ▸ inv.ok.active,
    initialized.trans inv.ok.initialized, fun eq => ?_⟩, fun j zero => ?_, fun j => ?_, ?_,
    fun pin mem => ?_, fun _ j => (inv.closeBegin_row j).2.2.2.2, fun closed => ?_⟩
  · cases state.symm.trans eq
  · exact (inv.closeBegin_row j).1.trans (inv.sentinel j zero)
  · exact (inv.closeBegin_row j).2.2.1.trans (inv.pins j)
  · rw [active, inv.active]
    exact Finset.sum_congr rfl fun j _ => (inv.closeBegin_row j).2.2.1.symm
  · obtain ⟨object, generation, _⟩ := inv.closeBegin_row pin.1.slot
    rw [object, generation]
    exact inv.rows pin mem
  · cases state.symm.trans closed

lemma released_row (ok : RowOk slot) :
    RowOk (released slot) ∧ (released slot).object = none ∧ (released slot).acquisitionPins = 0 ∧
      (released slot).state ≠ .live := by
  unfold released
  split
  · rename_i empty
    obtain ⟨unpinned, live, _⟩ := ok.of_none empty
    exact ⟨ok, empty, unpinned, live⟩
  rename_i owned
  obtain ⟨object, eq⟩ := Option.ne_none_iff_exists'.mp owned
  obtain ⟨_, _, _, gen, _⟩ := ok.of_object eq
  refine ⟨.closed gen, rfl, rfl, ?_⟩
  unfold closedState
  split <;> simp

lemma Pinned.closeDone (inv : Pinned table pinned) (zero : table.activeOperations = 0) :
    Pinned { table with
      state := .closed
      slots := fun index => released ((ObjectTransfer.closeBegin table).slots index) } pinned := by
  have unpinned : ∀ j, (table.slots j).acquisitionPins = 0 := fun j => by
    have le := Slots.le_sum table.slots j (·.acquisitionPins)
    have total := inv.active
    omega
  have rows := fun j => released_row (inv.closeBegin_row j).2.2.2.1
  refine ⟨⟨fun j => (rows j).1, inv.ok.active, inv.ok.initialized, nofun⟩, fun j _ => (rows j).2.1,
    fun j => ?_, ?_, fun pin mem => ?_, fun _ j => (rows j).2.2.2, fun _ j => (rows j).2.1⟩
  · exact (rows j).2.2.1.trans ((unpinned j).symm.trans (inv.pins j))
  · exact zero.trans (Finset.sum_eq_zero fun j _ => (rows j).2.2.1).symm
  · exact absurd rfl (inv.not_onSlot (unpinned pin.1.slot) mem)

lemma Effect.preserves (inv : Pinned table pinned)
    (effect : Effect table pinned e table' pinned') : Pinned table' pinned' := by
  cases effect with
  | quiet | closeAgain => exact inv
  | @claim _ _ _ _ _ _ index ok isOpen pos lt row =>
    refine inv.write (ne_closed_of_open isOpen) pos row
      (.owning (.inl rfl) ⟨Nat.succ_pos _, lt⟩ (Nat.zero_le _) ok)
      inv.ok.active rfl (fun _ _ => rfl) rfl (fun _ => .inl isOpen) fun pin mem =>
        .inl ⟨mem, fun eq => ?_⟩
    exact absurd eq (inv.not_onSlot (by rw [row]; rfl) mem)
  | @pin _ _ _ _ decoded pins object authority decodes isOpen gen lt active ok row =>
    refine inv.write (ne_closed_of_open isOpen) (inv.index_pos (by rw [row]; rfl)) row
      (.owning (.inl rfl) gen lt ok) active ?_ (fun j ne => ?_) ?_ (fun _ => .inl isOpen)
        fun pin mem => ?_
    · simp [onSlot]
      omega
    · simp [onSlot, ne.symm]
    · simp
      omega
    · rcases mem_cons.mp mem with rfl | mem
      · exact .inr ⟨rfl, rfl, rfl⟩
      · exact .inl ⟨mem, fun _ => ⟨rfl, rfl⟩⟩
  | @unpin _ _ _ state decoded pins object authority owns gen lt active ok row =>
    have owned : (table.slots decoded.slot).object = some object := by
      rw [row]
      rfl
    refine inv.write (inv.ne_closed owned) (inv.index_pos owned) row
      (.owning owns gen (Nat.le_of_lt lt) ok)
      (Nat.le_trans (Nat.sub_le _ _) inv.ok.active) ?_ (fun j ne => ?_) ?_ (fun live => .inr live)
      fun pin mem => .inl ⟨mem_cons_of_mem mem, fun _ => ⟨rfl, rfl⟩⟩
    · simp [onSlot]
      omega
    · simp [onSlot, ne.symm]
    · simp
      omega
  | @mark _ _ decoded state pins object authority decodes isOpen owns gen le busy ok row =>
    exact inv.write (ne_closed_of_open isOpen) (inv.index_pos (by rw [row]; rfl)) row
      (.owning (.inr rfl) gen le ok)
      inv.ok.active rfl (fun _ _ => rfl) rfl nofun fun pin mem => .inl ⟨mem, fun _ => ⟨rfl, rfl⟩⟩
  | @release _ _ decoded state object authority decodes isOpen owns gen row =>
    refine inv.write (ne_closed_of_open isOpen) (inv.index_pos (by rw [row]; rfl)) row (.closed gen)
      inv.ok.active rfl
      (fun _ _ => rfl) rfl (fun _ => .inl isOpen) fun pin mem => .inl ⟨mem, fun eq => ?_⟩
    exact absurd eq (inv.not_onSlot (by rw [row]; rfl) mem)
  | closeBusy unfinished => exact inv.closeBegin unfinished
  | closeDone _ zero => exact inv.closeDone zero

lemma Step.calls (calls : ∀ op ∈ s.inflight, op.Ok) (st : Step s e s') :
    ∀ op ∈ s'.inflight, op.Ok := by
  intro op mem
  cases st with
  | exportPin check _ =>
    rcases mem_cons.mp mem with rfl | mem
    · exact rightsOk_of_check check
    · exact calls op mem
  | exportUnpin =>
    rcases mem_cons.mp mem with rfl | mem
    · exact calls (.lookingUp ..) (mem_cons_self _ _)
    · exact calls op (mem_cons_of_mem mem)
  | importReserve check =>
    rcases mem_cons.mp mem with rfl | mem
    · exact decodes_of_check check
    · exact calls op mem
  | exportNotRetained | exportClaim | importAbort | importPublished | importUnpublish =>
    exact calls op (mem_cons_of_mem mem)
  | exportRefused | exportNoSource | importRefused | importNoRoom | revoke | close =>
    exact calls op mem
  | _ =>
    rcases mem_cons.mp mem with rfl | mem
    · trivial
    · exact calls op (mem_cons_of_mem mem)

lemma Step.preserves (inv : Inv s) (st : Step s e s') : Inv s' :=
  ⟨(st.effect inv).preserves inv.pinned, st.calls inv.calls⟩

lemma tableIsCanonicalUninitialized_zero : tableIsCanonicalUninitialized .zero := by
  have hash : metadataIsZero .zero := by decide
  simp [tableIsCanonicalUninitialized, ObjectTransferTable.zero, hash]

lemma State.init_table
    (initialized : (objectTransferTableInitialize .zero firstGeneration).1 = .ok) :
    0 < firstGeneration ∧ firstGeneration ≤ kObjectTransferGenerationMax ∧
      (State.init firstGeneration).table =
        { slots := fun index =>
            .closedAt (if index.val = 0 then .retired else .free) (firstGeneration - 1)
          nextFreeHint := 0
          activeOperations := 0
          state := .open
          initialized := 1 } := by
  unfold State.init objectTransferTableInitialize at *
  by_cases range : firstGeneration = 0 ∨ firstGeneration > kObjectTransferGenerationMax
  · rw [if_pos range] at initialized
    cases initialized
  have pos : 0 < firstGeneration := by omega
  have le : firstGeneration ≤ 33554431 := by
    simp only [not_or, not_lt] at range
    exact range.2
  refine ⟨pos, le, ?_⟩
  have previous : sub32 firstGeneration 1 = firstGeneration - 1 := sub32_counter pos (by
    unfold max32
    omega)
  rw [if_neg range, if_neg (by decide),
    if_neg (not_not.mpr tableIsCanonicalUninitialized_zero), previous]
  rfl

lemma Inv.init {firstGeneration}
    (initialized : (objectTransferTableInitialize .zero firstGeneration).1 = .ok) :
    Inv (State.init firstGeneration) := by
  obtain ⟨pos, le, table⟩ := State.init_table initialized
  refine ⟨?_, nofun⟩
  rw [table]
  refine ⟨⟨fun j => ?_, Nat.zero_le _, rfl, nofun⟩, fun _ _ => rfl, fun _ => rfl, ?_,
    nofun, fun shut => absurd rfl shut, nofun⟩
  · dsimp only
    split
    · exact .retired (Nat.le_trans (Nat.sub_le _ _) le)
    · exact .free (Nat.lt_of_lt_of_le (Nat.sub_lt pos Nat.one_pos) le)
  · simp

lemma Run.inv (initialized : (objectTransferTableInitialize .zero firstGeneration).1 = .ok)
    (run : Run (State.init firstGeneration) es s) : Inv s :=
  run.invariant (Inv.init initialized) Step.preserves

end DuetOS.ObjectTransfer
