import DuetOS.ObjectTransfer.Table
import DuetOS.HandleTable.Rows

/-!
# Well-formed transfer rows and what each section does to them

`RowOk` lists the rows that occur: a closed row, free only while a generation is left, and an owning
row, live or closing, with one object reference and the authority it was exported with. Over them
each section of `Table.lean` reports an error and leaves the table alone or performs one row
transition, and none reports `corruptState`.
-/

namespace DuetOS.ObjectTransfer

open Word List
open scoped BigOperators

@[simps]
def ObjectTransferSlot.closedAt (state : ObjectTransferSlotState) (generation : Nat) :
    ObjectTransferSlot where
  object := none
  metadata := .zero
  rights := 0
  generation
  acquisitionPins := 0
  type := .invalid
  state

/-- A row that owns one reference to `object`. -/
@[simps]
def ObjectTransferSlot.owning (state : ObjectTransferSlotState) (generation pins : Nat)
    (object : KObject) (authority : ObjectTransferAuthority) : ObjectTransferSlot where
  object := some object
  metadata := authority.metadata
  rights := authority.rights
  generation
  acquisitionPins := pins
  type := authority.type
  state

def closedState (generation : Nat) : ObjectTransferSlotState :=
  if generation = kObjectTransferGenerationMax then .retired else .free

def GenOk (generation : Nat) : Prop :=
  0 < generation ∧ generation ≤ kObjectTransferGenerationMax

/-- The states in which a row owns a reference. -/
def Owns (state : ObjectTransferSlotState) : Prop := state = .live ∨ state = .closing

inductive RowOk : ObjectTransferSlot → Prop where
  | free : generation < kObjectTransferGenerationMax → RowOk (.closedAt .free generation)
  | retired : generation ≤ kObjectTransferGenerationMax → RowOk (.closedAt .retired generation)
  | owning {state generation pins object authority} : Owns state → GenOk generation → pins ≤ max32 →
    RightsOk authority.type authority.rights →
    RowOk (.owning state generation pins object authority)

lemma RowOk.closed {generation} (gen : GenOk generation) :
    RowOk (.closedAt (closedState generation) generation) := by
  unfold closedState
  split
  · exact .retired gen.2
  · rename_i ne
    exact .free (lt_of_le_of_ne gen.2 ne)

lemma RowOk.of_object (ok : RowOk slot) (owned : slot.object = some object) :
    ∃ authority, slot = .owning slot.state slot.generation slot.acquisitionPins object authority ∧
      Owns slot.state ∧ GenOk slot.generation ∧ slot.acquisitionPins ≤ max32 ∧
      RightsOk authority.type authority.rights := by
  cases ok with
  | free | retired => cases owned
  | @owning _ _ _ _ authority owns gen pins rights =>
    cases owned
    exact ⟨authority, rfl, owns, gen, pins, rights⟩

lemma RowOk.of_none (ok : RowOk slot) (empty : slot.object = none) :
    slot.acquisitionPins = 0 ∧ slot.state ≠ .live ∧ slot.state ≠ .closing := by
  cases ok with
  | free | retired => exact ⟨rfl, nofun, nofun⟩
  | owning => cases empty

lemma RowOk.of_free (ok : RowOk slot) (free : slot.state = .free) :
    slot = .closedAt .free slot.generation ∧ slot.generation < kObjectTransferGenerationMax := by
  cases ok with
  | free lt => exact ⟨rfl, lt⟩
  | retired => cases free
  | owning owns =>
    rcases owns with eq | eq
    all_goals cases eq.symm.trans free

/-- An initialised table of well-formed rows. -/
structure ObjectTransferTable.Ok (table : ObjectTransferTable) : Prop where
  rows : ∀ index, RowOk (table.slots index)
  active : table.activeOperations ≤ max32
  initialized : table.initialized = 1
  ready : table.state ≠ .uninitialized

lemma add32_generation (lt : generation < kObjectTransferGenerationMax) :
    add32 generation 1 = generation + 1 := by
  apply add32_eq
  have le : generation < 33554431 := lt
  unfold max32
  omega

lemma exportSearch_spec (rows : ∀ index, RowOk (table.slots index))
    (authority retained order futureCapacity)
    : (∃ code, code ≠ .corruptState ∧
      exportSearch authority retained order futureCapacity table = (.error code, table)) ∨
    ∃ index generation, 0 < index.val ∧ generation < kObjectTransferGenerationMax ∧
      table.slots index = .closedAt .free generation ∧
      exportSearch authority retained order futureCapacity table =
        (.ok (objectTransferRefEncode index (generation + 1)),
          { table.setSlot index (.owning .live (generation + 1) 0 retained authority) with
            nextFreeHint := index }) := by
  induction order generalizing futureCapacity with
  | nil =>
    refine .inl ⟨_, ?_, rfl⟩
    cases futureCapacity <;> decide
  | cons index rest ih =>
    unfold exportSearch
    dsimp only
    split
    · exact ih _
    rename_i sentinel
    split
    · exact ih _
    split
    · rename_i exhausted
      -- a well-formed free row is never exhausted
      exact absurd exhausted.2 (Nat.ne_of_lt ((rows index).of_free exhausted.1).2)
    split
    · exact ih _
    rename_i free
    obtain ⟨row, lt⟩ := (rows index).of_free (not_not.mp free)
    generalize (table.slots index).generation = generation at row lt
    have pos := Nat.pos_of_ne_zero sentinel
    have valid := objectTransferRefEncode_ne_invalid pos (Nat.succ_pos generation) lt
    refine .inr ⟨index, generation, pos, lt, row, ?_⟩
    rw [row]
    simp only [ObjectTransferSlot.closedAt, add32_generation lt]
    rw [if_neg (by simp), if_neg valid]
    rfl

lemma slotMatches_row (ok : RowOk slot) (owned : slot.object = some object)
    (matched : slotMatches slot generation) :
    ∃ pins authority, slot = .owning .live generation pins object authority ∧ GenOk generation ∧
      pins ≤ max32 ∧ RightsOk authority.type authority.rights := by
  obtain ⟨live, _, same⟩ := of_decide_eq_true matched
  obtain ⟨authority, row, _, gen, pins, rights⟩ := ok.of_object owned
  rw [live, same] at row
  exact ⟨_, authority, row, same ▸ gen, pins, rights⟩

/-- The unpin section, on a row that owns the pinned object: the row is intact and loses one pin. -/
lemma objectTransferImportUnpin_spec (ok : table.Ok) (owns : Owns state)
    (row : table.slots decoded.slot = .owning state decoded.generation (pins + 1) object authority)
    (le : pins + 1 ≤ max32) (active : 0 < table.activeOperations) :
    objectTransferImportUnpin table decoded object = (true, { table.setSlot decoded.slot
          (.owning state decoded.generation pins object authority) with
        activeOperations := table.activeOperations - 1 }) := by
  have intact : state = .live ∨ state = .closing := owns
  unfold objectTransferImportUnpin
  simp [row, active, intact, sub32_counter active ok.active, sub32_counter (Nat.succ_pos pins) le,
    ObjectTransferSlot.owning]

/-- The pin-totalling loop returns the total when it fits a `u32`. -/
lemma observedPins_spec (table order observed)
    (fits : observed + (order.map fun index => (table.slots index).acquisitionPins).sum ≤ max32) :
    observedPins table order observed =
      some (observed + (order.map fun index => (table.slots index).acquisitionPins).sum) := by
  induction order generalizing observed with
  | nil => rfl
  | cons index rest ih =>
    rw [map_cons, sum_cons] at fits
    have room : sub32 max32 observed = max32 - observed := sub32_eq (by omega) (Nat.le_refl _)
    have step : add32 observed (table.slots index).acquisitionPins =
        observed + (table.slots index).acquisitionPins := add32_eq (by omega)
    unfold observedPins
    rw [room, if_neg (by omega), step, ih _ (by omega), map_cons, sum_cons, Nat.add_assoc]

def released (slot : ObjectTransferSlot) : ObjectTransferSlot :=
  if slot.object = none then slot else .closedAt (closedState slot.generation) slot.generation

lemma closeSlot_spec (ok : RowOk slot) (marked : slot.state ≠ .live) :
    closeSlot slot = (released slot, slot.object, false) := by
  unfold closeSlot released
  split
  · rename_i object owned
    obtain ⟨authority, row, owns, _⟩ := ok.of_object owned
    have closing : slot.state = .closing := owns.resolve_left marked
    simp only [owned, closing]
    rfl
  · rename_i empty
    obtain ⟨_, live, closing⟩ := ok.of_none empty
    rw [if_neg (by simp [live, closing]), if_pos empty, empty]

lemma closeRows_spec (nodup : order.Nodup)
    (rows : ∀ index ∈ order, RowOk (table.slots index) ∧ (table.slots index).state ≠ .live) :
    closeRows order result detached table =
      (result, detached ++ order.filterMap (fun index => (table.slots index).object),
        { table with slots := fun index =>
            if index ∈ order then released (table.slots index) else table.slots index }) := by
  induction order generalizing table detached with
  | nil => simp [closeRows]
  | cons index rest ih =>
    obtain ⟨fresh, nodup⟩ := nodup_cons.mp nodup
    have other : ∀ j ∈ rest, (table.setSlot index (released (table.slots index))).slots j =
      table.slots j := by
      intro j mem
      apply ObjectTransferTable.setSlot_slots_of_ne
      rintro rfl
      exact fresh mem
    have here := rows index mem_cons_self
    rw [closeRows, closeSlot_spec here.1 here.2]
    dsimp only
    rw [if_neg (by simp), ih nodup fun j mem => by
      rw [other j mem]
      exact rows j (mem_cons_of_mem _ mem)]
    refine Prod.ext rfl (Prod.ext ?_ ?_)
    · have same : rest.filterMap (fun j =>
          ((table.setSlot index (released (table.slots index))).slots j).object) =
          rest.filterMap fun j => (table.slots j).object :=
        filterMap_congr fun j mem => by rw [other j mem]
      rw [same, filterMap_cons]
      cases (table.slots index).object <;> simp
    · dsimp only [ObjectTransferTable.setSlot]
      congr 1
      funext j
      by_cases eq : j = index
      · subst eq
        simp [fresh]
      · simp [eq]

lemma closeIndices_nodup : closeIndices.Nodup := (nodup_finRange kObjectTransferTableCapacity).tail

lemma mem_closeIndices : index ∈ closeIndices ↔ 0 < index.val := by
  revert index
  decide

lemma closeBegin_slots (isOpen : table.state = .open) (index) :
    (closeBegin table).slots index = if index.val ≠ 0 ∧ (table.slots index).state = .live then
        { table.slots index with state := .closing }
      else table.slots index := by
  unfold closeBegin
  rw [if_pos isOpen]

end DuetOS.ObjectTransfer
