import DuetOS.HandleTable.Table

/-!
# Well-formed rows and what each section does to them

`RowOk` lists the rows that occur, one constructor for each lifecycle state. Over them each section
of `Table.lean` either reports an error and leaves the table alone or performs one row transition;
the rest of the development uses only the `*_spec` lemmas that say which.

No well-formed free row has the terminal generation, so the retiring branch of the circular search
is dead: `closedStateFor` retired the row when it was closed.
-/

namespace DuetOS

open Word List

/-- A row that owns nothing: free, or retired when its generation is terminal. -/
@[simps]
def HandleSlot.closedAt (generation : Nat) : HandleSlot where
  obj := none
  rights := 0
  reservationNonce := 0
  generation
  acquisitionPins := 0
  reservedType := .invalid
  state := if generation = kHandleGenerationMax then .retired else .free

@[simps]
def HandleSlot.reservedAt (generation nonce : Nat) (type : KObjectType) (rights : Rights) :
    HandleSlot where
  obj := none
  rights
  reservationNonce := nonce
  generation
  acquisitionPins := 0
  reservedType := type
  state := .reserved

/-- A row that owns one reference to `obj`, in state `state`. -/
@[simps]
def HandleSlot.owning (state : HandleSlotState) (generation pins : Nat) (obj : KObject)
    (rights : Rights) : HandleSlot where
  obj := some obj
  rights
  reservationNonce := 0
  generation
  acquisitionPins := pins
  reservedType := .invalid
  state

/-- A usable generation: issued, and representable in a token. -/
def GenOk (generation : Nat) : Prop := 0 < generation ∧ generation ≤ kHandleGenerationMax

/-- Rights a handle to an object of type `type` may carry. -/
def RightsOk (type : KObjectType) (rights : Rights) : Prop :=
  rights ≠ 0 ∧ Mask.Sub rights (typeAllowedRights type)

lemma RightsOk.type_ne_invalid {type} (ok : RightsOk type rights) : type ≠ .invalid := by
  rintro rfl
  exact ok.1 ok.2.eq_zero

inductive RowOk : HandleSlot → Prop where
  | closed : generation ≤ kHandleGenerationMax → RowOk (.closedAt generation)
  | reserved : GenOk generation → nonce ≠ 0 → type ≠ .invalid → RightsOk type rights →
    RowOk (.reservedAt generation nonce type rights)
  | live : GenOk generation → pins ≤ max32 → RightsOk obj.type rights →
    RowOk (.owning .live generation pins obj rights)
  | closing : GenOk generation → pins ≤ max32 → RightsOk obj.type rights →
    RowOk (.owning .closing generation pins obj rights)

lemma RowOk.zero : RowOk .zero := @RowOk.closed 0 (by decide)

section

variable (ok : RowOk slot)

include ok

lemma RowOk.of_free (free : slot.state = .free) :
    slot = .closedAt slot.generation ∧ slot.generation < kHandleGenerationMax := by
  cases ok with
  | @closed generation le =>
    refine ⟨rfl, lt_of_le_of_ne le fun e => ?_⟩
    simp only [HandleSlot.closedAt] at e free
    rw [if_pos e] at free
    cases free
  | reserved | live | closing => cases free

lemma RowOk.of_retired (retired : slot.state = .retired) : slot = .closedAt slot.generation := by
  cases ok with
  | closed => rfl
  | reserved | live | closing => cases retired

lemma RowOk.of_reserved (reserved : slot.state = .reserved) :
    ∃ generation nonce type rights, slot = .reservedAt generation nonce type rights ∧
      GenOk generation ∧ nonce ≠ 0 ∧ type ≠ .invalid ∧ RightsOk type rights := by
  cases ok with
  | closed =>
    simp only [HandleSlot.closedAt] at reserved
    split at reserved <;> cases reserved
  | reserved gen nonce type rights => exact ⟨_, _, _, _, rfl, gen, nonce, type, rights⟩
  | live | closing => cases reserved

lemma RowOk.of_live (live : slot.state = .live) :
    ∃ generation pins obj rights, slot = .owning .live generation pins obj rights ∧
      GenOk generation ∧ pins ≤ max32 ∧ RightsOk obj.type rights := by
  cases ok with
  | closed =>
    simp only [HandleSlot.closedAt] at live
    split at live <;> cases live
  | reserved | closing => cases live
  | live gen pins rights => exact ⟨_, _, _, _, rfl, gen, pins, rights⟩

lemma RowOk.of_closing (closing : slot.state = .closing) :
    ∃ generation pins obj rights, slot = .owning .closing generation pins obj rights ∧
      GenOk generation ∧ pins ≤ max32 ∧ RightsOk obj.type rights := by
  cases ok with
  | closed =>
    simp only [HandleSlot.closedAt] at closing
    split at closing <;> cases closing
  | reserved | live => cases closing
  | closing gen pins rights => exact ⟨_, _, _, _, rfl, gen, pins, rights⟩

lemma RowOk.generation_le : slot.generation ≤ kHandleGenerationMax := by
  cases ok with
  | closed le => exact le
  | reserved gen | live gen | closing gen => exact gen.2

end

lemma add32_generation (lt : generation < kHandleGenerationMax) :
    add32 generation 1 = generation + 1 := by
  apply add32_eq
  have le : generation < 524287 := lt
  unfold max32
  omega

lemma add32_counter {count} (le : count ≤ max32) (ne : count ≠ max32) :
    add32 count 1 = count + 1 := by
  apply add32_eq
  omega

lemma sub32_counter {count} (pos : 0 < count) (le : count ≤ max32) :
    sub32 count 1 = count - 1 := sub32_eq pos le

/-- Every row of the table is well-formed, the search hint is a row and the operation count is a
`u32`. -/
structure HandleTable.Ok (table : HandleTable) : Prop where
  rows : ∀ index, RowOk (table.slots index)
  hint : table.nextFreeHint < kHandleTableCapacity
  active : table.activeOperations ≤ max32

/-- Over well-formed rows the circular search returns a free row other than the sentinel, or
nothing, and changes no row. -/
lemma claimFreeSlot_spec (rows : ∀ index, RowOk (table.slots index)) (retained order)
    : claimFreeSlot retained order table = .ok (none, table) ∨
      ∃ index, 0 < index.val ∧ (table.slots index).state = .free ∧
        claimFreeSlot retained order table = .ok (some index, table) := by
  induction order with
  | nil => exact .inl rfl
  | cons index rest ih =>
    unfold claimFreeSlot
    dsimp only
    split
    · exact ih
    rename_i sentinel
    split
    · exact ih
    rename_i free
    obtain ⟨eq, lt⟩ := (rows index).of_free (not_not.mp free)
    have clear : freeSlotIsClear (table.slots index) := by
      rw [eq]
      simp [freeSlotIsClear, HandleSlot.closedAt]
    rw [if_neg (not_not.mpr clear), if_neg (Nat.ne_of_lt lt)]
    exact .inr ⟨index, Nat.pos_of_ne_zero sentinel, not_not.mp free, rfl⟩

lemma mintHandleReservationNonce_fst (lastNonce) : (mintHandleReservationNonce lastNonce).1 = 0 ∨
      (mintHandleReservationNonce lastNonce).1 = (mintHandleReservationNonce lastNonce).2 := by
  unfold mintHandleReservationNonce
  split
  · exact .inl rfl
  · exact .inr rfl

lemma reservationMatches_row (ok : RowOk slot)
    (matched : reservationMatches slot decoded reservation) :
    ∃ type rights, slot = .reservedAt decoded.generation reservation.nonce type rights ∧
      GenOk decoded.generation ∧ RightsOk type rights := by
  simp only [reservationMatches, decide_eq_true_eq] at matched
  obtain ⟨reserved, _, gen, nonce, _, _⟩ := matched
  obtain ⟨generation, nonce', type, rights, eq, genOk, _, _, rightsOk⟩ := ok.of_reserved reserved
  subst eq
  cases gen
  cases nonce
  exact ⟨type, rights, rfl, genOk, rightsOk⟩

lemma slotMatches_row (ok : RowOk slot) (matched : slotMatches slot generation) :
    ∃ pins obj rights, slot = .owning .live generation pins obj rights ∧
      GenOk generation ∧ pins ≤ max32 ∧ RightsOk obj.type rights := by
  simp only [slotMatches, decide_eq_true_eq] at matched
  obtain ⟨live, _, gen, _, _⟩ := matched
  obtain ⟨generation', pins, obj, rights, eq, genOk, pinsLe, rightsOk⟩ := ok.of_live live
  subst eq
  cases gen
  exact ⟨pins, obj, rights, rfl, genOk, pinsLe, rightsOk⟩

lemma checkSlot_row {type} (ok : RowOk slot)
    (checked : checkSlot slot generation type required = .ok obj) :
    ∃ pins rights, slot = .owning .live generation pins obj rights ∧ GenOk generation ∧
      pins ≤ max32 ∧ RightsOk obj.type rights ∧ Mask.Sub required rights ∧
        (type ≠ .invalid → obj.type = type) := by
  unfold checkSlot at checked
  split at checked
  · cases checked
  rename_i obj' owns
  split_ifs at checked with matched typed granted
  cases checked
  obtain ⟨pins, obj', rights, eq, genOk, pinsLe, rightsOk⟩ := slotMatches_row ok matched
  subst eq
  cases owns
  refine ⟨pins, rights, rfl, genOk, pinsLe, rightsOk, ?_, ?_⟩
  · exact Mask.sub_iff_and.mpr (not_not.mp granted)
  · intro concrete
    by_contra other
    exact typed ⟨concrete, other⟩

/-- The unpin section, on a row that owns the retained object under at least one pin. -/
lemma retainSnapshotUnpin_spec {table} (ok : table.Ok)
    {decoded snapshot state generation pins rights}
    (row : table.slots decoded.slot = .owning state generation (pins + 1) snapshot.obj rights)
    (le : pins + 1 ≤ max32)
    (active : 0 < table.activeOperations) (retained) :
    retainSnapshotUnpin table decoded snapshot retained =
      .ok (if ¬retained then .error .overflow else .ok snapshot,
        { table.setSlot decoded.slot (.owning state generation pins snapshot.obj rights) with
          activeOperations := table.activeOperations - 1 }) := by
  unfold retainSnapshotUnpin
  rw [row]
  simp only [HandleSlot.owning, ne_eq, not_true_eq_false, if_false, gt_iff_lt, Nat.succ_pos, active,
    sub32_counter active ok.active, sub32_counter (Nat.succ_pos pins) le, Nat.succ_eq_add_one,
    Nat.add_sub_cancel]

/-- The finish section of a detach, on its closing row: spin while pinned, else hand out the
object. -/
lemma handleTableDetachFinish_spec {table} (ok : table.Ok) {decoded pins obj rights}
    (row : table.slots decoded.slot = .owning .closing decoded.generation pins obj rights)
    (active : 0 < table.activeOperations) : handleTableDetachFinish table decoded = if pins = 0 then
        .ok (some obj, { table.setSlot decoded.slot (.closedAt decoded.generation) with
          activeOperations := table.activeOperations - 1 })
      else .ok (none, table) := by
  unfold handleTableDetachFinish
  rw [row]
  by_cases unpinned : pins = 0
  · subst unpinned
    simp only [HandleSlot.owning, closedStateFor, and_self, not_true_eq_false, if_false, if_true,
      gt_iff_lt, active, sub32_counter active ok.active, HandleSlot.closedAt]
    rfl
  · simp only [HandleSlot.owning, and_self, not_true_eq_false, if_false, unpinned]

/-- The finish section of an adopt-replace, on its closing row: spin while pinned, else install the
replacement under the next generation and hand out the displaced object. -/
lemma handleTableAdoptReplaceFinish_spec {table} (ok : table.Ok) {decoded pins obj rights}
    (row : table.slots decoded.slot = .owning .closing decoded.generation pins obj rights)
    (slot_pos : 0 < decoded.slot.val) (lt : decoded.generation < kHandleGenerationMax)
    (active : 0 < table.activeOperations) (replacement) (requested : Rights) :
    handleTableAdoptReplaceFinish table decoded replacement requested = if pins = 0 then
        .ok (some ⟨handleEncode decoded.slot (decoded.generation + 1), obj⟩,
          { table.setSlot decoded.slot
              (.owning .live (decoded.generation + 1) 0 replacement requested) with
            activeOperations := table.activeOperations - 1 })
      else .ok (none, table) := by
  have valid : handleEncode decoded.slot (decoded.generation + 1) ≠ kHandleInvalid :=
    handleEncode_ne_invalid slot_pos (Nat.succ_pos _) lt
  unfold handleTableAdoptReplaceFinish
  rw [row]
  by_cases unpinned : pins = 0
  · subst unpinned
    simp only [HandleSlot.owning, and_self, not_true_eq_false, if_false, if_true, gt_iff_lt, active,
      sub32_counter active ok.active, add32_generation lt, valid, Option.map_some]
  · simp only [HandleSlot.owning, and_self, not_true_eq_false, if_false, unpinned]

/-- The table with the rows in `order` closed. -/
def HandleTable.closeRows (table : HandleTable) (order : List (Fin kHandleTableCapacity)) :
    HandleTable :=
  { table with slots := fun index =>
      if index ∈ order then .closedAt (table.slots index).generation else table.slots index }

lemma HandleTable.closeRows_cons (table : HandleTable) (fresh : index ∉ order) :
    (table.setSlot index (.closedAt (table.slots index).generation)).closeRows order =
      table.closeRows (index :: order) := by
  simp only [HandleTable.closeRows, HandleTable.setSlot, HandleTable.mk.injEq, and_true]
  funext i
  by_cases here : i = index
  · subst here
    simp [fresh]
  · simp [here]

lemma HandleTable.filterMap_setSlot (table : HandleTable) {index : Fin kHandleTableCapacity}
    {order : List (Fin kHandleTableCapacity)} (fresh : index ∉ order) (slot : HandleSlot) :
    order.filterMap (fun i => ((table.setSlot index slot).slots i).obj) =
      order.filterMap fun i => (table.slots i).obj := by
  refine filterMap_congr fun i mem => ?_
  have other : i ≠ index := fun e => fresh (e ▸ mem)
  simp [HandleTable.setSlot, other]

/-- The drain loop detaches what a well-formed quiescent row owns and closes the row. -/
lemma handleTableDrainSlot_spec (ok : RowOk slot) (notClosing : slot.state ≠ .closing)
    (unpinned : slot.acquisitionPins = 0) (room : victimCount < kHandleTableCapacity) :
    handleTableDrainSlot victimCount slot = .ok (slot.obj, .closedAt slot.generation) := by
  cases ok with
  | @closed generation le =>
    have notReserved : (HandleSlot.closedAt generation).state ≠ .reserved := by
      simp only [HandleSlot.closedAt]; split <;> simp
    have notLive : (HandleSlot.closedAt generation).state ≠ .live := by
      simp only [HandleSlot.closedAt]; split <;> simp
    unfold handleTableDrainSlot
    rw [if_neg (not_not.mpr ⟨notClosing, unpinned⟩), if_neg notReserved, if_pos notLive]
    rfl
  | reserved genOk nonceOk typeOk rightsOk =>
    unfold handleTableDrainSlot
    rw [if_neg (not_not.mpr ⟨notClosing, unpinned⟩), if_pos (by rfl),
      if_neg (not_not.mpr ⟨rfl, rightsOk.1, nonceOk, typeOk⟩)]
    rfl
  | live genOk pinsLe rightsOk =>
    cases unpinned
    unfold handleTableDrainSlot
    rw [if_neg (not_not.mpr ⟨notClosing, rfl⟩), if_neg (by simp [HandleSlot.owning]),
      if_neg (by simp [HandleSlot.owning]), if_neg (by simp [HandleSlot.owning, room])]
    rfl
  | closing => exact absurd rfl notClosing

/-- Over well-formed quiescent rows the drain loop closes every row it visits and collects what
those rows owned. -/
lemma handleTableDrainRows_spec {table : HandleTable} {victims : List KObject}
    {order : List (Fin kHandleTableCapacity)} (nodup : order.Nodup)
    (rows : ∀ index ∈ order, RowOk (table.slots index) ∧
      (table.slots index).state ≠ .closing ∧ (table.slots index).acquisitionPins = 0)
    (room : victims.length + order.length ≤ kHandleTableCapacity) :
    handleTableDrainRows order victims table =
      .ok (victims ++ order.filterMap (fun index => (table.slots index).obj),
        table.closeRows order) := by
  induction order generalizing table victims with
  | nil => simp [handleTableDrainRows, HandleTable.closeRows]
  | cons index rest ih =>
    obtain ⟨fresh, nodup⟩ := nodup_cons.mp nodup
    obtain ⟨ok, notClosing, unpinned⟩ := rows index mem_cons_self
    simp only [length_cons] at room
    have rows' : ∀ i ∈ rest,
      RowOk ((table.setSlot index (.closedAt (table.slots index).generation)).slots i) ∧
        ((table.setSlot index (.closedAt (table.slots index).generation)).slots i).state ≠
          .closing ∧
        ((table.setSlot index (.closedAt (table.slots index).generation)).slots i).acquisitionPins =
          0 := by
      intro i mem
      have other : i ≠ index := fun e => fresh (e ▸ mem)
      simpa [HandleTable.setSlot, other] using rows i (mem_cons_of_mem _ mem)
    have collected : (victims ++ (table.slots index).obj.toList).length + rest.length ≤
      kHandleTableCapacity := by
      rw [length_append]
      have le : (table.slots index).obj.toList.length ≤ 1 := by
        cases (table.slots index).obj <;> simp
      omega
    have step := ih nodup rows' collected
    rw [table.closeRows_cons fresh, table.filterMap_setSlot fresh] at step
    unfold handleTableDrainRows
    rw [handleTableDrainSlot_spec ok notClosing unpinned (by omega)]
    dsimp only
    rw [step, append_assoc]
    cases owned : (table.slots index).obj <;> simp [owned]

lemma drainIndices_nodup : drainIndices.Nodup := (nodup_finRange kHandleTableCapacity).tail

lemma mem_drainIndices : index ∈ drainIndices ↔ 0 < index.val := by
  revert index
  decide

lemma handleTableDrainDetach_spec (rows : ∀ index, RowOk (table.slots index))
    (draining : table.state = .draining) (quiet : ∀ index, (table.slots index).state ≠ .closing ∧
      (table.slots index).acquisitionPins = 0) :
    handleTableDrainDetach table =
      .ok (drainIndices.filterMap (fun index => (table.slots index).obj),
        table.closeRows drainIndices) := by
  unfold handleTableDrainDetach
  rw [if_neg (not_not.mpr draining), handleTableDrainRows_spec drainIndices_nodup]
  · simp
  · exact fun index _ => ⟨rows index, quiet index⟩
  · simp only [drainIndices, length_tail, length_finRange, length_nil]
    omega

end DuetOS
