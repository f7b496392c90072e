import DuetOS.ObjectTransfer.Step

/-!
# The pin invariant and the effect of a step

The calls in progress matter to the table only through the pins they hold. Under the invariant no
section reports `corruptState`, and a step is one of the `Effect`s: a new export, a pin taken or
dropped, a revoke that marks or releases a row, or a close.
-/

namespace DuetOS.ObjectTransfer

open Word Bag Multiset
open scoped BigOperators

/-- A pin: the row it was taken on and the object found there. -/
abbrev Pin := ObjectTransferDecodedRef × KObject

def InFlight.pin : InFlight → Option Pin
  | .pinned _ decoded _ _ _ _ object _ => some (decoded, object)
  | _ => none

def pinnedBy (inflight : Multiset InFlight) : Multiset Pin := inflight.filterMap InFlight.pin

lemma pinnedBy_cons (op inflight) :
    pinnedBy (op ::ₘ inflight) = (op.pin.toList : Multiset Pin) + pinnedBy inflight := by
  cases held : op.pin with
  | none => exact (filterMap_cons_none _ _ held).trans (zero_add _).symm
  | some pin => exact (filterMap_cons_some _ _ _ held)

lemma pinnedBy_cons_none (held : op.pin = none) (inflight) :
    pinnedBy (op ::ₘ inflight) = pinnedBy inflight := by
  rw [pinnedBy_cons, held]
  exact zero_add _

def onSlot (index : Fin kObjectTransferTableCapacity) (pin : Pin) : Bool := pin.1.slot = index

structure Pinned (table : ObjectTransferTable) (pinned : Multiset Pin) : Prop where
  ok : table.Ok
  sentinel : ∀ index, index.val = 0 → (table.slots index).object = none
  pins : ∀ index, (table.slots index).acquisitionPins = tally (onSlot index) pinned
  active : table.activeOperations = ∑ index, (table.slots index).acquisitionPins
  rows : ∀ pin ∈ pinned, (table.slots pin.1.slot).object = some pin.2 ∧
    (table.slots pin.1.slot).generation = pin.1.generation
  marked : table.state ≠ .open → ∀ index, (table.slots index).state ≠ .live
  closed : table.state = .closed → ∀ index, (table.slots index).object = none

/-- What the locals of a call in progress satisfy. -/
def InFlight.Ok : InFlight → Prop
  | .lookingUp _ _ authority _ _ => RightsOk authority.type authority.rights
  | .exporting _ _ authority _ => RightsOk authority.type authority.rights
  | .reserved reference decoded _ _ _ _ => decodeTransferRefNospec reference = some decoded
  | _ => True

structure Inv (s : State) : Prop where
  pinned : Pinned s.table (pinnedBy s.inflight)
  calls : ∀ op ∈ s.inflight, op.Ok

/-- Calls that do not touch the table. -/
inductive Event.Quiet : Event → Prop where
  | exportRefused : Quiet (.exportRefused status)
  | exportPin : Quiet (.exportPin source handle authority result)
  | exportUnpin : Quiet (.exportUnpin source decoded result)
  | exportClaim : code ≠ .corruptState →
    Quiet (.exportClaim source handle authority object (.error code))
  | importRefused : Quiet (.importRefused reference status)
  | importReserve :
    Quiet (.importReserve reference destination type rights result)
  | importPin : Quiet (.importPin reference type rights (.error code))
  | importAbort :
    Quiet (.importAbort destination reservation aborted returned)
  | importPublish :
    Quiet (.importPublish reference destination reservation object published returned)
  | revoke {reference status} : status ≠ .ok → status ≠ .busy → status ≠ .corruptState →
    Quiet (.revoke reference status none)

inductive Effect : ObjectTransferTable → Multiset Pin → Event → ObjectTransferTable → Multiset Pin →
    Prop where
  | quiet : e.Quiet → Effect table pinned e table pinned
  | claim {table pinned source handle authority object generation}
    {index : Fin kObjectTransferTableCapacity} :
    RightsOk authority.type authority.rights →
    table.state = .open →
    0 < index.val →
    generation < kObjectTransferGenerationMax →
    table.slots index = .closedAt .free generation →
    Effect table pinned (.exportClaim source handle authority object
        (.ok (objectTransferRefEncode index (generation + 1))))
      { table.setSlot index (.owning .live (generation + 1) 0 object authority) with
        nextFreeHint := index } pinned
  | pin {table pinned reference type rights decoded pins object authority} :
    decodeTransferRefNospec reference = some decoded →
    table.state = .open →
    GenOk decoded.generation →
    pins < max32 →
    table.activeOperations < max32 →
    RightsOk authority.type authority.rights →
    table.slots decoded.slot = .owning .live decoded.generation pins object authority →
    Mask.Sub rights authority.rights →
    object.type = type →
    Effect table pinned (.importPin reference type rights (.ok (object, authority.metadata)))
      { table.setSlot decoded.slot
          (.owning .live decoded.generation (pins + 1) object authority) with
        activeOperations := table.activeOperations + 1 } ((decoded, object) ::ₘ pinned)
  | unpin {table pinned reference retained state decoded pins object authority} : Owns state →
    GenOk decoded.generation →
    pins < max32 →
    0 < table.activeOperations →
    RightsOk authority.type authority.rights →
    table.slots decoded.slot = .owning state decoded.generation (pins + 1) object authority →
    Effect table ((decoded, object) ::ₘ pinned) (.importUnpin reference retained true)
      { table.setSlot decoded.slot (.owning state decoded.generation pins object authority) with
        activeOperations := table.activeOperations - 1 } pinned
  | mark {table pinned reference decoded state pins object authority} :
    decodeTransferRefNospec reference = some decoded →
    table.state = .open →
    Owns state →
    GenOk decoded.generation →
    pins ≤ max32 →
    pins ≠ 0 →
    RightsOk authority.type authority.rights →
    table.slots decoded.slot = .owning state decoded.generation pins object authority →
    Effect table pinned (.revoke reference .busy none)
      (table.setSlot decoded.slot (.owning .closing decoded.generation pins object authority))
        pinned
  | release {table pinned reference decoded state object authority} :
    decodeTransferRefNospec reference = some decoded →
    table.state = .open →
    Owns state →
    GenOk decoded.generation →
    table.slots decoded.slot = .owning state decoded.generation 0 object authority →
    Effect table pinned (.revoke reference .ok (some object))
      (table.setSlot decoded.slot (.closedAt (closedState decoded.generation) decoded.generation))
      pinned
  | closeAgain : table.state = .closed → Effect table pinned (.close .ok []) table pinned
  | closeBusy : table.state ≠ .closed →
    Effect table pinned (.close .busy []) (closeBegin table) pinned
  | closeDone : table.state ≠ .closed → table.activeOperations = 0 →
    Effect table pinned
      (.close .ok (closeIndices.filterMap fun index => (table.slots index).object)) { table with
        state := .closed
        slots := fun index => released ((closeBegin table).slots index) } pinned

lemma released_of_none (empty : slot.object = none) : released slot = slot := if_pos empty

/-- Publishing `Draining` keeps everything of a row but its state, and leaves no row live. -/
lemma Pinned.closeBegin_row (inv : Pinned table pinned) (index) :
    ((closeBegin table).slots index).object = (table.slots index).object ∧
      ((closeBegin table).slots index).generation = (table.slots index).generation ∧
      ((closeBegin table).slots index).acquisitionPins = (table.slots index).acquisitionPins ∧
      RowOk ((closeBegin table).slots index) ∧ ((closeBegin table).slots index).state ≠ .live := by
  have rowOk := inv.ok.rows index
  by_cases isOpen : table.state = .open
  · rw [closeBegin_slots isOpen]
    split
    · rename_i live
      refine ⟨rfl, rfl, rfl, ?_, nofun⟩
      cases row : (table.slots index).object with
      | none => exact absurd live.2 (rowOk.of_none row).2.1
      | some object =>
        obtain ⟨authority, eq, _, gen, pins, rights⟩ := rowOk.of_object row
        rw [eq]
        exact .owning (.inr rfl) gen pins rights
    · rename_i other
      refine ⟨rfl, rfl, rfl, rowOk, fun live => other ⟨fun zero => ?_, live⟩⟩
      exact (rowOk.of_none (inv.sentinel index zero)).2.1 live
  · have same : closeBegin table = table := if_neg isOpen
    rw [same]
    exact ⟨rfl, rfl, rfl, rowOk, inv.marked isOpen index⟩

lemma closeBegin_frame (table) : (closeBegin table).activeOperations = table.activeOperations ∧
      (closeBegin table).initialized = table.initialized ∧
      (closeBegin table).nextFreeHint = table.nextFreeHint := by
  unfold closeBegin
  split <;> exact ⟨rfl, rfl, rfl⟩

lemma Pinned.closeBegin_state (inv : Pinned table pinned)
    (unfinished : table.state ≠ .closed) : (closeBegin table).state = .draining := by
  unfold closeBegin
  split
  · rfl
  rename_i shut
  cases state : table.state with
  | uninitialized => exact absurd state inv.ok.ready
  | «open» => exact absurd state shut
  | draining => rfl
  | closed => exact absurd state unfinished

lemma Pinned.observedPins_eq (inv : Pinned table pinned) :
    observedPins (closeBegin table) (List.finRange kObjectTransferTableCapacity) 0 =
      some table.activeOperations := by
  have total : ((List.finRange kObjectTransferTableCapacity).map fun index =>
      ((closeBegin table).slots index).acquisitionPins).sum = table.activeOperations := by
    rw [inv.active, Fin.sum_univ_def]
    congr 1
    exact List.map_congr_left fun index _ => (inv.closeBegin_row index).2.2.1
  have spec := observedPins_spec (closeBegin table) (List.finRange kObjectTransferTableCapacity) 0
    (by rw [total, Nat.zero_add]; exact inv.ok.active)
  rw [spec, total, Nat.zero_add]

/-- `ObjectTransferTableClose` on an unfinished table: busy while pins are held, else it releases
every row. -/
lemma Pinned.close_spec (inv : Pinned table pinned) : objectTransferTableClose table =
      if table.state = .closed then (.ok, [], table)
      else if table.activeOperations ≠ 0 then (.busy, [], closeBegin table)
      else (.ok, closeIndices.filterMap (fun index => (table.slots index).object), { table with
          state := .closed
          slots := fun index => released ((closeBegin table).slots index) }) := by
  unfold objectTransferTableClose
  rw [if_neg (not_not.mpr inv.ok.initialized), if_neg inv.ok.ready]
  by_cases closed : table.state = .closed
  · rw [if_pos closed, if_pos closed]
  obtain ⟨active, initialized, hint⟩ := closeBegin_frame table
  rw [if_neg closed, if_neg closed]
  rw [if_neg (not_not.mpr (inv.closeBegin_state closed)), inv.observedPins_eq]
  dsimp only
  rw [active, if_neg (fun ne => ne rfl)]
  by_cases busy : table.activeOperations ≠ 0
  · rw [if_pos busy, if_pos busy]
  rw [if_neg busy, if_neg busy, closeRows_spec closeIndices_nodup fun index _ =>
    (inv.closeBegin_row index).2.2.2]
  refine Prod.ext rfl (Prod.ext ?_ ?_)
  · exact List.filterMap_congr fun index _ => (inv.closeBegin_row index).1
  · have slots : (fun index => if index ∈ closeIndices then
        released ((closeBegin table).slots index) else (closeBegin table).slots index) =
        fun index => released ((closeBegin table).slots index) := by
      funext index
      split
      · rfl
      · rename_i sentinel
        have empty := inv.sentinel index
          (Nat.eq_zero_of_not_pos fun pos => sentinel (mem_closeIndices.mpr pos))
        exact (released_of_none ((inv.closeBegin_row index).1.trans empty)).symm
    rw [slots, active, initialized, hint]

lemma rightsOk_of_check (check : objectTransferExportCheck table handle authority = .ok) :
    RightsOk authority.type authority.rights := by
  unfold objectTransferExportCheck at check
  split_ifs at check with _ _ valid
  obtain ⟨_, ne, _, sub, _⟩ := of_decide_eq_true valid
  exact ⟨ne, sub⟩

lemma decodes_of_check
    (check : objectTransferImportCheck table reference type rights = .ok decoded) :
    decodeTransferRefNospec reference = some decoded := by
  unfold objectTransferImportCheck at check
  split_ifs at check
  split at check
  · cases check
  · rename_i decodes
    cases check
    exact decodes

lemma Pinned.pinned_row (inv : Pinned table ((decoded, object) ::ₘ pinned)) :
    ∃ state pins authority, Owns state ∧ GenOk decoded.generation ∧ pins < max32 ∧
      0 < table.activeOperations ∧ RightsOk authority.type authority.rights ∧
      table.slots decoded.slot = .owning state decoded.generation (pins + 1) object authority := by
  obtain ⟨owned, same⟩ := inv.rows (decoded, object) (mem_cons_self _ _)
  obtain ⟨authority, row, owns, gen, le, rights⟩ := (inv.ok.rows decoded.slot).of_object owned
  have counted := inv.pins decoded.slot
  have positive : 0 < (table.slots decoded.slot).acquisitionPins := by
    rw [counted]
    exact tally_pos (mem_cons_self _ _) (decide_eq_true rfl)
  have active : 0 < table.activeOperations := by
    rw [inv.active]
    exact lt_of_lt_of_le positive (Slots.le_sum table.slots decoded.slot (·.acquisitionPins))
  rw [same] at row gen
  obtain ⟨pins, eq⟩ := Nat.exists_eq_add_one_of_ne_zero (Nat.ne_of_gt positive)
  rw [eq] at row le
  exact ⟨_, pins, authority, owns, gen, le, active, rights, row⟩

lemma objectTransferExportClaim_effect (ok : table.Ok)
    (rights : RightsOk authority.type authority.rights)
    (claim : objectTransferExportClaim table authority object = (result, table')) :
    Effect table pinned (.exportClaim source handle authority object result) table' pinned := by
  unfold objectTransferExportClaim at claim
  split at claim
  · rename_i shut
    cases claim
    refine .quiet (.exportClaim ?_)
    cases state : table.state with
    | uninitialized => exact absurd state ok.ready
    | «open» => exact absurd state shut
    | draining | closed => decide
  · rename_i isOpen
    rcases exportSearch_spec ok.rows authority object (Slots.probeOrder (searchStart table))
      false with
      ⟨_, ne, eq⟩ | ⟨index, generation, pos, lt, row, eq⟩
    · cases eq.symm.trans claim
      exact .quiet (.exportClaim ne)
    · cases eq.symm.trans claim
      exact .claim rights (not_not.mp isOpen) pos lt row

lemma objectTransferImportPin_effect (pinned) (ok : table.Ok)
    (decodes : decodeTransferRefNospec reference = some decoded)
    (pin : objectTransferImportPin table decoded type requested = (result, table')) :
    (∃ code, result = .error code ∧ table' = table) ∨ ∃ object metadata, result = .ok
    (object, metadata) ∧
      Effect table pinned (.importPin reference type requested (.ok (object, metadata))) table'
        ((decoded, object) ::ₘ pinned) := by
  unfold objectTransferImportPin at pin
  split at pin
  · cases pin; exact .inl ⟨_, rfl, rfl⟩
  rename_i isOpen
  dsimp only at pin
  split at pin
  · cases pin; exact .inl ⟨_, rfl, rfl⟩
  rename_i object owned
  split_ifs at pin with matched typed narrowed room
  any_goals
    cases pin
    exact .inl ⟨_, rfl, rfl⟩
  obtain ⟨pins, authority, row, gen, le, rights⟩ :=
    slotMatches_row (ok.rows decoded.slot) owned matched
  rw [row] at typed narrowed room pin
  simp only [ObjectTransferSlot.owning_type, ObjectTransferSlot.owning_rights,
    ObjectTransferSlot.owning_acquisitionPins, not_or, not_not] at typed narrowed room
  rw [add32_counter ok.active room.2] at pin
  simp only [ObjectTransferSlot.owning, add32_counter le room.1] at pin
  cases pin
  exact .inr ⟨object, authority.metadata, rfl,
    .pin decodes (not_not.mp isOpen) gen (lt_of_le_of_ne le room.1)
    (lt_of_le_of_ne ok.active room.2) rights row narrowed typed.2⟩

lemma objectTransferRevoke_effect (ok : table.Ok)
    (revoke : objectTransferRevoke table reference = (status, detached, table')) :
    Effect table pinned (.revoke reference status detached) table' pinned := by
  unfold objectTransferRevoke at revoke
  rw [if_neg (not_not.mpr ok.initialized)] at revoke
  split at revoke
  · cases revoke
    exact .quiet (.revoke nofun nofun nofun)
  rename_i decoded decodes
  split at revoke
  · rename_i shut
    cases revoke
    refine .quiet (.revoke ?_ ?_ ?_) <;> cases state : table.state <;>
      first | decide | exact absurd state shut
  rename_i isOpen
  dsimp only at revoke
  split at revoke
  · rename_i corrupt
    exact absurd corrupt.1 ((ok.rows decoded.slot).of_none corrupt.2.2).2.2
  split at revoke
  · cases revoke
    refine .quiet (.revoke ?_ ?_ ?_) <;> unfold referenceFailure <;> split <;> decide
  rename_i present
  have here : (table.slots decoded.slot).generation = decoded.generation ∧
      (table.slots decoded.slot).object ≠ none := by
    by_cases closing : (table.slots decoded.slot).state = .closing ∧
        (table.slots decoded.slot).generation = decoded.generation
    · refine ⟨closing.2, fun empty => ?_⟩
      exact ((ok.rows decoded.slot).of_none empty).2.2 closing.1
    · have matched : slotMatches (table.slots decoded.slot) decoded.generation := by
        by_contra unmatched
        exact present ⟨closing, unmatched⟩
      obtain ⟨_, owned, same⟩ := of_decide_eq_true matched
      exact ⟨same, owned⟩
  obtain ⟨object, owned⟩ := Option.ne_none_iff_exists'.mp here.2
  obtain ⟨authority, row, owns, gen, le, rights⟩ := (ok.rows decoded.slot).of_object owned
  rw [here.1] at row gen
  generalize (table.slots decoded.slot).state = state at row owns
  generalize (table.slots decoded.slot).acquisitionPins = pins at row le
  rw [row] at revoke
  split at revoke
  · rename_i busy
    cases revoke
    exact .mark decodes (not_not.mp isOpen) owns gen le busy rights row
  rename_i idle
  cases not_not.mp idle
  cases revoke
  exact .release decodes (not_not.mp isOpen) owns gen row

/-- Under the invariant every step is an effect on the table and the pins. -/
lemma Step.effect (inv : Inv s) (st : Step s e s') :
    Effect s.table (pinnedBy s.inflight) e s'.table (pinnedBy s'.inflight) := by
  have ok := inv.pinned.ok
  cases st with
  | exportRefused => exact .quiet .exportRefused
  | exportNoSource => exact .quiet .exportPin
  | exportPin =>
    rw [pinnedBy_cons_none rfl]
    exact .quiet .exportPin
  | exportNotRetained =>
    rw [pinnedBy_cons_none rfl]
    exact .quiet .exportUnpin
  | exportUnpin =>
    rw [pinnedBy_cons_none rfl, pinnedBy_cons_none rfl]
    exact .quiet .exportUnpin
  | exportClaim claim =>
    rw [pinnedBy_cons_none rfl]
    exact objectTransferExportClaim_effect ok (inv.calls _ (mem_cons_self _ _)) claim
  | importRefused => exact .quiet .importRefused
  | importNoRoom => exact .quiet .importReserve
  | importReserve =>
    rw [pinnedBy_cons_none rfl]
    exact .quiet .importReserve
  | importDenied pin =>
    rw [pinnedBy_cons_none rfl, pinnedBy_cons_none rfl]
    rcases objectTransferImportPin_effect 0 ok (inv.calls _ (mem_cons_self _ _)) pin with
      ⟨_, _, rfl⟩ | ⟨_, _, refused, _⟩
    · exact .quiet .importPin
    · cases refused
  | importPin pin =>
    rw [pinnedBy_cons_none rfl, pinnedBy_cons]
    rcases objectTransferImportPin_effect _ ok (inv.calls _ (mem_cons_self _ _)) pin with
      ⟨_, refused, _⟩ | ⟨_, _, granted, effect⟩
    · cases refused
    · cases granted
      exact effect
  | importCorrupt unpin =>
    obtain ⟨_, _, _, owns, _, lt, active, _, row⟩ := (pinnedBy_cons .. ▸ inv.pinned).pinned_row
    cases (objectTransferImportUnpin_spec ok owns row lt active).symm.trans unpin
  | importNotRetained unpin | importUnpin unpin =>
    obtain ⟨_, _, _, owns, gen, lt, active, valid, row⟩ :=
      (pinnedBy_cons .. ▸ inv.pinned).pinned_row
    rw [pinnedBy_cons, pinnedBy_cons_none rfl]
    cases (objectTransferImportUnpin_spec ok owns row lt active).symm.trans unpin
    exact .unpin owns gen lt active valid row
  | importAbort | importUnpublish =>
    rw [pinnedBy_cons_none rfl]
    exact .quiet .importAbort
  | importPublished =>
    rw [pinnedBy_cons_none rfl]
    exact .quiet .importPublish
  | importUnpublished =>
    rw [pinnedBy_cons_none rfl, pinnedBy_cons_none rfl]
    exact .quiet .importPublish
  | revoke revoke => exact objectTransferRevoke_effect ok revoke
  | close closes =>
    have closes := inv.pinned.close_spec.symm.trans closes
    split at closes
    · rename_i finished
      cases closes
      exact .closeAgain finished
    rename_i unfinished
    split at closes
    · cases closes
      exact .closeBusy unfinished
    · rename_i idle
      cases closes
      exact .closeDone unfinished (not_not.mp idle)

end DuetOS.ObjectTransfer
