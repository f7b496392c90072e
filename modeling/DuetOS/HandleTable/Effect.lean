import DuetOS.HandleTable.Step

/-!
# The accounting invariant and the effect of a step

`Inv` ties the table to the calls in progress: a row's pins are the lookups between their sections,
a closing row has one closer, `activeOperations` counts both, and a draining table has one drain
owner. Under it no assertion can fail, and a step is one of the `Effect`s below, each at most one
row transition. Only `Step.effect` opens the sections of the source; every property of runs is read
off the effects.
-/

namespace DuetOS.HandleTable

open Word Bag Multiset
open scoped BigOperators

/-- Is this call holding a pin of row `index`? -/
def InFlight.pinsSlot (index : Fin kHandleTableCapacity) : InFlight → Bool
  | .retaining decoded _ => decoded.slot = index
  | _ => false

/-- Is this call between the two sections that close row `index`? -/
def InFlight.closesSlot (index : Fin kHandleTableCapacity) : InFlight → Bool
  | .detaching decoded => decoded.slot = index
  | .adopting decoded _ _ => decoded.slot = index
  | _ => false

/-- Is this a detach or adopt-replace between its two sections? -/
def InFlight.closes : InFlight → Bool
  | .detaching _ => true
  | .adopting _ _ _ => true
  | _ => false

/-- Is this the caller that owns the terminal drain? -/
def InFlight.ownsDrain : InFlight → Bool
  | .drainPolling => true
  | .drainDetaching => true
  | .drainReleasing _ => true
  | _ => false

/-- Has this drain owner seen the table quiescent? -/
def InFlight.sawQuiescence : InFlight → Bool
  | .drainDetaching => true
  | .drainReleasing _ => true
  | _ => false

def Emptied (table : HandleTable) : Prop := ∀ index, (table.slots index).obj = none

/-- What the locals of a call in progress know about the table. -/
def InFlight.Ok (table : HandleTable) : InFlight → Prop
  | .retaining decoded snapshot => (table.slots decoded.slot).obj = some snapshot.obj
  | .detaching decoded => (table.slots decoded.slot).generation = decoded.generation
  | .adopting decoded replacement rights =>
    (table.slots decoded.slot).generation = decoded.generation ∧
      decoded.generation < kHandleGenerationMax ∧ 0 < decoded.slot.val ∧
      RightsOk replacement.type rights
  | .drainDetaching => table.activeOperations = 0
  | .drainReleasing _ => table.activeOperations = 0 ∧ Emptied table
  | .drainPolling => True
  | .drainWaiting => True

structure Inv (s : State) : Prop where
  ok : s.table.Ok
  sentinel : ∀ index, index.val = 0 → (s.table.slots index).state = .free
  pins : ∀ index, (s.table.slots index).acquisitionPins = tally (InFlight.pinsSlot index) s.inflight
  closing : ∀ index, tally (InFlight.closesSlot index) s.inflight =
    if (s.table.slots index).state = .closing then 1 else 0
  active : s.table.activeOperations =
    ∑ index, (s.table.slots index).acquisitionPins + tally InFlight.closes s.inflight
  drain : tally InFlight.ownsDrain s.inflight = if s.table.state = .draining then 1 else 0
  calls : ∀ op ∈ s.inflight, op.Ok s.table
  closed : s.table.state = .closed → s.table.activeOperations = 0 ∧ Emptied s.table

lemma Inv.init : Inv State.init where
  ok := ⟨fun _ => RowOk.zero, by decide, by decide⟩
  sentinel _ _ := rfl
  pins _ := rfl
  closing _ := rfl
  active := by simp [State.init, HandleTable.zero, HandleSlot.zero]
  drain := rfl
  calls _ mem := absurd mem (notMem_zero _)
  closed eq := by cases eq

lemma Inv.pins_le_active (inv : Inv s) (index) :
    (s.table.slots index).acquisitionPins ≤ s.table.activeOperations := by
  have le := Slots.le_sum s.table.slots index (·.acquisitionPins)
  rw [inv.active]
  exact Nat.le_add_right_of_le le

lemma InFlight.closes_of_closesSlot {op : InFlight} (closes : op.closesSlot index) : op.closes := by
  cases op with
  | detaching | adopting => rfl
  | _ => cases closes

section

variable (inv : Inv s) (mem : op ∈ s.inflight)

include inv mem

lemma Inv.closing_of_mem (closes : op.closesSlot index) :
    (s.table.slots index).state = .closing := by
  have pos := tally_pos mem closes
  rw [inv.closing index] at pos
  by_contra ne
  rw [if_neg ne] at pos
  cases pos

lemma Inv.pinned_of_mem (pins : op.pinsSlot index) : 0 < (s.table.slots index).acquisitionPins := by
  rw [inv.pins index]
  exact tally_pos mem pins

lemma Inv.active_of_closes (closes : op.closes) : 0 < s.table.activeOperations := by
  have pos := tally_pos mem closes
  rw [inv.active]
  exact Nat.add_pos_right _ pos

end

lemma Inv.quiescent (inv : Inv s) (zero : s.table.activeOperations = 0)
    (index : Fin kHandleTableCapacity) :
    (s.table.slots index).state ≠ .closing ∧ (s.table.slots index).acquisitionPins = 0 := by
  refine ⟨fun closing => ?_, Nat.le_zero.mp (zero ▸ inv.pins_le_active index)⟩
  have one := inv.closing index
  rw [if_pos closing] at one
  obtain ⟨op, mem, closes⟩ := exists_of_tally_pos (one.symm ▸ Nat.one_pos)
  have pos := inv.active_of_closes mem (InFlight.closes_of_closesSlot closes)
  omega

lemma Inv.draining_of_mem (inv : Inv s) (mem : op ∈ s.inflight) (owns : op.ownsDrain) :
    s.table.state = .draining := by
  have pos := tally_pos mem owns
  rw [inv.drain] at pos
  by_contra ne
  rw [if_neg ne] at pos
  cases pos

lemma Inv.not_sawQuiescence (inv : Inv s)
    (busy : s.table.state = .open ∨ 0 < s.table.activeOperations)
    (mem : op ∈ s.inflight) : op.sawQuiescence = false := by
  by_contra saw
  have owns : op.ownsDrain := by
    cases op with
    | drainDetaching | drainReleasing => rfl
    | _ => exact absurd rfl saw
  have zero : s.table.activeOperations = 0 := by
    have known := inv.calls op mem
    cases op with
    | drainDetaching => exact known
    | drainReleasing => exact known.1
    | _ => exact absurd rfl saw
  rcases busy with isOpen | active
  · rw [inv.draining_of_mem mem owns] at isOpen
    cases isOpen
  · omega

/-- Calls that change nothing: refused requests, spinning callers, and reads that find no live
row. -/
inductive Event.Quiet : Event → Prop where
  | insert {obj rights code} : Quiet (.insert obj rights (.error code))
  | reserve {type rights code} : Quiet (.reserve type rights (.error code))
  | publish {reservation obj code} : Quiet (.publish reservation obj (.error code))
  | abort {reservation code} : Quiet (.abort reservation (.error code))
  | pin : Quiet (.pin handle type required (.error code))
  | rights : Quiet (.rights handle 0)
  | checkRight : Quiet (.checkRight handle required false)
  | detachMark : Quiet (.detachMark handle type required (.error code))
  | detachFinish : Quiet (.detachFinish decoded none)
  | replace {handle rights code} : Quiet (.replace handle rights (.error code))
  | adoptMark {handle replacement rights type code} :
    Quiet (.adoptMark handle replacement rights type (.error code))
  | adoptFinish {decoded obj rights} : Quiet (.adoptFinish decoded obj rights none)
  | drainDone : Quiet (.drainBegin .done)
  | drainPoll : Quiet (.drainPoll false)
  | drainWait : Quiet (.drainWait false)
  | nonceElsewhere : Quiet .nonceElsewhere

inductive Effect : State → Event → State → Prop where
  | quiet {table inflight nonce nonce' e} : e.Quiet →
    Effect ⟨table, inflight, nonce⟩ e ⟨table, inflight, nonce'⟩
  | rights : decodeHandleNospec handle = some decoded →
    table.state = .open →
    table.slots decoded.slot = .owning .live decoded.generation pins obj rights →
    Effect ⟨table, inflight, nonce⟩ (.rights handle rights) ⟨table, inflight, nonce⟩
  | checkRight :
    decodeHandleNospec handle = some decoded →
    table.state = .open →
    table.slots decoded.slot = .owning .live decoded.generation pins obj rights →
    Effect ⟨table, inflight, nonce⟩ (.checkRight handle required true) ⟨table, inflight, nonce⟩
  | insert {table inflight nonce obj rights generation} {index : Fin kHandleTableCapacity} :
    RightsOk obj.type rights →
    table.state = .open →
    0 < index.val →
    generation < kHandleGenerationMax →
    table.slots index = .closedAt generation →
    Effect ⟨table, inflight, nonce⟩
      (.insert (some obj) rights (.ok (handleEncode index (generation + 1))))
      ⟨{ table.setSlot index (.owning .live (generation + 1) 0 obj rights) with
          nextFreeHint := index }, inflight, nonce⟩
  | reserve {table inflight nonce nonce' type rights generation}
    {index : Fin kHandleTableCapacity} :
    RightsOk type rights →
    type ≠ .invalid →
    nonce' ≠ 0 →
    table.state = .open →
    0 < index.val →
    generation < kHandleGenerationMax →
    table.slots index = .closedAt generation →
    Effect ⟨table, inflight, nonce⟩
      (.reserve type rights (.ok ⟨handleEncode index (generation + 1), nonce'⟩))
      ⟨{ table.setSlot index (.reservedAt (generation + 1) nonce' type rights) with
          nextFreeHint := index }, inflight, nonce'⟩
  | publish {table inflight nonce reservation obj decoded type rights} :
    decodeHandleNospec reservation.handle = some decoded →
    table.state = .open →
    GenOk decoded.generation →
    RightsOk obj.type rights →
    table.slots decoded.slot = .reservedAt decoded.generation reservation.nonce type rights →
    Effect ⟨table, inflight, nonce⟩ (.publish reservation (some obj) (.ok reservation.handle))
      ⟨table.setSlot decoded.slot (.owning .live decoded.generation 0 obj rights), inflight, nonce⟩
  | abort {table inflight nonce reservation decoded type rights} :
    decodeHandleNospec reservation.handle = some decoded →
    table.state = .open →
    GenOk decoded.generation →
    table.slots decoded.slot = .reservedAt decoded.generation reservation.nonce type rights →
    Effect ⟨table, inflight, nonce⟩ (.abort reservation (.ok ()))
      ⟨table.setSlot decoded.slot (.closedAt decoded.generation), inflight, nonce⟩
  | pin {table inflight nonce handle type required decoded pins obj rights} :
    decodeHandleNospec handle = some decoded →
    table.state = .open →
    GenOk decoded.generation →
    pins < max32 →
    RightsOk obj.type rights →
    table.activeOperations < max32 →
    table.slots decoded.slot = .owning .live decoded.generation pins obj rights →
    Mask.Sub required rights →
    (type ≠ .invalid → obj.type = type) →
    Effect ⟨table, inflight, nonce⟩ (.pin handle type required (.ok ⟨obj, rights⟩))
      ⟨{ table.setSlot decoded.slot (.owning .live decoded.generation (pins + 1) obj rights) with
          activeOperations := table.activeOperations + 1 },
        .retaining decoded ⟨obj, rights⟩ ::ₘ inflight, nonce⟩
  | unpin {table inflight nonce decoded snapshot result state generation pins rights} :
    state = .live ∨ state = .closing →
    GenOk generation →
    pins < max32 →
    RightsOk snapshot.obj.type rights →
    0 < table.activeOperations →
    table.slots decoded.slot = .owning state generation (pins + 1) snapshot.obj rights →
    Effect ⟨table, .retaining decoded snapshot ::ₘ inflight, nonce⟩ (.unpin decoded result)
      ⟨{ table.setSlot decoded.slot (.owning state generation pins snapshot.obj rights) with
          activeOperations := table.activeOperations - 1 }, inflight, nonce⟩
  | detachMark :
    decodeHandleNospec handle = some decoded →
    table.state = .open →
    GenOk decoded.generation →
    pins ≤ max32 →
    RightsOk obj.type rights →
    table.activeOperations < max32 →
    table.slots decoded.slot = .owning .live decoded.generation pins obj rights →
    Effect ⟨table, inflight, nonce⟩ (.detachMark handle type required (.ok ()))
      ⟨{ table.setSlot decoded.slot (.owning .closing decoded.generation pins obj rights) with
          activeOperations := table.activeOperations + 1 }, .detaching decoded ::ₘ inflight, nonce⟩
  | detachFinish : GenOk decoded.generation → 0 < table.activeOperations →
    table.slots decoded.slot = .owning .closing decoded.generation 0 obj rights →
    Effect ⟨table, .detaching decoded ::ₘ inflight, nonce⟩ (.detachFinish decoded (some obj))
      ⟨{ table.setSlot decoded.slot (.closedAt decoded.generation) with
          activeOperations := table.activeOperations - 1 }, inflight, nonce⟩
  | replace {table inflight nonce handle requested decoded pins obj rights} :
    decodeHandleNospec handle = some decoded →
    table.state = .open →
    GenOk decoded.generation →
    decoded.generation < kHandleGenerationMax →
    pins ≤ max32 →
    RightsOk obj.type rights →
    requested ≠ 0 →
    Mask.Sub requested rights →
    table.slots decoded.slot = .owning .live decoded.generation pins obj rights →
    rights &&& kHandleRightDuplicate ≠ 0 →
    Effect ⟨table, inflight, nonce⟩
      (.replace handle requested (.ok (handleEncode decoded.slot (decoded.generation + 1))))
      ⟨table.setSlot decoded.slot (.owning .live (decoded.generation + 1) pins obj requested),
        inflight, nonce⟩
  | adoptMark :
    decodeHandleNospec handle = some decoded →
    table.state = .open →
    GenOk decoded.generation →
    decoded.generation < kHandleGenerationMax →
    pins ≤ max32 →
    RightsOk obj.type rights →
    RightsOk replacement.type requested →
    table.activeOperations < max32 →
    table.slots decoded.slot = .owning .live decoded.generation pins obj rights →
    Effect ⟨table, inflight, nonce⟩ (.adoptMark handle (some replacement) requested type (.ok ()))
      ⟨{ table.setSlot decoded.slot (.owning .closing decoded.generation pins obj rights) with
          activeOperations := table.activeOperations + 1 },
        .adopting decoded replacement requested ::ₘ inflight, nonce⟩
  | adoptFinish :
    decoded.generation < kHandleGenerationMax →
    0 < decoded.slot.val →
    RightsOk replacement.type requested →
    0 < table.activeOperations →
    table.slots decoded.slot = .owning .closing decoded.generation 0 obj rights →
    Effect ⟨table, .adopting decoded replacement requested ::ₘ inflight, nonce⟩
      (.adoptFinish decoded replacement requested
        (some ⟨handleEncode decoded.slot (decoded.generation + 1), obj⟩))
      ⟨{ table.setSlot decoded.slot
            (.owning .live (decoded.generation + 1) 0 replacement requested) with
          activeOperations := table.activeOperations - 1 }, inflight, nonce⟩
  | drainOwner : table.state = .open → Effect ⟨table, inflight, nonce⟩ (.drainBegin .owner)
      ⟨{ table with state := .draining }, .drainPolling ::ₘ inflight, nonce⟩
  | drainWaiter : Effect ⟨table, inflight, nonce⟩ (.drainBegin .waiter)
      ⟨table, .drainWaiting ::ₘ inflight, nonce⟩
  | drainQuiescent : table.activeOperations = 0 →
    Effect ⟨table, .drainPolling ::ₘ inflight, nonce⟩ (.drainPoll true)
      ⟨table, .drainDetaching ::ₘ inflight, nonce⟩
  | drainReturn :
    Effect ⟨table, .drainWaiting ::ₘ inflight, nonce⟩ (.drainWait true) ⟨table, inflight, nonce⟩
  | drainDetach : table.state = .draining → table.activeOperations = 0 →
    Effect ⟨table, .drainDetaching ::ₘ inflight, nonce⟩
      (.drainDetach (drainIndices.filterMap fun index => (table.slots index).obj))
      ⟨table.closeRows drainIndices,
        .drainReleasing (drainIndices.filterMap fun index => (table.slots index).obj) ::ₘ inflight,
        nonce⟩
  | drainComplete {table inflight nonce victims} : table.state = .draining →
    table.activeOperations = 0 →
    Emptied table →
    Effect ⟨table, .drainReleasing victims ::ₘ inflight, nonce⟩ .drainComplete
      ⟨{ table with state := .closed }, inflight, nonce⟩

/-- The row a lookup between its two sections has pinned. -/
lemma Inv.retaining_row (inv : Inv ⟨table, .retaining decoded snapshot ::ₘ inflight, nonce⟩) :
    ∃ state generation pins rights, (state = .live ∨ state = .closing) ∧ GenOk generation ∧
      pins < max32 ∧ RightsOk snapshot.obj.type rights ∧ 0 < table.activeOperations ∧
      table.slots decoded.slot = .owning state generation (pins + 1) snapshot.obj rights := by
  have mem := mem_cons_self (InFlight.retaining decoded snapshot) inflight
  have known : (table.slots decoded.slot).obj = some snapshot.obj := inv.calls _ mem
  have pinned : 0 < (table.slots decoded.slot).acquisitionPins :=
    inv.pinned_of_mem mem (decide_eq_true rfl)
  have active := lt_of_lt_of_le pinned (inv.pins_le_active decoded.slot)
  generalize row : table.slots decoded.slot = slot at known pinned
  cases row ▸ inv.ok.rows decoded.slot with
  | closed | reserved => cases known
  | @live generation pins obj rights gen le rightsOk =>
    obtain ⟨pins, rfl⟩ := Nat.exists_eq_add_one_of_ne_zero (Nat.ne_of_gt pinned)
    cases known
    exact ⟨_, _, pins, _, .inl rfl, gen, le, rightsOk, active, rfl⟩
  | @closing generation pins obj rights gen le rightsOk =>
    obtain ⟨pins, rfl⟩ := Nat.exists_eq_add_one_of_ne_zero (Nat.ne_of_gt pinned)
    cases known
    exact ⟨_, _, pins, _, .inr rfl, gen, le, rightsOk, active, rfl⟩

lemma Inv.closing_row {decoded : DecodedHandle} (inv : Inv s) (mem : op ∈ s.inflight)
    (closes : op.closesSlot decoded.slot)
    (known : (s.table.slots decoded.slot).generation = decoded.generation) :
    ∃ pins obj rights, GenOk decoded.generation ∧ 0 < s.table.activeOperations ∧
      s.table.slots decoded.slot = .owning .closing decoded.generation pins obj rights := by
  have active := inv.active_of_closes mem (InFlight.closes_of_closesSlot closes)
  obtain ⟨generation, pins, obj, rights, row, gen, _, _⟩ :=
    (inv.ok.rows decoded.slot).of_closing (inv.closing_of_mem mem closes)
  rw [row] at known
  cases known
  exact ⟨pins, obj, rights, gen, active, row⟩

lemma Inv.detaching_row (inv : Inv ⟨table, .detaching decoded ::ₘ inflight, nonce⟩) :
    ∃ pins obj rights, GenOk decoded.generation ∧ 0 < table.activeOperations ∧
      table.slots decoded.slot = .owning .closing decoded.generation pins obj rights := by
  have mem := mem_cons_self (InFlight.detaching decoded) inflight
  exact inv.closing_row mem (decide_eq_true rfl) (inv.calls _ mem)

lemma Inv.adopting_row
    (inv : Inv ⟨table, .adopting decoded replacement requested ::ₘ inflight, nonce⟩) :
    ∃ pins obj rights, decoded.generation < kHandleGenerationMax ∧ 0 < decoded.slot.val ∧
      RightsOk replacement.type requested ∧ 0 < table.activeOperations ∧
      table.slots decoded.slot = .owning .closing decoded.generation pins obj rights := by
  have mem := mem_cons_self (InFlight.adopting decoded replacement requested) inflight
  obtain ⟨same, lt, pos, ok⟩ := inv.calls _ mem
  obtain ⟨pins, obj, rights, _, active, row⟩ := inv.closing_row mem (decide_eq_true rfl) same
  exact ⟨pins, obj, rights, lt, pos, ok, active, row⟩

lemma Inv.drainDetaching (inv : Inv ⟨table, .drainDetaching ::ₘ inflight, nonce⟩) :
    table.state = .draining ∧ table.activeOperations = 0 := by
  have mem := mem_cons_self InFlight.drainDetaching inflight
  exact ⟨inv.draining_of_mem mem rfl, inv.calls _ mem⟩

lemma Inv.drainReleasing (inv : Inv ⟨table, .drainReleasing victims ::ₘ inflight, nonce⟩) :
    table.state = .draining ∧ table.activeOperations = 0 ∧ Emptied table := by
  have mem := mem_cons_self (InFlight.drainReleasing victims) inflight
  exact ⟨inv.draining_of_mem mem rfl, inv.calls _ mem⟩

lemma handleTableRights_effect (ok : table.Ok) (handle) :
    Effect ⟨table, inflight, nonce⟩ (.rights handle (handleTableRights table handle))
      ⟨table, inflight, nonce⟩ := by
  unfold handleTableRights
  split
  · exact .quiet .rights
  rename_i decoded decodes
  split
  · exact .quiet .rights
  rename_i isOpen
  dsimp only
  split
  · rename_i matched
    obtain ⟨pins, obj, rights, row, _⟩ := slotMatches_row (ok.rows decoded.slot) matched
    rw [row]
    exact .rights decodes (not_not.mp isOpen) row
  · exact .quiet .rights

/-- A check of a token's rights is quiet or finds the live row of the token. -/
lemma handleCheckRight_effect (ok : table.Ok) (handle required) :
    Effect ⟨table, inflight, nonce⟩
      (.checkRight handle required (handleCheckRight table handle required))
      ⟨table, inflight, nonce⟩ := by
  generalize eq : handleCheckRight _ _ _ = result
  cases result with
  | false => exact .quiet .checkRight
  | true =>
    unfold handleCheckRight at eq
    split at eq
    · cases eq
    split at eq
    · cases eq
    rename_i decoded decodes
    split at eq
    · cases eq
    · rename_i isOpen
      obtain ⟨pins, obj, rights, row, _⟩ :=
        slotMatches_row (ok.rows decoded.slot) (Bool.and_eq_true_iff.mp eq).1
      exact .checkRight decodes (not_not.mp isOpen) row

section Sections

variable {table : HandleTable} {α : Type}

/-- A section that is over when it returns: no assertion fails, and what it did is an effect. -/
def Settles (table : HandleTable) (ran : Except Kassert (α × HandleTable))
    (event : α → Event) : Prop :=
  ∃ result table', ran = .ok (result, table') ∧
    ∀ inflight nonce, Effect ⟨table, inflight, nonce⟩ (event result) ⟨table', inflight, nonce⟩

/-- A section that its caller goes on from: it is refused without a trace, or what it did is an
effect. -/
def Marks (table : HandleTable) (ran : Except Kassert (Except ErrorCode α × HandleTable))
    (event : α → Event)
    (op : α → InFlight) : Prop :=
  (∃ code, ran = .ok (.error code, table)) ∨ ∃ a table', ran = .ok (.ok a, table') ∧
    ∀ inflight nonce, Effect ⟨table, inflight, nonce⟩ (event a) ⟨table', op a ::ₘ inflight, nonce⟩

lemma Settles.refused {event : Except ErrorCode α → Event} (quiet : (event (.error code)).Quiet) :
    Settles table (.ok (.error code, table)) event :=
  ⟨_, _, rfl, fun _ _ => .quiet quiet⟩

lemma Settles.effect {event : α → Event} {inflight} (settles : Settles table ran event)
    (returned : ran = .ok (result, table')) :
    Effect ⟨table, inflight, nonce⟩ (event result) ⟨table', inflight, nonce⟩ := by
  obtain ⟨_, _, eq, effect⟩ := settles
  cases eq.symm.trans returned
  exact effect inflight nonce

lemma Settles.not_fault {ran : Except Kassert (α × HandleTable)} {event : α → Event}
    (settles : Settles table ran event) : ran ≠ .error failed := by
  obtain ⟨_, _, eq, _⟩ := settles
  exact fun fault => nomatch eq.symm.trans fault

lemma Marks.unchanged {event : α → Event} {op : α → InFlight} {code}
    (marks : Marks table ran event op)
    (returned : ran = .ok (.error code, table')) : table' = table := by
  rcases marks with ⟨_, eq⟩ | ⟨_, _, eq, _⟩
  · cases eq.symm.trans returned
    rfl
  · cases eq.symm.trans returned

lemma Marks.effect {event : α → Event} {op : α → InFlight} {inflight}
    (marks : Marks table ran event op)
    (returned : ran = .ok (.ok a, table')) :
    Effect ⟨table, inflight, nonce⟩ (event a) ⟨table', op a ::ₘ inflight, nonce⟩ := by
  rcases marks with ⟨_, eq⟩ | ⟨_, _, eq, effect⟩
  · cases eq.symm.trans returned
  · cases eq.symm.trans returned
    exact effect inflight nonce

lemma Marks.not_fault {ran : Except Kassert (Except ErrorCode α × HandleTable)} {event : α → Event}
    {op : α → InFlight} (marks : Marks table ran event op) : ran ≠ .error failed := by
  rcases marks with ⟨_, eq⟩ | ⟨_, _, eq, _⟩
  all_goals exact fun fault => nomatch eq.symm.trans fault

variable (ok : table.Ok)

include ok

lemma claimFreeSlot_row (retained) :
    claimFreeSlot retained (Slots.probeOrder (searchStart table)) table = .ok (none, table) ∨
      ∃ index, claimFreeSlot retained (Slots.probeOrder (searchStart table)) table =
        .ok (some index, table) ∧
        0 < index.val ∧ (table.slots index).generation < kHandleGenerationMax ∧
        table.slots index = .closedAt (table.slots index).generation ∧
        handleEncode index ((table.slots index).generation + 1) ≠ kHandleInvalid := by
  refine (claimFreeSlot_spec ok.rows retained _).imp_right fun ⟨index, pos, free, eq⟩ => ?_
  obtain ⟨row, lt⟩ := (ok.rows index).of_free free
  exact ⟨index, eq, pos, lt, row, handleEncode_ne_invalid pos (Nat.succ_pos _) lt⟩

lemma handleTableInsert_effect (obj refcount rights) :
    Settles table (handleTableInsert table obj refcount rights) (.insert obj rights) := by
  unfold handleTableInsert
  cases obj with
  | none => exact .refused .insert
  | some o =>
    dsimp only
    split_ifs with args allowed _ isOpen
    any_goals exact .refused .insert
    rcases claimFreeSlot_row ok .freeSlotRetainedLiveMetadata
      with eq | ⟨index, eq, pos, lt, row, valid⟩
    · rw [eq]
      exact .refused .insert
    rw [eq]
    dsimp only
    rw [add32_generation lt, if_neg valid]
    refine ⟨_, _, rfl, fun inflight nonce => ?_⟩
    have effect := @Effect.insert table inflight nonce o rights _ index
      ⟨fun e => args (.inr (.inl e)), allowed⟩ (not_not.mp isOpen) pos lt row
    rw [row]
    exact effect

lemma handleTableReserve_effect {inflight nonce} (type rights) :
    ∃ result nonce' table', handleTableReserve table type rights nonce =
      .ok ((result, nonce'), table') ∧
      Effect ⟨table, inflight, nonce⟩ (.reserve type rights result) ⟨table', inflight, nonce'⟩ := by
  unfold handleTableReserve
  split_ifs with args allowed isOpen
  any_goals exact ⟨_, _, _, rfl, .quiet .reserve⟩
  rcases claimFreeSlot_row ok .freeSlotRetainedReservationMetadata
    with eq | ⟨index, eq, pos, lt, row, valid⟩
  · rw [eq]
    exact ⟨_, _, _, rfl, .quiet .reserve⟩
  rw [eq]
  dsimp only
  split
  · exact ⟨_, _, _, rfl, .quiet .reserve⟩
  rename_i minted
  rw [add32_generation lt, if_neg valid]
  refine ⟨_, _, _, rfl, ?_⟩
  have same := (mintHandleReservationNonce_fst nonce).resolve_left minted
  have effect := @Effect.reserve table inflight nonce _ type rights _ index
    ⟨fun e => args (.inr (.inl e)), allowed⟩ (fun e => args (.inl e)) minted (not_not.mp isOpen)
      pos lt row
  rw [← same, row]
  exact effect

lemma handleTablePublish_effect (reservation obj refcount) :
    Settles table (handleTablePublish table reservation obj refcount)
      (.publish reservation obj) := by
  unfold handleTablePublish
  split
  · exact .refused .publish
  cases decodes : decodeHandleNospec reservation.handle with
  | none => exact .refused .publish
  | some decoded =>
    cases obj with
    | none => exact .refused .publish
    | some o =>
      dsimp only
      split_ifs with _ _ isOpen matched _ allowed
      any_goals exact .refused .publish
      obtain ⟨type, rights, row, genOk, rightsOk⟩ :=
        reservationMatches_row (ok.rows decoded.slot) matched
      rw [row] at allowed ⊢
      exact ⟨_, _, rfl, fun _ _ =>
        .publish decodes (not_not.mp isOpen) genOk ⟨rightsOk.1, allowed⟩ row⟩

lemma handleTableAbort_effect (reservation) :
    Settles table (handleTableAbort table reservation) (.abort reservation) := by
  unfold handleTableAbort
  split
  · exact .refused .abort
  cases decodes : decodeHandleNospec reservation.handle with
  | none => exact .refused .abort
  | some decoded =>
    dsimp only
    split_ifs with isOpen matched
    any_goals exact .refused .abort
    obtain ⟨type, rights, row, genOk, _⟩ := reservationMatches_row (ok.rows decoded.slot) matched
    rw [row]
    exact ⟨_, _, rfl, fun _ _ => .abort decodes (not_not.mp isOpen) genOk row⟩

lemma handleReplace_effect (handle requested) :
    Settles table (handleReplace table handle requested) (.replace handle requested) := by
  unfold handleReplace
  cases decodes : decodeHandleNospec handle with
  | none => exact .refused .replace
  | some decoded =>
    dsimp only
    split
    · exact .refused .replace
    rename_i args
    split
    · exact .refused .replace
    rename_i isOpen
    split
    · exact .refused .replace
    rename_i matched
    split
    · exact .refused .replace
    rename_i granted
    split
    · exact .refused .replace
    rename_i terminal
    obtain ⟨pins, obj, rights, row, genOk, pinsLe, rightsOk⟩ :=
      slotMatches_row (ok.rows decoded.slot) (not_not.mp matched)
    obtain ⟨_, slot_pos, _, _⟩ := decodeHandleNospec_some decodes
    rw [row] at granted terminal ⊢
    simp only [HandleSlot.owning, not_or, not_not] at granted terminal
    have lt : decoded.generation < kHandleGenerationMax := lt_of_le_of_ne genOk.2 terminal
    have valid : handleEncode decoded.slot (decoded.generation + 1) ≠ kHandleInvalid :=
      handleEncode_ne_invalid slot_pos (Nat.succ_pos _) lt
    simp only [HandleSlot.owning, add32_generation lt, if_neg valid]
    exact ⟨_, _, rfl, fun _ _ =>
      .replace decodes (not_not.mp isOpen) genOk lt pinsLe rightsOk (fun e => args (.inl e))
      granted.2 row granted.1⟩

lemma retainSnapshotPin_effect (handle type required) :
    Marks table (retainSnapshotPin table handle type required)
      (fun pinned => .pin handle type required (.ok pinned.2))
      (fun pinned => .retaining pinned.1 pinned.2) := by
  unfold retainSnapshotPin
  cases decodes : decodeHandleNospec handle with
  | none => exact .inl ⟨_, rfl⟩
  | some decoded =>
    dsimp only
    cases checked : checkSlot (table.slots decoded.slot) decoded.generation type required with
    | error code => split_ifs <;> exact .inl ⟨_, rfl⟩
    | ok obj =>
      dsimp only
      split_ifs with _ isOpen room
      any_goals exact .inl ⟨_, rfl⟩
      obtain ⟨pins, rights, row, genOk, pinsLe, rightsOk, sub, typed⟩ :=
        checkSlot_row (ok.rows decoded.slot) checked
      rw [row] at room ⊢
      simp only [HandleSlot.owning, not_or] at room
      simp only [HandleSlot.owning, add32_counter pinsLe room.1, add32_counter ok.active room.2]
      exact .inr ⟨_, _, rfl,
        fun _ _ => .pin decodes (not_not.mp isOpen) genOk (lt_of_le_of_ne pinsLe room.1) rightsOk
        (lt_of_le_of_ne ok.active room.2) row sub typed⟩

lemma handleTableDetachMark_effect (handle type required) :
    Marks table (handleTableDetachMark table handle type required)
      (fun _ => .detachMark handle type required (.ok ())) .detaching := by
  unfold handleTableDetachMark
  cases decodes : decodeHandleNospec handle with
  | none => exact .inl ⟨_, rfl⟩
  | some decoded =>
    dsimp only
    cases checked : checkSlot (table.slots decoded.slot) decoded.generation type required with
    | error code => split_ifs <;> exact .inl ⟨_, rfl⟩
    | ok obj =>
      dsimp only
      split_ifs with _ isOpen room
      any_goals exact .inl ⟨_, rfl⟩
      obtain ⟨pins, rights, row, genOk, pinsLe, rightsOk, _, _⟩ :=
        checkSlot_row (ok.rows decoded.slot) checked
      rw [row, add32_counter ok.active room]
      exact .inr ⟨_, _, rfl,
        fun _ _ => .detachMark decodes (not_not.mp isOpen) genOk pinsLe rightsOk
        (lt_of_le_of_ne ok.active room) row⟩

lemma handleTableAdoptReplaceMark_effect (existing replacement refcount requested type) :
    Marks table (handleTableAdoptReplaceMark table existing replacement refcount requested type)
      (fun _ => .adoptMark existing replacement requested type (.ok ()))
      (fun adopted => .adopting adopted.1 adopted.2 requested) := by
  unfold handleTableAdoptReplaceMark
  cases decodes : decodeHandleNospec existing with
  | none => exact .inl ⟨_, rfl⟩
  | some decoded =>
    cases replacement with
    | none => exact .inl ⟨_, rfl⟩
    | some o =>
      dsimp only
      cases checked : checkSlot (table.slots decoded.slot) decoded.generation type 0 with
      | error code => split_ifs <;> exact .inl ⟨_, rfl⟩
      | ok obj =>
        dsimp only
        split_ifs with args _ allowed _ isOpen room
        any_goals exact .inl ⟨_, rfl⟩
        obtain ⟨pins, rights, row, genOk, pinsLe, rightsOk, _, _⟩ :=
          checkSlot_row (ok.rows decoded.slot) checked
        rw [row] at room
        simp only [HandleSlot.owning, not_or] at room
        rw [row, add32_counter ok.active room.2]
        exact .inr ⟨_, _, rfl,
          fun _ _ => .adoptMark decodes (not_not.mp isOpen) genOk
            (lt_of_le_of_ne genOk.2 room.1) pinsLe
          rightsOk ⟨fun e => args (.inr (.inl e)), allowed⟩ (lt_of_le_of_ne ok.active room.2) row⟩

end Sections

/-- Under the invariant no assertion fails and every step is an effect. -/
lemma Step.effect (inv : Inv s) (st : Step s e s') : Effect s e s' := by
  cases st with
  | insert h => exact (handleTableInsert_effect inv.ok _ _ _).effect h
  | insertFault h => exact absurd h (handleTableInsert_effect inv.ok _ _ _).not_fault
  | @reserve _ _ inflight nonce _ type rights _ h =>
    obtain ⟨_, _, _, eq, effect⟩ := @handleTableReserve_effect _ inv.ok inflight nonce type rights
    cases eq.symm.trans h
    exact effect
  | @reserveFault _ inflight nonce type rights _ h =>
    obtain ⟨_, _, _, eq, _⟩ := @handleTableReserve_effect _ inv.ok inflight nonce type rights
    cases eq.symm.trans h
  | publish h => exact (handleTablePublish_effect inv.ok _ _ _).effect h
  | publishFault h => exact absurd h (handleTablePublish_effect inv.ok _ _ _).not_fault
  | abort h => exact (handleTableAbort_effect inv.ok _).effect h
  | abortFault h => exact absurd h (handleTableAbort_effect inv.ok _).not_fault
  | pinRefused h =>
    cases (retainSnapshotPin_effect inv.ok _ _ _).unchanged h
    exact .quiet .pin
  | pin h => exact (retainSnapshotPin_effect inv.ok _ _ _).effect h
  | pinFault h => exact absurd h (retainSnapshotPin_effect inv.ok _ _ _).not_fault
  | unpin h =>
    obtain ⟨_, _, _, _, state, gen, lt, ok, active, row⟩ := inv.retaining_row
    cases (retainSnapshotUnpin_spec inv.ok row lt active _).symm.trans h
    exact .unpin state gen lt ok active row
  | unpinFault h =>
    obtain ⟨_, _, _, _, _, _, lt, _, active, row⟩ := inv.retaining_row
    cases (retainSnapshotUnpin_spec inv.ok row lt active _).symm.trans h
  | rights => exact handleTableRights_effect inv.ok _
  | checkRight => exact handleCheckRight_effect inv.ok _ _
  | detachRefused h =>
    cases (handleTableDetachMark_effect inv.ok _ _ _).unchanged h
    exact .quiet .detachMark
  | detachMark h => exact (handleTableDetachMark_effect inv.ok _ _ _).effect h
  | detachMarkFault h => exact absurd h (handleTableDetachMark_effect inv.ok _ _ _).not_fault
  | detachSpin h =>
    obtain ⟨pins, obj, rights, _, active, row⟩ := inv.detaching_row
    have eq := (handleTableDetachFinish_spec inv.ok row active).symm.trans h
    split at eq
    · cases eq
    · cases eq
      exact .quiet .detachFinish
  | detachFinish h =>
    obtain ⟨pins, obj, rights, gen, active, row⟩ := inv.detaching_row
    have eq := (handleTableDetachFinish_spec inv.ok row active).symm.trans h
    split at eq
    · rename_i unpinned
      cases unpinned
      cases eq
      exact .detachFinish gen active row
    · cases eq
  | detachFault h =>
    obtain ⟨pins, obj, rights, _, active, row⟩ := inv.detaching_row
    have eq := (handleTableDetachFinish_spec inv.ok row active).symm.trans h
    split at eq
    · cases eq
    · cases eq
  | replace h => exact (handleReplace_effect inv.ok _ _).effect h
  | replaceFault h => exact absurd h (handleReplace_effect inv.ok _ _).not_fault
  | adoptRefused h =>
    cases (handleTableAdoptReplaceMark_effect inv.ok _ _ _ _ _).unchanged h
    exact .quiet .adoptMark
  | adoptMark h => exact (handleTableAdoptReplaceMark_effect inv.ok _ _ _ _ _).effect h
  | adoptMarkFault h =>
    exact absurd h (handleTableAdoptReplaceMark_effect inv.ok _ _ _ _ _).not_fault
  | adoptSpin h =>
    obtain ⟨pins, obj, rights, lt, pos, _, active, row⟩ := inv.adopting_row
    have eq := (handleTableAdoptReplaceFinish_spec inv.ok row pos lt active _ _).symm.trans h
    split at eq
    · cases eq
    · cases eq
      exact .quiet .adoptFinish
  | adoptFinish h =>
    obtain ⟨pins, obj, rights, lt, pos, ok, active, row⟩ := inv.adopting_row
    have eq := (handleTableAdoptReplaceFinish_spec inv.ok row pos lt active _ _).symm.trans h
    split at eq
    · rename_i unpinned
      cases unpinned
      cases eq
      exact .adoptFinish lt pos ok active row
    · cases eq
  | adoptFault h =>
    obtain ⟨pins, obj, rights, lt, pos, _, active, row⟩ := inv.adopting_row
    have eq := (handleTableAdoptReplaceFinish_spec inv.ok row pos lt active _ _).symm.trans h
    split at eq
    · cases eq
    · cases eq
  | drainDone h =>
    unfold handleTableDrainBegin at h
    split at h <;> cases h
    exact .quiet .drainDone
  | drainOwner h =>
    unfold handleTableDrainBegin at h
    split at h <;> cases h
    rename_i isOpen
    exact .drainOwner isOpen
  | drainWaiter h =>
    unfold handleTableDrainBegin at h
    split at h <;> cases h
    exact .drainWaiter
  | drainBusy => exact .quiet .drainPoll
  | drainQuiescent h => exact .drainQuiescent (of_decide_eq_true h)
  | drainWait => exact .quiet .drainWait
  | drainReturn => exact .drainReturn
  | drainDetach h =>
    obtain ⟨draining, zero⟩ := inv.drainDetaching
    cases (handleTableDrainDetach_spec inv.ok.rows draining (inv.quiescent zero)).symm.trans h
    exact .drainDetach draining zero
  | drainDetachFault h =>
    obtain ⟨draining, zero⟩ := inv.drainDetaching
    cases (handleTableDrainDetach_spec inv.ok.rows draining (inv.quiescent zero)).symm.trans h
  | drainComplete h =>
    obtain ⟨draining, zero, emptied⟩ := inv.drainReleasing
    rw [handleTableDrainComplete, if_neg (not_not.mpr draining)] at h
    cases h
    exact .drainComplete draining zero emptied
  | drainCompleteFault h =>
    obtain ⟨draining, _, _⟩ := inv.drainReleasing
    rw [handleTableDrainComplete, if_neg (not_not.mpr draining)] at h
    cases h
  | nonceElsewhere => exact .quiet .nonceElsewhere

end DuetOS.HandleTable
