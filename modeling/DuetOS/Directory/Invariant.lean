import DuetOS.Directory.Close

/-!
# The invariant of the service directory

`Sound s` relates the rows to the calls in progress, and says where every receipt is. `Effect s s'`
is what a section may do: it moves one row, or none, and passes receipts between the row, the calls,
their callers and the endpoint owner. Every effect keeps the invariant.
-/

namespace DuetOS.Directory

open Word DuetOS.Lifecycle Function Multiset
open scoped BigOperators

namespace Call

/-- The receipts the call holds in its local data. -/
def holds : Call → Multiset ServiceEndpointOwnerReceipt
  | .paired _ receipt _ => {receipt}
  | .cleaning owned _ _ => {owned.owner}
  | .closing progress => receiptsOf progress.pending + receiptsOf progress.failed
  | _ => 0

/-- The receipt the endpoint owner took back from the call, while its tracker still shows it. -/
def spent : Call → Multiset ServiceEndpointOwnerReceipt
  | .released _ receipt .ok _ => {receipt}
  | _ => 0

/-- What the call knows about its local data. -/
def WellFormed : Call → Prop
  | .paired _ receipt _ => serviceEndpointOwnerReceiptIsValid receipt
  | .cleaning owned result _ => drainable owned ∧ result.status ≠ .corruptState
  | .claimed _ _ acceptor => acceptor ≠ none
  | .releasing _ _ drive | .released _ _ _ drive =>
    ∀ progress, drive = some progress → progress.failureStatus ≠ .corruptState
  | .driving progress => progress.failureStatus ≠ .corruptState
  | .closing progress =>
    (∀ channel ∈ progress.pending, drainable channel) ∧
      (∀ channel ∈ progress.failed, drainable channel) ∧
      progress.pending.length + progress.failed.length ≤ progress.count
  | _ => True

end Call

def registered (key : ServiceKey) (calls : Multiset Call) : Multiset Call :=
  calls.filter fun call => call.service = some key

def callsHeld (calls : Multiset Call) :
    Multiset ServiceEndpointOwnerReceipt := (calls.map Call.holds).sum

/-- The receipts that were released under trackers not cleared yet. -/
def callsSpent (calls : Multiset Call) :
    Multiset ServiceEndpointOwnerReceipt := (calls.map Call.spent).sum

def rowsHeld (directory : ServiceDirectory) : Multiset ServiceEndpointOwnerReceipt :=
  ∑ index, (directory.rows index).held

def rowsServed (directory : ServiceDirectory) : Multiset (ProcessKey × Nat) :=
  ∑ index, (directory.rows index).served

/-- The receipts of the channels that callers have to drain. -/
def rollbackReceipts (rollbacks : Multiset ServiceDirectoryOwnedChannel) :
    Multiset ServiceEndpointOwnerReceipt :=
  rollbacks.map fun channel => channel.owner

def State.held (s : State) : Multiset ServiceEndpointOwnerReceipt :=
  rowsHeld s.directory + callsHeld s.calls + rollbackReceipts s.rollbacks

structure DirectorySound (directory : ServiceDirectory) (last : LastServiceGenerations)
    (calls : Multiset Call) : Prop where
  initialized : directory.initialized = kDirectoryInitializeReady
  state : directory.state = .open
  endpointOwner : directory.endpointOwner ≠ 0
  hint : directory.deferredScanHint < kServiceDirectoryDeferredAcceptedCapacity
  row : ∀ {index}, (directory.rows index).occupied →
    RowSound (directory.rows index) (registered (directory.rows index).key calls)
  idle : ∀ {index}, (directory.rows index).occupied = false → rowIsCanonical (directory.rows index)
  slot : ∀ {index}, (directory.rows index).occupied → (directory.rows index).key.slot = index
  live : ∀ {call key}, call ∈ calls → call.service = some key →
    ∃ index, (directory.rows index).occupied ∧ (directory.rows index).key = key
  name : ∀ {i j}, (directory.rows i).occupied → (directory.rows j).occupied →
    nameEquals (directory.rows i).name (directory.rows j).name → i = j
  identity : ∀ {i j}, (directory.rows i).occupied → (directory.rows j).occupied →
    (directory.rows i).owner.start.serviceIdentity =
      (directory.rows j).owner.start.serviceIdentity →
    i = j
  generation : ∀ {index}, (directory.rows index).occupied →
    (directory.rows index).key.generation ≤ last index
  last : ∀ index, last index ≤ kServiceKeyGenerationMaximum

structure Sound (s : State) : Prop where
  directory : DirectorySound s.directory s.last s.calls
  calls : ∀ call ∈ s.calls, call.WellFormed
  rollbacks : ∀ owned ∈ s.rollbacks, drainable owned
  created : s.created.Nodup
  conserved : s.held + (s.released : Multiset _) = (s.created : Multiset _) + callsSpent s.calls
  handles : s.handles.Nodup
  served : rowsServed s.directory ≤ (s.handles : Multiset _)

section Registered

variable {calls : Multiset Call}

lemma registered_add :
    registered key (calls + calls') = registered key calls + registered key calls' :=
  filter_add ..

lemma registered_eq_zero (other : ∀ call ∈ calls, call.service ≠ some key) :
    registered key calls = 0 :=
  filter_eq_nil.mpr other

lemma registered_cons (works : call.service = some key) :
    registered key (call ::ₘ calls) = call ::ₘ registered key calls :=
  filter_cons_of_pos _ works

lemma registered_cons_none (idle : call.service = none) :
    registered key (call ::ₘ calls) = registered key calls :=
  filter_cons_of_neg _ (by rw [idle]; nofun)

lemma registered_add_idle (idle : ∀ call ∈ calls, call.service = none) :
    registered key (calls + calls') = registered key calls' := by
  have none : registered key calls = 0 := registered_eq_zero fun call mem => by
    rw [idle call mem]
    nofun
  rw [registered_add, none, zero_add]

end Registered

namespace DirectorySound

variable {directory : ServiceDirectory} {last : LastServiceGenerations}
  {before after rest calls : Multiset Call}
  {index : Fin kServiceDirectoryCapacity} {row' : ServiceDirectoryRow}

lemma key_unique (sound : DirectorySound directory last calls)
    (occupied_i : (directory.rows i).occupied) (occupied_j : (directory.rows j).occupied)
    (same : (directory.rows i).key = (directory.rows j).key) : i = j := by
  apply Fin.ext
  rw [← sound.slot occupied_i, ← sound.slot occupied_j, same]

/-- Calls that work on no row come and go. -/
lemma frame (sound : DirectorySound directory last (before + rest))
    (idle : ∀ call ∈ before + after, call.service = none) :
    DirectorySound directory last (after + rest) := by
  have same : ∀ key, registered key (after + rest) = registered key (before + rest) := by
    intro key
    rw [registered_add_idle fun call mem => idle call (mem_add.mpr (.inl mem)),
      registered_add_idle fun call mem => idle call (mem_add.mpr (.inr mem))]
  refine { sound with row := fun occupied => ?_, live := fun {call key} mem works => ?_ }
  · rw [same]
    exact sound.row occupied
  · rcases mem_add.mp mem with new | old
    · rw [idle call (mem_add.mpr (.inr new))] at works
      cases works
    · exact sound.live (mem_add.mpr (.inr old)) works

/-- One row moves, and with it the calls that work on it. -/
lemma move (sound : DirectorySound directory last (before + rest))
    (occupied : (directory.rows index).occupied)
    (works : ∀ call ∈ before + after, call.service = none ∨
      call.service = some (directory.rows index).key)
    (next : Next (directory.rows index) row'
      (registered (directory.rows index).key (after + rest))) :
    DirectorySound (directory.setRow index row') last (after + rest) := by
  have at_index : (directory.setRow index row').rows index = row' := update_self ..
  have elsewhere : ∀ {i}, i ≠ index → (directory.setRow index row').rows i = directory.rows i :=
    fun ne => update_of_ne ne ..
  have kept : row'.occupied → RowSound row' (registered row'.key (after + rest)) ∧
      row'.key = (directory.rows index).key ∧ row'.name = (directory.rows index).name ∧
      row'.owner = (directory.rows index).owner := by
    intro used
    rcases next with ⟨row_sound, key, name, owner⟩ | ⟨free, _, _⟩
    · rw [key]
      exact ⟨row_sound, rfl, name, owner⟩
    · rw [used] at free
      cases free
  -- what is known of an occupied row's name and owner is known from before
  have before_of : ∀ {i}, ((directory.setRow index row').rows i).occupied →
      (directory.rows i).occupied ∧
      ((directory.setRow index row').rows i).key = (directory.rows i).key ∧
      ((directory.setRow index row').rows i).name = (directory.rows i).name ∧
      ((directory.setRow index row').rows i).owner = (directory.rows i).owner := by
    intro i used
    rcases eq_or_ne i index with rfl | ne
    · rw [at_index] at used ⊢
      exact ⟨occupied, (kept used).2⟩
    · rw [elsewhere ne] at used ⊢
      exact ⟨used, rfl, rfl, rfl⟩
  refine { sound with
    row := fun {i} used => ?_, idle := fun {i} free => ?_, slot := fun {i} used => ?_,
    live := fun {call key} mem at_key => ?_, name := fun used_i used_j same => ?_,
    identity := fun used_i used_j same => ?_, generation := fun {i} used => ?_ }
  · rcases eq_or_ne i index with rfl | ne
    · rw [at_index] at used ⊢
      exact (kept used).1
    · rw [elsewhere ne] at used ⊢
      have other : ∀ call ∈ before + after, call.service ≠ some (directory.rows i).key := by
        intro call mem at_i
        rcases works call mem with none | at_index
        · rw [none] at at_i
          cases at_i
        · exact ne (sound.key_unique used occupied (Option.some.inj (at_i.symm.trans at_index)))
      have old := sound.row used
      rw [registered_add, registered_eq_zero fun call mem =>
        other call (mem_add.mpr (.inl mem))] at old
      rw [registered_add, registered_eq_zero fun call mem =>
        other call (mem_add.mpr (.inr mem))]
      exact old
  · rcases eq_or_ne i index with rfl | ne
    · rw [at_index] at free ⊢
      rcases next with ⟨row_sound, _, _, _⟩ | ⟨_, canonical, _⟩
      · rw [row_sound.canonical.occupied] at free
        cases free
      · exact canonical
    · rw [elsewhere ne] at free ⊢
      exact sound.idle free
  · obtain ⟨old, key, _, _⟩ := before_of used
    rw [key]
    exact sound.slot old
  · -- the row of a call that stays is not recycled
    have at_row : key = (directory.rows index).key →
      ∃ i, ((directory.setRow index row').rows i).occupied ∧
          ((directory.setRow index row').rows i).key = key := by
      rintro rfl
      refine ⟨index, ?_⟩
      rw [at_index]
      rcases next with ⟨row_sound, key, _, _⟩ | ⟨_, _, none⟩
      · exact ⟨row_sound.canonical.occupied, key⟩
      have works : call ∈ registered (directory.rows index).key (after + rest) :=
        mem_filter.mpr ⟨mem, at_key⟩
      rw [none] at works
      cases works
    rcases mem_add.mp mem with new | old
    · rcases works call (mem_add.mpr (.inr new)) with none | same
      · rw [none] at at_key
        cases at_key
      · exact at_row (Option.some.inj (at_key.symm.trans same))
    · obtain ⟨i, used, same⟩ := sound.live (mem_add.mpr (.inr old)) at_key
      rcases eq_or_ne i index with rfl | ne
      · exact at_row same.symm
      · refine ⟨i, ?_⟩
        rw [elsewhere ne]
        exact ⟨used, same⟩
  · obtain ⟨old_i, _, name_i, _⟩ := before_of used_i
    obtain ⟨old_j, _, name_j, _⟩ := before_of used_j
    rw [name_i, name_j] at same
    exact sound.name old_i old_j same
  · obtain ⟨old_i, _, _, owner_i⟩ := before_of used_i
    obtain ⟨old_j, _, _, owner_j⟩ := before_of used_j
    rw [owner_i, owner_j] at same
    exact sound.identity old_i old_j same
  · obtain ⟨old, key, _, _⟩ := before_of used
    rw [key]
    exact sound.generation old

lemma isCanonical (sound : DirectorySound directory last calls) :
    directoryIsCanonicalLocked directory := by
  refine decide_eq_true
    ⟨sound.state, sound.endpointOwner, sound.hint, fun index => ⟨?_, sound.slot⟩⟩
  cases occupied : (directory.rows index).occupied with
  | true => exact (rowIsCanonical_iff occupied).mpr (sound.row occupied).canonical
  | false => exact sound.idle occupied

lemma enters (sound : DirectorySound directory last calls) : enterStatus directory = .ok := by
  have ready : readyStatus directory = .ok := if_pos sound.initialized
  rw [enterStatus, ready, if_neg (by decide), if_neg (by rw [sound.isCanonical]; decide)]

end DirectorySound

section Effect

/-- What a section does to the rows: nothing, or one move of one row. -/
inductive RowsEffect (directory directory' : ServiceDirectory) (before after rest : Multiset Call) :
    Multiset ServiceEndpointOwnerReceipt → Multiset ServiceEndpointOwnerReceipt →
    Multiset (ProcessKey × Nat) → Prop where
  | frame : directory' = directory → (∀ call ∈ before + after, call.service = none) →
    RowsEffect directory directory' before after rest 0 0 0
  | move : (directory.rows index).occupied →
    directory' = directory.setRow index row' →
    (∀ call ∈ before + after, call.service = none ∨
      call.service = some (directory.rows index).key) →
    Change (directory.rows index) row' (registered (directory.rows index).key (after + rest)) lost
      gained published →
    RowsEffect directory directory' before after rest lost gained published

/-- What a section does: the calls `before` become the calls `after`, and receipts and handles pass
between the row, the calls, their callers, the endpoint owner and the handle tables. -/
inductive Effect (s s' : State) : Prop where
  | intro : s.calls = before + rest → s'.calls = after + rest →
    RowsEffect s.directory s'.directory before after rest lost gained published →
    s'.last = s.last →
    (∀ call ∈ after, call.WellFormed) →
    (∀ owned ∈ s'.rollbacks, owned ∈ s.rollbacks ∨ drainable owned) →
    (s.created.Nodup → s'.created.Nodup) →
    callsHeld after + rollbackReceipts s'.rollbacks + (s'.released : Multiset _) + gained +
        ((s.created : Multiset _) + callsSpent before) =
      callsHeld before + rollbackReceipts s.rollbacks + (s.released : Multiset _) + lost +
        ((s'.created : Multiset _) + callsSpent after) →
    (s.handles.Nodup → s'.handles.Nodup) →
    (s'.handles : Multiset _) = published + (s.handles : Multiset _) →
    Effect s s'

lemma callsHeld_add (calls calls') :
    callsHeld (calls + calls') = callsHeld calls + callsHeld calls' := by
  rw [callsHeld, map_add, sum_add]
  rfl

lemma callsSpent_add (calls calls') :
    callsSpent (calls + calls') = callsSpent calls + callsSpent calls' := by
  rw [callsSpent, map_add, sum_add]
  rfl

lemma rowsHeld_setRow (directory index row) :
    rowsHeld (directory.setRow index row) + (directory.rows index).held =
      rowsHeld directory + row.held :=
  Slots.sum_update directory.rows index row fun row => row.held

lemma rowsServed_setRow (directory index row) :
    rowsServed (directory.setRow index row) + (directory.rows index).served =
      rowsServed directory + row.served :=
  Slots.sum_update directory.rows index row fun row => row.served

lemma rowsHeld_congr (same : ∀ index, (directory'.rows index).held = (directory.rows index).held) :
    rowsHeld directory' = rowsHeld directory :=
  Finset.sum_congr rfl fun index _ => same index

lemma rowsServed_congr
    (same : ∀ index, (directory'.rows index).served = (directory.rows index).served) :
    rowsServed directory' = rowsServed directory :=
  Finset.sum_congr rfl fun index _ => same index

lemma rowsServed_eq (directory) :
    rowsServed directory = (acceptedSlots.filterMap fun (index, slot) =>
      ((directory.rows index).acceptedChannels slot).served : List _) := by
  rw [rowsServed, Fin.sum_univ_def, acceptedSlots, List.filterMap_flatMap, ← coe_bind,
    Multiset.bind, Multiset.join, Multiset.map_coe, Multiset.sum_coe]
  refine congrArg List.sum (List.map_congr_left fun index _ => ?_)
  rw [ServiceDirectoryRow.served, Slots.gather_eq_filterMap, List.filterMap_map]
  rfl

lemma le_rowsHeld {part : Fin kServiceDirectoryCapacity → Multiset ServiceEndpointOwnerReceipt}
    (le : ∀ index, part index ≤ (directory.rows index).held) :
    ∑ index, part index ≤ rowsHeld directory :=
  Finset.sum_le_sum fun index _ => le index

lemma rows_eq_zero
    (none : ∀ index, (directory.rows index).held = 0 ∧ (directory.rows index).served = 0) :
    rowsHeld directory = 0 ∧ rowsServed directory = 0 :=
  ⟨Finset.sum_eq_zero fun index _ => (none index).1,
    Finset.sum_eq_zero fun index _ => (none index).2⟩

-- sums over 64 rows are not to be unfolded
attribute [irreducible] rowsHeld rowsServed

namespace RowsEffect

variable {directory : ServiceDirectory} {before after rest : Multiset Call}
  {last : LastServiceGenerations}

section

variable (effect : RowsEffect directory directory' before after rest lost gained published)

include effect

lemma sound (sound : DirectorySound directory last (before + rest)) :
    DirectorySound directory' last (after + rest) := by
  cases effect with
  | frame same idle =>
    rw [same]
    exact sound.frame idle
  | move occupied eq works change =>
    rw [eq]
    exact sound.move occupied works change.next

lemma held : rowsHeld directory' + lost = rowsHeld directory + gained := by
  cases effect with
  | frame same idle => rw [same]
  | @move index row' _ _ _ occupied eq works change =>
    have trade := rowsHeld_setRow directory index row'
    rw [eq]
    apply add_right_cancel (b := (directory.rows index).held)
    calc rowsHeld (directory.setRow index row') + lost + (directory.rows index).held
        = rowsHeld directory + row'.held + lost := by rw [add_right_comm, trade]
      _ = rowsHeld directory + gained + (directory.rows index).held := by
        rw [add_assoc, change.held, ← add_assoc, add_right_comm]

lemma served : rowsServed directory' ≤ published + rowsServed directory := by
  cases effect with
  | frame same idle => rw [same, zero_add]
  | @move index row' _ _ _ occupied eq works change =>
    have trade := rowsServed_setRow directory index row'
    rw [eq]
    apply le_of_add_le_add_right (a := (directory.rows index).served)
    calc rowsServed (directory.setRow index row') + (directory.rows index).served
        = rowsServed directory + row'.served := trade
      _ ≤ rowsServed directory + ((directory.rows index).served + published) :=
        add_le_add_right change.served _
      _ = published + rowsServed directory + (directory.rows index).served := by
        rw [← add_assoc, add_comm, add_assoc]

end

end RowsEffect

lemma Effect.sound (effect : Effect s s') (sound : Sound s) : Sound s' := by
  obtain ⟨eq, eq', rows, last, wellFormed, rollbacks, created, balance, handles, published⟩ :=
    effect
  have directory := sound.directory
  rw [eq] at directory
  refine ⟨?_, fun call mem => ?_, fun owned mem => ?_, created sound.created, ?_,
    handles sound.handles, ?_⟩
  · rw [eq', last]
    exact rows.sound directory
  · rw [eq'] at mem
    rcases mem_add.mp mem with new | old
    · exact wellFormed call new
    · exact sound.calls call (by rw [eq]; exact mem_add.mpr (.inr old))
  · exact (rollbacks owned mem).elim (sound.rollbacks owned) id
  · have conserved := sound.conserved
    have held := rows.held
    rw [State.held, eq, callsHeld_add, callsSpent_add] at conserved
    rw [State.held, eq', callsHeld_add, callsSpent_add]
    ext receipt
    have conserved' := congrArg (count receipt) conserved
    have held' := congrArg (count receipt) held
    have balance' := congrArg (count receipt) balance
    simp only [count_add] at conserved' held' balance' ⊢
    omega
  · rw [published]
    exact rows.served.trans (add_le_add_right sound.served _)

/-- The key of the registration the section made. -/
def Event.reserved : Event → Option ServiceKey
  | .reserveRegistration result =>
    if result.status = .ok then some result.reservation.service else none
  | _ => none

/-- What a section does to the registrations: it makes a new one, or none, and it may end others. -/
inductive Registers (s : State) (e : Event) (s' : State) : Prop where
  | keeps : e.reserved = none → s'.last = s.last → (∀ index, (s'.directory.rows index).occupied →
      (s.directory.rows index).occupied ∧
        (s'.directory.rows index).key = (s.directory.rows index).key) →
    Registers s e s'
  | reserves {slot : Fin kServiceDirectoryCapacity} :
    e.reserved = some ⟨slot, s.last slot + 1⟩ → s'.last = update s.last slot (s.last slot + 1) →
    (s.directory.rows slot).occupied = false →
    (s'.directory.rows slot).occupied → (s'.directory.rows slot).key = ⟨slot, s.last slot + 1⟩ →
    (∀ index, index ≠ slot → (s'.directory.rows index).occupied →
      (s.directory.rows index).occupied ∧
        (s'.directory.rows index).key = (s.directory.rows index).key) →
    Registers s e s'

lemma RowsEffect.keeps {after}
    (effect : RowsEffect directory directory' before after rest lost gained published)
    (index : Fin kServiceDirectoryCapacity) (used : (directory'.rows index).occupied) :
    (directory.rows index).occupied ∧ (directory'.rows index).key = (directory.rows index).key := by
  cases effect with
  | frame same idle =>
    rw [same] at used ⊢
    exact ⟨used, rfl⟩
  | @move i row' _ _ _ occupied eq works change =>
    rw [eq] at used ⊢
    rcases eq_or_ne index i with rfl | ne
    · have at_index : (directory.setRow index row').rows index = row' := update_self ..
      rw [at_index] at used ⊢
      rcases change.next with ⟨_, key, _, _⟩ | ⟨free, _, _⟩
      · exact ⟨occupied, key⟩
      · rw [used] at free
        cases free
    · have elsewhere : (directory.setRow i row').rows index = directory.rows index :=
        update_of_ne ne ..
      rw [elsewhere] at used ⊢
      exact ⟨used, rfl⟩

lemma Effect.registers (effect : Effect s s') (none : e.reserved = none) : Registers s e s' := by
  obtain ⟨_, _, rows, last, _, _, _, _, _, _⟩ := effect
  exact .keeps none last rows.keeps

lemma Sound.rows {directory last} (sound : Sound s) (rows : DirectorySound directory last s.calls)
    (held : rowsHeld directory = rowsHeld s.directory)
    (served : rowsServed directory = rowsServed s.directory) :
    Sound { s with directory, last } := by
  refine { sound with directory := rows, conserved := ?_, served := ?_ }
  · have conserved := sound.conserved
    rw [State.held] at conserved ⊢
    rw [held]
    exact conserved
  · rw [served]
    exact sound.served

end Effect

end DuetOS.Directory
