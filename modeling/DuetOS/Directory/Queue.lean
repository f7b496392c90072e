import DuetOS.Directory.Directory
import DuetOS.Lib.Circular

/-!
# The accept queue

The entries of a row's queue in the order in which they will be accepted, and what each queue
operation makes of them. `QueueSound` is `AcceptQueueIsCanonical` in these terms.
-/

namespace DuetOS.Directory

open Circular Function List

variable {row row' : ServiceDirectoryRow} {queued : ServiceDirectoryQueuedChannel}
  {channel : ServiceEndpointChannelKey}

/-- The queued channels, first come first. -/
def ServiceDirectoryRow.queue (row : ServiceDirectoryRow) : List ServiceDirectoryQueuedChannel :=
  (range row.acceptCount).map row.queuedAt

@[simp]
lemma length_queue (row : ServiceDirectoryRow) : row.queue.length = row.acceptCount := by
  simp [ServiceDirectoryRow.queue]

lemma holds_queue (row : ServiceDirectoryRow) :
    Holds row.acceptQueue kServiceDirectoryAcceptCapacity row.acceptHead row.queue := by
  intro i lt
  simp [ServiceDirectoryRow.queue, ServiceDirectoryRow.queuedAt]

lemma queue_eq {word}
    (holds : Holds row.acceptQueue kServiceDirectoryAcceptCapacity row.acceptHead word)
    (length : row.acceptCount = word.length) : row.queue = word := by
  rw [← holds.read, map_map, ServiceDirectoryRow.queue, length]
  rfl

lemma enqueueTail_queue (room : row.acceptCount < kServiceDirectoryAcceptCapacity) :
    (enqueueTailLocked row queued).queue = row.queue ++ [queued] := by
  have next := @Holds.snoc _ _ _ _ _ queued (holds_queue row) (by rwa [length_queue])
  rw [length_queue] at next
  exact queue_eq next (by simp [enqueueTailLocked])

lemma enqueueFront_queue (room : row.acceptCount < kServiceDirectoryAcceptCapacity) :
    (enqueueFrontLocked row queued).queue = queued :: row.queue := by
  have before : Holds row.acceptQueue kServiceDirectoryAcceptCapacity
      (row.acceptHead + kServiceDirectoryAcceptCapacity - 1 + 1) row.queue := by
    rw [← holds_mod, Nat.sub_add_cancel (by unfold kServiceDirectoryAcceptCapacity; omega),
      Nat.add_mod_right, holds_mod]
    exact holds_queue row
  have next := @Holds.cons _ _ _ _ _ queued before (by rwa [length_queue])
  exact queue_eq (holds_mod.mpr next) (by simp [enqueueFrontLocked])

lemma dequeue_queue (head : row.acceptHead < kServiceDirectoryAcceptCapacity)
    (count : row.acceptCount ≤ kServiceDirectoryAcceptCapacity) (some : row.acceptCount ≠ 0) :
    row.queue = (dequeueLocked row).1 :: (dequeueLocked row).2.queue := by
  obtain ⟨first, rest, eq⟩ : ∃ first rest, row.queue = first :: rest :=
    exists_cons_of_length_pos (by rw [length_queue]; omega)
  have length : row.acceptCount = rest.length + 1 := by rw [← length_queue, eq, length_cons]
  have holds := eq ▸ holds_queue row
  have left := @Holds.tail _ _ _ _ _ _ .zero holds (by omega)
  have head_eq : row.acceptQueue row.acceptHead = first := by
    rw [← (holds_cons.mp holds).1, Nat.mod_eq_of_lt head]
  rw [Nat.mod_eq_of_lt head] at left
  have rest_eq : (dequeueLocked row).2.queue = rest := by
    refine queue_eq ?_ (by simp [dequeueLocked, length])
    simp only [dequeueLocked]
    split
    next last =>
      obtain rfl : rest = [] := length_eq_zero_iff.mp (by omega)
      exact holds_nil
    · exact holds_mod.mpr left
  rw [rest_eq, eq, ← head_eq]
  rfl

/-- The shifting loop moves the entries behind the gap down and leaves a copy of one at the end. -/
lemma holds_shiftDown {head gap store before after}
    (holds : Holds store kServiceDirectoryAcceptCapacity head (before ++ gap :: after))
    (room : before.length + after.length < kServiceDirectoryAcceptCapacity) :
    Holds (shiftDown head before.length after.length store) kServiceDirectoryAcceptCapacity head
      (before ++ after) := by
  -- each turn fills the gap with the next entry, whose own cell becomes the gap
  induction after generalizing store before gap with
  | nil =>
    rw [append_nil]
    exact (holds_append.mp holds).1
  | cons next after ih =>
    rw [length_cons] at room
    have value : store ((head + before.length + 1) % kServiceDirectoryAcceptCapacity) = next := by
      have behind := (holds_append.mp holds).2
      exact (holds_cons.mp (holds_cons.mp behind).2).1
    have filled := @Holds.set _ _ _ _ _ _ _ next holds (by rw [length_cons]; omega)
    have moved : Holds (update store
        ((head + before.length) % kServiceDirectoryAcceptCapacity) next)
          kServiceDirectoryAcceptCapacity
        head ((before ++ [next]) ++ next :: after) := by
      simpa using filled
    have again := ih moved (by rw [length_append, length_singleton]; omega)
    rw [length_append, length_singleton, append_assoc, singleton_append] at again
    rw [length_cons, shiftDown, value]
    exact again

lemma shiftDown_cells {P : ServiceDirectoryQueuedChannel → Prop} {head offset count store}
    (cells : ∀ cell < kServiceDirectoryAcceptCapacity, P (store cell)) :
    ∀ cell < kServiceDirectoryAcceptCapacity, P (shiftDown head offset count store cell) := by
  induction count generalizing offset store with
  | zero => exact cells
  | succ count ih =>
    refine ih fun cell lt => ?_
    rcases eq_or_ne cell ((head + offset) % kServiceDirectoryAcceptCapacity) with rfl | ne
    · rw [update_self]
      exact cells _ (Nat.mod_lt _ (by decide))
    · rw [update_of_ne ne]
      exact cells cell lt

lemma queue_split {offset} (lt : offset < row.acceptCount) :
    ∃ before after, row.queue = before ++ row.queuedAt offset :: after ∧ before.length = offset ∧
      after.length = row.acceptCount - 1 - offset := by
  have lt' : offset < row.queue.length := by rwa [length_queue]
  have at_offset : row.queue[offset] = row.queuedAt offset := by simp [ServiceDirectoryRow.queue]
  refine ⟨row.queue.take offset, row.queue.drop (offset + 1), ?_, ?_, ?_⟩
  · rw [← at_offset, getElem_cons_drop, take_append_drop]
  · rw [length_take, Nat.min_eq_left lt'.le]
  · rw [length_drop, length_queue]
    omega

lemma remove_queue (count : row.acceptCount ≤ kServiceDirectoryAcceptCapacity)
    (removed : removeQueuedLocked row channel = some (queued, row')) :
    ∃ before after, row.queue = before ++ queued :: after ∧ row'.queue = before ++ after := by
  unfold removeQueuedLocked at removed
  split at removed
  · cases removed
  next offset found =>
  cases removed
  have lt : offset < row.acceptCount := mem_range.mp (mem_of_find?_eq_some found)
  obtain ⟨before, after, eq, len_before, len_after⟩ := queue_split lt
  refine ⟨before, after, eq, ?_⟩
  have shifted := holds_shiftDown (eq ▸ holds_queue row) (by omega)
  rw [len_before, len_after] at shifted
  refine queue_eq ?_ (by rw [length_append]; simp only; omega)
  split
  next last =>
    obtain ⟨rfl, rfl⟩ : before = [] ∧ after = [] :=
      ⟨length_eq_zero_iff.mp (by omega), length_eq_zero_iff.mp (by omega)⟩
    exact holds_nil
  · refine shifted.update ⟨row.acceptCount - 1, by rw [length_append]; omega, by omega, ?_⟩
    rw [Nat.add_sub_assoc (by omega)]

lemma markReady_queue (count : row.acceptCount ≤ kServiceDirectoryAcceptCapacity)
    (lt : offset < row.acceptCount) :
    ∃ before after, row.queue = before ++ row.queuedAt offset :: after ∧
      (row.markReady offset).queue = before ++
      { row.queuedAt offset with state := .ready } :: after := by
  obtain ⟨before, after, eq, len_before, len_after⟩ := queue_split lt
  refine ⟨before, after, eq, ?_⟩
  have marked := @Holds.set _ _ _ _ _ _ _ { row.queuedAt offset with state := .ready }
    (eq ▸ holds_queue row) (by omega)
  rw [len_before] at marked
  exact queue_eq marked (by
    rw [length_append, length_cons, len_before, len_after]
    simp only [ServiceDirectoryRow.markReady]
    omega)

/-- `AcceptQueueIsCanonical`: the cells are canonical and the queued ones are in use. -/
structure QueueSound (row : ServiceDirectoryRow) : Prop where
  head : row.acceptHead < kServiceDirectoryAcceptCapacity
  count : row.acceptCount ≤ kServiceDirectoryAcceptCapacity
  cells : ∀ cell < kServiceDirectoryAcceptCapacity, queuedChannelIsCanonical (row.acceptQueue cell)
  used : ∀ queued ∈ row.queue, queued.state ≠ .empty

lemma acceptQueueIsCanonical_iff : acceptQueueIsCanonical row ↔ QueueSound row := by
  rw [acceptQueueIsCanonical, decide_eq_true_iff]
  constructor
  · rintro ⟨head, count, cells⟩
    refine ⟨head, count, fun cell lt => (cells ⟨cell, lt⟩).1, fun queued mem => ?_⟩
    obtain ⟨offset, lt, rfl⟩ := mem_map.mp mem
    refine (cells ⟨_, Nat.mod_lt _ (by decide)⟩).2 ?_
    exact any_eq_true.mpr ⟨offset, lt, decide_eq_true rfl⟩
  · rintro ⟨head, count, cells, used⟩
    refine ⟨head, count, fun cell => ⟨cells cell cell.isLt, fun occupied => ?_⟩⟩
    obtain ⟨offset, lt, eq⟩ := any_eq_true.mp occupied
    rw [← of_decide_eq_true eq]
    exact used _ (mem_map_of_mem lt)

def QueuedSound (queued : ServiceDirectoryQueuedChannel) : Prop :=
  queuedChannelIsCanonical queued ∧ queued.state ≠ .empty

lemma queuedSound_iff : QueuedSound queued ↔ queued.state ≠ .empty ∧
    serviceEndpointOwnerReceiptIsValid queued.owned.owner ∧
    queued.owned.unpublishedAcceptor ≠ none ∧ queued.owned.releaseDriverActive = false ∧
    queued.channel = queued.owned.owner.channel := by
  rw [QueuedSound, and_comm]
  refine and_congr_right fun used => ?_
  simp [queuedChannelIsCanonical, used]

lemma zero_canonical : queuedChannelIsCanonical .zero := by decide

namespace QueueSound

variable (sound : QueueSound row)

include sound

lemma mem (mem : queued ∈ row.queue) : QueuedSound queued := by
  refine ⟨?_, sound.used queued mem⟩
  obtain ⟨offset, _, rfl⟩ := mem_map.mp mem
  exact sound.cells _ (Nat.mod_lt _ (by decide))

lemma update_cells (canonical : queuedChannelIsCanonical queued) :
    ∀ other < kServiceDirectoryAcceptCapacity,
      queuedChannelIsCanonical (update row.acceptQueue cell queued other) := by
  intro other lt
  rcases eq_or_ne other cell with rfl | ne
  · rw [update_self]
    exact canonical
  · rw [update_of_ne ne]
    exact sound.cells other lt

section

variable (queued_sound : QueuedSound queued)
  (room : row.acceptCount < kServiceDirectoryAcceptCapacity)

include queued_sound room

lemma enqueueTail : QueueSound (enqueueTailLocked row queued) where
  head := sound.head
  count := room
  cells := sound.update_cells queued_sound.1
  used := by
    rw [enqueueTail_queue room]
    intro other mem
    rcases mem_append.mp mem with old | new
    · exact sound.used other old
    · exact mem_singleton.mp new ▸ queued_sound.2

lemma enqueueFront : QueueSound (enqueueFrontLocked row queued) where
  head := Nat.mod_lt _ (by decide)
  count := room
  cells := sound.update_cells queued_sound.1
  used := by
    rw [enqueueFront_queue room]
    intro other mem
    rcases mem_cons.mp mem with rfl | old
    · exact queued_sound.2
    · exact sound.used other old

end

lemma dequeue (some : row.acceptCount ≠ 0) :
    QueuedSound (dequeueLocked row).1 ∧ QueueSound (dequeueLocked row).2 := by
  have eq := dequeue_queue sound.head sound.count some
  refine ⟨sound.mem (eq ▸ mem_cons_self), ?_, ?_, sound.update_cells zero_canonical, ?_⟩
  · simp only [dequeueLocked]
    split
    · decide
    · exact Nat.mod_lt _ (by decide)
  · exact (Nat.sub_le ..).trans sound.count
  · exact fun other mem => sound.used other (eq ▸ mem_cons_of_mem _ mem)

lemma remove (removed : removeQueuedLocked row channel = some (queued, row')) :
    QueuedSound queued ∧ QueueSound row' := by
  obtain ⟨before, after, eq, eq'⟩ := remove_queue sound.count removed
  refine ⟨sound.mem (by rw [eq]; simp), ?_⟩
  have used : ∀ other ∈ row'.queue, other.state ≠ .empty := by
    rw [eq']
    intro other mem
    refine sound.used other ?_
    rw [eq]
    rcases mem_append.mp mem with front | back
    · exact mem_append_left _ front
    · exact mem_append_right _ (mem_cons_of_mem _ back)
  unfold removeQueuedLocked at removed
  split at removed
  · cases removed
  next offset found =>
  cases removed
  refine ⟨?_, (Nat.sub_le ..).trans sound.count, fun cell lt => ?_, used⟩
  · dsimp only
    split
    · decide
    · exact sound.head
  · have shifted := @shiftDown_cells (fun queued => queuedChannelIsCanonical queued)
      row.acceptHead offset (row.acceptCount - 1 - offset) _ sound.cells
    dsimp only
    rcases eq_or_ne cell ((row.acceptHead + row.acceptCount - 1) % kServiceDirectoryAcceptCapacity)
      with rfl | ne
    · rw [update_self]
      exact zero_canonical
    · rw [update_of_ne ne]
      exact shifted cell lt

lemma markReady (lt : offset < row.acceptCount) : QueueSound (row.markReady offset) := by
  obtain ⟨before, after, eq, eq'⟩ := markReady_queue sound.count lt
  have old : QueuedSound (row.queuedAt offset) := sound.mem (by rw [eq]; simp)
  have marked : QueuedSound { row.queuedAt offset with state := .ready } :=
    queuedSound_iff.mpr ⟨by simp, (queuedSound_iff.mp old).2⟩
  refine ⟨sound.head, sound.count, sound.update_cells marked.1, ?_⟩
  rw [eq']
  intro other mem
  rcases mem_append.mp mem with front | back
  · exact sound.used other (by rw [eq]; exact mem_append_left _ front)
  · rcases mem_cons.mp back with rfl | back
    · exact marked.2
    · exact sound.used other (by rw [eq]; exact mem_append_right _ (mem_cons_of_mem _ back))

end QueueSound

end DuetOS.Directory
