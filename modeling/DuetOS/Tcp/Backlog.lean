import DuetOS.Lib.Slots
import DuetOS.Tcp.Handles

/-!
# The backlog of a listener

A listener counts its half-open children and the children in its accept ring. The counts are exact
as long as no listener is dropped while it has half-open children: `ResetTcbStorage` does not clear
the first count, so that it survives into the next use of the slot.
-/

namespace DuetOS.Tcp

open Multiset

/-- The handle of the listener a slot in use is a half-open child of. -/
def Tcb.parent (t : Tcb) :
    Option UInt32 := if t.inUse ∧ t.parentListener ≠ 0 then some t.parentListener else none

def halfOpen (s : Table) : Multiset UInt32 := Slots.gather Tcb.parent s.tcbs

lemma mem_halfOpen {s id} : id ∈ halfOpen s ↔ ∃ i, (s.tcbs i).parent = some id := Slots.mem_gather

lemma halfOpen_congr (same : ∀ i, (s'.tcbs i).parent = (s.tcbs i).parent) :
    halfOpen s' = halfOpen s :=
  Slots.gather_congr same

lemma halfOpen_row {s s' i gained lost}
    (others : ∀ j, j ≠ i → (s'.tcbs j).parent = (s.tcbs j).parent)
    (balance : ((s'.tcbs i).parent.toList : Multiset UInt32) + lost =
      (s.tcbs i).parent.toList + gained) :
    halfOpen s' + lost = halfOpen s + gained :=
  Slots.gather_row others balance

lemma count_halfOpen {s id} :
    (halfOpen s).count id = (Finset.univ.filter fun i => (s.tcbs i).parent = some id).card :=
  Slots.count_gather

-- membership would unfold to a sum over all slots
attribute [irreducible] halfOpen

/-- No free slot has a count of half-open children left. -/
def Clean (s : Table) : Prop := ∀ i, (s.tcbs i).inUse = false → (s.tcbs i).synBacklogCount = 0

structure Ring (t : Tcb) : Prop where
  tail : t.backlogTail < kListenBacklogMax
  head : t.backlogHead = (t.backlogTail + t.backlogCount) % kListenBacklogMax
  fits : t.backlogCount ≤ t.backlogMax
  max : t.backlogMax ≤ kListenBacklogMax

/-- It has room for the half-open children, too. -/
structure Queue (t : Tcb) : Prop extends Ring t where
  room : t.backlogCount + t.synBacklogCount ≤ t.backlogMax

structure Backlogged (s : Table) : Prop where
  counted : ∀ p, (s.tcbs p).settled → (s.tcbs p).isListener →
    (s.tcbs p).synBacklogCount = (halfOpen s).count (makeId p (s.tcbs p).generation)
  queue : ∀ p, (s.tcbs p).settled → (s.tcbs p).isListener → Queue (s.tcbs p)
  parented : ∀ i id, (s.tcbs i).parent = some id →
    (s.tcbs i).settled ∧ (s.tcbs i).isListener = false ∧ ∃ p, listenerOf s id = some p

variable {id : UInt32}

lemma Tcb.parent_eq_some {t : Tcb} : t.parent = some id ↔ t.inUse ∧ t.parentListener ≠ 0 ∧
    t.parentListener = id := by
  unfold Tcb.parent
  split
  next both => simp [both]
  next neither =>
    refine ⟨nofun, fun ⟨inUse, child, _⟩ => absurd ⟨inUse, child⟩ neither⟩

lemma Tcb.parent_of_free {t : Tcb} (free : t.inUse = false) : t.parent = none :=
  if_neg fun both => by rw [free] at both; cases both.1

lemma Tcb.parent_of_zero {t : Tcb} (zero : t.parentListener = 0) :
    t.parent = none := if_neg fun both => both.2 zero

lemma makeId_inj (same : makeId i g = makeId j g') : i = j ∧ g = g' := by
  have low := congrArg (fun id : UInt32 => (id &&& 0x00FFFFFF).toNat) same
  have high := congrArg (fun id : UInt32 => (id >>> 24).toUInt8) same
  simp only [makeId_low] at low
  simp only [makeId_high] at high
  exact ⟨Fin.ext (Nat.succ_injective low), high⟩

lemma listenerOf_eq_some : listenerOf s id = some p ↔
    (s.tcbs p).settled ∧ (s.tcbs p).isListener ∧ id = makeId p (s.tcbs p).generation := by
  constructor
  · intro found
    obtain ⟨decoded, listener⟩ := listenerOf_some found
    obtain ⟨settled, same⟩ := decodeId_eq_some.mp decoded
    exact ⟨settled, listener, same⟩
  · rintro ⟨settled, listener, rfl⟩
    rw [listenerOf, decodeId_makeId settled]
    exact if_pos listener

lemma listenerOf_kept (found : listenerOf s id = some p) (kept : Kept (s.tcbs p) (s'.tcbs p)) :
    listenerOf s' id = some p := by
  obtain ⟨settled, listener, same⟩ := listenerOf_eq_some.mp found
  refine listenerOf_eq_some.mpr ⟨kept.settled settled, kept.isListener.trans listener, ?_⟩
  rw [kept.generation]
  exact same

lemma Backlogged.listener_of_count (sound : Backlogged s) (positive : 0 < (halfOpen s).count id) :
    ∃ p, listenerOf s id = some p := by
  have mem : id ∈ halfOpen s := count_pos.mp positive
  obtain ⟨i, child⟩ := mem_halfOpen.mp mem
  exact (sound.parented i id child).2.2

/-- What a move keeps of a slot that takes no part in it. -/
structure SameQueue (t t' : Tcb) : Prop extends Kept t t' where
  parentListener : t'.parentListener = t.parentListener
  synBacklogCount : t'.synBacklogCount = t.synBacklogCount
  backlogMax : t'.backlogMax = t.backlogMax
  backlogCount : t'.backlogCount = t.backlogCount
  backlogHead : t'.backlogHead = t.backlogHead
  backlogTail : t'.backlogTail = t.backlogTail

lemma SameQueue.refl (t) : SameQueue t t := ⟨.refl t, rfl, rfl, rfl, rfl, rfl, rfl⟩

lemma SameQueue.parent (same : SameQueue t t') : t'.parent = t.parent := by
  rw [Tcb.parent, Tcb.parent, same.inUse, same.parentListener]

lemma SameQueue.queue {t t'} (same : SameQueue t t') (queue : Queue t) : Queue t' := by
  obtain ⟨⟩ := t'
  obtain ⟨_, _, rfl, rfl, rfl, rfl, rfl⟩ := same
  exact { queue with }

lemma Backlogged.congr (sound : Backlogged s) (same : ∀ j, SameQueue (s.tcbs j) (s'.tcbs j)) :
    Backlogged s' := by
  have children : halfOpen s' = halfOpen s := halfOpen_congr fun j => (same j).parent
  have back : ∀ j, (s'.tcbs j).settled → (s.tcbs j).settled := fun j settled =>
    ⟨(same j).inUse ▸ settled.1, (same j).initializing ▸ settled.2⟩
  refine ⟨fun p settled listener => ?_, fun p settled listener => ?_, fun i id child => ?_⟩
  · rw [(same p).synBacklogCount, (same p).generation, children]
    exact sound.counted p (back p settled) ((same p).isListener ▸ listener)
  · exact (same p).queue (sound.queue p (back p settled) ((same p).isListener ▸ listener))
  · obtain ⟨settled, connection, p, found⟩ := sound.parented i id ((same i).parent ▸ child)
    exact ⟨(same i).toKept.settled settled, (same i).isListener.trans connection, p,
      listenerOf_kept found (same p).toKept⟩

lemma Backlogged.setTcb (sound : Backlogged s) (same : SameQueue (s.tcbs i) t) :
    Backlogged (s.setTcb i t) := by
  refine sound.congr fun j => ?_
  by_cases at_i : j = i
  · rw [at_i, setTcb_self]
    exact same
  · rw [setTcb_of_ne at_i]
    exact .refl _

lemma Ring.popped (ring : Ring t) (some : t.backlogCount ≠ 0) : Ring t.popped := by
  obtain ⟨tail, head, fits, max⟩ := ring
  unfold kListenBacklogMax at *
  refine ⟨Nat.mod_lt _ (by decide), ?_, ?_, max⟩
  · show t.backlogHead = ((t.backlogTail + 1) % 32 + (t.backlogCount - 1)) % 32
    omega
  · show t.backlogCount - 1 ≤ t.backlogMax
    omega

lemma Queue.popped (queue : Queue t) (some : t.backlogCount ≠ 0) : Queue t.popped := by
  refine ⟨queue.toRing.popped some, ?_⟩
  have room := queue.room
  show t.backlogCount - 1 + t.synBacklogCount ≤ t.backlogMax
  omega

/-- The listener after a child was pushed to its accept ring. -/
def Tcb.pushed (t : Tcb) (id : UInt32) : Tcb :=
  { t with
    backlogRing := Function.update t.backlogRing t.backlogHead id,
    backlogHead := (t.backlogHead + 1) % kListenBacklogMax, backlogCount := t.backlogCount + 1,
    synBacklogCount := t.synBacklogCount - 1 }

lemma Ring.pushed (ring : Ring t) (room : t.backlogCount < t.backlogMax) (id : UInt32) :
    Ring (t.pushed id) := by
  obtain ⟨tail, head, _, max⟩ := ring
  refine ⟨tail, ?_, room, max⟩
  show (t.backlogHead + 1) % kListenBacklogMax =
    (t.backlogTail + (t.backlogCount + 1)) % kListenBacklogMax
  unfold kListenBacklogMax at *
  omega

lemma Queue.pushed (queue : Queue t) (some : t.synBacklogCount ≠ 0) (id : UInt32) :
    Queue (t.pushed id) := by
  have room := queue.room
  refine ⟨queue.toRing.pushed (by omega) id, ?_⟩
  show t.backlogCount + 1 + (t.synBacklogCount - 1) ≤ t.backlogMax
  omega

/-- A change that opens no listener, and moves each listener's count with its children. -/
lemma Backlogged.change (sound : Backlogged s)
    (live : ∀ p, (s'.tcbs p).settled → (s'.tcbs p).isListener →
      (s.tcbs p).settled ∧ (s.tcbs p).isListener ∧ (s'.tcbs p).generation = (s.tcbs p).generation ∧
      Queue (s'.tcbs p) ∧
        (s'.tcbs p).synBacklogCount + (halfOpen s).count (makeId p (s.tcbs p).generation) =
        (s.tcbs p).synBacklogCount + (halfOpen s').count (makeId p (s.tcbs p).generation))
    (parented : ∀ i id, (s'.tcbs i).parent = some id →
      (s'.tcbs i).settled ∧ (s'.tcbs i).isListener = false ∧ ∃ p, listenerOf s' id = some p) :
        Backlogged s' := by
  refine ⟨fun p settled listener => ?_,
    fun p settled listener => (live p settled listener).2.2.2.1, parented⟩
  obtain ⟨settled', listener', generation, _, moved⟩ := live p settled listener
  have counted := sound.counted p settled' listener'
  rw [generation]
  omega

lemma Backlogged.pop (sound : Backlogged s) (some : (s.tcbs p).backlogCount ≠ 0) :
    Backlogged (s.setTcb p (s.tcbs p).popped) := by
  have kept : ∀ j, Kept (s.tcbs j) ((s.setTcb p (s.tcbs p).popped).tcbs j) :=
    setTcb_kept ⟨rfl, rfl, rfl, rfl, rfl⟩
  have parents : ∀ j, ((s.setTcb p (s.tcbs p).popped).tcbs j).parent = (s.tcbs j).parent :=
    fun j => by
    by_cases at_p : j = p
    · rw [at_p, setTcb_self]
      rfl
    · rw [setTcb_of_ne at_p]
  have children : halfOpen (s.setTcb p (s.tcbs p).popped) = halfOpen s := halfOpen_congr parents
  refine sound.change (fun q settled listener => ?_) fun i id child => ?_
  · have settled' : (s.tcbs q).settled :=
      ⟨(kept q).inUse ▸ settled.1, (kept q).initializing ▸ settled.2⟩
    have listener' : (s.tcbs q).isListener := (kept q).isListener ▸ listener
    refine ⟨settled', listener', (kept q).generation, ?_⟩
    rw [children]
    by_cases at_p : q = p
    · rw [at_p, setTcb_self]
      exact ⟨(sound.queue p (at_p ▸ settled') (at_p ▸ listener')).popped some, rfl⟩
    · rw [setTcb_of_ne at_p]
      exact ⟨sound.queue q settled' listener', rfl⟩
  · obtain ⟨settled, connection, q, found⟩ := sound.parented i id (parents i ▸ child)
    exact ⟨(kept i).settled settled, (kept i).isListener.trans connection, q,
      listenerOf_kept found (kept q)⟩

lemma pushChild_child (ne : i ≠ p) :
    (pushChild s i p).tcbs i = { s.tcbs i with parentListener := 0 } := by
  unfold pushChild
  rw [setTcb_self, setTcb_of_ne ne]

lemma pushChild_parent (ne : i ≠ p) :
    (pushChild s i p).tcbs p = (s.tcbs p).pushed (makeId i (s.tcbs i).generation) := by
  unfold pushChild
  rw [setTcb_of_ne ne.symm, setTcb_self]
  rfl

lemma pushChild_of_ne (ne : j ≠ i) (ne' : j ≠ p) : (pushChild s i p).tcbs j = s.tcbs j := by
  unfold pushChild
  rw [setTcb_of_ne ne, setTcb_of_ne ne']

lemma Backlogged.count_pos (sound : Backlogged s) (settled : (s.tcbs i).settled)
    (child : (s.tcbs i).parentListener ≠ 0)
    (decoded : decodeId s (s.tcbs i).parentListener = some p) (listener : (s.tcbs p).isListener) :
    (s.tcbs p).synBacklogCount ≠ 0 := by
  obtain ⟨settled', same⟩ := decodeId_eq_some.mp decoded
  have mem : (s.tcbs i).parentListener ∈ halfOpen s :=
    mem_halfOpen.mpr ⟨i, Tcb.parent_eq_some.mpr ⟨settled.1, child, rfl⟩⟩
  rw [sound.counted p settled' listener, ← same, count_ne_zero]
  exact mem

lemma Backlogged.push (sound : Backlogged s) (settled : (s.tcbs i).settled)
    (connection : (s.tcbs i).isListener = false) (child : (s.tcbs i).parentListener ≠ 0)
    (decoded : decodeId s (s.tcbs i).parentListener = some p) (listener : (s.tcbs p).isListener) :
    Backlogged (pushChild s i p) := by
  have ne : i ≠ p := by
    rintro rfl
    rw [connection] at listener
    cases listener
  obtain ⟨_, same⟩ := decodeId_eq_some.mp decoded
  have positive := sound.count_pos settled child decoded listener
  have kept : ∀ j, Kept (s.tcbs j) ((pushChild s i p).tcbs j) := fun j => by
    by_cases at_i : j = i
    · rw [at_i, pushChild_child ne]
      exact ⟨rfl, rfl, rfl, rfl, rfl⟩
    by_cases at_p : j = p
    · rw [at_p, pushChild_parent ne]
      exact ⟨rfl, rfl, rfl, rfl, rfl⟩
    · rw [pushChild_of_ne at_i at_p]
      exact .refl _
  have parents : ∀ j, j ≠ i → ((pushChild s i p).tcbs j).parent = (s.tcbs j).parent :=
    fun j at_i => by
    by_cases at_p : j = p
    · rw [at_p, pushChild_parent ne]
      rfl
    · rw [pushChild_of_ne at_i at_p]
  have gone : ((pushChild s i p).tcbs i).parent = none := by
    rw [pushChild_child ne]
    exact Tcb.parent_of_zero rfl
  have before : (s.tcbs i).parent = some (s.tcbs i).parentListener :=
    Tcb.parent_eq_some.mpr ⟨settled.1, child, rfl⟩
  have children : halfOpen (pushChild s i p) + {(s.tcbs i).parentListener} = halfOpen s + 0 := by
    refine halfOpen_row parents ?_
    rw [gone, before]
    rfl
  refine sound.change (fun q settled' listener' => ?_) fun j id half => ?_
  · have settled'' : (s.tcbs q).settled :=
      ⟨(kept q).inUse ▸ settled'.1, (kept q).initializing ▸ settled'.2⟩
    have listener'' : (s.tcbs q).isListener := (kept q).isListener ▸ listener'
    have queue := sound.queue q settled'' listener''
    have counts := congrArg (count (makeId q (s.tcbs q).generation)) children
    rw [count_add, count_singleton, count_add, count_zero] at counts
    refine ⟨settled'', listener'', (kept q).generation, ?_⟩
    by_cases at_p : q = p
    · rw [at_p] at queue counts ⊢
      rw [if_pos same.symm] at counts
      rw [pushChild_parent ne]
      refine ⟨queue.pushed positive _, ?_⟩
      show (s.tcbs p).synBacklogCount - 1 + _ = _
      omega
    · have at_i : q ≠ i := fun eq => by rw [eq, connection] at listener''; cases listener''
      have other : makeId q (s.tcbs q).generation ≠ (s.tcbs i).parentListener :=
        fun eq => at_p (makeId_inj (eq.trans same)).1
      rw [if_neg other] at counts
      rw [pushChild_of_ne at_i at_p]
      exact ⟨queue, by omega⟩
  · have at_i : j ≠ i := fun eq => by rw [eq, gone] at half; cases half
    obtain ⟨settled', connection', q, found⟩ := sound.parented j id (parents j at_i ▸ half)
    exact ⟨(kept j).settled settled', (kept j).isListener.trans connection', q,
      listenerOf_kept found (kept q)⟩

lemma lost_eq (inUse : (s.tcbs i).inUse)
    (connection : (s.tcbs i).parent ≠ none → (s.tcbs i).isListener = false)
    (settled : (s.tcbs p).settled) (listener : (s.tcbs p).isListener) :
    lost s i p = ((s.tcbs i).parent.toList : Multiset UInt32).count
      (makeId p (s.tcbs p).generation) := by
  cases child : (s.tcbs i).parent with
  | none =>
    have zero : (s.tcbs i).parentListener = 0 := by
      by_contra ne
      rw [Tcb.parent_eq_some.mpr ⟨inUse, ne, rfl⟩] at child
      cases child
    have orphan : halfOpenParent s i = none := if_neg fun both => both.2 zero
    rw [lost, orphan]
    rfl
  | some id =>
    obtain ⟨_, ne, same⟩ := Tcb.parent_eq_some.mp child
    have parent : halfOpenParent s i = listenerOf s id := by
      rw [← same]
      exact if_pos ⟨connection (by rw [child]; exact Option.some_ne_none _), ne⟩
    have single : ((some id).toList : Multiset UInt32) = {id} := rfl
    rw [lost, parent, single, count_singleton]
    refine if_congr ?_ rfl rfl
    rw [listenerOf_eq_some]
    exact ⟨fun both => both.2.2.symm, fun eq => ⟨settled, listener, eq.symm⟩⟩

lemma Backlogged.drop (sound : Backlogged s) (settled : (s.tcbs i).settled)
    (clean : Clean (dropTcb s i)) :
    Backlogged (dropTcb s i) := by
  obtain ⟨_, _, slot⟩ := dropTcb_self settled.1
  have others : ∀ j, j ≠ i → ∃ next, (dropTcb s i).tcbs j =
      { s.tcbs j with
        bucketNext := next, synBacklogCount := (s.tcbs j).synBacklogCount - lost s i j } := by
    intro j ne
    obtain ⟨next, eq⟩ := (unlink_sameSlots s i).tcbs j
    exact ⟨next, by rw [dropTcb_of_ne settled.1 ne, eq, Tcb.lose]⟩
  have free : ((dropTcb s i).tcbs i).inUse = false := by rw [slot]
  have parents : ∀ j, j ≠ i → ((dropTcb s i).tcbs j).parent = (s.tcbs j).parent := fun j ne => by
    obtain ⟨_, eq⟩ := others j ne
    rw [eq]
    rfl
  have children : halfOpen (dropTcb s i) + ((s.tcbs i).parent.toList : Multiset UInt32) =
    halfOpen s + 0 := by
    refine halfOpen_row parents ?_
    rw [Tcb.parent_of_free free, add_zero]
    exact zero_add _
  have connection : (s.tcbs i).parent ≠ none → (s.tcbs i).isListener = false := fun ne => by
    obtain ⟨id, child⟩ := Option.ne_none_iff_exists'.mp ne
    exact (sound.parented i id child).2.1
  refine sound.change (fun q settled' listener' => ?_) fun j id half => ?_
  · have ne : q ≠ i := fun eq => by rw [Tcb.settled, eq, free] at settled'; cases settled'.1
    obtain ⟨_, eq⟩ := others q ne
    rw [eq] at settled' listener' ⊢
    have counts := congrArg (count (makeId q (s.tcbs q).generation)) children
    rw [count_add, ← lost_eq settled.1 connection settled' listener', add_zero] at counts
    have queue := sound.queue q settled' listener'
    have counted := sound.counted q settled' listener'
    refine ⟨settled', listener', rfl, ⟨⟨queue.tail, queue.head, queue.fits, queue.max⟩, ?_⟩, ?_⟩
    · have room := queue.room
      show (s.tcbs q).backlogCount + ((s.tcbs q).synBacklogCount - lost s i q) ≤
        (s.tcbs q).backlogMax
      omega
    · show (s.tcbs q).synBacklogCount - lost s i q + _ = _
      omega
  · have ne : j ≠ i := fun eq => by rw [eq, Tcb.parent_of_free free] at half; cases half
    rw [parents j ne] at half
    obtain ⟨settled', connection', q, found⟩ := sound.parented j id half
    have alive : q ≠ i := by
      -- a listener with half-open children would leave its count behind
      rintro rfl
      obtain ⟨_, listener, same⟩ := listenerOf_eq_some.mp found
      have zero : (s.tcbs q).synBacklogCount = 0 := by
        have left := clean q free
        rw [slot] at left
        exact left
      rw [sound.counted q settled listener, ← same, count_eq_zero] at zero
      exact zero (mem_halfOpen.mpr ⟨j, half⟩)
    have kept : ∀ k, k ≠ i → Kept (s.tcbs k) ((dropTcb s i).tcbs k) := fun k ne => by
      obtain ⟨_, eq⟩ := others k ne
      rw [eq]
      exact ⟨rfl, rfl, rfl, rfl, rfl⟩
    exact ⟨(kept j ne).settled settled', (kept j ne).isListener.trans connection', q,
      listenerOf_kept found (kept q alive)⟩

lemma Quiet.free (quiet : Quiet s s') (free : (s.tcbs j).inUse = false) :
    (s'.tcbs j).inUse = false ∧ (s'.tcbs j).synBacklogCount = (s.tcbs j).synBacklogCount := by
  have ne : ∀ {k}, (s.tcbs k).settled → j ≠ k := fun settled eq => by
    rw [Tcb.settled, ← eq, free] at settled
    cases settled.1
  cases quiet with
  | conn i t settled =>
    rw [Table.setConn, setTcb_of_ne (ne settled)]
    exact ⟨free, rfl⟩
  | refs i refs settled | pop l settled _ _ =>
    rw [setTcb_of_ne (ne settled)]
    exact ⟨free, rfl⟩
  | cursor => exact ⟨free, rfl⟩
  | push i p settled _ _ decoded _ _ =>
    rw [pushChild_of_ne (ne settled) (ne (decodeId_some decoded).1)]
    exact ⟨free, rfl⟩
  | drop i settled =>
    obtain ⟨_, eq⟩ := (unlink_sameSlots s i).tcbs j
    have none : lost s i j = 0 := by
      refine if_neg fun found => ?_
      unfold halfOpenParent at found
      split at found
      · exact absurd rfl (ne (listenerOf_eq_some.mp found).1)
      · cases found
    rw [dropTcb_of_ne settled.1 (ne settled), eq, none]
    exact ⟨free, rfl⟩

lemma Backlogged.quiet (sound : Backlogged s) (quiet : Quiet s s') (clean : Clean s') :
    Backlogged s' := by
  cases quiet with
  | conn i t _ | refs i refs _ =>
    refine sound.setTcb ?_
    exact ⟨⟨rfl, rfl, rfl, rfl, rfl⟩, rfl, rfl, rfl, rfl, rfl, rfl⟩
  | cursor => exact sound.congr fun _ => .refl _
  | pop l _ _ some => exact sound.pop some
  | push i p settled connection child decoded listener _ =>
    exact sound.push settled connection child decoded listener
  | drop i settled => exact sound.drop settled clean

lemma Backlogged.quiets (sound : Backlogged s) (quiets : Quiets s s') (clean : Clean s') :
    Backlogged s' := by
  induction quiets with
  | refl => exact sound
  | tail _ quiet ih =>
    -- a count left behind would still be there at the end
    have clean' : Clean _ := fun i free => by
      obtain ⟨free', same⟩ := quiet.free free
      exact same ▸ clean i free'
    exact (ih clean').quiet quiet clean

end DuetOS.Tcp
