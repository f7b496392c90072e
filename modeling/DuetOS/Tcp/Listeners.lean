import DuetOS.Tcp.Backlog

/-!
# Listeners over whole runs

The backlogs are exact over every run that leaves no count behind in a free slot, so that
`NotifyParentAccept` always finds room and `DeliverSegment` never goes on with a connection that was
dropped underneath it.
-/

namespace DuetOS.Tcp

/-- A step that leaves no half-open count in a free slot. -/
def CleanStep (s : System) (e : Event) (s' : System) : Prop := Step s e s' ∧ Clean s'.table

section Slots

variable (sound : Backlogged s)

include sound

lemma Backlogged.bystander (others : ∀ j, j ≠ i → s'.tcbs j = s.tcbs j)
    (before : ¬((s.tcbs i).settled ∧ (s.tcbs i).isListener))
    (after : (s'.tcbs i).isListener = false)
    (orphan : (s.tcbs i).parent = none) (orphan' : (s'.tcbs i).parent = none) : Backlogged s' := by
  have children : halfOpen s' = halfOpen s := halfOpen_congr fun j => by
    by_cases at_i : j = i
    · rw [at_i, orphan, orphan']
    · rw [others j at_i]
  refine sound.change (fun q settled listener => ?_) fun j id half => ?_
  · have ne : q ≠ i := fun eq => by rw [eq, after] at listener; cases listener
    rw [others q ne] at settled listener ⊢
    rw [children]
    exact ⟨settled, listener, rfl, sound.queue q settled listener, rfl⟩
  · have ne : j ≠ i := fun eq => by rw [eq, orphan'] at half; cases half
    rw [others j ne] at half ⊢
    obtain ⟨settled, connection, q, found⟩ := sound.parented j id half
    have ne' : q ≠ i := by
      rintro rfl
      obtain ⟨settled', listener, _⟩ := listenerOf_eq_some.mp found
      exact before ⟨settled', listener⟩
    exact ⟨settled, connection, q, listenerOf_kept found (others q ne' ▸ .refl _)⟩

lemma Backlogged.orphan (initializing : (s.tcbs i).initializing) : (s.tcbs i).parent = none := by
  cases child : (s.tcbs i).parent with
  | none => rfl
  | some id =>
    have settled := (sound.parented i id child).1
    rw [Tcb.settled, initializing] at settled
    cases settled.2

lemma Backlogged.listen (clean : Clean s) (free : (s.tcbs i).inUse = false)
    {snapshot localIp localPort backlog} (max : backlog ≤ kListenBacklogMax) :
    Backlogged (s.setTcb i (listening (s.tcbs i) snapshot localIp localPort backlog)) := by
  have dead : ∀ {id q}, listenerOf s id = some q → q ≠ i := by
    rintro id q found rfl
    have settled := (listenerOf_eq_some.mp found).1
    rw [Tcb.settled, free] at settled
    cases settled.1
  have orphan : ((s.setTcb i (listening (s.tcbs i) snapshot localIp localPort backlog)).tcbs
    i).parent = none := by
    rw [setTcb_self]
    exact Tcb.parent_of_zero rfl
  have children : halfOpen (s.setTcb i (listening (s.tcbs i) snapshot localIp localPort backlog)) =
    halfOpen s :=
    halfOpen_congr fun j => by
      by_cases at_i : j = i
      · rw [at_i, orphan, Tcb.parent_of_free free]
      · rw [setTcb_of_ne at_i]
  refine ⟨fun q settled listener => ?_, fun q settled listener => ?_, fun j id half => ?_⟩
  · rw [children]
    by_cases at_i : q = i
    · have none : (halfOpen s).count (makeId i ((s.tcbs i).generation + 1)) = 0 := by
        by_contra positive
        obtain ⟨q, found⟩ := sound.listener_of_count (Nat.pos_of_ne_zero positive)
        exact dead found (makeId_inj (listenerOf_eq_some.mp found).2.2).1.symm
      rw [at_i, setTcb_self]
      exact (clean i free).trans none.symm
    · rw [setTcb_of_ne at_i] at settled listener ⊢
      exact sound.counted q settled listener
  · by_cases at_i : q = i
    · rw [at_i, setTcb_self]
      refine ⟨⟨Nat.zero_lt_succ 31, rfl, Nat.zero_le _, max⟩, ?_⟩
      show 0 + (s.tcbs i).synBacklogCount ≤ backlog
      rw [clean i free]
      exact Nat.zero_le _
    · rw [setTcb_of_ne at_i] at settled listener ⊢
      exact sound.queue q settled listener
  · have ne : j ≠ i := fun eq => by rw [eq, orphan] at half; cases half
    rw [setTcb_of_ne ne] at half ⊢
    obtain ⟨settled, connection, q, found⟩ := sound.parented j id half
    exact ⟨settled, connection, q, listenerOf_kept found (setTcb_of_ne (dead found) ▸ .refl _)⟩

/-- `HandleListenSyn` publishes a child, for which its listener has room. -/
lemma Backlogged.answer (initializing : (s.tcbs call.slot).initializing)
    (inUse : (s.tcbs call.slot).inUse) (welcome : synWelcome s call.parent = some p) :
    Backlogged (synPublish s now call p) := by
  obtain ⟨decoded, listener, room⟩ := synWelcome_some welcome
  obtain ⟨settled, same⟩ := decodeId_eq_some.mp decoded
  have ne : p ≠ call.slot := by
    rintro rfl
    rw [Tcb.settled, initializing] at settled
    cases settled.2
  obtain ⟨_, slot⟩ := @synPublish_self s p now call ne
  have child : ((synPublish s now call p).tcbs call.slot).parent = some call.parent := by
    have valid : call.parent ≠ 0 := by
      rw [same]
      exact makeId_ne_zero p _
    rw [slot]
    exact Tcb.parent_eq_some.mpr ⟨inUse, valid, rfl⟩
  have kept : ∀ j, j ≠ call.slot → Kept (s.tcbs j) ((synPublish s now call p).tcbs j) :=
    fun j at_slot => by
    by_cases at_p : j = p
    · rw [at_p, synPublish_parent ne]
      exact ⟨rfl, rfl, rfl, rfl, rfl⟩
    · rw [synPublish_of_ne at_slot at_p]
      exact .refl _
  have parents : ∀ j, j ≠ call.slot →
    ((synPublish s now call p).tcbs j).parent = (s.tcbs j).parent :=
    fun j at_slot => by
      by_cases at_p : j = p
      · rw [at_p, synPublish_parent ne]
        rfl
      · rw [synPublish_of_ne at_slot at_p]
  have children : halfOpen (synPublish s now call p) + 0 = halfOpen s + {call.parent} := by
    refine halfOpen_row parents ?_
    rw [child, sound.orphan initializing]
    rfl
  refine sound.change (fun q settled' listener' => ?_) fun j id half => ?_
  · have at_slot : q ≠ call.slot := fun eq => by rw [eq, slot] at listener'; cases listener'
    have settled'' : (s.tcbs q).settled :=
      ⟨(kept q at_slot).inUse ▸ settled'.1, (kept q at_slot).initializing ▸ settled'.2⟩
    have listener'' : (s.tcbs q).isListener := (kept q at_slot).isListener ▸ listener'
    have queue := sound.queue q settled'' listener''
    have counts := congrArg (Multiset.count (makeId q (s.tcbs q).generation)) children
    rw [Multiset.count_add, Multiset.count_zero, Multiset.count_add, Multiset.count_singleton]
      at counts
    refine ⟨settled'', listener'', (kept q at_slot).generation, ?_⟩
    by_cases at_p : q = p
    · rw [at_p] at counts queue ⊢
      rw [if_pos same.symm] at counts
      rw [synPublish_parent ne]
      refine ⟨⟨⟨queue.tail, queue.head, queue.fits, queue.max⟩, ?_⟩, ?_⟩
      · show (s.tcbs p).backlogCount + ((s.tcbs p).synBacklogCount + 1) ≤ (s.tcbs p).backlogMax
        omega
      · show (s.tcbs p).synBacklogCount + 1 + _ = _
        omega
    · rw [if_neg fun eq => at_p (makeId_inj (eq.trans same)).1] at counts
      rw [synPublish_of_ne at_slot at_p]
      exact ⟨queue, by omega⟩
  · by_cases at_slot : j = call.slot
    · rw [at_slot] at half ⊢
      rw [child] at half
      cases half
      refine ⟨?_, ?_, p,
        listenerOf_kept (listenerOf_eq_some.mpr ⟨settled, listener, same⟩) (kept p ne)⟩
      · rw [slot]
        exact ⟨inUse, rfl⟩
      · rw [slot]
        rfl
    · rw [parents j at_slot] at half
      obtain ⟨settled', connection, q, found⟩ := sound.parented j id half
      have live := (listenerOf_eq_some.mp found).1
      have at_slot' : q ≠ call.slot := by
        rintro rfl
        rw [Tcb.settled, initializing] at live
        cases live.2
      exact ⟨(kept j at_slot).settled settled', (kept j at_slot).isListener.trans connection, q,
        listenerOf_kept found (kept q at_slot')⟩

end Slots

lemma Backlogged.shape (sound : Backlogged s.table) (reserved : Reserved s) (clean : Clean s.table)
    (clean' : Clean s'.table) (shape : Shape s e s') : Backlogged s'.table := by
  have reservedSlot : ∀ {call calls}, s.calls = call ::ₘ calls →
      ¬((s.table.tcbs call.slot).settled ∧ (s.table.tcbs call.slot).isListener) := by
    intro call calls pending both
    rw [(reserved.pending pending).2.2] at both
    cases both.2
  cases shape with
  | quiet _ quiets => exact sound.quiets quiets clean'
  | listen _ _ _ _ free _ _ _ max => exact sound.listen clean free max
  | @reserve _ cursor call _ free _ =>
    refine sound.bystander (i := call.slot) (fun j ne => ?_) ?_ ?_ (Tcb.parent_of_free free) ?_
    · rw [reserveSlot, setTcb_of_ne ne]
    · rintro ⟨settled, _⟩
      rw [Tcb.settled, free] at settled
      cases settled.1
    · rw [reserveSlot, setTcb_self]
      rfl
    · rw [reserveSlot, setTcb_self]
      exact Tcb.parent_of_zero rfl
  | @connectPublish calls call now pending =>
    have orphan := sound.orphan (reserved.pending pending).2.1
    obtain ⟨_, slot⟩ := @connectPublish_self s.table now call
    refine sound.bystander (i := call.slot) (fun j ne => connectPublish_of_ne ne)
      (reservedSlot pending) ?_ orphan ?_
    · rw [slot]
      rfl
    · rw [slot]
      exact orphan
  | @synPublish calls call p now pending welcome =>
    exact sound.answer (reserved.pending pending).2.1 (reserved.pending pending).1 welcome
  | @unreserve _ calls call _ pending =>
    have orphan := sound.orphan (reserved.pending pending).2.1
    refine sound.bystander (i := call.slot) (fun j ne => ?_) (reservedSlot pending) ?_ orphan ?_
    · rw [unreserveSlot, setTcb_of_ne ne]
    · rw [unreserveSlot, setTcb_self]
      exact (reserved.pending pending).2.2
    · rw [unreserveSlot, setTcb_self]
      exact Tcb.parent_of_free rfl
  | discard _ _ => exact sound

lemma backlogged_init (isnSecret) : Backlogged (initTable isnSecret) :=
  ⟨fun _ settled => (by cases settled.1), fun _ settled => (by cases settled.1), nofun⟩

lemma backlogged_of_run {isnSecret es s} (run : Lts.Run CleanStep (initSystem isnSecret) es s) :
    Backlogged s.table := by
  have all : Reserved s ∧ Clean s.table ∧ Backlogged s.table := by
    induction run with
    | nil => exact ⟨.init isnSecret, fun _ _ => rfl, backlogged_init isnSecret⟩
    | snoc _ step ih =>
      obtain ⟨reserved, clean, sound⟩ := ih
      have shape := step.1.shape reserved.unbound
      exact ⟨reserved.shape shape, step.2, sound.shape reserved clean step.2 shape⟩
  exact all.2.2

/-- The slots in use whose parent has this handle. -/
def childrenOf (s : Table) (id : UInt32) : Finset (Fin kTcbCap) :=
  Finset.univ.filter fun i => (s.tcbs i).inUse ∧ (s.tcbs i).parentListener = id

lemma card_childrenOf {id} (valid : id ≠ 0) : (childrenOf s id).card = (halfOpen s).count id := by
  rw [count_halfOpen, childrenOf]
  refine congrArg Finset.card (Finset.filter_congr fun i _ => ?_)
  rw [Tcb.parent_eq_some]
  exact ⟨fun ⟨inUse, same⟩ => ⟨inUse, same ▸ valid, same⟩, fun ⟨inUse, _, same⟩ => ⟨inUse, same⟩⟩

section

variable (sound : Backlogged s) (settled : (s.tcbs i).settled)

include sound settled

lemma Backlogged.has_room (child : (s.tcbs i).parentListener ≠ 0)
    (decoded : decodeId s (s.tcbs i).parentListener = some p) (listener : (s.tcbs p).isListener)
    : (s.tcbs p).backlogCount < (s.tcbs p).backlogMax := by
  have positive := sound.count_pos settled child decoded listener
  have room := (sound.queue p (decodeId_some decoded).1 listener).room
  omega

lemma Backlogged.notify_inUse (connection : (s.tcbs i).isListener = false)
    : ((notifyParentAccept now s i).tcbs i).inUse := by
  unfold notifyParentAccept
  dsimp only
  split
  · exact settled.1
  next child =>
  split
  · exact settled.1
  next p decoded =>
  split
  · exact settled.1
  next listener =>
  have room := sound.has_room settled child decoded (not_not.mp listener)
  have ne : i ≠ p := by
    rintro rfl
    exact listener (by rw [connection]; decide)
  split
  next full => omega
  · have slot := @pushChild_child i p s ne
    exact (congrArg Tcb.inUse slot).trans settled.1

lemma Backlogged.delivers (connection : (s.tcbs i).isListener = false) (ipCe : Bool)
    (mac : MacAddress)
    (seg : Segment) : (deliver now heap ipCe mac seg s i).isSome := by
  unfold deliver
  split
  · rfl
  · rfl
  next t _ =>
    have same : SameQueue (s.tcbs i) { s.tcbs i with toConn := t } :=
      ⟨⟨rfl, rfl, rfl, rfl, rfl⟩, rfl, rfl, rfl, rfl, rfl, rfl⟩
    have sound' : Backlogged (s.setConn i t) := sound.setTcb same
    have connection' : ((s.setConn i t).tcbs i).isListener = false := by
      rw [Table.setConn, setTcb_self]
      exact connection
    rw [if_pos (sound'.notify_inUse (setConn_settled settled) connection')]
    rfl
  · rfl

end

/-- Over every run that leaves no half-open count behind, each live listener's counts are those of
its half-open children and of the entries in its accept ring, they fit in the backlog, and a segment
for a connection is always delivered to the end. -/
theorem listener_backlogs_exact {isnSecret : UInt64} {es : List Event} {s : System}
    (run : Lts.Run CleanStep (initSystem isnSecret) es s) :
    (∀ p, (s.table.tcbs p).settled → (s.table.tcbs p).isListener →
      (s.table.tcbs p).synBacklogCount =
      (childrenOf s.table (makeId p (s.table.tcbs p).generation)).card ∧
      (s.table.tcbs p).backlogHead =
        ((s.table.tcbs p).backlogTail + (s.table.tcbs p).backlogCount) % kListenBacklogMax ∧
      (s.table.tcbs p).backlogCount ≤ kListenBacklogMax ∧
      (s.table.tcbs p).backlogCount + (s.table.tcbs p).synBacklogCount ≤
      (s.table.tcbs p).backlogMax) ∧
    (∀ i p, (s.table.tcbs i).settled → (s.table.tcbs i).parentListener ≠ 0 →
      decodeId s.table (s.table.tcbs i).parentListener = some p → (s.table.tcbs p).isListener →
      (s.table.tcbs p).backlogCount < (s.table.tcbs p).backlogMax) ∧
    ∀ i now heap ipCe mac seg, (s.table.tcbs i).published →
      (deliver now heap ipCe mac seg s.table i).isSome := by
  have sound := backlogged_of_run run
  refine ⟨fun p settled listener => ?_, fun i p settled child decoded listener => ?_,
    fun i now heap ipCe mac seg published => ?_⟩
  · have queue := sound.queue p settled listener
    have room := queue.room
    have max := queue.max
    refine ⟨?_, queue.head, by omega, room⟩
    rw [card_childrenOf (makeId_ne_zero p _)]
    exact sound.counted p settled listener
  · exact sound.has_room settled child decoded listener
  · obtain ⟨settled, connection⟩ := Tcb.published_iff.mp published
    exact sound.delivers settled connection ipCe mac seg

/-- A SYN from port 4000 to port 80. -/
def synBytes : List UInt8 :=
    [0x0F, 0xA0, 0, 80, 0, 0, 0, 1, 0, 0, 0, 0, 0x50, 0x02, 0x10, 0, 0, 0, 0, 0]

def synSegment : Segment :=
  { seq := 1, ack := 0, flags := 0x02, win := 4096, opts := [], payload := [] }

lemma parse_synBytes : parseSegment synBytes = some (4000, 80, synSegment) := by decide

def synTuple : FiveTuple := ⟨loopback.binding, loopback.ip, 80, ⟨0x7F000002⟩, 4000⟩

def synCall : SynCall := ⟨secondSlot, makeId firstSlot 1, loopback, 0, synTuple, synSegment⟩

/-- A listener with room for one child. -/
def portal : Tcb := listening {} loopback loopback.ip 80 1

def portalOpen : System := ⟨(initTable 0).setTcb firstSlot portal, 0, fun _ => false⟩

/-- A SYN for the listener is being answered. -/
def portalAsked : System :=
  ⟨reserveSlot portalOpen.table secondSlot, {.answering synCall},
    Function.update portalOpen.returned secondSlot false⟩

/-- The listener has a half-open child. -/
def portalHalf : System :=
    ⟨synPublish portalAsked.table 0 synCall firstSlot, 0, portalAsked.returned⟩

lemma step_portalOpen : Step (initSystem 0) (.listen (some firstSlot)) portalOpen := by
  refine .listen loopback loopback.ip 80 1 rfl ?_
  rfl

lemma step_portalAsked : Step portalOpen (.synReserve (some secondSlot)) portalAsked := by
  have found : lookupListener portalOpen.table loopback.binding 80 = some firstSlot := by
    decide +kernel
  have reserved : synReserve portalOpen.table firstSlot loopback 0 synTuple synSegment =
      (some synCall, portalAsked.table) := by
    rfl
  exact .synReserve 0 ⟨0x7F000002⟩ loopback synBytes rfl parse_synBytes (lookupExact_empty rfl) rfl
    (by decide)
    found reserved

lemma step_portalHalf : Step portalAsked (.synPublish secondSlot) portalHalf :=
  .synPublish 0 rfl (show synWelcome portalAsked.table synCall.parent =
    some firstSlot by decide +kernel)

lemma run_portalHalf : Lts.Run CleanStep (initSystem 0)
    [.listen (some firstSlot), .synReserve (some secondSlot), .synPublish secondSlot]
    portalHalf := by
  have clean : ∀ s ∈ [portalOpen, portalAsked, portalHalf], ∀ i,
      (s.table.tcbs i).inUse = false → (s.table.tcbs i).synBacklogCount = 0 := by
    decide +kernel
  exact .snoc (.snoc (.single ⟨step_portalOpen, clean _ (by simp)⟩)
    ⟨step_portalAsked, clean _ (by simp)⟩)
    ⟨step_portalHalf, clean _ (by simp)⟩

/-- A listener with one half-open child. -/
theorem listener_backlogs_exact_half : Lts.Run CleanStep (initSystem 0)
      [.listen (some firstSlot), .synReserve (some secondSlot), .synPublish secondSlot] portalHalf ∧
    (portalHalf.table.tcbs firstSlot).synBacklogCount = 1 ∧
    (childrenOf portalHalf.table
      (makeId firstSlot (portalHalf.table.tcbs firstSlot).generation)).card = 1 := by
  have count : (portalHalf.table.tcbs firstSlot).synBacklogCount = 1 := by decide +kernel
  have counted := ((listener_backlogs_exact run_portalHalf).1 firstSlot ⟨rfl, rfl⟩ rfl).1
  exact ⟨run_portalHalf, count, counted.symm.trans count⟩

/-- A listener is closed with a half-open child, and another opened in its slot: it counts a child
it does not have, and its backlog of one is full for ever. -/
theorem reopened_listener_keeps_count : ∃ es s, Lts.Run Step (initSystem 0) es s ∧
    (s.table.tcbs firstSlot).settled ∧ (s.table.tcbs firstSlot).isListener ∧
    (s.table.tcbs firstSlot).synBacklogCount = 1 ∧ (s.table.tcbs firstSlot).backlogMax = 1 ∧
    childrenOf s.table (makeId firstSlot (s.table.tcbs firstSlot).generation) = ∅ := by
  have closing := @Step.close portalHalf firstSlot 0 (makeId firstSlot 1) (by decide +kernel)
  have taken : (listen (close portalHalf.table 0 firstSlot) loopback loopback.ip 80 1).1 =
    some firstSlot := by
    decide +kernel
  have opening := @Step.listen { portalHalf with table := close portalHalf.table 0 firstSlot } _ _
    loopback loopback.ip
    80 1 rfl (Prod.ext taken rfl)
  have run : Lts.Run Step (initSystem 0) _ portalHalf := run_portalHalf.mono fun clean => clean.1
  refine ⟨_, _, (run.snoc closing).snoc opening, ⟨?_, ?_⟩, ?_, ?_, ?_, ?_⟩
  all_goals decide +kernel

end DuetOS.Tcp
