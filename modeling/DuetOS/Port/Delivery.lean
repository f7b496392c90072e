import DuetOS.Port.Invariant

/-!
# Ports deliver in order and never wedge

Every run of a port is a run of its ring. A message is received at most once and in the order of the
sequence numbers, nothing succeeds after a close, and a lease or a reservation is left behind by no
call.
-/

namespace DuetOS.Port

open Message DuetOS.Ring Exclusive Circular Multiset List

/-- The sequence number of a `TryReceive` that returned `Ok`. -/
def Event.receivedOk : Event → Option Nat
  | ⟨_, some (.received result _)⟩ => if result.status = .ok then some result.sequence else none
  | _ => none

def Event.ReturnsOk : Event → Prop
  | ⟨_, some (.sent result)⟩ => result.status = .ok
  | ⟨_, some (.received result _)⟩ => result.status = .ok
  | _ => False

/-- A `TryReceive` between its `BeginCopyOut` and its last locked section. -/
def Call.copies : Call → Bool
  | .copying _ _ _ => true
  | _ => false

def Call.sends : Call → Bool
  | .prepare _ | .preparing _ _ | .prepared _ | .publish _ | .abort _ | .unpublished _ => true
  | _ => false

lemma Ok.create : Ok State.create where
  rep := ⟨_, Rep.init rfl (by decide) (by decide)⟩
  mutex := owned_zero
  reservation := owned_zero
  lease := owned_zero
  known _ mem := absurd mem (notMem_zero _)

lemma Run.ok (run : Run State.create es s) :
    Ok s := Lts.Run.invariant run Ok.create fun ok st => st.ok ok

lemma Step.on_ring (st : Step s e s') : match e.ring with
    | none => s'.ring = s.ring
    | some e' => Ring.Step s.ring e' s'.ring := by
  cases st with
  | sendInvalid | sendClosed | sendOpen | preparedClosed | preparedOpen
  | receiveClosed | receiveOpen | copiedClosed | copiedOpen | close => exact rfl
  | _ => assumption

lemma Run.on_ring (run : Run State.create es s) :
    Ring.Run State.create.ring (es.filterMap Event.ring) s.ring := by
  induction run with
  | nil => exact .nil
  | @snoc t u es e _ st ih =>
    have step := st.on_ring
    rw [filterMap_append]
    obtain ⟨event, outcome⟩ := e
    cases event with
    | none =>
      show Ring.Run _ (_ ++ []) _
      rw [step, append_nil]
      exact ih
    | some e' => exact ih.snoc step

/-- The sequence number of the record a step retires. -/
def Event.retiredSequence (e : Event) : Option Nat :=
  (e.ring.bind fun e' => e'.action.bind Fifo.Action.popped).map Prod.fst

lemma Step.received (ok : Ok s) (st : Step s e s') : e.receivedOk = e.retiredSequence := by
  cases st with
  | @commitRefused _ _ _ _ _ _ status _ _ refused =>
    cases status with
    | ok => exact absurd rfl refused
    | _ => rfl
  | cancel => exact if_neg (ok.known (.cancel ..) (mem_cons_self ..))
  | _ => rfl

lemma Run.received (run : Run State.create es s) :
    es.filterMap Event.receivedOk = (retired (es.filterMap Event.ring)).map Prod.fst := by
  have each : ∀ e ∈ es, e.receivedOk = e.retiredSequence := by
    intro e mem
    obtain ⟨before, after, rfl⟩ := List.append_of_mem mem
    obtain ⟨t, u, run', st, _⟩ := Lts.Run.split_at run
    exact st.received (Run.ok run')
  unfold retired
  rw [List.filterMap_filterMap, List.map_filterMap]
  exact filterMap_congr each

lemma Run.received_increasing (run : Run State.create es s) :
    (es.filterMap Event.receivedOk).Pairwise (· < ·) := by
  obtain ⟨queue, _, matched⟩ := Run.refines rfl (by decide) (by decide) (Run.on_ring run)
  obtain ⟨numbers, _⟩ := Run.published_numbers rfl (by decide) (by decide) (Run.on_ring run)
  have order := Fifo.Run.pushed_eq matched
  rw [← published_eq, ← retired_eq] at order
  have front : (retired (es.filterMap Event.ring)).map Prod.fst <+:
      range' 1 (published (es.filterMap Event.ring)).length := by
    rw [← numbers, order, map_append]
    exact prefix_append ..
  rw [Run.received run]
  exact (pairwise_lt_range' ..).sublist front.sublist

lemma Step.closed (st : Step s e s') (closed : s.closed) : s'.closed := by
  cases st with
  | close => rfl
  | _ => exact closed

lemma Step.open_of_returnsOk (ok : Ok s) (st : Step s e s') (returns : e.ReturnsOk) :
    s.closed ≠ true := by
  cases st with
  | publish =>
    have opened : _ = false := ok.known (.publish _) (mem_cons_self ..)
    exact fun closed => Bool.noConfusion (opened.symm.trans closed)
  | commit =>
    have opened : _ = false := ok.known (.commit _ _) (mem_cons_self ..)
    exact fun closed => Bool.noConfusion (opened.symm.trans closed)
  | cancel => exact absurd returns (ok.known (.cancel ..) (mem_cons_self ..))
  | _ => cases returns

lemma Ok.idle_of_unlocked (ok : Ok s) (unlocked : s.locked = false)
    (idle : ∀ call ∈ s.calls, call.copies = false) : ∀ call ∈ s.calls, call.lease = none := by
  intro call mem
  have mutex := ok.mutex
  rw [unlocked] at mutex
  have free := mutex.held_eq_none mem
  have quiet := idle call mem
  cases call <;> first | rfl | (cases free; done) | cases quiet

lemma Call.reservation_of_not_sends {call : Call} (idle : call.sends = false) :
    call.reservation = none := by
  cases call <;> first | rfl | cases idle

/-- Any interleaving of sends, receives and closes receives every sequence number at most once and
in increasing order, lets nothing succeed after a close, and leaves no lease and no reservation
behind: without a copy in progress, or without a call that holds it, there is no lease, and without
a send there is no reservation, so that neither the next receive nor the next send finds the ring
busy. -/
theorem port_delivers_and_never_wedges {s es} (run : Run State.create es s) :
    (es.filterMap Event.receivedOk).Pairwise (· < ·) ∧
    (∀ before after, es = before ++ .returns .closed :: after → ∀ e ∈ after, ¬e.ReturnsOk) ∧
    (s.locked = false → (∀ call ∈ s.calls, call.copies = false) → s.ring.ring.receiveSequence = 0) ∧
    ((∀ call ∈ s.calls, call.lease = none) →
      s.ring.ring.receiveSequence = 0 ∧ (messageRingPeek s.ring.ring).1 ≠ .error .busy) ∧
    ((∀ call ∈ s.calls, call.sends = false) → s.ring.ring.producerReservationId = 0 ∧
      ∀ frame rules count, messageRingPrepareCheck s.ring.ring frame rules count = .ok () →
        (messageRingPrepareReserve s.ring.ring frame.length).1 ≠ .error .busy) := by
  have ok := Run.ok run
  obtain ⟨queue, rep⟩ := ok.rep
  have no_lease : (∀ call ∈ s.calls, call.lease = none) → s.ring.ring.receiveSequence = 0 :=
    fun idle => MessageRing.lease_eq_none.mp (ok.lease.slot_eq_none idle)
  refine ⟨Run.received_increasing run, ?_, ?_, ?_, ?_⟩
  · rintro before after rfl e mem returns
    obtain ⟨between, rest, rfl⟩ := append_of_mem mem
    refine Lts.Run.never_after (I := Ok) (P := fun s => s.closed) run Ok.create
      (fun ok st => st.ok ok) (fun _ closed st => st.closed closed) (fun _ st => ?_)
      fun ok st => st.open_of_returnsOk ok returns
    cases st
    rfl
  · exact fun unlocked idle => no_lease (ok.idle_of_unlocked unlocked idle)
  · intro idle
    refine ⟨no_lease idle, ?_⟩
    rw [rep.ok.peek_eq, if_neg (not_not.mpr (no_lease idle))]
    split
    · nofun
    · split <;> nofun
  · intro idle
    have free : s.ring.ring.producerReservationId = 0 := MessageRing.reservation_eq_none.mp
      (ok.reservation.slot_eq_none fun call mem => Call.reservation_of_not_sends (idle call mem))
    refine ⟨free, fun frame rules count check => ?_⟩
    rw [rep.ok.reserve_eq (frameOk_of_check check), if_neg (not_not.mpr free)]
    split_ifs <;> nofun

lemma write_run (stores) :
    Run ⟨closed, locked, ⟨ring, .preparing reservationId frame stores ::ₘ inflight⟩,
        .preparing reservationId frame ::ₘ calls⟩
          (stores.map fun store => .onRing (.write store.1 store.2))
      ⟨closed, locked, ⟨{ ring with storage := blit ring.storage stores },
        .preparing reservationId frame [] ::ₘ inflight⟩,
          .preparing reservationId frame ::ₘ calls⟩ := by
  induction stores generalizing ring with
  | nil => exact .nil
  | cons store stores ih => exact (Lts.Run.single (.write .write)).append ih

lemma read_run {closed locked ring inflight lease calls view spans} (cells front destination)
    (split : spans.cells = front ++ cells) (read : destination.length = front.length) :
    ∃ es destination', Run ⟨closed, locked, ⟨ring, .copying view.sequence lease spans ::ₘ inflight⟩,
          .copying view spans destination ::ₘ calls⟩ es
        ⟨closed, locked, ⟨ring, .copying view.sequence lease spans ::ₘ inflight⟩,
          .copying view spans destination' ::ₘ calls⟩ ∧
      es.filterMap Event.receivedOk = [] ∧ destination'.length = spans.cells.length := by
  induction cells generalizing front destination with
  | nil => exact ⟨[], destination, .nil, rfl, by rw [split, append_nil]; exact read⟩
  | cons cell cells ih =>
    have at_cell : spans.cells[destination.length]? = some cell := by
      rw [split, read, getElem?_append_right (Nat.le_refl _), Nat.sub_self]
      rfl
    obtain ⟨es, destination', run, none, length⟩ := ih (front ++ [cell])
      (destination ++ [ring.storage cell]) (by rw [split, append_assoc]; rfl) (by simp [read])
    refine ⟨_, destination', (Lts.Run.single (.read (.read at_cell))).append run, ?_, length⟩
    rw [filterMap_append, none]
    rfl

lemma sample_receive : ∃ es ring inflight, Run State.create es ⟨false, false, ⟨ring, inflight⟩, 0⟩ ∧
    es.filterMap Event.receivedOk = [1] := by
  obtain ⟨reserves, finishes, publishes, _⟩ := sampleFrame_sends 4096 (by decide)
  obtain ⟨peeks, begins, ends, commits⟩ := sampleFrame_receives 4096 (by decide)
  have reserved := (Lts.Run.single (@Step.sendOpen State.create.ring 0 sampleFrame nofun)).snoc
    (.reserve (@Ring.Step.reserve _ (reservedRing 4096) 0 sampleFrame none 0 _ _ rfl
      (Prod.ext reserves rfl)))
  have prepared := ((reserved.append (write_run _)).snoc (.finish (.finish
    (Prod.ext (y := (_, finishedRing 4096)) finishes rfl)))).snoc .preparedOpen
  have sent := prepared.snoc
    (.publish (.publish (Prod.ext (y := (_, publishedRing 4096)) publishes rfl)))
  have begun := ((sent.snoc .receiveOpen).snoc
    (.peek (.peek (Prod.ext (y := (_, peekedRing 4096)) peeks rfl))
    (Nat.le_refl _))).snoc
      (.beginCopyOut (.beginCopyOut (Prod.ext (y := (_, copyingRing 4096)) begins rfl)))
  obtain ⟨reads, destination, copied, silent, length⟩ :=
    @read_run false false (copyingRing 4096) 0 1 0 ⟨1, 1, 32⟩ ⟨16, 32, none, 0, 1⟩ _ [] [] rfl rfl
  have locked := (begun.append copied).snoc (.copiedOpen length)
  refine ⟨_, _, _, (locked.snoc
    (.endCopyOut (.endCopyOut (Prod.ext (y := (_, copiedRing 4096)) ends rfl)))).snoc
    (.commit (.commit (Prod.ext commits rfl))), ?_⟩
  simp only [filterMap_append, silent]
  rfl

theorem port_delivers_and_never_wedges_sample : ∃ es s, Run State.create es s ∧
    es.filterMap Event.receivedOk = [1] ∧ s.ring.ring.receiveSequence = 0 ∧
      s.ring.ring.producerReservationId = 0 := by
  obtain ⟨es, ring, inflight, run, received⟩ := sample_receive
  obtain ⟨_, _, _, no_lease, no_reservation⟩ := port_delivers_and_never_wedges run
  refine ⟨es, _, run, received, (no_lease fun call mem => ?_).1,
    (no_reservation fun call mem => ?_).1⟩
  all_goals exact absurd mem (notMem_zero call)

end DuetOS.Port
