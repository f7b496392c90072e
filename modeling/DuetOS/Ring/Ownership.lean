import DuetOS.Ring.History

/-!
# What a client of the ring holds

The ring has one reservation and one receive lease at a time. `reservation` and `lease` say which,
with how far the copy under them has come; the lemmas say what each section does to them when the
caller is the holder.
-/

namespace DuetOS.Ring

open Word Message

/-- The current reservation and whether its copy is under way. -/
def MessageRing.reservation (ring : MessageRing) : Option (Nat × Nat) :=
  if ring.producerReservationId = 0 then none
  else some (ring.producerReservationId, ring.producerCopyActive)

/-- The current receive lease and the copy attempt under way. -/
def MessageRing.lease (ring : MessageRing) : Option (Nat × Nat × Nat) :=
  if ring.receiveSequence = 0 then none
  else some (ring.receiveSequence, ring.receiveLeaseId, ring.receiveCopyId)

/-- The sequence numbers are used up and nothing is reserved. -/
def MessageRing.Spent (ring : MessageRing) : Prop :=
  ring.sequenceExhausted ≠ 0 ∧ ring.producerReservationId = 0

variable {queue : Fifo.Queue Frame} {s s' : State} {frame : Frame} {status : MessageRingStatus}
  {sequence lease copyId : Nat}

lemma Step.rep (st : Step s e s') (rep : Rep (fun _ _ => True) s queue) :
    ∃ queue', Rep (fun _ _ => True) s' queue' := by
  obtain ⟨_, _, matched⟩ := Step.refines rep st (fun _ => rfl) fun _ => trivial
  unfold Event.Matched at matched
  split at matched
  · exact ⟨queue, matched⟩
  · obtain ⟨queue', _, rep'⟩ := matched
    exact ⟨queue', rep'⟩

lemma MessageRing.reservation_eq_none {ring : MessageRing} :
    ring.reservation = none ↔ ring.producerReservationId = 0 := by
  unfold reservation
  split
  · rename_i zero
    exact ⟨fun _ => zero, fun _ => rfl⟩
  · rename_i nonzero
    exact ⟨nofun, fun zero => absurd zero nonzero⟩

lemma MessageRing.lease_eq_none {ring : MessageRing} :
    ring.lease = none ↔ ring.receiveSequence = 0 := by
  unfold lease
  split
  · rename_i zero
    exact ⟨fun _ => zero, fun _ => rfl⟩
  · rename_i nonzero
    exact ⟨nofun, fun zero => absurd zero nonzero⟩

lemma MessageRing.of_reservation {ring : MessageRing} {active : Nat}
    (held : ring.reservation = some (reservationId, active)) :
    reservationId ≠ 0 ∧ ring.producerReservationId = reservationId ∧
      ring.producerCopyActive = active := by
  unfold reservation at held
  split at held
  · cases held
  · rename_i nonzero
    cases held
    exact ⟨nonzero, rfl, rfl⟩

lemma MessageRing.of_lease {ring : MessageRing}
    (held : ring.lease = some (sequence, lease, copyId)) :
    sequence ≠ 0 ∧ ring.receiveSequence = sequence ∧ ring.receiveLeaseId = lease ∧
      ring.receiveCopyId = copyId := by
  unfold MessageRing.lease at held
  split at held
  · cases held
  · rename_i nonzero
    cases held
    exact ⟨nonzero, rfl, rfl, rfl⟩

lemma Step.of_write (st : Step s (.write cell byte) s') :
    s'.ring.reservation = s.ring.reservation ∧ s'.ring.lease = s.ring.lease ∧
      (s.ring.Spent → s'.ring.Spent) := by
  cases st with
  | write => exact ⟨rfl, rfl, id⟩

lemma Step.of_read (st : Step s (.read sequence copyId index byte) s') : s'.ring = s.ring := by
  cases st <;> rfl

variable (rep : Rep given s queue)

include rep

lemma Rep.held (held : s.ring.lease = some (sequence, lease, copyId)) :
    s.ring.receiveCopyId = copyId ∧
      ∃ frame rest, LeaseHeld s.ring queue.items sequence lease frame rest := by
  obtain ⟨nonzero, sequence_eq, lease_eq, copy_eq⟩ := MessageRing.of_lease held
  refine ⟨copy_eq, ?_⟩
  rcases rep.ok.leases with ⟨zero, _⟩ | ⟨frame, rest, items, _, size, _⟩
  · exact absurd (sequence_eq.symm.trans zero) nonzero
  · exact ⟨frame, rest, sequence_eq ▸ items, sequence_eq, lease_eq, size⟩

lemma Step.of_reserve (st : Step s (.reserve frame (.ok reservationId)) s') :
    s.ring.reservation = none ∧ ¬s.ring.Spent ∧ s'.ring.reservation = some (reservationId, 1) ∧
      s'.ring.lease = s.ring.lease := by
  cases st with
  | reserve check eq =>
    obtain ⟨free, _, rfl, _, rfl⟩ := rep.ok.reserve_granted (frameOk_of_check check) eq
    refine ⟨MessageRing.reservation_eq_none.mpr free, ?_, ?_, rfl⟩
    · rintro ⟨exhausted, _⟩
      rw [rep.ok.reserve_eq (frameOk_of_check check), if_neg (not_not.mpr free)] at eq
      split at eq <;> cases eq
    · exact if_neg rep.ok.counts.reservation_pos

lemma Step.of_reserveRefused (st : Step s (.reserve frame (.error status)) s') : s' = s := by
  cases st with
  | reserveRefused check eq => rw [(rep.ok.reserve_refused (frameOk_of_check check) eq).1]

lemma Step.of_finish (st : Step s (.finish reservationId status) s') :
    s'.ring.lease = s.ring.lease ∧ ¬s.ring.Spent ∧
      (status = .ok ∧ s'.ring.reservation = some (reservationId, 0) ∨
        status ≠ .ok ∧ s'.ring.reservation = none) := by
  cases st with
  | finish eq =>
    obtain ⟨⟨own, active, _⟩, _⟩ := rep.preparing
    have nonzero : reservationId ≠ 0 := by
      rintro rfl
      exact absurd (active.symm.trans (rep.ok.inactive own)) (by decide)
    rw [rep.ok.finish_eq own active] at eq
    refine ⟨?_, fun spent => nonzero (own.symm.trans spent.2), ?_⟩
    · split at eq <;> cases eq <;> rfl
    split at eq
    · cases eq
      exact .inr ⟨nofun, rfl⟩
    cases eq
    refine .inl ⟨rfl, ?_⟩
    rw [← own]
    exact if_neg (own ▸ nonzero)

lemma Step.of_abort (st : Step s (.abort reservationId status) s')
    (own : s.ring.reservation = some (reservationId, 0)) :
    s'.ring.reservation = none ∧ s'.ring.lease = s.ring.lease := by
  obtain ⟨nonzero, id_eq, inactive⟩ := MessageRing.of_reservation own
  cases st with
  | abort eq =>
    rw [rep.ok.abort_eq, if_neg nonzero, if_neg (not_not.mpr id_eq), if_neg (not_not.mpr inactive)]
      at eq
    cases eq
    exact ⟨rfl, rfl⟩

lemma Step.of_abort_spent (st : Step s (.abort reservationId status) s') (spent : s.ring.Spent) :
    s' = s := by
  cases st with
  | abort eq =>
    rw [rep.ok.abort_eq] at eq
    split at eq
    · cases eq
      rfl
    rename_i nonzero
    rw [if_pos (fun own => nonzero (own.symm.trans spent.2))] at eq
    cases eq
    rfl

lemma Step.of_publish (st : Step s (.publish reservationId result frame) s')
    (own : s.ring.reservation = some (reservationId, 0)) :
    s'.ring.reservation = none ∧ s'.ring.lease = s.ring.lease ∧
      (∀ status, result = .error status → s'.ring.Spent) := by
  obtain ⟨nonzero, id_eq, inactive⟩ := MessageRing.of_reservation own
  cases st with
  | publish eq =>
    rw [rep.ok.publish_eq, if_neg nonzero, if_neg (not_not.mpr id_eq),
      if_neg (not_not.mpr inactive)] at eq
    split at eq
    · rename_i exhausted
      cases eq
      exact ⟨rfl, rfl, fun _ _ => ⟨exhausted, rfl⟩⟩
    · cases eq
      exact ⟨rfl, rfl, nofun⟩

lemma Step.of_peek (st : Step s (.peek (.ok view)) s') :
    s.ring.lease = none ∧ s'.ring.lease = some (view.sequence, view.receiveLeaseId, 0) ∧
      s'.ring.reservation = s.ring.reservation := by
  cases st with
  | peek eq =>
    rw [rep.ok.peek_eq] at eq
    split at eq
    · cases eq
    rename_i free
    split at eq
    · cases eq
    rename_i items
    split at eq
    · cases eq
    · cases eq
      have pos := (rep.ok.stores.records _ (items ▸ List.mem_cons_self)).1
      exact ⟨MessageRing.lease_eq_none.mpr (not_not.mp free), if_neg (Nat.ne_of_gt pos), rfl⟩

lemma Step.of_peekRefused (st : Step s (.peek (.error status)) s') : s' = s := by
  cases st with
  | peek eq =>
    rw [rep.ok.peek_eq] at eq
    split at eq
    · cases eq
      rfl
    split at eq
    · cases eq
      rfl
    split at eq <;> cases eq
    rfl

lemma Step.of_begin (st : Step s (.beginCopyOut sequence lease (.ok spans)) s')
    (own : s.ring.lease = some (sequence, lease, copied)) :
    s'.ring.lease = some (sequence, lease, spans.copyId) ∧ spans.copyId ≠ 0 ∧
      s'.ring.reservation = s.ring.reservation := by
  obtain ⟨_, frame, rest, held⟩ := rep.held own
  obtain ⟨nonzero, sequence_eq, lease_eq, _⟩ := MessageRing.of_lease own
  cases st with
  | beginCopyOut eq =>
    rw [held.begin_eq rep.ok] at eq
    split_ifs at eq
    iterate 2 cases eq
    cases eq
    refine ⟨?_, rep.ok.counts.copy_pos, rfl⟩
    rw [← sequence_eq, ← lease_eq]
    exact if_neg (sequence_eq ▸ nonzero)

lemma Step.of_beginRefused (st : Step s (.beginCopyOut sequence lease (.error status)) s') :
    s' = s := by
  cases st with
  | beginRefused eq => rw [(rep.begin_refused eq).2]

lemma Step.of_end (st : Step s (.endCopyOut sequence lease copyId succeeded status) s')
    (own : s.ring.lease = some (sequence, lease, copyId)) (attempt : copyId ≠ 0) :
    status = .ok ∧ s'.ring.lease = some (sequence, lease, 0) ∧
      s'.ring.reservation = s.ring.reservation := by
  obtain ⟨copy_eq, frame, rest, held⟩ := rep.held own
  obtain ⟨nonzero, sequence_eq, lease_eq, _⟩ := MessageRing.of_lease own
  cases st with
  | endCopyOut eq =>
    rw [held.end_eq rep.ok, if_neg attempt, copy_eq, if_neg attempt, if_neg (not_not.mpr rfl)] at eq
    cases eq
    refine ⟨rfl, ?_, rfl⟩
    rw [← sequence_eq, ← lease_eq]
    exact if_neg (sequence_eq ▸ nonzero)

lemma Step.of_commit (st : Step s (.commit sequence lease status frame) s')
    (own : s.ring.lease = some (sequence, lease, 0)) :
    status = .ok ∧ s'.ring.lease = none ∧ s'.ring.reservation = s.ring.reservation ∨ status ≠ .ok ∧
      s' = s := by
  obtain ⟨copy_eq, frame, rest, held⟩ := rep.held own
  cases st with
  | commit eq =>
    rw [held.commit_eq rep.ok, if_neg (not_not.mpr copy_eq)] at eq
    split at eq
    · cases eq
      exact .inr ⟨nofun, rfl⟩
    · cases eq
      exact .inl ⟨rfl, rfl, rfl⟩

lemma Step.of_cancel (st : Step s (.cancelReceive sequence lease status) s')
    (own : s.ring.lease = some (sequence, lease, 0)) :
    s'.ring.lease = none ∧ s'.ring.reservation = s.ring.reservation := by
  obtain ⟨copy_eq, frame, rest, held⟩ := rep.held own
  cases st with
  | cancelReceive eq =>
    rw [held.cancel_eq rep.ok, if_neg (not_not.mpr copy_eq)] at eq
    cases eq
    exact ⟨rfl, rfl⟩

end DuetOS.Ring
