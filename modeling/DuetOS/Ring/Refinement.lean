import DuetOS.Ring.Transitions

/-!
# The ring refines a queue

`Rep` relates the ring and the calls in progress to an abstract queue: a producer in its unlocked
copy has written the first bytes of its frame and has the other stores still to make, and a receiver
whose copy attempt is current holds the cells of the front frame. Only publishing and committing
move the queue (`Step.refines`).
-/

namespace DuetOS.Ring

open Word Message Circular Bag Multiset

def InFlight.prepares : InFlight → Bool
  | .preparing _ _ _ => true
  | _ => false

/-- A producer in its copy has written a first part of its frame and has the stores of the rest to
make. -/
def Preparing (given : Nat → Frame → Prop) (storage : Nat → UInt8)
    (cap tail reservationId size active id : Nat) (frame : Frame)
    (stores : List (Nat × UInt8)) : Prop :=
  reservationId = id ∧ active = 1 ∧ size = frame.length ∧ given id frame ∧
    ∃ done rest, frame = done ++ rest ∧
      stores = writes cap (tail + kMessageRingRecordHeaderBytes + done.length) rest ∧
      Holds storage cap (tail + kMessageRingRecordHeaderBytes) done

/-- A receiver with spans has a used-up copy identity, and while that is the current one, the cells
of the front frame; `copied` is what it has read so far. -/
def CopyKnown (items : List (Nat × Frame)) (cap head nextCopy copyExhausted copyId receiveSequence
    receiveLease sequence lease : Nat) (spans : MessageRingCopySpans)
      (copied : List UInt8) : Prop :=
  spans.copyId ≠ 0 ∧ (spans.copyId < nextCopy ∨ copyExhausted ≠ 0) ∧
    (copyId = spans.copyId → ∃ frame rest, items = (sequence, frame) :: rest ∧
      receiveSequence = sequence ∧ receiveLease = lease ∧
      spans.cells = frameCells cap head frame.length ∧ copied <+: frame)

abbrev MessageRing.CopyKnown (ring : MessageRing) (items : List (Nat × Frame))
    (sequence lease : Nat)
    (spans : MessageRingCopySpans) (copied : List UInt8) : Prop :=
  Ring.CopyKnown items ring.capacityBytes ring.headOffset ring.nextCopyId ring.copyIdExhausted
    ring.receiveCopyId ring.receiveSequence ring.receiveLeaseId sequence lease spans copied

def InFlight.Ok (given : Nat → Frame → Prop) (ring : MessageRing) (items : List (Nat × Frame)) :
    InFlight → Prop
  | .preparing id frame stores =>
    Preparing given ring.storage ring.capacityBytes ring.tailOffset ring.producerReservationId
      ring.producerFrameSize ring.producerCopyActive id frame stores
  | .copying sequence lease spans => ring.CopyKnown items sequence lease spans []
  | .copyingOut sequence lease _ spans copied => ring.CopyKnown items sequence lease spans copied

structure Rep (given : Nat → Frame → Prop) (s : State) (queue : Fifo.Queue Frame) : Prop where
  ok : RingOk given s.ring queue
  calls : ∀ op ∈ s.inflight, op.Ok given s.ring queue.items
  copies : tally InFlight.prepares s.inflight = s.ring.producerCopyActive

lemma InFlight.Ok.imp (ok : InFlight.Ok given ring items op)
    (prepare : ∀ {id frame stores}, op = .preparing id frame stores →
      InFlight.Ok given ring items op → InFlight.Ok given' ring' items' op)
    (copy : ∀ {sequence lease spans copied}, ring.CopyKnown items sequence lease spans copied →
      ring'.CopyKnown items' sequence lease spans copied) : InFlight.Ok given' ring' items' op := by
  cases op with
  | preparing => exact prepare rfl ok
  | copying | copyingOut => exact copy ok

lemma RingOk.inactive (ok : RingOk given ring queue) (free : ring.producerReservationId = 0) :
    ring.producerCopyActive = 0 := by
  rcases ok.stages with ⟨_, _, _, zero, _⟩ | ⟨pos, _⟩
  · exact zero
  · exact absurd free pos

section

variable (rep : Rep given ⟨ring, inflight⟩ queue)

include rep

lemma Rep.idle (inactive : ring.producerCopyActive = 0) (mem : op ∈ inflight) :
    op.prepares = false := by
  by_contra prepares
  have pos := tally_pos mem (eq_true_of_ne_false prepares)
  have none : tally InFlight.prepares inflight = 0 := rep.copies.trans inactive
  omega

lemma Rep.regive {given' : Nat → Frame → Prop}
    (free : ring.producerReservationId = 0) : Rep given' ⟨ring, inflight⟩ queue where
  ok := { rep.ok with
    stages := by
      rcases rep.ok.stages with zero | ⟨pos, _⟩
      · exact .inl zero
      · exact absurd free pos }
  calls op mem := by
    refine (rep.calls op mem).imp (fun eq _ => ?_) id
    have idle := rep.idle (rep.ok.inactive free) mem
    rw [eq] at idle
    cases idle
  copies := rep.copies

lemma Rep.receive (ok : RingOk given ring' queue')
    (prepare : ∀ {id frame stores},
      InFlight.Ok given ring queue.items (.preparing id frame stores) →
        InFlight.Ok given ring' queue'.items (.preparing id frame stores))
    (active : ring'.producerCopyActive = ring.producerCopyActive)
    (copy : ∀ {sequence lease spans copied},
      ring.CopyKnown queue.items sequence lease spans copied →
      ring'.CopyKnown queue'.items sequence lease spans copied) : Rep given ⟨ring', inflight⟩
        queue' where
  ok
  calls op mem := (rep.calls op mem).imp (fun eq ok => by subst eq; exact prepare ok) copy
  copies := rep.copies.trans active.symm

lemma Rep.produce (ok : RingOk given ring' queue')
    (inactive : ring.producerCopyActive = 0) (inactive' : ring'.producerCopyActive = 0)
    (copy : ∀ {sequence lease spans copied},
      ring.CopyKnown queue.items sequence lease spans copied →
      ring'.CopyKnown queue'.items sequence lease spans copied) : Rep given ⟨ring', inflight⟩
        queue' where
  ok
  calls op mem := by
    refine (rep.calls op mem).imp (fun eq _ => ?_) copy
    have idle := rep.idle inactive mem
    rw [eq] at idle
    cases idle
  copies := rep.copies.trans (inactive.trans inactive'.symm)

end

/-- The copy in progress and the calls beside it. -/
lemma Rep.preparing
    (rep : Rep given ⟨ring, .preparing reservationId frame stores ::ₘ inflight⟩ queue) :
    Preparing given ring.storage ring.capacityBytes ring.tailOffset ring.producerReservationId
        ring.producerFrameSize ring.producerCopyActive reservationId frame stores ∧
      tally InFlight.prepares inflight + 1 = ring.producerCopyActive ∧ ∀ op ∈ inflight,
        op.prepares = false := by
  have known := rep.calls _ (mem_cons_self ..)
  have copies : tally InFlight.prepares inflight + 1 = ring.producerCopyActive :=
    (tally_cons ..).symm.trans rep.copies
  refine ⟨known, copies, fun op mem => ?_⟩
  have active : ring.producerCopyActive = 1 := known.2.1
  by_contra prepares
  have pos := tally_pos mem (eq_true_of_ne_false prepares)
  omega

lemma RingOk.reserve_refused (ok : RingOk given ring queue) (frameOk : FrameOk frameBytes)
    (eq : messageRingPrepareReserve ring frameBytes = (.error status, ring')) :
    ring' = ring ∧ status ≠ .corruptState := by
  rw [ok.reserve_eq frameOk] at eq
  split_ifs at eq <;> cases eq <;> exact ⟨rfl, nofun⟩

lemma RingOk.reserve_granted (ok : RingOk given ring queue) (frameOk : FrameOk frameBytes)
    (eq : messageRingPrepareReserve ring frameBytes = (.ok (reservationId, offset), ring')) :
    ring.producerReservationId = 0 ∧
      kMessageRingRecordHeaderBytes + frameBytes ≤ ring.capacityBytes - ring.usedBytes ∧
      reservationId = ring.nextReservationId ∧
      offset = (ring.tailOffset + kMessageRingRecordHeaderBytes) % ring.capacityBytes ∧
      ring' = ring.reserved frameBytes := by
  rw [ok.reserve_eq frameOk] at eq
  split_ifs at eq with free _ _ room <;> cases eq
  exact ⟨not_not.mp free, Nat.le_of_not_lt room, rfl, rfl, rfl⟩

lemma Rep.reserve {frame rules count reservationId offset} (rep : Rep given ⟨ring, inflight⟩ queue)
    (check : messageRingPrepareCheck ring frame rules count = .ok ())
    (eq : messageRingPrepareReserve ring frame.length = (.ok (reservationId, offset), ring'))
    (source : given reservationId frame) :
    Rep given ⟨ring', .preparing reservationId frame
      (copyWrites ring.capacityBytes offset frame) ::ₘ inflight⟩
      queue := by
  have frameOk := frameOk_of_check check
  obtain ⟨free, room, rfl, rfl, rfl⟩ := rep.ok.reserve_granted frameOk eq
  have inactive := rep.ok.inactive free
  have stored := rep.ok.stores
  refine ⟨rep.ok.reserved frameOk room, forall_mem_cons.mpr ⟨?_, fun op mem => ?_⟩, ?_⟩
  · refine ⟨rfl, rfl, rfl, source, [], frame, rfl, ?_, holds_nil⟩
    have pos := Nat.lt_of_le_of_lt (Nat.zero_le _) stored.head_lt
    rw [copyWrites_eq (Nat.mod_lt _ pos) stored.small, writes_mod]
    rfl
  · refine (rep.calls op mem).imp (fun eq _ => ?_) id
    have idle := rep.idle inactive mem
    rw [eq] at idle
    cases idle
  · refine (tally_cons ..).trans ?_
    have none : tally InFlight.prepares inflight = 0 := rep.copies.trans inactive
    rw [none]
    rfl

lemma RingOk.copy_room (ok : RingOk given ring queue) (active : ring.producerCopyActive = 1) :
    ring.usedBytes + (kMessageRingRecordHeaderBytes + ring.producerFrameSize) ≤
      ring.capacityBytes := by
  have fits := ok.stores.fits
  rcases ok.stages with ⟨_, _, _, zero, _⟩ | ⟨_, _, record, _, room, _⟩
  · exact absurd (active.symm.trans zero) (by decide)
  · omega

lemma Rep.write {reservationId frame cell byte stores}
    (rep : Rep given ⟨ring, .preparing reservationId frame ((cell, byte) :: stores) ::ₘ inflight⟩
      queue) :
    Rep given ⟨{ ring with storage := Function.update ring.storage cell byte },
      .preparing reservationId frame stores ::ₘ inflight⟩ queue := by
  obtain ⟨⟨own, active, size, source, done, rest, frame_eq, stores_eq, holds⟩, copies, others⟩ :=
    rep.preparing
  cases rest with
  | nil => cases stores_eq
  | cons value rest =>
    rw [writes_cons] at stores_eq
    cases stores_eq
    have room := rep.ok.copy_room active
    have length : frame.length = done.length + (rest.length + 1) := by
      rw [frame_eq, List.length_append, List.length_cons]
    dsimp only at room size
    have ok := @RingOk.write _ _ _ rep.ok (kMessageRingRecordHeaderBytes + done.length) byte active
      (by dsimp only; omega)
    rw [← Nat.add_assoc] at ok
    refine ⟨ok, forall_mem_cons.mpr ⟨?_, fun op mem => ?_⟩, (tally_cons ..).trans copies⟩
    · refine ⟨own, active, size, source, done ++ [byte], rest, ?_, ?_, holds.snoc (by omega)⟩
      · rw [frame_eq, List.append_assoc]
        rfl
      · rw [List.length_append, List.length_singleton, ← Nat.add_assoc]
    · refine (rep.calls op (mem_cons_of_mem mem)).imp (fun eq _ => ?_) id
      have idle := others op mem
      rw [eq] at idle
      cases idle

/-- The copy in progress finishes: the frame is staged, or an abort that was asked for takes
effect. -/
lemma Rep.finish (rep : Rep given ⟨ring, .preparing reservationId frame [] ::ₘ inflight⟩ queue)
    (eq : messageRingPrepareFinish ring reservationId = (status, ring')) :
    status ≠ .corruptState ∧ Rep given ⟨ring', inflight⟩ queue := by
  obtain ⟨⟨own, active, size, source, done, rest, frame_eq, stores_eq, holds⟩, copies, others⟩ :=
    rep.preparing
  have calls : ∀ {ring'' : MessageRing}, (∀ {sequence lease spans copied},
      ring.CopyKnown queue.items sequence lease spans copied →
        ring''.CopyKnown queue.items sequence lease spans copied) →
      ∀ op ∈ inflight, op.Ok given ring'' queue.items := fun copy op mem => by
    refine (rep.calls op (mem_cons_of_mem mem)).imp (fun eq _ => ?_) copy
    have idle := others op mem
    rw [eq] at idle
    cases idle
  rw [rep.ok.finish_eq own active] at eq
  split at eq
  · cases eq
    refine ⟨nofun, rep.ok.clearProducer, calls id, ?_⟩
    show tally InFlight.prepares inflight = 0
    omega
  rename_i keep
  cases eq
  have whole : frame = done := by
    cases rest with
    | nil => rw [frame_eq, List.append_nil]
    | cons value rest =>
      rw [writes_cons] at stores_eq
      cases stores_eq
  refine ⟨nofun, rep.ok.finished active (not_not.mp keep) (own ▸ source) size (whole ▸ holds),
    calls id, ?_⟩
  show tally InFlight.prepares inflight = 0
  omega

lemma Rep.cons {op} (rep : Rep given ⟨ring, inflight⟩ queue) (idle : op.prepares = false)
    (ok : op.Ok given ring queue.items) : Rep given ⟨ring, op ::ₘ inflight⟩ queue where
  ok := rep.ok
  calls := forall_mem_cons.mpr ⟨ok, rep.calls⟩
  copies := by
    rw [tally_cons, idle]
    exact rep.copies

lemma Rep.drop {op} (rep : Rep given ⟨ring, op ::ₘ inflight⟩ queue) (idle : op.prepares = false) :
    Rep given ⟨ring, inflight⟩ queue where
  ok := rep.ok
  calls other mem := rep.calls other (mem_cons_of_mem mem)
  copies := by
    have copies := rep.copies
    rw [tally_cons, idle] at copies
    exact copies

section Copies

variable {sequence : Nat}

section

variable
  (known : CopyKnown items cap head nextCopy copyExhausted copyId receiveSequence receiveLease
    sequence lease spans copied)

include known

lemma CopyKnown.append (record : Nat × Frame) :
    CopyKnown (items ++ [record]) cap head nextCopy copyExhausted copyId receiveSequence
      receiveLease
      sequence lease spans copied := by
  obtain ⟨pos, used, current⟩ := known
  refine ⟨pos, used, fun eq => ?_⟩
  obtain ⟨frame, rest, rfl, facts⟩ := current eq
  exact ⟨frame, rest ++ [record], rfl, facts⟩

lemma CopyKnown.cleared :
    CopyKnown items' cap' head' nextCopy copyExhausted 0 receiveSequence' receiveLease' sequence
      lease spans copied :=
  ⟨known.1, known.2.1, fun eq => absurd eq.symm known.1⟩

lemma CopyKnown.fresh (left : copyExhausted = 0) :
    CopyKnown items' cap' head' (if nextCopy = max64 then nextCopy else nextCopy + 1)
      (if nextCopy = max64 then 1 else copyExhausted) nextCopy receiveSequence'
      receiveLease' sequence
      lease spans copied := by
  have lt : spans.copyId < nextCopy := known.2.1.resolve_right (not_not.mpr left)
  refine ⟨known.1, ?_, fun eq => absurd eq (Nat.ne_of_gt lt)⟩
  split
  · exact .inr (by decide)
  · exact .inl (Nat.lt_succ_of_lt lt)

end

end Copies

variable (rep : Rep given ⟨ring, inflight⟩ queue)

include rep

/-- Publishing fails without effect on the queue, or pushes the frame its producer asked for. -/
lemma Rep.publish {reservationId result}
    (eq : messageRingPublishEnqueue ring reservationId = (result, ring')) :
    (∃ status, result = .error status ∧ status ≠ .corruptState ∧
      Rep given ⟨ring', inflight⟩ queue) ∨
      ∃ sequence queue', result = .ok sequence ∧ given reservationId (stagedBytes ring) ∧
        Fifo.Step max64 queue (.push sequence (stagedBytes ring)) queue' ∧
          Rep given ⟨ring', inflight⟩ queue' := by
  rw [rep.ok.publish_eq] at eq
  split_ifs at eq with nonzero own inactive numbered <;> cases eq
  iterate 3 exact .inl ⟨_, rfl, nofun, rep⟩
  · exact .inl ⟨_, rfl, nofun, rep.produce rep.ok.clearProducer (not_not.mp inactive) rfl id⟩
  obtain ⟨queue', source, pushed, ok⟩ := rep.ok.published (not_not.mp own) nonzero
    (not_not.mp inactive) (not_not.mp numbered)
  refine .inr ⟨_, queue', rfl, source, pushed, rep.produce ok (not_not.mp inactive) rfl ?_⟩
  cases pushed
  exact fun known => known.append _

lemma Rep.abort {reservationId status}
    (eq : messageRingAbortEnqueue ring reservationId = (status, ring')) :
    status ≠ .corruptState ∧ Rep given ⟨ring', inflight⟩ queue := by
  rw [rep.ok.abort_eq] at eq
  split_ifs at eq with _ _ active <;> cases eq
  iterate 2 exact ⟨nofun, rep⟩
  · exact ⟨nofun, rep.receive (rep.ok.abortRequested active) id rfl id⟩
  · exact ⟨nofun, rep.produce rep.ok.clearProducer (not_not.mp active) rfl id⟩

lemma Rep.peek {result} (eq : messageRingPeek ring = (result, ring')) :
    (∀ status, result = .error status → status ≠ .corruptState) ∧
    Rep given ⟨ring', inflight⟩ queue := by
  rw [rep.ok.peek_eq] at eq
  split at eq
  · cases eq
    exact ⟨fun _ eq => by cases eq; nofun, rep⟩
  split at eq
  · cases eq
    exact ⟨fun _ eq => by cases eq; nofun, rep⟩
  rename_i items
  split at eq
  · cases eq
    exact ⟨fun _ eq => by cases eq; nofun, rep⟩
  · cases eq
    refine ⟨nofun, rep.receive (rep.ok.leased items) id rfl fun known => known.cleared⟩

lemma Rep.begin_refused {sequence}
    (eq : messageRingBeginCopyOut ring sequence lease = (.error status, ring')) :
    status ≠ .corruptState ∧ ring' = ring := by
  rcases rep.ok.receiveCheck_cases sequence lease with ⟨refused, sound⟩ | ⟨_, frame, rest, held⟩
  · rw [(receive_refused refused).1] at eq
    cases eq
    exact ⟨sound, rfl⟩
  rw [held.begin_eq rep.ok] at eq
  split_ifs at eq <;> cases eq <;> exact ⟨nofun, rfl⟩

lemma Rep.begin {sequence lease spans}
    (eq : messageRingBeginCopyOut ring sequence lease = (.ok spans, ring')) :
    (ring.receiveCopyId = 0 ∧ ring'.receiveCopyId = spans.copyId) ∧
      Rep given ⟨ring', inflight⟩ queue ∧ ring'.CopyKnown queue.items sequence lease spans [] := by
  rcases rep.ok.receiveCheck_cases sequence lease with ⟨refused, _⟩ | ⟨_, frame, rest, held⟩
  · rw [(receive_refused refused).1] at eq
    cases eq
  rw [held.begin_eq rep.ok] at eq
  split_ifs at eq with idle left
  iterate 2 cases eq
  cases eq
  refine ⟨⟨not_not.mp idle, rfl⟩,
    rep.receive (rep.ok.copying held) id rfl fun known => known.fresh (not_not.mp left),
    rep.ok.counts.copy_pos, ?_, fun _ => ?_⟩
  · show ring.nextCopyId < (if ring.nextCopyId = max64 then _ else _) ∨
      (if ring.nextCopyId = max64 then 1 else ring.copyIdExhausted) ≠ 0
    split
    · exact .inr (by decide)
    · exact .inl (Nat.lt_succ_self _)
  · exact ⟨frame, rest, held.items_eq, held.sequence_eq, held.lease_eq, held.cells rep.ok,
      List.nil_prefix⟩

/-- Ending a copy attempt. When it succeeds, the attempt was the current one. -/
lemma Rep.end {sequence}
    (eq : messageRingEndCopyOut ring sequence lease copyId succeeded = (status, ring')) :
    status ≠ .corruptState ∧ (status = .ok → ring.receiveCopyId = copyId) ∧
      Rep given ⟨ring', inflight⟩ queue := by
  rcases rep.ok.receiveCheck_cases sequence lease with ⟨refused, sound⟩ | ⟨_, frame, rest, held⟩
  · rw [(receive_refused refused).2.2.2] at eq
    cases eq
    split
    · exact ⟨nofun, nofun, rep⟩
    · exact ⟨sound, fun ok => absurd ok refused, rep⟩
  rw [held.end_eq rep.ok] at eq
  split_ifs at eq with _ _ same <;> cases eq
  iterate 3 exact ⟨nofun, nofun, rep⟩
  all_goals exact ⟨nofun, fun _ => not_not.mp same,
    rep.receive (rep.ok.copied held) id rfl fun known => known.cleared⟩

/-- Committing fails without effect, or pops the front record. -/
lemma Rep.commit {sequence lease status}
    (eq : messageRingCommit ring sequence lease = (status, ring')) :
    (status ≠ .ok ∧ status ≠ .corruptState ∧ Rep given ⟨ring', inflight⟩ queue) ∨
      (status = .ok ∧ ∃ queue', Fifo.Step max64 queue (.pop sequence (headFrame ring)) queue' ∧
        Rep given ⟨ring', inflight⟩ queue') := by
  rcases rep.ok.receiveCheck_cases sequence lease with ⟨refused, sound⟩ | ⟨_, frame, rest, held⟩
  · rw [(receive_refused refused).2.1] at eq
    cases eq
    exact .inl ⟨refused, sound, rep⟩
  rw [held.commit_eq rep.ok] at eq
  split_ifs at eq
  iterate 2
    cases eq
    exact .inl ⟨nofun, nofun, rep⟩
  cases eq
  rw [rep.ok.headFrame_eq held.items_eq]
  have items := held.items_eq
  obtain ⟨queued, next⟩ := queue
  subst items
  exact .inr ⟨rfl, _, .pop, rep.receive rep.ok.retired id rfl fun known => known.cleared⟩

lemma Rep.cancel {sequence} (eq : messageRingCancelReceive ring sequence lease = (status, ring')) :
    status ≠ .corruptState ∧ Rep given ⟨ring', inflight⟩ queue := by
  rcases rep.ok.receiveCheck_cases sequence lease with ⟨refused, sound⟩ | ⟨_, frame, rest, held⟩
  · rw [(receive_refused refused).2.2.1] at eq
    cases eq
    exact ⟨sound, rep⟩
  rw [held.cancel_eq rep.ok] at eq
  split at eq
  · cases eq
    exact ⟨nofun, rep⟩
  · cases eq
    exact ⟨nofun, rep.receive rep.ok.clearReceiver id rfl fun known => known.cleared⟩

end DuetOS.Ring
