import Mathlib.Data.Set.BooleanAlgebra
import Mathlib.Order.CompletePartialOrder
import DuetOS.Ring.Order

/-!
# Producers and receivers do not meet

The cells an unlocked producer copy may write and the cells of published records are disjoint, so
that the spans of an outstanding `BeginCopyOut` keep the bytes of the published frame until the copy
attempt ends.
-/

namespace DuetOS.Ring

open Word Message Circular Multiset List

def MessageRing.publishedCells (ring : MessageRing) : Set Nat :=
  { cell | ∃ i < ring.usedBytes, cell = (ring.headOffset + i) % ring.capacityBytes }

/-- The cells of the frame area of the current reservation. -/
def MessageRing.reservedCells (ring : MessageRing) : Set Nat :=
  { cell | ring.producerReservationId ≠ 0 ∧ ∃ i < ring.producerFrameSize,
    cell = (ring.producerTailOffset + kMessageRingRecordHeaderBytes + i) % ring.capacityBytes }

/-- The cells a producer copy in progress has still to write. -/
def InFlight.stores : InFlight → List Nat
  | .preparing _ _ writes => writes.map Prod.fst
  | _ => []

def InFlight.spans : InFlight → Option MessageRingCopySpans
  | .preparing _ _ _ => none
  | .copying _ _ spans => some spans
  | .copyingOut _ _ _ spans _ => some spans

/-- The step ends the copy attempt. -/
def Event.Ends (copyId : Nat) : Event → Prop
  | .endCopyOut _ _ id _ .ok => id = copyId
  | .copyOut _ _ id _ _ => id = copyId
  | _ => False

lemma RingOk.reserved_disjoint (ok : RingOk given ring queue) :
    Disjoint ring.reservedCells ring.publishedCells := by
  rw [Set.disjoint_left]
  rintro cell ⟨reserved, i, lt, rfl⟩ ⟨j, used, eq⟩
  rcases ok.stages with ⟨none, _⟩ | ⟨_, tail, record, _, room, _⟩
  · exact reserved none
  · have outside := @Stored.outside _ _ _ _ _ _ _ ok.stores (kMessageRingRecordHeaderBytes + i)
      (by omega)
    rw [← ok.stores.used_eq, ← Nat.add_assoc, ← tail] at outside
    exact outside.ne used eq.symm

section

variable (rep : Rep given s queue) (mem : op ∈ s.inflight)

include rep mem

/-- A copy in progress writes into the reserved frame area only. -/
lemma Rep.stores_reserved (store : cell ∈ op.stores) : cell ∈ s.ring.reservedCells := by
  cases op with
  | copying | copyingOut => cases store
  | preparing =>
    obtain ⟨own, active, size, _, done, rest, frame_eq, stores_eq, _⟩ := rep.calls _ mem
    obtain ⟨write, write_mem, rfl⟩ := mem_map.mp store
    rw [stores_eq] at write_mem
    obtain ⟨i, lt, eq⟩ := mem_writes write_mem
    rcases rep.ok.stages with ⟨_, _, _, inactive, _⟩ | ⟨reserved, tail, _⟩
    · exact absurd (active.symm.trans inactive) (by decide)
    refine ⟨reserved, done.length + i, ?_, ?_⟩
    · rw [size, frame_eq, length_append]
      omega
    · rw [eq, tail, Nat.add_assoc _ done.length i]

lemma Rep.copyKnown (held : op.spans = some spans) :
    ∃ sequence lease copied, s.ring.CopyKnown queue.items sequence lease spans copied := by
  have ok := rep.calls op mem
  cases op with
  | preparing => cases held
  | copying | copyingOut => cases held; exact ⟨_, _, _, ok⟩

lemma Rep.spans_published (held : op.spans = some spans)
    (current : s.ring.receiveCopyId = spans.copyId)
    (pinned : cell ∈ spans.cells) : cell ∈ s.ring.publishedCells := by
  obtain ⟨_, _, _, _, _, facts⟩ := rep.copyKnown mem held
  obtain ⟨frame, rest, items, _, _, cells, _⟩ := facts current
  have fits := (rep.ok.stores.used_ge _ (items ▸ List.mem_cons_self)).1
  rw [cells] at pinned
  obtain ⟨i, lt, rfl⟩ := mem_map.mp pinned
  rw [List.mem_range] at lt
  dsimp only at fits
  exact ⟨kMessageRingRecordHeaderBytes + i, by omega, by rw [Nat.add_assoc]⟩

end

lemma RingOk.lease_of_copy (ok : RingOk given ring queue) (copying : ring.receiveCopyId ≠ 0) :
    ring.receiveSequence ≠ 0 := by
  rcases ok.leases with ⟨_, _, _, none, _⟩ | ⟨frame, rest, items, _⟩
  · exact absurd none copying
  · exact Nat.ne_of_gt (ok.stores.records _ (items ▸ List.mem_cons_self)).1

lemma RingOk.end_attempt {sequence} (ok : RingOk given ring queue)
    (eq : messageRingEndCopyOut ring sequence lease copyId succeeded = (status, ring')) :
    ring'.receiveCopyId = ring.receiveCopyId ∨ status = .ok ∧ copyId = ring.receiveCopyId := by
  rcases ok.receiveCheck_cases sequence lease with ⟨refused, _⟩ | ⟨_, frame, rest, held⟩
  · rw [(receive_refused refused).2.2.2] at eq
    cases eq
    exact .inl rfl
  rw [held.end_eq ok] at eq
  split at eq
  · cases eq
    exact .inl rfl
  split at eq
  · cases eq
    exact .inl rfl
  split at eq
  · cases eq
    exact .inl rfl
  · rename_i same
    cases eq
    exact .inr ⟨rfl, (not_not.mp same).symm⟩

/-- A step that is not the end of the current copy attempt leaves it current. -/
lemma Step.attempt (rep : Rep given s queue) (st : Step s e s')
    (copying : s.ring.receiveCopyId ≠ 0) :
    s'.ring.receiveCopyId = s.ring.receiveCopyId ∨ e.Ends s.ring.receiveCopyId := by
  cases st with
  | reserveRefused check eq =>
    obtain ⟨rfl, _⟩ := rep.ok.reserve_refused (frameOk_of_check check) eq
    exact .inl rfl
  | reserve check eq =>
    obtain ⟨_, _, _, _, rfl⟩ := rep.ok.reserve_granted (frameOk_of_check check) eq
    exact .inl rfl
  | finish eq =>
    obtain ⟨⟨own, active, _⟩, _⟩ := rep.preparing
    rw [rep.ok.finish_eq own active] at eq
    split at eq <;> cases eq <;> exact .inl rfl
  | publish eq =>
    rw [rep.ok.publish_eq] at eq
    split_ifs at eq <;> cases eq <;> exact .inl rfl
  | abort eq =>
    rw [rep.ok.abort_eq] at eq
    split_ifs at eq <;> cases eq <;> exact .inl rfl
  | peek eq =>
    rw [rep.ok.peek_eq, if_pos (rep.ok.lease_of_copy copying)] at eq
    cases eq
    exact .inl rfl
  | beginRefused eq =>
    obtain ⟨_, rfl⟩ := rep.begin_refused eq
    exact .inl rfl
  | beginCopyOut eq => exact absurd (rep.begin eq).1.1 copying
  | endCopyOut eq =>
    rcases rep.ok.end_attempt eq with same | ⟨rfl, rfl⟩
    · exact .inl same
    · exact .inr rfl
  | copyOutRefused eq =>
    unfold messageRingCopyOutBegin at eq
    rw [if_neg (not_not.mpr rep.ok.ready)] at eq
    obtain ⟨_, rfl⟩ := rep.begin_refused eq
    exact .inl rfl
  | copyOutBegin eq =>
    unfold messageRingCopyOutBegin at eq
    rw [if_neg (not_not.mpr rep.ok.ready)] at eq
    exact absurd (rep.begin eq).1.1 copying
  | copyOutSmall _ eq | copyOutEnd _ _ eq =>
    rcases rep.ok.end_attempt eq with same | ⟨_, ends⟩
    · exact .inl same
    · exact .inr ends
  | commit eq =>
    rcases rep.ok.receiveCheck_cases _ _ with ⟨refused, _⟩ | ⟨_, _, _, held⟩
    · rw [(receive_refused refused).2.1] at eq
      cases eq
      exact .inl rfl
    · rw [held.commit_eq rep.ok, if_pos copying] at eq
      cases eq
      exact .inl rfl
  | cancelReceive eq =>
    rcases rep.ok.receiveCheck_cases _ _ with ⟨refused, _⟩ | ⟨_, _, _, held⟩
    · rw [(receive_refused refused).2.2.1] at eq
      cases eq
      exact .inl rfl
    · rw [held.cancel_eq rep.ok, if_pos copying] at eq
      cases eq
      exact .inl rfl
  | _ => exact .inl rfl

/-- Spans come from the calls before the step or from a copy attempt that is now the current one. -/
lemma Step.spans_of (rep : Rep given s queue) (st : Step s e s')
    (mem : op ∈ s'.inflight) (held : op.spans = some spans) :
    s'.ring.receiveCopyId = spans.copyId ∨ ∃ op' ∈ s.inflight, op'.spans = some spans := by
  cases st with
  | reserve =>
    rcases mem_cons.mp mem with rfl | old
    · cases held
    · exact .inr ⟨op, old, held⟩
  | write =>
    rcases mem_cons.mp mem with rfl | old
    · cases held
    · exact .inr ⟨op, mem_cons_of_mem old, held⟩
  | beginCopyOut eq =>
    rcases mem_cons.mp mem with rfl | old
    · cases held
      exact .inl (rep.begin eq).1.2
    · exact .inr ⟨op, old, held⟩
  | copyOutBegin eq =>
    unfold messageRingCopyOutBegin at eq
    rw [if_neg (not_not.mpr rep.ok.ready)] at eq
    rcases mem_cons.mp mem with rfl | old
    · cases held
      exact .inl (rep.begin eq).1.2
    · exact .inr ⟨op, old, held⟩
  | copyOutByte =>
    rcases mem_cons.mp mem with rfl | old
    · cases held
      exact .inr ⟨_, mem_cons_self .., rfl⟩
    · exact .inr ⟨op, mem_cons_of_mem old, held⟩
  | finish | copyOutSmall | copyOutEnd => exact .inr ⟨op, mem_cons_of_mem mem, held⟩
  | _ => exact .inr ⟨op, mem, held⟩

/-- Until its copy attempt ends, a receiver's spans belong to the current one. -/
lemma Run.attempt_current
    (initialized : (messageRingInitialize .zero storage storageBytes firstSequence).1 = .ok)
    (bytes : storageBytes ≤ max32) (sequences : firstSequence ≤ max64)
    (run : Run (State.init storage storageBytes firstSequence) es s) (mem : op ∈ s.inflight)
    (held : op.spans = some spans) (ongoing : ∀ e ∈ es, ¬e.Ends spans.copyId) :
    s.ring.receiveCopyId = spans.copyId := by
  induction run generalizing op with
  | nil => exact absurd mem (notMem_zero op)
  | snoc run st ih =>
    obtain ⟨queue, rep, _⟩ := Run.refines initialized bytes sequences run
    rcases st.spans_of rep mem held with now | ⟨op', mem', held'⟩
    · exact now
    have current := ih mem' held' fun e mem => ongoing e (mem_append_left _ mem)
    have pos : spans.copyId ≠ 0 := by
      obtain ⟨_, _, _, known⟩ := rep.copyKnown mem' held'
      exact known.1
    rcases st.attempt rep (current ▸ pos) with same | ends
    · exact same.trans current
    · exact absurd (current ▸ ends) (ongoing _ (mem_append_right _ (.head _)))

lemma Step.spans_of_read {sequence} (st : Step t (.read sequence copyId index byte) u) :
    ∃ op ∈ t.inflight, ∃ spans, op.spans = some spans ∧ spans.copyId = copyId := by
  cases st with
  | read | copyOutByte => exact ⟨_, mem_cons_self .., _, rfl, rfl⟩

/-- The frame area of the current reservation, which is all an unlocked producer copy has still to
write, is disjoint from the published records, to which the spans of a copy attempt belong until it
ends. A byte that is read from such spans before the attempt ends is the byte of the published
frame. -/
theorem copies_never_overlap
    (initialized : (messageRingInitialize .zero storage storageBytes firstSequence).1 = .ok)
    (bytes : storageBytes ≤ max32) (sequences : firstSequence ≤ max64)
    (run : Run (State.init storage storageBytes firstSequence) es s) :
    Disjoint s.ring.reservedCells s.ring.publishedCells ∧
    (∀ op ∈ s.inflight, ∀ cell ∈ op.stores, cell ∈ s.ring.reservedCells) ∧
    (∀ op ∈ s.inflight, ∀ spans, op.spans = some spans → (∀ e ∈ es, ¬e.Ends spans.copyId) →
      ∀ cell ∈ spans.cells, cell ∈ s.ring.publishedCells ∧ cell ∉ s.ring.reservedCells) ∧
    ∀ before sequence copyId index byte after,
      es = before ++ .read sequence copyId index byte :: after →
      (∀ e ∈ before, ¬e.Ends copyId) → ∃ frame, (sequence, frame) ∈ published before ∧
      frame[index]? = some byte := by
  obtain ⟨queue, rep, _⟩ := Run.refines initialized bytes sequences run
  have disjoint := rep.ok.reserved_disjoint
  refine ⟨disjoint, fun op mem cell store => rep.stores_reserved mem store, ?_, ?_⟩
  · intro op mem spans held ongoing cell pinned
    have current := Run.attempt_current initialized bytes sequences run mem held ongoing
    have cell_published := rep.spans_published mem held current pinned
    exact ⟨cell_published, Set.disjoint_right.mp disjoint cell_published⟩
  · rintro before sequence copyId index byte after rfl ongoing
    obtain ⟨_, t, queue', run', ⟨u, st⟩, sound, matched⟩ :=
      Run.event_sound initialized bytes sequences run
    obtain ⟨op, mem, spans, held, rfl⟩ := st.spans_of_read
    obtain ⟨frame, rest, items, byte_eq⟩ :=
      sound (Run.attempt_current initialized bytes sequences run' mem held ongoing)
    refine ⟨frame, ?_, byte_eq⟩
    rw [published_eq]
    exact mem_published_of_items matched (items ▸ mem_cons_self)

lemma sampleFrame_read : Run (State.init (fun _ => 0) 48 1)
    (sampleEvents ++ [.publish 1 (.ok 1) sampleFrame] ++ [.peek (.ok ⟨1, 1, sampleFrame.length⟩)] ++
      [.beginCopyOut 1 1 (.ok ⟨16, 32, none, 0, 1⟩)] ++ [.read 1 1 0 ((copyingRing 48).storage 16)])
    ⟨copyingRing 48, .copying 1 1 ⟨16, 32, none, 0, 1⟩ ::ₘ 0⟩ := by
  obtain ⟨peeks, begins, _⟩ := sampleFrame_receives 48 (by decide)
  have peeked := sampleFrame_run.snoc (.peek (Prod.ext (y := (_, peekedRing 48)) peeks rfl))
  have begun := peeked.snoc (.beginCopyOut (Prod.ext (y := (_, copyingRing 48)) begins rfl))
  exact begun.snoc (@Step.read 0 16 _ _ ⟨16, 32, none, 0, 1⟩ _ _ rfl)

lemma not_ends_of_mem_sampleEvents (mem : e ∈ sampleEvents) : ¬e.Ends copyId := by
  unfold sampleEvents at mem
  rw [List.mem_append, List.mem_cons, List.mem_map, List.mem_singleton] at mem
  rcases mem with (rfl | ⟨_, _, rfl⟩) | rfl
  · exact id
  · exact id
  · exact id

theorem copies_never_overlap_sample : ∃ frame lease spans byte s, Run (State.init (fun _ => 0) 48 1)
      (sampleEvents ++ [.publish 1 (.ok 1) frame] ++ [.peek (.ok ⟨1, lease, frame.length⟩)] ++
        [.beginCopyOut 1 lease (.ok spans)] ++ [.read 1 spans.copyId 0 byte]) s ∧
          frame[0]? = some byte := by
  obtain ⟨_, _, _, reads⟩ := copies_never_overlap rfl (by decide) (by decide) sampleFrame_read
  obtain ⟨frame', pushed, byte_eq⟩ := reads _ 1 1 0 _ [] rfl (by
    simp only [List.mem_append, List.mem_singleton]
    rintro e (((mem | rfl) | rfl) | rfl)
    · exact not_ends_of_mem_sampleEvents mem
    · exact id
    · exact id
    · exact id)
  cases List.mem_singleton.mp pushed
  exact ⟨_, _, _, _, _, sampleFrame_read, byte_eq⟩

end DuetOS.Ring
