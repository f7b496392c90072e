import DuetOS.Ring.History

/-!
# Frames leave the ring as they entered it

The ring as a first-in first-out queue of numbered frames, over whole histories: what was published
is what was retired followed by what the storage still holds, the numbers are consecutive, and each
published frame is the one the latest reservation was made for.
-/

namespace DuetOS.Ring

open Word LittleEndian Message Circular List

/-- The next records of the ring from an offset on, read off the storage. -/
def recordsFrom (ring : MessageRing) : Nat → Nat → List (Nat × Frame)
  | 0, _ => []
  | records + 1, offset =>
    let header := copyFromStorage ring offset kMessageRingRecordHeaderBytes
    let frameSize := readLe32 header kRecordFrameSizeOffset
    (readLe64 header kRecordSequenceOffset,
      copyFromStorage ring (advanceOffset offset kMessageRingRecordHeaderBytes ring.capacityBytes)
        frameSize) ::
      recordsFrom ring records
        (advanceOffset offset (kMessageRingRecordHeaderBytes + frameSize) ring.capacityBytes)

def MessageRing.queued (ring : MessageRing) : List (Nat × Frame) :=
  recordsFrom ring ring.queuedFrames ring.headOffset

def lastReservation (es : List Event) : Option (Nat × Frame) :=
  (es.filterMap Event.reservation).getLast?

def published (es : List Event) : List (Nat × Frame) :=
  es.filterMap fun e => e.action.bind Fifo.Action.pushed

def retired (es : List Event) : List (Nat × Frame) :=
  es.filterMap fun e => e.action.bind Fifo.Action.popped

/-- The frame a reservation of this history is for. -/
def GivenBy (es : List Event) (reservationId : Nat) (frame : Frame) : Prop :=
  lastReservation es = some (reservationId, frame)

lemma lastReservation_of_none (none : e.reservation = none) :
    lastReservation (es ++ [e]) = lastReservation es := by
  have nothing : [e].filterMap Event.reservation = [] := by simp [none]
  unfold lastReservation
  rw [filterMap_append, nothing, append_nil]

lemma lastReservation_of_some (some_eq : e.reservation = some reservation) :
    lastReservation (es ++ [e]) = some reservation := by
  have one : [e].filterMap Event.reservation = [reservation] := by simp [some_eq]
  unfold lastReservation
  rw [filterMap_append, one]
  exact getLast?_concat ..

lemma Step.refines_history (rep : Rep (GivenBy es) t queue) (st : Step t e u) :
    e.status ≠ .corruptState ∧ e.Sound (GivenBy (es ++ [e])) queue t.ring.receiveCopyId ∧
      e.Matched (GivenBy (es ++ [e])) queue u := by
  refine st.refines rep (fun none => ?_) fun some_eq => lastReservation_of_some some_eq
  funext reservationId frame
  unfold GivenBy
  rw [lastReservation_of_none none]

lemma published_eq (es) : published es = (es.filterMap Event.action).filterMap Fifo.Action.pushed :=
  filterMap_filterMap.symm

lemma retired_eq (es) : retired es = (es.filterMap Event.action).filterMap Fifo.Action.popped :=
  filterMap_filterMap.symm

section

variable (initialized : (messageRingInitialize .zero storage storageBytes firstSequence).1 = .ok)
  (bytes : storageBytes ≤ max32) (sequences : firstSequence ≤ max64)

include initialized bytes sequences

lemma Rep.init {given} :
    Rep given (State.init storage storageBytes firstSequence) (Fifo.Queue.init firstSequence) := by
  unfold State.init
  unfold messageRingInitialize at initialized ⊢
  split at initialized
  · cases initialized
  rename_i accepted
  obtain ⟨nonzero, large⟩ := not_or.mp accepted
  rw [if_neg accepted]
  have pos : 0 < storageBytes := Nat.lt_of_lt_of_le (by decide) (Nat.le_of_not_lt large)
  refine ⟨⟨rfl, ?_, .inl ⟨rfl, rfl, rfl, rfl, rfl⟩, .inl ⟨rfl, rfl, rfl, rfl, rfl⟩, ?_, ?_⟩, ?_,
    rfl⟩
  · exact ⟨Nat.le_of_not_lt large, bytes, pos, (Nat.zero_mod _).symm, rfl, Nat.zero_le _, rfl,
      nofun, holds_nil⟩
  · exact ⟨Nat.one_ne_zero, Nat.one_ne_zero, Nat.zero_le _, Nat.one_ne_zero, Nat.zero_le _⟩
  · exact .inl ⟨rfl, rfl, Nat.pos_of_ne_zero nonzero, sequences⟩
  · exact nofun

lemma Run.refines (run : Run (State.init storage storageBytes firstSequence) es s) :
    ∃ queue, Rep (GivenBy es) s queue ∧
      Lts.Run (Fifo.Step max64) (Fifo.Queue.init firstSequence) (es.filterMap Event.action)
        queue := by
  refine run.simulates (R := fun es s queue => Rep (GivenBy es) s queue)
    (Rep.init initialized bytes sequences) (fun rep st hidden => ?_) fun rep st visible => ?_
  · obtain ⟨_, _, matched⟩ := st.refines_history rep
    unfold Event.Matched at matched
    rw [hidden] at matched
    exact matched
  · obtain ⟨_, _, matched⟩ := st.refines_history rep
    unfold Event.Matched at matched
    rw [visible] at matched
    obtain ⟨queue', st', rep'⟩ := matched
    exact ⟨queue', rep', st'⟩

lemma Run.event_sound {before e after}
    (run : Run (State.init storage storageBytes firstSequence) (before ++ e :: after) s) :
    e.status ≠ .corruptState ∧
      ∃ t queue, Run (State.init storage storageBytes firstSequence) before t ∧
      (∃ u, Step t e u) ∧ e.Sound (GivenBy (before ++ [e])) queue t.ring.receiveCopyId ∧
      Lts.Run (Fifo.Step max64) (Fifo.Queue.init firstSequence) (before.filterMap Event.action)
        queue := by
  obtain ⟨t, u, run1, st, _⟩ := Lts.Run.split_at run
  obtain ⟨queue, rep, matched⟩ := Run.refines initialized bytes sequences run1
  obtain ⟨sound, saw, _⟩ := st.refines_history rep
  exact ⟨sound, t, queue, run1, ⟨u, st⟩, saw, matched⟩

lemma Run.published_numbers (run : Run (State.init storage storageBytes firstSequence) es s) :
    (published es).map Prod.fst = range' firstSequence (published es).length ∧
      firstSequence + (published es).length ≤ max64 + 1 := by
  obtain ⟨queue, _, matched⟩ := Run.refines initialized bytes sequences run
  rw [published_eq]
  obtain ⟨numbers, next⟩ := Fifo.Run.numbers sequences matched
  refine ⟨numbers, ?_⟩
  cases left : queue.next with
  | none => exact Nat.le_of_eq ((next 0).2 left)
  | some number =>
    obtain ⟨eq, le⟩ := (next number).1 left
    omega

end

lemma mem_published_of_items {actions} {queue : Fifo.Queue Frame}
    (matched : Lts.Run (Fifo.Step max64) (Fifo.Queue.init firstSequence) actions queue)
    (mem : record ∈ queue.items)
    : record ∈ actions.filterMap Fifo.Action.pushed := by
  rw [Fifo.Run.pushed_eq matched]
  exact mem_append_right _ mem

lemma copy_run (stores) :
    Run ⟨ring, .preparing reservationId frame stores ::ₘ inflight⟩
      (stores.map fun store => .write store.1 store.2)
      ⟨{ ring with storage := blit ring.storage stores },
        .preparing reservationId frame [] ::ₘ inflight⟩ := by
  induction stores generalizing ring with
  | nil => exact .nil
  | cons store stores ih => exact (Lts.Run.single .write).append ih

/-- A request without payload. -/
def sampleFrame : Frame :=
  [0x44, 0x49, 0x50, 0x43, 32, 0, 0, 0, 1, 0, 32, 0, 1, 0, 0, 0, 1, 0, 0, 0, 1, 0, 0, 0, 1, 0, 0, 0,
    0, 0, 0, 0]

/-- Prepare the frame in the smallest ring. -/
def sampleEvents : List Event :=
  .reserve sampleFrame (.ok 1) ::
    (copyWrites 48 16 sampleFrame).map (fun store => .write store.1 store.2) ++ [.finish 1 .ok]

/-- A ring of `bytes` bytes as the calls of the sample leave it, one after another. -/
def reservedRing (bytes : Nat) : MessageRing :=
  (messageRingPrepareReserve (State.init (fun _ => 0) bytes 1).ring sampleFrame.length).2

def writtenRing (bytes : Nat) : MessageRing :=
  { reservedRing bytes with
    storage := blit (reservedRing bytes).storage (copyWrites bytes 16 sampleFrame) }

def finishedRing (bytes : Nat) : MessageRing := (messageRingPrepareFinish (writtenRing bytes) 1).2

def publishedRing (bytes : Nat) :
    MessageRing := (messageRingPublishEnqueue (finishedRing bytes) 1).2

def peekedRing (bytes : Nat) : MessageRing := (messageRingPeek (publishedRing bytes)).2

def copyingRing (bytes : Nat) : MessageRing := (messageRingBeginCopyOut (peekedRing bytes) 1 1).2

def copiedRing (bytes : Nat) :
    MessageRing := (messageRingEndCopyOut (copyingRing bytes) 1 1 1 true).2

lemma sampleFrame_sends : ∀ bytes ∈ [48, 4096],
    (messageRingPrepareReserve (State.init (fun _ => 0) bytes 1).ring sampleFrame.length).1 =
    .ok (1, 16) ∧
    (messageRingPrepareFinish (writtenRing bytes) 1).1 = .ok ∧
    (messageRingPublishEnqueue (finishedRing bytes) 1).1 = .ok 1 ∧ stagedBytes
    (finishedRing bytes) = sampleFrame := by
  decide +kernel

lemma sampleFrame_receives :
    ∀ bytes ∈ [48, 4096], (messageRingPeek (publishedRing bytes)).1 = .ok ⟨1, 1, 32⟩ ∧
    (messageRingBeginCopyOut (peekedRing bytes) 1 1).1 = .ok ⟨16, 32, none, 0, 1⟩ ∧
    (messageRingEndCopyOut (copyingRing bytes) 1 1 1 true).1 = .ok ∧
    (messageRingCommit (copiedRing bytes) 1 1).1 = .ok := by
  decide +kernel

lemma sampleFrame_run : Run (State.init (fun _ => 0) 48 1)
    (sampleEvents ++ [.publish 1 (.ok 1) sampleFrame]) ⟨publishedRing 48, 0⟩ := by
  obtain ⟨reserves, finishes, publishes, staged⟩ := sampleFrame_sends 48 (by decide)
  have copied := (Lts.Run.single (@Step.reserve _ (reservedRing 48) 0 sampleFrame none 0 _ _ rfl
    (Prod.ext reserves rfl))).append (copy_run _)
  have prepared := copied.snoc (@Step.finish _ 1 _ (finishedRing 48) _ _ (Prod.ext finishes rfl))
  exact prepared.snoc (staged ▸ .publish (Prod.ext publishes rfl))

end DuetOS.Ring
