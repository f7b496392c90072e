import DuetOS.Ring.Refinement

/-!
# Histories of a ring

What a run of the ring says about its history: which frames were published and retired, which
reservation was the latest, and that a step never reports a corrupt ring. `Step.refines` is the
simulation step, `Run.refines` the simulation.
-/

namespace DuetOS.Ring

open Word Message Circular List

def Event.action : Event → Option (Fifo.Action Frame)
  | .publish _ (.ok sequence) frame => some (.push sequence frame)
  | .commit sequence _ .ok frame => some (.pop sequence frame)
  | _ => none

/-- The status a call returned at this step; steps of an unlocked copy return nothing. -/
def Event.status : Event → MessageRingStatus
  | .prepareRefused _ result => result.status
  | .reserve _ (.error status) => status
  | .finish _ status => status
  | .publish _ (.error status) _ => status
  | .abort _ status => status
  | .peek (.error status) => status
  | .beginCopyOut _ _ (.error status) => status
  | .endCopyOut _ _ _ _ status => status
  | .copyOutBegin _ _ (.error status) => status
  | .copyOut _ _ _ status _ => status
  | .commit _ _ status _ => status
  | .cancelReceive _ _ status => status
  | _ => .ok

/-- The reservation a step made, with the frame it is for. -/
def Event.reservation : Event → Option (Nat × Frame)
  | .reserve frame (.ok reservationId) => some (reservationId, frame)
  | _ => none

/-- What a step that copies or publishes saw is what it should have seen: `current` is the copy
attempt in progress. -/
def Event.Sound (given : Nat → Frame → Prop) (queue : Fifo.Queue Frame) (current : Nat) :
    Event → Prop
  | .publish reservationId (.ok _) frame => given reservationId frame
  | .read sequence copyId index byte => current = copyId →
    ∃ frame rest, queue.items = (sequence, frame) :: rest ∧ frame[index]? = some byte
  | .copyOut sequence _ _ .ok copied => ∃ rest, queue.items = (sequence, copied) :: rest
  | _ => True

/-- A step without an effect on the queue, or the action of its event. -/
def Event.Matched (given : Nat → Frame → Prop) (queue : Fifo.Queue Frame) (e : Event)
    (s' : State) : Prop :=
  match e.action with
  | none => Rep given s' queue
  | some action => ∃ queue', Fifo.Step max64 queue action queue' ∧ Rep given s' queue'

lemma prepareCheck_sound {count}
    (refused : messageRingPrepareCheck ring frame rules count = .error result) :
    result.status ≠ .corruptState := by
  unfold messageRingPrepareCheck at refused
  split at refused
  · cases refused
    nofun
  split at refused
  · cases refused
    nofun
  split at refused
  · cases refused
    nofun
  split at refused
  · cases refused
    nofun
  split at refused
  · split at refused <;> cases refused
    nofun
  split at refused
  · cases refused
    nofun
  split at refused
  · cases refused
  · cases refused
    nofun

lemma Rep.read {sequence} {index cell : Nat} (rep : Rep given ⟨ring, inflight⟩ queue)
    (known : ring.CopyKnown queue.items sequence lease spans copied)
    (current : ring.receiveCopyId = spans.copyId) (at_index : spans.cells[index]? = some cell) :
    ∃ frame rest, queue.items = (sequence, frame) :: rest ∧ copied <+: frame ∧
      frame[index]? = some (ring.storage cell) := by
  obtain ⟨frame, rest, items, _, _, cells, copied_eq⟩ := known.2.2 current
  have stored : ring.Stores ((sequence, frame) :: rest) := items ▸ rep.ok.stores
  refine ⟨frame, rest, items, copied_eq, ?_⟩
  rw [cells, frameCells, getElem?_map] at at_index
  obtain ⟨i, at_i, rfl⟩ := Option.map_eq_some_iff.mp at_index
  obtain ⟨lt, rfl⟩ := List.getElem?_eq_some_iff.mp at_i
  rw [length_range] at lt
  rw [getElem_range, stored.front.2.1 index lt]
  exact getElem?_eq_getElem lt

lemma prefix_snoc {copied frame : List UInt8} {byte : UInt8} (front : copied <+: frame)
    (next : frame[copied.length]? = some byte) : copied ++ [byte] <+: frame := by
  obtain ⟨rest, rfl⟩ := front
  rw [getElem?_append_right (Nat.le_refl _), Nat.sub_self] at next
  cases rest with
  | nil => cases next
  | cons value rest =>
    cases next
    exact ⟨rest, by rw [append_assoc]; rfl⟩

lemma CopyKnown.whole {items cap head nextCopy copyExhausted copyId receiveSequence receiveLease
    sequence lease spans copied}
    (known : CopyKnown items cap head nextCopy copyExhausted copyId receiveSequence receiveLease
      sequence lease spans copied) (current : copyId = spans.copyId)
    (all : copied.length = spans.cells.length) : ∃ rest, items = (sequence, copied) :: rest := by
  obtain ⟨frame, rest, items_eq, _, _, cells, front⟩ := known.2.2 current
  rw [cells, frameCells, length_map, length_range] at all
  exact ⟨rest, front.eq_of_length all ▸ items_eq⟩

/-- Every step keeps the ring and the calls in step with the queue. `given'` is `given`, except that
a step which makes a reservation may start afresh from its own frame. -/
lemma Step.refines {s e s'} (rep : Rep given s queue) (st : Step s e s')
    (keep : e.reservation = none → given' = given)
    (take : ∀ {reservationId frame}, e.reservation = some (reservationId, frame) →
      given' reservationId frame) :
    e.status ≠ .corruptState ∧ e.Sound given' queue s.ring.receiveCopyId ∧
      e.Matched given' queue s' := by
  cases st with
  | prepareRefused refused =>
    cases keep rfl
    exact ⟨prepareCheck_sound refused, trivial, rep⟩
  | reserveRefused check eq =>
    cases keep rfl
    obtain ⟨rfl, sound⟩ := rep.ok.reserve_refused (frameOk_of_check check) eq
    exact ⟨sound, trivial, rep⟩
  | reserve check eq =>
    obtain ⟨free, _⟩ := rep.ok.reserve_granted (frameOk_of_check check) eq
    exact ⟨nofun, trivial, (rep.regive free).reserve check eq (take rfl)⟩
  | write =>
    cases keep rfl
    exact ⟨nofun, trivial, rep.write⟩
  | finish eq =>
    cases keep rfl
    obtain ⟨sound, next⟩ := rep.finish eq
    exact ⟨sound, trivial, next⟩
  | publish eq =>
    cases keep rfl
    rcases rep.publish eq
      with ⟨status, rfl, sound, next⟩ | ⟨sequence, queue', rfl, source, pushed, next⟩
    · exact ⟨sound, trivial, next⟩
    · exact ⟨nofun, source, queue', pushed, next⟩
  | abort eq =>
    cases keep rfl
    obtain ⟨sound, next⟩ := rep.abort eq
    exact ⟨sound, trivial, next⟩
  | @peek _ _ _ result eq =>
    cases keep rfl
    obtain ⟨sound, next⟩ := rep.peek eq
    cases result with
    | error status => exact ⟨sound status rfl, trivial, next⟩
    | ok view => exact ⟨nofun, trivial, next⟩
  | beginRefused eq =>
    cases keep rfl
    obtain ⟨sound, rfl⟩ := rep.begin_refused eq
    exact ⟨sound, trivial, rep⟩
  | beginCopyOut eq =>
    cases keep rfl
    obtain ⟨_, next, known⟩ := rep.begin eq
    exact ⟨nofun, trivial, next.cons rfl known⟩
  | read at_index =>
    cases keep rfl
    refine ⟨nofun, fun current => ?_, rep⟩
    obtain ⟨frame, rest, items, _, byte⟩ :=
      (rep.drop rfl).read (rep.calls _ (Multiset.mem_cons_self ..)) current at_index
    exact ⟨frame, rest, items, byte⟩
  | endCopyOut eq =>
    cases keep rfl
    obtain ⟨sound, _, next⟩ := rep.end eq
    exact ⟨sound, trivial, next⟩
  | copyOutRefused eq =>
    cases keep rfl
    unfold messageRingCopyOutBegin at eq
    rw [if_neg (not_not.mpr rep.ok.ready)] at eq
    obtain ⟨sound, rfl⟩ := rep.begin_refused eq
    exact ⟨sound, trivial, rep⟩
  | copyOutBegin eq =>
    cases keep rfl
    unfold messageRingCopyOutBegin at eq
    rw [if_neg (not_not.mpr rep.ok.ready)] at eq
    obtain ⟨_, next, known⟩ := rep.begin eq
    exact ⟨nofun, trivial, next.cons rfl known⟩
  | copyOutSmall _ eq =>
    cases keep rfl
    exact ⟨nofun, trivial, ((rep.drop rfl).end eq).2.2⟩
  | copyOutByte _ at_index =>
    cases keep rfl
    have known := rep.calls _ (Multiset.mem_cons_self ..)
    refine ⟨nofun, fun current => ?_,
      (rep.drop rfl).cons rfl ⟨known.1, known.2.1, fun current => ?_⟩⟩
    · obtain ⟨frame, rest, items, _, byte⟩ := (rep.drop rfl).read known current at_index
      exact ⟨frame, rest, items, byte⟩
    · obtain ⟨frame, rest, items, sequence, lease, cells, front⟩ := known.2.2 current
      obtain ⟨frame', rest', items', _, byte⟩ := (rep.drop rfl).read known current at_index
      cases items.symm.trans items'
      exact ⟨frame, rest, items, sequence, lease, cells, prefix_snoc front byte⟩
  | @copyOutEnd ring ring' _ _ _ _ spans copied status _ all eq =>
    cases keep rfl
    obtain ⟨sound, current, next⟩ := (rep.drop rfl).end eq
    refine ⟨sound, ?_, next⟩
    by_cases done : status = .ok
    · cases done
      have known := rep.calls _ (Multiset.mem_cons_self ..)
      exact known.whole (current rfl) all
    · cases status with
      | ok => exact absurd rfl done
      | _ => trivial
  | @commit _ _ _ _ _ status eq =>
    cases keep rfl
    rcases rep.commit eq with ⟨refused, sound, next⟩ | ⟨rfl, queue', popped, next⟩
    · cases status with
      | ok => exact absurd rfl refused
      | _ => exact ⟨sound, trivial, next⟩
    · exact ⟨nofun, trivial, queue', popped, next⟩
  | cancelReceive eq =>
    cases keep rfl
    obtain ⟨sound, next⟩ := rep.cancel eq
    exact ⟨sound, trivial, next⟩

end DuetOS.Ring
