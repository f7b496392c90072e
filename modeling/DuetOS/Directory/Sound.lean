import DuetOS.Directory.Canonical
import DuetOS.Directory.System

/-!
# A row and the calls that work on it

`RowSound row calls` relates a registered row to the calls between two of their sections on it: the
publishers it counts, the close it has a batch out for, and the releases and claims of its trackers.
`Next row row' calls`: a section left such a row behind, or recycled it.
-/

namespace DuetOS.Directory

open Word DuetOS.Lifecycle Multiset Bag ServiceDirectoryRow

namespace Call

/-- The registration the call works on between its sections. -/
def service : Call → Option ServiceKey
  | .queued service _ => some service
  | .claimed key .. | .releasing key .. | .released key .. => some key.service
  | .closing progress => some progress.service
  | _ => none

def publishes : Call → Bool
  | .queued .. | .claimed .. => true
  | _ => false

def closes : Call → Bool
  | .closing _ => true
  | _ => false

def drives : Call → Option (ServiceDirectoryAcceptedChannelKey × ServiceEndpointOwnerReceipt)
  | .releasing key receipt _ | .released key receipt _ _ => some (key, receipt)
  | _ => none

def claims : Call → Option ServiceDirectoryAcceptedChannelKey
  | .claimed key _ _ => some key
  | _ => none

end Call

/-- A claim `key` of `process` on a tracker: the tracker was not reused for an older key, and while
it carries the key it is being published to the process. -/
def ClaimAt (accepted : ServiceDirectoryAcceptedChannel) (key : ServiceDirectoryAcceptedChannelKey)
    (process : ProcessKey) : Prop :=
  key.generation ≤ accepted.key.generation ∧ (accepted.occupied → accepted.key = key →
    accepted.state = .publishing ∧ accepted.serverProcess = process)

/-- The claim holds of the tracker that the key names. -/
def ClaimSound (channels : Fin kServiceDirectoryAcceptedCapacity → ServiceDirectoryAcceptedChannel)
    (key : ServiceDirectoryAcceptedChannelKey) (process : ProcessKey) : Prop :=
  ∃ index, key.slot = index.val ∧ ClaimAt (channels index) key process

structure TrackersSound
    (channels : Fin kServiceDirectoryAcceptedCapacity → ServiceDirectoryAcceptedChannel)
    (calls : Multiset Call) : Prop where
  generation : ∀ index, (channels index).key.generation ≤ max32
  drivers : Slots.gather ServiceDirectoryAcceptedChannel.driven channels =
    calls.filterMap Call.drives
  claims : (calls.filterMap Call.claims).Nodup
  claimed : ∀ {key process acceptor}, .claimed key process acceptor ∈ calls →
    ClaimSound channels key process

structure CloserSound (row : ServiceDirectoryRow) (calls : Multiset Call) : Prop where
  count : row.closeDriverActive = tally Call.closes calls
  closer : ∀ {progress}, .closing progress ∈ calls →
    progress.owner = row.owner ∧ row.state = .closing ∧ row.closeBatchOutstanding = progress.count

structure RowSound (row : ServiceDirectoryRow) (calls : Multiset Call) : Prop where
  canonical : RowCanonical row
  registered : ∀ call ∈ calls, call.service = some row.key
  pins : ∀ index, (row.operationSlots index).generation ≤ max32
  publishers : row.externalPublishers = tally Call.publishes calls
  closers : CloserSound row calls
  trackers : TrackersSound row.acceptedChannels calls

/-- A section left the registration of `row` in `row'`, or recycled it when nobody works on it. -/
inductive Next (row row' : ServiceDirectoryRow) (calls : Multiset Call) : Prop where
  | kept : RowSound row' calls → row'.key = row.key → row'.name = row.name →
    row'.owner = row.owner →
    Next row row' calls
  | recycled : row'.occupied = false → rowIsCanonical row' → calls = 0 → Next row row' calls

section

variable (canonical : RowCanonical row)

include canonical

lemma RowCanonical.occupied : row.occupied := by
  rcases canonical.state with ⟨state, _⟩ | ⟨state, _⟩ | ⟨state, _⟩ <;>
    rw [ServiceDirectoryRow.occupied, state] <;> rfl

lemma RowCanonical.activeRow (active : row.state = .active) : ActiveRow row := by
  rcases canonical.state with ⟨state, _⟩ | ⟨_, facts⟩ | ⟨state, _⟩
  · rw [active] at state
    cases state
  · exact facts
  · rw [active] at state
    cases state

lemma RowCanonical.reservedRow (reserved : row.state = .reserved) : ReservedRow row := by
  rcases canonical.state with ⟨_, facts⟩ | ⟨state, _⟩ | ⟨state, _⟩
  · exact facts
  · rw [reserved] at state
    cases state
  · rw [reserved] at state
    cases state

lemma RowCanonical.closingRow (closing : row.state = .closing) : ClosingRow row := by
  rcases canonical.state with ⟨state, _⟩ | ⟨state, _⟩ | ⟨_, facts⟩
  · rw [closing] at state
    cases state
  · rw [closing] at state
    cases state
  · exact facts

end

/-- A call that neither releases nor claims is none of the trackers' business. -/
lemma trackersSound_cons (drives : call.drives = none) (claims : call.claims = none) :
    TrackersSound channels (call ::ₘ calls) ↔ TrackersSound channels calls := by
  have other : ∀ {key process acceptor}, .claimed key process acceptor ∈ call ::ₘ calls ↔
      .claimed key process acceptor ∈ calls := by
    intro key process acceptor
    rw [mem_cons]
    refine or_iff_right fun eq => ?_
    rw [← eq] at claims
    cases claims
  constructor
  · rintro ⟨generation, drivers, nodup, claimed⟩
    rw [filterMap_cons_none _ _ drives] at drivers
    rw [filterMap_cons_none _ _ claims] at nodup
    exact ⟨generation, drivers, nodup, fun mem => claimed (other.mpr mem)⟩
  · rintro ⟨generation, drivers, nodup, claimed⟩
    rw [← filterMap_cons_none _ _ drives] at drivers
    rw [← filterMap_cons_none _ _ claims] at nodup
    exact ⟨generation, drivers, nodup, fun mem => claimed (other.mp mem)⟩

lemma closerSound_cons (closes : call.closes = false) :
    CloserSound row (call ::ₘ calls) ↔ CloserSound row calls := by
  have other : ∀ {progress}, .closing progress ∈ call ::ₘ calls ↔ .closing progress ∈ calls := by
    intro progress
    rw [mem_cons]
    refine or_iff_right fun eq => ?_
    rw [← eq] at closes
    cases closes
  have same : tally Call.closes (call ::ₘ calls) = tally Call.closes calls := by
    simp [closes]
  constructor
  · rintro ⟨count, closer⟩
    exact ⟨count.trans same, fun mem => closer (other.mpr mem)⟩
  · rintro ⟨count, closer⟩
    exact ⟨count.trans same.symm, fun mem => closer (other.mp mem)⟩

lemma TrackersSound.of_cons (sound : TrackersSound channels (call ::ₘ calls))
    (drives : call.drives = none) : TrackersSound channels calls where
  generation := sound.generation
  drivers := by rw [sound.drivers, filterMap_cons_none _ _ drives]
  claims := nodup_of_le (filterMap_le_filterMap _ (le_cons_self ..)) sound.claims
  claimed := fun mem => sound.claimed (mem_cons_of_mem mem)

lemma zero_rowIsCanonical (terminal : Prop) [Decidable terminal] :
    rowIsCanonical (.zero (if terminal then .retired else .empty)) := by
  split
  · rfl
  · rfl

lemma zero_not_occupied (terminal : Prop) [Decidable terminal] :
    (zero (if terminal then .retired else .empty)).occupied = false := by
  split
  · rfl
  · rfl

lemma zero_held (state) : (zero state).held = 0 := by
  rfl

lemma zero_served (state) : (zero state).served = 0 :=
  Slots.gather_eq_zero fun _ => rfl

lemma AcceptedSound.idle (sound : AcceptedSound row) (none : row.acceptedCount = 0) (index)
    : (row.acceptedChannels index).occupied = false := by
  have empty := card_eq_zero.mp (sound.count.trans none)
  by_contra occupied
  have mem : (row.acceptedChannels index).owner ∈ row.acceptedReceipts :=
    Slots.mem_gather.mpr ⟨index, if_pos (Bool.not_eq_false _ ▸ occupied)⟩
  rw [empty] at mem
  cases mem

section

variable (sound : AcceptedSound row) (occupied : (row.acceptedChannels index).occupied)

include sound occupied

lemma AcceptedSound.positive : row.acceptedCount ≠ 0 :=
  fun none => Bool.false_ne_true ((sound.idle none index).symm.trans occupied)

lemma AcceptedSound.facts : OccupiedTracker row.key index (row.acceptedChannels index) :=
  (acceptedChannelIsCanonical_iff occupied).mp (sound.tracker index)

end

lemma RowSound.calls_eq_zero (sound : RowSound row calls) (publishers : row.externalPublishers = 0)
    (closer : row.closeDriverActive = 0) (idle : row.acceptedCount = 0) : calls = 0 := by
  rw [eq_zero_iff_forall_notMem]
  intro call mem
  have notPublisher : call.publishes = false := by
    by_contra publishes
    have pos := tally_pos mem (Bool.not_eq_false _ ▸ publishes)
    rw [← sound.publishers, publishers] at pos
    exact Nat.lt_irrefl _ pos
  have notCloser : call.closes = false := by
    by_contra closes
    have pos := tally_pos mem (Bool.not_eq_false _ ▸ closes)
    rw [← sound.closers.count, closer] at pos
    exact Nat.lt_irrefl _ pos
  have notDriver : call.drives = none := by
    by_contra drives
    obtain ⟨driven, eq⟩ := Option.ne_none_iff_exists'.mp drives
    have driving : driven ∈
      Slots.gather ServiceDirectoryAcceptedChannel.driven row.acceptedChannels := by
      rw [sound.trackers.drivers]
      exact (mem_filterMap _ _).mpr ⟨call, mem, eq⟩
    obtain ⟨index, some_eq⟩ := Slots.mem_gather.mp driving
    have free := idle_of_not_occupied (sound.canonical.accepted.idle idle index)
      (sound.canonical.accepted.tracker index)
    rw [free.2.1] at some_eq
    cases some_eq
  have works := sound.registered call mem
  cases call <;> simp_all [Call.service, Call.publishes, Call.closes, Call.drives]

lemma RowSound.recycle (sound : RowSound row calls) : Next row (tryRecycleLocked row).2 calls := by
  unfold tryRecycleLocked
  split
  · exact .kept sound rfl rfl rfl
  next unused =>
  simp only [not_or, not_not] at unused
  obtain ⟨_, _, _, _, idle, publishers, _, _, closer⟩ := unused
  exact .recycled (zero_not_occupied _) (zero_rowIsCanonical _)
    (sound.calls_eq_zero publishers closer idle)

lemma recycle_held (canonical : RowCanonical row) : (tryRecycleLocked row).2.held = row.held := by
  unfold tryRecycleLocked
  split
  · rfl
  next unused =>
  simp only [not_or, not_not] at unused
  obtain ⟨_, _, _, queue, idle, _, closing, _, _⟩ := unused
  have noQueue : row.queue = [] := List.length_eq_zero_iff.mp ((length_queue row).trans queue)
  have noAccepted := card_eq_zero.mp (canonical.accepted.count.trans idle)
  rw [zero_held, held, queueReceipts, noQueue, noAccepted, List.length_eq_zero_iff.mp closing]
  rfl

lemma recycle_served (row) : (tryRecycleLocked row).2.served ≤ row.served := by
  unfold tryRecycleLocked
  split
  · exact le_rfl
  · exact zero_le _

end DuetOS.Directory
