import DuetOS.Lib.Exclusive
import DuetOS.Port.KMessagePort
import DuetOS.Ring.Order
import DuetOS.Ring.Ownership

/-!
# Who holds what of a port

The mutex, the reservation and the receive lease each have exactly one holder among the calls in
progress, or none (`Ok`). Every branch of `Send` and `TryReceive` gives back what it holds, so this
is an invariant (`Step.ok`).
-/

namespace DuetOS.Port

open Message DuetOS.Ring Exclusive Multiset

def Call.mutex : Call → Option Unit
  | .publish _ | .abort _ | .unpublished _ | .peek _ | .beginCopyOut _ | .endCopyOut _ _ _
  | .endClosed _ _ | .commit _ _ | .cancel _ _ => some ()
  | _ => none

/-- The reservation a call holds, and whether its copy is under way. -/
def Call.reservation : Call → Option (Nat × Nat)
  | .preparing reservationId _ => some (reservationId, 1)
  | .prepared result | .publish result | .abort result => some (result.reservationId, 0)
  | _ => none

/-- The lease a call holds, and its copy attempt under way. -/
def Call.lease : Call → Option (Nat × Nat × Nat)
  | .beginCopyOut view | .commit view _ | .cancel view _ =>
    some (view.sequence, view.receiveLeaseId, 0)
  | .copying view spans _ | .endCopyOut view spans _ | .endClosed view spans =>
    some (view.sequence, view.receiveLeaseId, spans.copyId)
  | _ => none

/-- What a call relies on: under the mutex the port stays open once it was found open. -/
def Call.Known (closed : Bool) (ring : MessageRing) : Call → Prop
  | .publish _ | .peek _ | .beginCopyOut _ | .commit _ _ => closed = false
  | .endCopyOut _ spans _ => closed = false ∧ spans.copyId ≠ 0
  | .copying _ spans _ | .endClosed _ spans => spans.copyId ≠ 0
  | .unpublished _ => ring.Spent
  | .cancel _ result => result.status ≠ .ok
  | _ => True

def mutexSlot (locked : Bool) : Option Unit :=
  if locked then some () else none

structure Ok (s : State) : Prop where
  rep : ∃ queue, Rep (fun _ _ => True) s.ring queue
  mutex : Owned Call.mutex s.calls (mutexSlot s.locked)
  reservation : Owned Call.reservation s.calls s.ring.ring.reservation
  lease : Owned Call.lease s.calls s.ring.ring.lease
  known : ∀ call ∈ s.calls, call.Known s.closed s.ring.ring

variable {closed closed' locked locked' : Bool} {ring ring' : Ring.State} {calls : Multiset Call}
  {call : Call}

lemma Call.Known.of_unlocked (known : call.Known closed messageRing)
    (unlocked : call.mutex = none) :
    call.Known closed' messageRing' := by
  cases call <;> first | exact known | cases unlocked

lemma Call.Known.of_spent (known : call.Known closed messageRing)
    (spent : messageRing.Spent → messageRing'.Spent) :
    call.Known closed messageRing' := by
  cases call <;> first | exact known | exact spent known

section Pending

variable (ok : Ok ⟨closed, locked, ring, call ::ₘ calls⟩)

include ok

/-- A call goes on as `next`. Either it has the mutex, so that nobody else is under it, or it leaves
a spent ring spent. -/
lemma Ok.moves (next : Option Call) (rep : ∃ queue, Rep (fun _ _ => True) ring' queue)
    (mutex : Moves Call.mutex call next (mutexSlot locked) (mutexSlot locked'))
    (reservation : Moves Call.reservation call next ring.ring.reservation ring'.ring.reservation)
    (lease : Moves Call.lease call next ring.ring.lease ring'.ring.lease)
    (known : ∀ call' ∈ next, call'.Known closed ring'.ring)
    (others : call.mutex = some () ∨ (ring.ring.Spent → ring'.ring.Spent)) :
    Ok ⟨closed, locked', ring', next.elim calls (· ::ₘ calls)⟩ where
  rep
  mutex := ok.mutex.moves mutex
  reservation := ok.reservation.moves reservation
  lease := ok.lease.moves lease
  known := by
    have rest : ∀ other ∈ calls, other.Known closed ring'.ring := by
      intro other mem
      have old := ok.known other (mem_cons_of_mem mem)
      rcases others with holds | spent
      · obtain ⟨_, nobody⟩ := (owned_cons_some holds).mp ok.mutex
        exact old.of_unlocked (nobody.held_eq_none mem)
      · exact old.of_spent spent
    cases next with
    | none => exact rest
    | some call' => exact forall_mem_cons.mpr ⟨known call' rfl, rest⟩

lemma Ok.goes (rep : ∃ queue, Rep (fun _ _ => True) ring' queue)
    (mutex : Moves Call.mutex call (some call') (mutexSlot locked) (mutexSlot locked'))
    (reservation : Moves Call.reservation call (some call') ring.ring.reservation
      ring'.ring.reservation)
        (lease : Moves Call.lease call (some call') ring.ring.lease ring'.ring.lease)
    (known : call'.Known closed ring'.ring)
    (others : call.mutex = some () ∨ (ring.ring.Spent → ring'.ring.Spent)) :
    Ok ⟨closed, locked', ring', call' ::ₘ calls⟩ :=
  ok.moves (some call') rep mutex reservation lease (fun _ eq => Option.some.inj eq ▸ known) others

lemma Ok.returns (rep : ∃ queue, Rep (fun _ _ => True) ring' queue)
    (mutex : Moves Call.mutex call none (mutexSlot locked) (mutexSlot locked'))
    (reservation : Moves Call.reservation call none ring.ring.reservation ring'.ring.reservation)
    (lease : Moves Call.lease call none ring.ring.lease ring'.ring.lease)
    (others : call.mutex = some () ∨ (ring.ring.Spent → ring'.ring.Spent)) :
    Ok ⟨closed, locked', ring', calls⟩ :=
  ok.moves none rep mutex reservation lease nofun others

lemma Ok.reserves {reservationId active} (holds : call.reservation = some (reservationId, active)) :
    ring.ring.reservation = some (reservationId, active) :=
  ((owned_cons_some holds).mp ok.reservation).1

lemma Ok.leases {sequence lease copyId} (holds : call.lease = some (sequence, lease, copyId)) :
    ring.ring.lease = some (sequence, lease, copyId) :=
  ((owned_cons_some holds).mp ok.lease).1

end Pending

lemma Ok.close (ok : Ok ⟨closed, false, ring, calls⟩) : Ok ⟨true, false, ring, calls⟩ :=
  { ok with known call mem := (ok.known call mem).of_unlocked (ok.mutex.held_eq_none mem) }

lemma Ok.begin (ok : Ok ⟨closed, false, ring, calls⟩) (reserves : call.reservation = none)
    (leases : call.lease = none) (known : call.Known closed ring.ring) :
    Ok ⟨closed, call.mutex.isSome, ring, call ::ₘ calls⟩ where
  rep := ok.rep
  mutex := by
    cases eq : call.mutex with
    | none => exact (owned_cons_none eq).mpr ok.mutex
    | some => exact (owned_cons_some eq).mpr ⟨rfl, ok.mutex⟩
  reservation := (owned_cons_none reserves).mpr ok.reservation
  lease := (owned_cons_none leases).mpr ok.lease
  known := forall_mem_cons.mpr ⟨known, ok.known⟩

lemma Step.ok {s e s'} (ok : Ok s) (st : Step s e s') : Ok s' := by
  obtain ⟨queue, rep⟩ := ok.rep
  cases st with
  | sendOpen => exact @Ok.begin _ _ _ (.prepare _) ok rfl rfl trivial
  | prepareRefused st =>
    cases st
    exact ok.returns ok.rep (.keep rfl rfl) (.keep rfl rfl) (.keep rfl rfl) (.inr id)
  | reserveRefused st =>
    cases st.of_reserveRefused rep
    exact ok.returns ok.rep (.keep rfl rfl) (.keep rfl rfl) (.keep rfl rfl) (.inr id)
  | reserve st =>
    obtain ⟨free, unspent, reserved, lease⟩ := st.of_reserve rep
    exact ok.goes (st.rep rep) (.keep rfl rfl) (.take free reserved) (.keep rfl lease) trivial
      (.inr fun spent => absurd spent unspent)
  | write st =>
    obtain ⟨reservation, lease, spent⟩ := st.of_write
    exact ok.goes (st.rep rep) (.keep rfl rfl) (.keep rfl reservation) (.keep rfl lease) trivial
      (.inr spent)
  | finish st =>
    obtain ⟨lease, unspent, ⟨_, reservation⟩ | ⟨refused, _⟩⟩ := st.of_finish rep
    · exact ok.goes (st.rep rep) (.keep rfl rfl) (.change rfl reservation) (.keep rfl lease) trivial
        (.inr fun spent => absurd spent unspent)
    · exact absurd rfl refused
  | finishRefused st refused =>
    obtain ⟨lease, unspent, ⟨done, _⟩ | ⟨_, reservation⟩⟩ := st.of_finish rep
    · exact absurd done refused
    · exact ok.returns (st.rep rep) (.keep rfl rfl) (.change rfl reservation) (.keep rfl lease)
        (.inr fun spent => absurd spent unspent)
  | preparedClosed =>
    exact ok.goes ok.rep (.take rfl rfl) (.keep rfl rfl) (.keep rfl rfl) trivial (.inr id)
  | abort st =>
    obtain ⟨reservation, lease⟩ := st.of_abort rep (ok.reserves rfl)
    exact ok.returns (st.rep rep) (.change rfl rfl) (.change rfl reservation) (.keep rfl lease)
      (.inl rfl)
  | preparedOpen =>
    exact ok.goes ok.rep (.take rfl rfl) (.keep rfl rfl) (.keep rfl rfl) rfl (.inr id)
  | publishRefused st =>
    obtain ⟨reservation, lease, spent⟩ := st.of_publish rep (ok.reserves rfl)
    exact ok.goes (st.rep rep) (.keep rfl rfl) (.change rfl reservation) (.keep rfl lease)
      (spent _ rfl) (.inl rfl)
  | unpublished st =>
    cases st.of_abort_spent rep (ok.known _ (mem_cons_self ..))
    exact ok.returns ok.rep (.change rfl rfl) (.keep rfl rfl) (.keep rfl rfl) (.inl rfl)
  | publish st =>
    obtain ⟨reservation, lease, _⟩ := st.of_publish rep (ok.reserves rfl)
    exact ok.returns (st.rep rep) (.change rfl rfl) (.change rfl reservation) (.keep rfl lease)
      (.inl rfl)
  | receiveOpen => exact @Ok.begin _ _ _ (.peek _) ok rfl rfl rfl
  | peekRefused st =>
    cases st.of_peekRefused rep
    exact ok.returns ok.rep (.change rfl rfl) (.keep rfl rfl) (.keep rfl rfl) (.inl rfl)
  | peekSmall st =>
    obtain ⟨free, leased, reservation⟩ := st.of_peek rep
    exact ok.goes (st.rep rep) (.keep rfl rfl) (.keep rfl reservation) (.take free leased) nofun
      (.inl rfl)
  | peek st =>
    obtain ⟨free, leased, reservation⟩ := st.of_peek rep
    exact ok.goes (st.rep rep) (.keep rfl rfl) (.keep rfl reservation) (.take free leased)
      (ok.known _ (mem_cons_self ..)) (.inl rfl)
  | beginRefused st =>
    cases st.of_beginRefused rep
    exact ok.goes ok.rep (.keep rfl rfl) (.keep rfl rfl) (.keep rfl rfl) nofun (.inl rfl)
  | beginCopyOut st =>
    obtain ⟨leased, attempt, reservation⟩ := st.of_begin rep (ok.leases rfl)
    exact ok.goes (st.rep rep) (.change rfl rfl) (.keep rfl reservation) (.change rfl leased)
      attempt (.inl rfl)
  | read st =>
    have same := st.of_read
    exact ok.goes (st.rep rep) (.keep rfl rfl) (.keep rfl (by rw [same])) (.keep rfl (by rw [same]))
      (ok.known (.copying ..) (mem_cons_self ..)) (.inr fun spent => same ▸ spent)
  | copiedClosed =>
    exact ok.goes ok.rep (.take rfl rfl) (.keep rfl rfl) (.keep rfl rfl)
      (ok.known (.copying ..) (mem_cons_self ..)) (.inr id)
  | endClosed st =>
    have attempt := ok.known _ (mem_cons_self ..)
    obtain ⟨_, leased, reservation⟩ := st.of_end rep (ok.leases rfl) attempt
    exact ok.goes (st.rep rep) (.keep rfl rfl) (.keep rfl reservation) (.change rfl leased) nofun
      (.inl rfl)
  | copiedOpen =>
    exact ok.goes ok.rep (.take rfl rfl) (.keep rfl rfl) (.keep rfl rfl)
      ⟨rfl, ok.known _ (mem_cons_self ..)⟩ (.inr id)
  | endRefused st refused =>
    have attempt := ok.known _ (mem_cons_self ..)
    exact absurd (st.of_end rep (ok.leases rfl) attempt.2).1 refused
  | endCopyOut st =>
    have attempt := ok.known _ (mem_cons_self ..)
    obtain ⟨_, leased, reservation⟩ := st.of_end rep (ok.leases rfl) attempt.2
    exact ok.goes (st.rep rep) (.keep rfl rfl) (.keep rfl reservation) (.change rfl leased)
      attempt.1 (.inl rfl)
  | commitRefused st refused =>
    rcases st.of_commit rep (ok.leases rfl) with ⟨done, _⟩ | ⟨_, rfl⟩
    · exact absurd done refused
    · exact ok.goes ok.rep (.keep rfl rfl) (.keep rfl rfl) (.keep rfl rfl) nofun (.inl rfl)
  | commit st =>
    rcases st.of_commit rep (ok.leases rfl) with ⟨_, lease, reservation⟩ | ⟨refused, _⟩
    · exact ok.returns (st.rep rep) (.change rfl rfl) (.keep rfl reservation) (.change rfl lease)
        (.inl rfl)
    · exact absurd rfl refused
  | cancel st =>
    obtain ⟨lease, reservation⟩ := st.of_cancel rep (ok.leases rfl)
    exact ok.returns (st.rep rep) (.change rfl rfl) (.keep rfl reservation) (.change rfl lease)
      (.inl rfl)
  | close => exact ok.close
  | _ => exact ok

end DuetOS.Port
