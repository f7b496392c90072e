import DuetOS.Tcp.Moves

/-!
# The sections of the stack as moves

Every section that neither takes nor publishes a slot is a sequence of moves. `Shape` sums up the
steps: seven kinds instead of one for each function. It needs that a slot reserved for a call has no
binding yet, so that neither `LookupExact` nor `RetireInterface` finds it.
-/

namespace DuetOS.Tcp

open Prod

def listening (t : Tcb) (snapshot : NetInterfaceSnapshot) (localIp : Ipv4Address)
    (localPort : UInt16)
    (backlog : Nat) : Tcb :=
  { resetTcbStorage t with
    state := .listen, generation := t.generation + 1, inUse := true, isListener := true,
    tuple := { binding := snapshot.binding, localIp, localPort }, localMac := snapshot.mac,
    backlogMax := backlog,
    refs := 1 }

/-- What a call knows of the table when it reserves its slot. -/
def Call.fresh (s : Table) : Call → Prop
  | .connecting call =>
    call.generation = (s.tcbs call.slot).generation + 1 ∧ lookupExact s call.tuple = none ∧
      netInterfaceBindingIsValid call.tuple.binding
  | .answering call =>
    lookupExact s call.tuple = none ∧ netInterfaceBindingIsValid call.tuple.binding ∧
      ∃ p, (s.tcbs p).inUse ∧ (s.tcbs p).isListener ∧
        netInterfaceBindingIsValid (s.tcbs p).tuple.binding ∧
          call.parent = makeId p (s.tcbs p).generation
  | .discarding _ => False

/-- The steps of the stack, with the quiet ones under one name. -/
inductive Shape : System → Event → System → Prop where
  | quiet {s e table returned} : e.takes = none → Quiets s.table table →
    Shape s e ⟨table, s.calls, returned⟩
  | listen {s i} snapshot localIp localPort backlog :
    (s.table.tcbs i).inUse = false → lookupListener s.table snapshot.binding localPort = none →
    netInterfaceBindingIsValid snapshot.binding → 0 < backlog → backlog ≤ kListenBacklogMax →
    Shape s (.listen (some i))
      { s with
        table := s.table.setTcb i (listening (s.table.tcbs i) snapshot localIp localPort backlog) }
  | reserve {s e cursor call} : e.takes = some call.slot → (s.table.tcbs call.slot).inUse = false →
    call.fresh { s.table with ephemeralCursor := cursor } →
    Shape s e ⟨reserveSlot { s.table with ephemeralCursor := cursor } call.slot, call ::ₘ s.calls,
      Function.update s.returned call.slot false⟩
  | connectPublish {s calls call} now : s.calls = .connecting call ::ₘ calls →
    Shape s (.connectPublish call.slot)
      ⟨connectPublish s.table now call, calls, s.handOut call.slot⟩
  | synPublish {s calls call p} now : s.calls = .answering call ::ₘ calls →
    synWelcome s.table call.parent = some p →
    Shape s (.synPublish call.slot) { s with table := synPublish s.table now call p, calls }
  | unreserve {s e calls call} : e.takes = none → s.calls = call ::ₘ calls →
    Shape s e { s with table := unreserveSlot s.table call.slot, calls }
  | discard {s e calls call} : e.takes = none → s.calls = .answering call ::ₘ calls →
    Shape s e { s with calls := .discarding call.slot ::ₘ calls }

variable {s s' : Table} {l : Fin kTcbCap}

lemma Quiets.settled (quiets : Quiets s s') (inUse : (s'.tcbs i).inUse)
    (settled : (s.tcbs i).settled) :
    (s'.tcbs i).settled := by
  rcases quiets.survived i with kept | ⟨_, dropped⟩
  · exact kept.settled settled
  · exact absurd inUse (by rw [dropped.inUse]; decide)

lemma Turns.settled (turns : Turns s s') (inUse : (s'.tcbs i).inUse)
    (settled : (s.tcbs i).settled) :
    (s'.tcbs i).settled :=
  turns.quiets.settled inUse settled

lemma turns_settle (settled : (s.tcbs i).settled)
    (evolves : Evolves (s.tcbs i).toConn outcome.conn) :
    Turns s (settle s i outcome) := by
  cases outcome with
  | alive t => exact .single (.conn i t settled evolves)
  | dropped t => exact .single (.drop i t settled)

lemma turns_foldl (next : ∀ s i, Turns s (f s i)) (slots : List (Fin kTcbCap)) :
    Turns s (slots.foldl f s) := by
  induction slots generalizing s with
  | nil => exact .refl
  | cons i slots ih => exact (next s i).trans ih

lemma turns_notifyParentAccept (settled : (s.tcbs i).settled)
    (connection : (s.tcbs i).isListener = false) :
    Turns s (notifyParentAccept now s i) := by
  unfold notifyParentAccept
  dsimp only
  split
  · exact .refl
  next child =>
  split
  · exact .refl
  next p decoded =>
  split
  · exact .refl
  next listener =>
  split
  · exact .single (.drop i _ settled)
  next room =>
    exact .single (.push i p settled connection child decoded (not_not.mp listener)
      (Nat.lt_of_not_le room))

lemma turns_deliver (settled : (s.tcbs i).settled) (connection : (s.tcbs i).isListener = false)
    (delivered : deliver now heap ipCe mac seg s i = some s') : Turns s s' := by
  have head := @deliverHead_evolves (s.tcbs i).toConn now heap mac seg
  unfold deliver at delivered
  split at delivered
  next out =>
    rw [out] at head
    exact Option.some.inj delivered ▸ .single (.conn i _ settled head)
  · exact Option.some.inj delivered ▸ .single (.drop i _ settled)
  next t out =>
    rw [out] at head
    dsimp only at delivered
    have first : Turns s (s.setConn i t) := .single (.conn i t settled head)
    have notified : Turns s (notifyParentAccept now (s.setConn i t) i) := by
      refine first.trans (turns_notifyParentAccept (setConn_settled settled) ?_)
      unfold Table.setConn
      rw [setTcb_self]
      exact connection
    split at delivered
    next inUse =>
      exact Option.some.inj delivered ▸
        notified.trans (turns_settle (notified.settled inUse settled)
          (deliverTail_evolves ipCe seg))
    · cases delivered
  next t out =>
    rw [out] at head
    exact Option.some.inj delivered ▸ turns_settle settled
      (head.trans (deliverTail_evolves ipCe seg))

lemma setTcb_setTcb : (s.setTcb l t).setTcb l t' = s.setTcb l t' :=
  congrArg (fun tcbs => { s with tcbs }) (Function.update_idem ..)

lemma setTcb_eq_self : s.setTcb l (s.tcbs l) = s :=
  congrArg (fun tcbs => { s with tcbs }) (Function.update_eq_self ..)

lemma quiets_acceptLoop {lp} (settled : lp.settled) (listener : lp.isListener)
    (taken : acceptLoop table entries lp = (child, lp')) :
    Quiets (s.setTcb l lp) (s.setTcb l lp') := by
  induction entries generalizing lp with
  | zero =>
    cases taken
    exact .refl
  | succ entries ih =>
    unfold acceptLoop at taken
    split at taken
    · cases taken
      exact .refl
    next some =>
    have pop : Quiet (s.setTcb l lp) (s.setTcb l lp.popped) := by
      have at_l : (s.setTcb l lp).tcbs l = lp := setTcb_self
      have pop := @Quiet.pop (s.setTcb l lp) l (at_l.symm ▸ settled) (at_l.symm ▸ listener)
        (at_l.symm ▸ some)
      rw [at_l, setTcb_setTcb] at pop
      exact pop
    dsimp only at taken
    split at taken
    · exact .head pop (ih settled listener taken)
    split at taken
    · exact .head pop (ih settled listener taken)
    · cases taken
      exact .single pop

lemma quiets_acceptNonblocking (accepted : acceptNonblocking s listener = (child, s')) :
    Quiets s s' := by
  unfold acceptNonblocking at accepted
  split at accepted
  · cases accepted
    exact .refl
  next l decoded =>
  split at accepted
  · cases accepted
    exact .refl
  next isListener =>
  cases loop : acceptLoop s (s.tcbs l).backlogCount (s.tcbs l) with
  | mk child' lp =>
    rw [loop] at accepted
    cases accepted
    have quiets := quiets_acceptLoop (s := s) (l := l) (decodeId_some decoded).1
      (not_not.mp isListener) loop
    rw [setTcb_eq_self] at quiets
    exact quiets

lemma quiets_close (settled : (s.tcbs i).settled) : Quiets s (close s now i) := by
  unfold close
  split
  · exact .single (.drop i settled)
  · exact .single (.conn i _ settled)

lemma turns_abort (settled : (s.tcbs i).settled) : Turns s (abort s now i) := by
  unfold abort
  dsimp only
  split
  · exact .single (.drop i _ settled)
  · exact turns_drop settled

lemma quiets_release (settled : (s.tcbs i).settled) : Quiets s (release s now i) := by
  unfold release
  dsimp only
  generalize (if 0 < (s.tcbs i).refs then (s.tcbs i).refs - 1 else (s.tcbs i).refs) = refs
  have first : Quiet s (s.setTcb i { s.tcbs i with refs }) := .refs i refs settled
  have settled' : ((s.setTcb i { s.tcbs i with refs }).tcbs i).settled := by
    rw [setTcb_self]
    exact settled
  split
  · exact .single first
  · split
    · exact .tail (.single first) (.drop i settled')
    · exact .tail (.single first) (.conn i _ settled')

lemma turns_timerTick : Turns s (timerTick s now) := by
  refine turns_foldl (fun s i => ?_) _
  unfold timerSlot
  split
  · exact .refl
  next live =>
    simp only [not_or, Bool.not_eq_true, Bool.not_eq_false] at live
    exact turns_settle ⟨live.1, live.2.1⟩ timerConn_evolves

/-- Slots that are reserved for a call have no binding. -/
def Unbound (s : Table) : Prop := ∀ i, (s.tcbs i).initializing → (s.tcbs i).tuple = {}

lemma Unbound.quiets (unbound : Unbound s) (quiets : Quiets s s') : Unbound s' := by
  intro i initializing
  rcases quiets.survived i with kept | ⟨settled, dropped⟩
  · rw [kept.tuple]
    exact unbound i (kept.initializing ▸ initializing)
  · rw [dropped.initializing, settled.2] at initializing
    cases initializing

lemma Unbound.settled (unbound : Unbound s) (inUse : (s.tcbs i).inUse)
    (valid : netInterfaceBindingIsValid (s.tcbs i).tuple.binding) : (s.tcbs i).settled := by
  refine ⟨inUse, ?_⟩
  cases initializing : (s.tcbs i).initializing with
  | false => rfl
  | true =>
    rw [unbound i initializing] at valid
    exact absurd valid (by decide)

lemma turns_retireSlots (valid : netInterfaceBindingIsValid binding) (unbound : Unbound s)
    (slots : List (Fin kTcbCap)) : Turns s (slots.foldl (retireSlot binding) s) := by
  induction slots generalizing s with
  | nil => exact .refl
  | cons i slots ih =>
    have first : Turns s (retireSlot binding s i) := by
      unfold retireSlot
      split
      · exact .refl
      next live =>
        simp only [not_or, not_not, Bool.not_eq_true, Bool.not_eq_false] at live
        exact turns_drop (unbound.settled live.1 (live.2 ▸ valid))
    exact first.trans (ih (unbound.quiets first.quiets))

lemma turns_retireInterface (unbound : Unbound s) : Turns s (retireInterface s binding) := by
  unfold retireInterface
  split
  · exact .refl
  next valid => exact turns_retireSlots (not_not.mp valid) unbound _

lemma allocSlot_some (found : allocSlot s = some i) : (s.tcbs i).inUse = false := by
  have free := List.find?_some found
  simpa using free

lemma lookupLoop_some (found : lookupLoop s tuple steps link = some i) :
    (s.tcbs i).inUse ∧ (s.tcbs i).isListener = false ∧ (s.tcbs i).tuple = tuple := by
  induction steps generalizing link with
  | zero => cases found
  | succ steps ih =>
    unfold lookupLoop at found
    split at found
    · cases found
    dsimp only at found
    split at found
    next fits =>
      cases found
      exact ⟨fits.1, Bool.not_eq_true _ ▸ fits.2.1, fits.2.2⟩
    · exact ih found

lemma lookupListener_some (found : lookupListener s binding port = some i) :
    (s.tcbs i).inUse ∧ (s.tcbs i).isListener ∧ (s.tcbs i).tuple.binding = binding ∧
      (s.tcbs i).tuple.localPort = port := by
  have fits := List.find?_some found
  simpa using fits

lemma listen_none (refused : listen s snapshot localIp localPort backlog = (none, s')) :
    s' = s := by
  unfold listen at refused
  dsimp only at refused
  split at refused
  · exact (mk.inj refused).2.symm
  split at refused
  · exact (mk.inj refused).2.symm
  · split at refused
    · exact (mk.inj refused).2.symm
    · cases (mk.inj refused).1

lemma listen_some (opened : listen s snapshot localIp localPort backlog = (some i, s')) :
    (s.tcbs i).inUse = false ∧ lookupListener s snapshot.binding localPort = none ∧
      s' = s.setTcb i (listening (s.tcbs i) snapshot localIp localPort
        (min (if backlog = 0 then 1 else backlog) kListenBacklogMax)) := by
  unfold listen at opened
  dsimp only at opened
  split at opened
  · cases (mk.inj opened).1
  split at opened
  · cases (mk.inj opened).1
  next fresh =>
  split at opened
  · cases (mk.inj opened).1
  next j found =>
    cases opened
    exact ⟨allocSlot_some found, not_not.mp fresh, rfl⟩

lemma connectReserve_cursor (port) :
    ∃ cursor, (if port = 0 then allocEphemeralPort s else (port, s)).2 =
      { s with ephemeralCursor := cursor } := by
  split
  · exact ⟨_, rfl⟩
  · exact ⟨_, rfl⟩

lemma connectReserve_none
    (refused : connectReserve s snapshot dstIp dstPort localPort = (none, s')) :
    ∃ cursor, s' = { s with ephemeralCursor := cursor } := by
  have moved := @connectReserve_cursor s localPort
  unfold connectReserve at refused
  generalize (if localPort = 0 then allocEphemeralPort s else (localPort, s)) = chosen
    at moved refused
  dsimp only at refused
  split at refused
  · exact (mk.inj refused).2 ▸ moved
  split at refused
  · exact (mk.inj refused).2 ▸ moved
  · split at refused
    · exact (mk.inj refused).2 ▸ moved
    · cases (mk.inj refused).1

lemma connectReserve_some
    (reserved : connectReserve s snapshot dstIp dstPort localPort = (some call, s')) :
    ∃ cursor, (s.tcbs call.slot).inUse = false ∧
      s' = reserveSlot { s with ephemeralCursor := cursor } call.slot ∧
      call.generation = (s.tcbs call.slot).generation + 1 ∧
      lookupExact { s with ephemeralCursor := cursor } call.tuple = none ∧
        call.tuple.binding = snapshot.binding := by
  obtain ⟨cursor, moved⟩ := @connectReserve_cursor s localPort
  unfold connectReserve at reserved
  generalize (if localPort = 0 then allocEphemeralPort s else (localPort, s)) = chosen
    at moved reserved
  obtain ⟨port, table⟩ := chosen
  cases moved
  dsimp only at reserved
  split at reserved
  · cases (mk.inj reserved).1
  split at reserved
  · cases (mk.inj reserved).1
  next fresh =>
  split at reserved
  · cases (mk.inj reserved).1
  next found =>
    cases reserved
    exact ⟨cursor, allocSlot_some found, rfl, rfl, not_not.mp fresh, rfl⟩

lemma synReserve_none (refused : synReserve s l snapshot mac tuple seg = (none, s')) : s' = s := by
  unfold synReserve at refused
  dsimp only at refused
  split at refused
  · exact (mk.inj refused).2.symm
  · split at refused
    · exact (mk.inj refused).2.symm
    · cases (mk.inj refused).1

lemma synReserve_some (reserved : synReserve s l snapshot mac tuple seg = (some call, s')) :
    (s.tcbs call.slot).inUse = false ∧ s' = reserveSlot s call.slot ∧ call.tuple = tuple ∧
      call.parent = makeId l (s.tcbs l).generation := by
  unfold synReserve at reserved
  dsimp only at reserved
  split at reserved
  · cases (mk.inj reserved).1
  split at reserved
  · cases (mk.inj reserved).1
  next found =>
    cases reserved
    exact ⟨allocSlot_some found, rfl, rfl, rfl⟩

lemma Step.shape {s s' e} (unbound : Unbound s.table) (step : Step s e s') : Shape s e s' := by
  cases step with
  | @listen slot table snapshot localIp localPort backlog valid opened =>
    cases slot with
    | none => exact .quiet rfl (listen_none opened ▸ .refl)
    | some i =>
      obtain ⟨free, fresh, rfl⟩ := listen_some opened
      refine .listen snapshot localIp localPort _ free fresh valid ?_ (min_le_right ..)
      unfold kListenBacklogMax
      split <;> omega
  | acceptNone listener accepted | accept listener accepted _ =>
    exact .quiet rfl (quiets_acceptNonblocking accepted)
  | connectRefused _ _ _ _ _ refused =>
    obtain ⟨cursor, rfl⟩ := connectReserve_none refused
    exact .quiet rfl (.single (.cursor cursor))
  | connectReserve _ _ _ _ valid reserved =>
    obtain ⟨cursor, free, rfl, generation, fresh, binding⟩ := connectReserve_some reserved
    exact @Shape.reserve _ _ _ (.connecting _) rfl free ⟨generation, fresh, binding ▸ valid⟩
  | connectPublish now pending => exact .connectPublish now pending
  | connectFail pending => exact @Shape.unreserve _ _ _ (.connecting _) rfl pending
  | deliver _ _ _ _ _ _ _ valid _ found delivered =>
    obtain ⟨inUse, connection, tuple⟩ := lookupLoop_some found
    refine .quiet rfl (turns_deliver (unbound.settled inUse ?_) connection delivered).quiets
    rw [tuple]
    exact valid
  | synRefused _ _ _ _ _ _ _ _ _ _ refused => exact .quiet rfl (synReserve_none refused ▸ .refl)
  | synReserve _ _ _ _ valid _ fresh _ _ found reserved =>
    obtain ⟨free, rfl, tuple, parent⟩ := synReserve_some reserved
    obtain ⟨inUse, listener, binding, _⟩ := lookupListener_some found
    refine @Shape.reserve _ _ s.table.ephemeralCursor (.answering _) rfl free
      ⟨?_, ?_, _, inUse, listener, binding ▸ valid, parent⟩
    · rw [tuple]
      exact fresh
    · rw [tuple]
      exact valid
  | synPublish now pending welcome => exact .synPublish now pending welcome
  | synDiscard pending _ => exact .discard rfl pending
  | synFail pending => exact @Shape.unreserve _ _ _ (.answering _) rfl pending
  | synDiscarded pending => exact @Shape.unreserve _ _ _ (.discarding _) rfl pending
  | timerTick now => exact .quiet rfl turns_timerTick.quiets
  | send _ _ _ decoded _ | recv _ _ _ decoded _ | setKeepAlive _ _ _ decoded
  | setNoDelay _ _ decoded => exact .quiet rfl (.single (.conn _ _ (decodeId_some decoded).1))
  | close _ _ decoded => exact .quiet rfl (quiets_close (decodeId_some decoded).1)
  | abort _ _ decoded => exact .quiet rfl (turns_abort (decodeId_some decoded).1).quiets
  | retain _ decoded => exact .quiet rfl (.single (.refs _ _ (decodeId_some decoded).1))
  | release _ _ decoded => exact .quiet rfl (quiets_release (decodeId_some decoded).1)
  | retireInterface binding => exact .quiet rfl (turns_retireInterface unbound).quiets

end DuetOS.Tcp
