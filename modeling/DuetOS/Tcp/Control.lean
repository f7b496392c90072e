import DuetOS.Tcp.Frames

/-!
# Open connections

A connection is open while it may still send: from its handshake until `Close`. No segment and no
timer reopens a connection, and only `Close` and `Release` mark it as closed by its owner.
-/

namespace DuetOS.Tcp

/-- Is the connection in its handshake, or able to send? -/
def Conn.isOpen (t : Conn) : Bool :=
  t.state = .synSent ∨ t.state = .synRcvd ∨ t.state = .established ∨ t.state = .closeWait

/-- A change that neither reopens a connection nor closes it for its owner. -/
structure Evolves (t t' : Conn) : Prop where
  isOpen : t'.isOpen → t.isOpen
  txClosed : t'.txClosed = t.txClosed

variable {t t' : Conn} {now heap : Nat}

lemma state_of_still (same : t'.still = t.still) : t'.state = t.state := by
  have eq : t'.still.state = t.still.state := by rw [same]
  exact eq

lemma txClosed_of_still (same : t'.still = t.still) : t'.txClosed = t.txClosed := by
  have eq : t'.still.txClosed = t.still.txClosed := by rw [same]
  exact eq

namespace Evolves

lemma refl (t) : Evolves t t := ⟨id, rfl⟩

lemma trans (first : Evolves t t') (second : Evolves t' t'') : Evolves t t'' :=
  ⟨fun live => first.isOpen (second.isOpen live), second.txClosed.trans first.txClosed⟩

lemma of_state (state : t'.state = t.state) (txClosed : t'.txClosed = t.txClosed) : Evolves t t' :=
  ⟨fun live => by rwa [Conn.isOpen, state] at live, txClosed⟩

lemma of_still (same : t'.still = t.still) :
    Evolves t t' := of_state (state_of_still same) (txClosed_of_still same)

lemma of_mute (same : t'.mute = t.mute) : Evolves t t' := by
  have state : t'.mute.state = t.mute.state := by rw [same]
  have txClosed : t'.mute.txClosed = t.mute.txClosed := by rw [same]
  exact of_state state txClosed

lemma of_closing (closing : t'.isOpen = false) (txClosed : t'.txClosed = t.txClosed) :
    Evolves t t' :=
  ⟨fun live => absurd live (by rw [closing]; decide), txClosed⟩

lemma of_open (live : t.isOpen) (txClosed : t'.txClosed = t.txClosed) : Evolves t t' :=
  ⟨fun _ => live, txClosed⟩

end Evolves

lemma deliverSynSent_evolves (state : t.state = .synSent) (seg po) :
    Evolves t (deliverSynSent now seg po t) := by
  have live : t.isOpen := by rw [Conn.isOpen, state]; rfl
  refine .of_open live ?_
  unfold deliverSynSent
  split
  · have sent := fun t : Conn =>
      txClosed_of_still ((@drainSendBuffer_still _ now 0).trans (@sendAck_still t now))
    exact sent _
  split
  · have sent := fun u : Conn => txClosed_of_still
      (@sendSegment_still u now (kFlagSyn ||| kFlagAck) t.iss (seg.seq + 1) [])
    exact sent _
  · rfl

/-- The connection `deliverHead` ends with. -/
def Head.conn : Head → Conn
  | .done t | .dropped t | .accepted t | .proceed t => t

lemma deliverHead_evolves (mac : MacAddress) (seg) :
    Evolves t (deliverHead now heap mac seg t).conn := by
  unfold deliverHead
  dsimp only
  have marked : Evolves t (if (parseOptions seg.opts).hasTimestamp then
      { t with peerSupportsTimestamps := true } else t) := by
    split
    · exact .of_state rfl rfl
    · exact .refl t
  generalize (if (parseOptions seg.opts).hasTimestamp then
      { t with peerSupportsTimestamps := true } else t) = t₁ at marked ⊢
  split
  · exact marked.trans (.of_still sendAck_still)
  have stamped : Evolves t (if (parseOptions seg.opts).hasTimestamp then
      { t₁ with tsRecent := (parseOptions seg.opts).tsval, tsRecentAgeTicks := now } else t₁) := by
    split
    · exact marked.trans (.of_state rfl rfl)
    · exact marked
  generalize (if (parseOptions seg.opts).hasTimestamp then
      { t₁ with tsRecent := (parseOptions seg.opts).tsval, tsRecentAgeTicks := now } else t₁) = t₂
        at stamped ⊢
  split
  · split
    · exact stamped
    · exact stamped.trans (.of_still sendAck_still)
    · exact stamped
  have absorbed : Evolves t (absorbSack heap seg { t₂ with peerMac := mac }) :=
    have addressed : Evolves t₂ { t₂ with peerMac := mac } := .of_state rfl rfl
    stamped.trans (addressed.trans (.of_still (absorbSack_still seg)))
  generalize absorbSack _ seg _ = t₃ at absorbed ⊢
  split
  next state => exact absorbed.trans (deliverSynSent_evolves state seg _)
  next state =>
    split
    · have live : t₃.isOpen := by rw [Conn.isOpen, state]; rfl
      have window := @updateSendWindow_still t₃ seg.seq seg.ack seg.win seg.flags
      generalize updateSendWindow t₃ _ _ _ _ = u at window ⊢
      have window : u.txClosed = t₃.txClosed := txClosed_of_still window
      exact absorbed.trans (.of_open live window)
    · exact absorbed
  · exact absorbed

lemma enterTimeWait_evolves : Evolves t (enterTimeWait now t) := .of_closing rfl rfl

lemma finAcked_evolves : Evolves t (finAcked now t).conn := by
  unfold finAcked
  split
  · split
    · exact enterTimeWait_evolves
    · exact .of_closing rfl rfl
  · split
    · exact enterTimeWait_evolves
    · split <;> exact .refl t

lemma deliverAck_evolves (ipCe seg) : Evolves t (deliverAck now ipCe seg t).conn := by
  unfold deliverAck
  dsimp only
  have reacted : Evolves t
    (ecnReact ipCe seg.flags (updateSendWindow t seg.seq seg.ack seg.win seg.flags)) :=
    .of_still ((ecnReact_still ipCe seg.flags).trans (updateSendWindow_still ..))
  generalize ecnReact _ _ _ = t₁ at reacted ⊢
  generalize (if (parseOptions seg.opts).hasTimestamp then some (parseOptions seg.opts).tsecr
    else none) = echo
  have acked : Evolves t
    (if seg.ack = t₁.sndUna ∧ seg.payload = [] ∧ 0 < t₁.rtxCount then onDuplicateAck now t₁
      else onNewAck now seg.ack echo t₁) := by
    split
    · exact reacted.trans (.of_still onDuplicateAck_still)
    · exact reacted.trans (.of_still (onNewAck_still ..))
  generalize (if seg.ack = t₁.sndUna ∧ seg.payload = [] ∧ 0 < t₁.rtxCount then onDuplicateAck now t₁
      else onNewAck now seg.ack echo t₁) = t₂ at acked ⊢
  have fin := acked.trans (@finAcked_evolves t₂ now)
  split
  next gone =>
    rw [gone] at fin
    exact fin
  next t₃ alive =>
  rw [alive] at fin
  split
  · exact fin
  · exact fin.trans (.of_still (drainSendBuffer_still 0))

lemma finReceived_evolves : Evolves t (finReceived now t) := by
  unfold finReceived
  split
  next state => exact .of_open (by rw [Conn.isOpen, state]; rfl) rfl
  · split
    · exact enterTimeWait_evolves
    · exact .of_closing rfl rfl
  · exact enterTimeWait_evolves
  · exact .refl t

lemma deliverFin_evolves (seg) : Evolves t (deliverFin now seg t) := by
  unfold deliverFin
  dsimp only
  split
  · have seen : ∀ seq,
      Evolves t { t with peerFinSeen := true, peerFinSeq := seq, rcvNxt := seq + 1 } :=
      fun _ => .of_state rfl rfl
    exact (seen _).trans finReceived_evolves
  · exact .refl t

lemma acknowledge_evolves (seg) : Evolves t (acknowledge now seg t) := by
  unfold acknowledge
  split
  · split
    · have sent := @sendAck_still t now
      generalize sendAck now t = u at sent ⊢
      exact (Evolves.of_still sent).trans (.of_state rfl rfl)
    · exact .of_state rfl rfl
  · exact .refl t

lemma deliverTail_evolves (ipCe seg) : Evolves t (deliverTail now ipCe seg t).conn := by
  have acked : Evolves t (if hasFlag seg.flags kFlagAck ∧ ackInWindow seg.ack t.sndUna t.sndNxt then
      deliverAck now ipCe seg t else .alive t).conn := by
    split
    · exact deliverAck_evolves ipCe seg
    · exact .refl t
  unfold deliverTail
  generalize (if hasFlag seg.flags kFlagAck ∧ ackInWindow seg.ack t.sndUna t.sndNxt then
      deliverAck now ipCe seg t else .alive t) = out at acked ⊢
  cases out with
  | dropped t₁ => exact acked
  | alive t₁ =>
    refine (acked.trans (.of_mute (deliverPayload_mute seg.seq seg.payload))).trans ?_
    exact (deliverFin_evolves seg).trans (acknowledge_evolves seg)

lemma timerData_evolves : Evolves t (timerData now t).conn := by
  unfold timerData
  split
  · split
    · exact .of_still (sendSegment_still ..)
    · have sent := @retransmitFirstUnacked_still t now
      generalize retransmitFirstUnacked now t = u at sent ⊢
      exact (Evolves.of_still sent).trans (.of_state rfl rfl)
  · exact .refl t

lemma timerControl_evolves (flags : UInt8) (seq ack : UInt32) :
    Evolves t (timerControl now flags seq ack t).conn := by
  unfold timerControl
  split
  · exact .refl t
  have sent : (sendSegment now { t with retries := t.retries + 1, rtoTicks := doubleRto t } flags
    seq ack []).still =
      t.still := (sendSegment_still ..).trans rfl
  dsimp only
  generalize sendSegment now _ _ seq ack _ = u at sent ⊢
  exact (Evolves.of_still sent).trans (.of_state rfl rfl)

lemma Outcome.andThen_evolves {outcome : Outcome} {next : Conn → Outcome}
    (first : Evolves t outcome.conn)
    (second : ∀ t, Evolves t (next t).conn) : Evolves t (outcome.andThen next).conn := by
  cases outcome with
  | alive t₁ => exact first.trans (second t₁)
  | dropped t₁ => exact first

lemma timerConn_evolves : Evolves t (timerConn now t).conn := by
  have syn : ∀ t, Evolves t (timerSyn now t).conn := fun t => by
    unfold timerSyn
    split
    · exact timerControl_evolves ..
    · exact .refl t
  have fin : ∀ t, Evolves t (timerFin now t).conn := fun t => by
    unfold timerFin
    split
    · exact timerControl_evolves ..
    · exact .refl t
  have delack : ∀ t, Evolves t (timerDelack now t) := fun t => by
    unfold timerDelack
    split
    · have sent := @sendAck_still t now
      generalize sendAck now t = u at sent ⊢
      exact (Evolves.of_still sent).trans (.of_state rfl rfl)
    · exact .refl t
  have probed : ∀ t, Evolves t (sendProbe now t) := fun t => .of_still (sendSegment_still ..)
  have keepalive : ∀ t, Evolves t (timerKeepalive now t) := fun t => by
    unfold timerKeepalive
    split
    · exact (probed t).trans (.of_state rfl rfl)
    · exact .refl t
  have persist : ∀ t, Evolves t (timerPersist now t) := fun t => by
    unfold timerPersist
    split
    · exact (probed t).trans (.of_state rfl rfl)
    · exact .refl t
  unfold timerConn
  split
  · exact .refl t
  · refine Outcome.andThen_evolves ?_ fun t => ((delack t).trans (keepalive _)).trans (persist _)
    exact Outcome.andThen_evolves (Outcome.andThen_evolves timerData_evolves syn) fin

lemma sendConn_evolves (data) : Evolves t (sendConn now data t).2 := by
  unfold sendConn
  split
  · exact .refl t
  · exact .trans (.of_state rfl rfl) (.of_still (drainSendBuffer_still 0))

lemma recvConn_evolves (cap) : Evolves t (recvConn now cap t).2 := by
  unfold recvConn
  split
  · split <;> exact .refl t
  have read : ∀ tail count, Evolves t { t with rcvbufTail := tail, rcvbufCount := count } :=
    fun _ _ => .of_state rfl rfl
  dsimp only
  split
  · have sent := fun u : Conn => Evolves.of_still (@sendAck_still u now)
    have opened : ∀ tail count wnd,
      Evolves t { t with rcvbufTail := tail, rcvbufCount := count, rcvWnd := wnd } :=
      fun _ _ _ => .of_state rfl rfl
    exact (opened _ _ _).trans (sent _)
  · exact read _ _

lemma closeConn_closes (live : t.txClosed = false)
    (synced : t.state ≠ .synSent ∧ t.state ≠ .synRcvd) :
    (closeConn now t).isOpen = false := by
  have drained := fun u : Conn => state_of_still (@drainSendBuffer_still u now 0)
  have state : (drainSendBuffer now 0 { t with txClosed := true }).state = t.state := drained _
  unfold closeConn
  rw [if_neg (by rw [live]; decide)]
  dsimp only
  generalize drainSendBuffer now 0 _ = t₁ at state ⊢
  split
  · rfl
  · rfl
  next established closeWait =>
  rw [Conn.isOpen, state]
  rw [state] at established closeWait
  refine decide_eq_false ?_
  rintro (eq | eq | eq | eq)
  · exact synced.1 eq
  · exact synced.2 eq
  · exact established eq
  · exact closeWait eq

end DuetOS.Tcp
