import DuetOS.Tcp.Control
import DuetOS.Tcp.Endpoint

/-!
# The bytes that arrive

Segments of a peer that sends one stream of bytes may be lost, repeated and reordered on their way.
The receive ring and the reassembly queue put them back: the bytes handed out and the bytes in the
ring are always a prefix of the stream, and `rcvNxt` is the number behind it. Everything else a
connection does leaves its ear alone.
-/

namespace DuetOS.Tcp

open List Circular

/-- The receiver's side of a connection. -/
structure Ear where
  (opening closed peerFinSeen : Bool)
  rcvNxt : UInt32
  rcvbuf : Nat → UInt8
  (rcvbufHead rcvbufTail rcvbufCount : Nat)
  ooQueue : Fin kReassQueueMax → OoSegment

def Conn.ear (t : Conn) : Ear :=
  ⟨t.state = .synSent, t.state = .closed, t.peerFinSeen, t.rcvNxt, t.rcvbuf, t.rcvbufHead,
    t.rcvbufTail,
    t.rcvbufCount, t.ooQueue⟩

variable {t t' : Conn} {now heap : Nat}

lemma ear_of_still (same : t'.still = t.still) : t'.ear = t.ear := (congrArg Conn.ear same :)

lemma ear_timers (u : Conn) (pending : Bool) (delack keepalive persist rtx : Nat)
    (backoff : UInt32) :
    { u with
      delackPending := pending, delackDeadline := delack, keepaliveDeadline := keepalive,
      persistDeadline := persist,
      rtxDeadline := rtx, persistBackoffTicks := backoff }.ear = u.ear := rfl

/-- A connection that is neither opening nor closed changes its state. -/
lemma ear_of_state (old : t.state ≠ .synSent ∧ t.state ≠ .closed)
    (new : t'.state ≠ .synSent ∧ t'.state ≠ .closed)
    (same : { t'.ear with opening := false, closed := false } =
      { t.ear with opening := false, closed := false }) :
    t'.ear = t.ear := by
  unfold Conn.ear at same ⊢
  rw [decide_eq_false old.1, decide_eq_false old.2, decide_eq_false new.1, decide_eq_false new.2]
  exact same

lemma finAcked_ear : (finAcked now t).conn.ear = t.ear := by
  unfold finAcked
  split
  next fin => split <;> exact ear_of_state (by rw [fin.1]; decide) ⟨nofun, nofun⟩ rfl
  split
  next fin => exact ear_of_state (by rw [fin.1]; decide) ⟨nofun, nofun⟩ rfl
  · split <;> rfl

lemma deliverAck_ear (ipCe seg) : (deliverAck now ipCe seg t).conn.ear = t.ear := by
  unfold deliverAck
  dsimp only
  have reacted : (ecnReact ipCe seg.flags
    (updateSendWindow t seg.seq seg.ack seg.win seg.flags)).still = t.still :=
    (ecnReact_still ipCe seg.flags).trans (updateSendWindow_still ..)
  generalize ecnReact _ _ _ = t₁ at reacted ⊢
  generalize (if (parseOptions seg.opts).hasTimestamp then some (parseOptions seg.opts).tsecr
    else none) = echo
  generalize eq : (if seg.ack = t₁.sndUna ∧ seg.payload = [] ∧
    0 < t₁.rtxCount then onDuplicateAck now t₁
      else onNewAck now seg.ack echo t₁) = t₂
  have acked : t₂.still = t.still := by
    rw [← eq]
    split
    · exact onDuplicateAck_still.trans reacted
    · exact (onNewAck_still ..).trans reacted
  have fin := (@finAcked_ear t₂ now).trans (ear_of_still acked)
  split
  next gone =>
    rw [gone] at fin
    exact fin
  next alive =>
  rw [alive] at fin
  split
  · exact fin
  · exact (ear_of_still (drainSendBuffer_still 0)).trans fin

lemma timerControl_ear (flags : UInt8) (seq ack : UInt32) :
    (timerControl now flags seq ack t).conn.ear = t.ear := by
  unfold timerControl
  split
  · rfl
  · exact (ear_timers ..).trans
      (ear_of_still (t := { t with retries := _, rtoTicks := _ }) (sendSegment_still ..))

lemma andThen_ear {outcome : Outcome} {next : Conn → Outcome} (first : outcome.conn.ear = t.ear)
    (second : ∀ t, (next t).conn.ear = t.ear) : (outcome.andThen next).conn.ear = t.ear := by
  cases outcome with
  | alive t₁ => exact (second t₁).trans first
  | dropped t₁ => exact first

lemma timerConn_ear : (timerConn now t).conn.ear = t.ear := by
  have probed (t) : (sendProbe now t).ear = t.ear := ear_of_still (sendSegment_still ..)
  unfold timerConn
  split
  · rfl
  refine andThen_ear (andThen_ear (andThen_ear ?_ fun t => ?_) fun t => ?_) fun t => ?_
  · unfold timerData
    split
    · split
      · exact ear_of_still (sendSegment_still ..)
      · exact (ear_timers ..).trans (ear_of_still retransmitFirstUnacked_still)
    · rfl
  · unfold timerSyn
    split
    · exact timerControl_ear ..
    · rfl
  · unfold timerFin
    split
    · exact timerControl_ear ..
    · rfl
  have persist (t) : (timerPersist now t).ear = t.ear := by
    unfold timerPersist
    split
    · exact (ear_timers ..).trans (probed t)
    · rfl
  have keepalive (t) : (timerKeepalive now t).ear = t.ear := by
    unfold timerKeepalive
    split
    · exact (ear_timers ..).trans (probed t)
    · rfl
  refine (persist _).trans ((keepalive _).trans ?_)
  unfold timerDelack
  split
  · exact (ear_timers ..).trans (ear_of_still sendAck_still)
  · rfl

lemma closeConn_ear : (closeConn now t).ear = t.ear := by
  have drained : (drainSendBuffer now 0 { t with txClosed := true }).ear = t.ear :=
    ear_of_still (t := { t with txClosed := true }) (drainSendBuffer_still 0)
  unfold closeConn
  split
  · rfl
  dsimp only
  generalize drainSendBuffer now 0 _ = t₁ at drained ⊢
  refine Eq.trans ?_ drained
  have sent := @sendSegment_still t₁ now (kFlagAck ||| kFlagFin) t₁.sndNxt t₁.rcvNxt []
  unfold sendFin
  generalize sendSegment now t₁ _ _ _ _ = u at sent ⊢
  rw [← ear_of_still sent]
  split
  next state => exact ear_of_state (by rw [state_of_still sent, state]; decide) ⟨nofun, nofun⟩ rfl
  next state => exact ear_of_state (by rw [state_of_still sent, state]; decide) ⟨nofun, nofun⟩ rfl
  · exact (ear_of_still sent).symm

lemma sendConn_ear (data) : (sendConn now data t).2.ear = t.ear := by
  unfold sendConn
  split
  · rfl
  · exact ear_of_still (drainSendBuffer_still 0)

lemma acknowledge_ear (seg) : (acknowledge now seg t).ear = t.ear := by
  unfold acknowledge
  split
  · split
    · exact (ear_timers ..).trans (ear_of_still sendAck_still)
    · rfl
  · rfl

lemma finReceived_ear (old : t.state ≠ .synSent ∧ t.state ≠ .closed) :
    (finReceived now t).ear = t.ear := by
  unfold finReceived
  split
  · exact ear_of_state old ⟨nofun, nofun⟩ rfl
  · split <;> exact ear_of_state old ⟨nofun, nofun⟩ rfl
  · exact ear_of_state old ⟨nofun, nofun⟩ rfl
  · rfl

/-- The bytes in the ring. -/
def Ear.held (e : Ear) : List UInt8 :=
  (range e.rcvbufCount).map fun i => e.rcvbuf ((e.rcvbufTail + i) % kRcvBufBytes)

/-- The receiver when the first bytes of the ring were handed out. -/
def Ear.drop (e : Ear) (n : Nat) : Ear :=
  { e with rcvbufTail := (e.rcvbufTail + n) % kRcvBufBytes, rcvbufCount := e.rcvbufCount - n }

/-- What a peer sends before its FIN, and the number of its first byte. -/
structure Peer where
  stream : List UInt8
  isn : UInt32
  short : stream.length + 1 < 2 ^ 32

/-- The bytes are in the stream under this number. -/
def Peer.Carries (p : Peer) (seq : UInt32) (data : List UInt8) : Prop :=
  ∃ pos ≤ p.stream.length, seq = p.isn + UInt32.ofNat pos ∧ data <+: p.stream.drop pos

/-- A segment the peer may have sent. -/
structure Peer.Honest (p : Peer) (seg : Segment) : Prop where
  data : seg.payload ≠ [] → p.Carries seg.seq seg.payload
  syn : hasFlag seg.flags kFlagSyn → seg.seq + 1 = p.isn
  fin : hasFlag seg.flags kFlagFin →
    seg.seq + UInt32.ofNat seg.payload.length = p.isn + UInt32.ofNat p.stream.length

/-- An input that may come from the peer; what the network does to the order and number of segments
is free. -/
def Peer.Sends (p : Peer) : Input → Prop
  | .segment _ _ _ _ seg => p.Honest seg
  | _ => True

/-- The receiver has handed out `handed`, and goes on with the bytes in its ring. -/
structure Peer.Receives (p : Peer) (handed : List UInt8) (e : Ear) : Prop where
  head : e.rcvbufHead = (e.rcvbufTail + e.rcvbufCount) % kRcvBufBytes
  room : e.rcvbufCount ≤ kRcvBufBytes
  got : handed ++ e.held <+: p.stream
  next : e.opening = false →
    e.rcvNxt = p.isn + UInt32.ofNat ((handed ++ e.held).length + e.peerFinSeen.toNat)
  early : e.opening → handed ++ e.held = [] ∧ e.peerFinSeen = false
  live : e.closed = false
  fin : e.peerFinSeen → handed ++ e.held = p.stream
  slots : ∀ i, (e.ooQueue i).inUse → p.Carries (e.ooQueue i).seq (e.ooQueue i).data

/-- The ear is good, and synchronised if `DeliverSegment` goes on. -/
def Head.Good (good : Ear → Prop) : Head → Prop
  | .done t | .dropped t => good t.ear
  | .accepted t | .proceed t => good t.ear ∧ t.ear.opening = false

/-- The bytes a call returns. -/
def Output.bytes : Output → List UInt8
  | .received (.bytes data) => data
  | _ => []

lemma number_inj {isn : UInt32} (lt : a < 2 ^ 32) (lt' : b < 2 ^ 32)
    (eq : isn + UInt32.ofNat a = isn + UInt32.ofNat b) : a = b := by
  have same := congrArg UInt32.toNat ((UInt32.add_right_inj isn).mp eq)
  rwa [UInt32.toNat_ofNat', UInt32.toNat_ofNat', Nat.mod_eq_of_lt lt, Nat.mod_eq_of_lt lt'] at same

lemma pushRcv_held (data) (head : t.rcvbufHead = (t.rcvbufTail + t.rcvbufCount) % kRcvBufBytes)
    (room : t.rcvbufCount ≤ kRcvBufBytes) :
    (t.pushRcv data).ear.held = t.ear.held ++ data.take t.rcvRoom := by
  have length : t.ear.held.length = t.rcvbufCount := by rw [Ear.held, length_map, length_range]; rfl
  have holds : Holds t.rcvbuf kRcvBufBytes t.rcvbufTail t.ear.held := fun i _ => by
    simp [Ear.held, Conn.ear]
  have fits : t.ear.held.length + (data.take t.rcvRoom).length ≤ kRcvBufBytes := by
    rw [length_take, length, Conn.rcvRoom]
    omega
  have both := holds.append_blit fits
  rw [length, ← writes_mod, ← head] at both
  refine Eq.trans ?_ both.read
  rw [map_map, length_append, length]
  rfl

variable {p : Peer} {handed : List UInt8}

namespace Peer.Receives

section

variable (rcv : p.Receives handed t.ear)

include rcv

lemma setOo (i) (carries : seg.inUse → p.Carries seg.seq seg.data) :
    p.Receives handed { t with ooQueue := Function.update t.ooQueue i seg }.ear :=
  { rcv with
    slots := fun j => by
      unfold Conn.ear
      dsimp only
      rcases eq_or_ne j i with rfl | ne
      · rwa [Function.update_self]
      · rw [Function.update_of_ne ne]
        exact rcv.slots j }

lemma freeOo (i) : p.Receives handed (t.freeOo i).ear := rcv.setOo i nofun

lemma stashOo (carries : p.Carries seq data) : p.Receives handed (stashOo t seq data).ear := by
  obtain ⟨pos, le, seq, pre⟩ := carries
  unfold Tcp.stashOo
  split
  · exact rcv
  split
  · exact rcv
  next i _ => exact rcv.setOo i fun _ => ⟨pos, le, seq, ( take_prefix ..).trans pre⟩

variable (synced : t.ear.opening = false)

include synced

/-- What comes next in order is the rest of a stream that has not ended. -/
lemma position (carries : p.Carries t.rcvNxt data) :
    t.ear.peerFinSeen = false ∧ data <+: p.stream.drop (handed ++ t.ear.held).length := by
  obtain ⟨pos, le, seq, pre⟩ := carries
  have len := rcv.got.length_le
  have short := p.short
  have bit := Bool.toNat_le t.ear.peerFinSeen
  have eq := number_inj (by omega) (by omega) ((rcv.next synced).symm.trans seq)
  cases seen : t.ear.peerFinSeen with
  | true =>
    -- `rcvNxt` is behind the FIN then, where the stream has no byte
    rw [rcv.fin seen, seen, Bool.toNat_true] at eq
    omega
  | false =>
    rw [seen, Bool.toNat_false, Nat.add_zero] at eq
    exact ⟨rfl, eq ▸ pre⟩

lemma pushRcv (carries : p.Carries t.rcvNxt data) : p.Receives handed (t.pushRcv data).ear := by
  obtain ⟨unseen, pre⟩ := rcv.position synced carries
  have held := pushRcv_held data rcv.head rcv.room
  exact { rcv with
    head := by
      show (t.ear.rcvbufHead + _) % _ = (t.ear.rcvbufTail + (t.ear.rcvbufCount + _)) % _
      rw [rcv.head, Nat.mod_add_mod, Nat.add_assoc]
    room := by
      have room : t.rcvbufCount ≤ kRcvBufBytes := rcv.room
      show t.rcvbufCount + (data.take t.rcvRoom).length ≤ _
      rw [length_take, Conn.rcvRoom]
      omega
    got := by
      obtain ⟨rest, eq⟩ := rcv.got
      rw [held, ← append_assoc, ← eq, prefix_append_right_inj]
      rw [← eq, drop_left] at pre
      exact ( take_prefix ..).trans pre
    next := fun _ => by
      show t.ear.rcvNxt + _ = _ + UInt32.ofNat (_ + t.ear.peerFinSeen.toNat)
      rw [rcv.next synced, held, UInt32.add_assoc, ← UInt32.ofNat_add, ← append_assoc,
        @length_append _ _ (data.take _), Nat.add_right_comm]
    early := fun opening => (nomatch synced.symm.trans opening)
    fin := fun seen => (nomatch unseen.symm.trans seen) }

end

lemma coalesceSlot {acc} (i) (rcv : p.Receives handed acc.2.ear ∧ acc.2.ear.opening = false) :
    p.Receives handed (coalesceSlot acc i).2.ear ∧ (coalesceSlot acc i).2.ear.opening = false := by
  obtain ⟨rcv, synced⟩ := rcv
  unfold Tcp.coalesceSlot
  dsimp only
  split
  · exact ⟨rcv, synced⟩
  next used =>
  split
  -- the slot comes next, like a segment in order
  next seq => exact ⟨(rcv.pushRcv synced (seq ▸ rcv.slots i (not_not.mp used))).freeOo i, synced⟩
  split
  · exact ⟨rcv.freeOo i, synced⟩
  · exact ⟨rcv, synced⟩

lemma coalesceLoop (passes) (rcv : p.Receives handed t.ear ∧ t.ear.opening = false) :
    p.Receives handed (coalesceLoop passes t).ear := by
  induction passes generalizing t with
  | zero => exact rcv.1
  | succ passes ih =>
    have pass := foldlRecOn (finRange kReassQueueMax) Tcp.coalesceSlot (b := (false, t))
      (motive := fun acc => p.Receives handed acc.2.ear ∧ acc.2.ear.opening = false) rcv
      fun acc rcv i _ => coalesceSlot i rcv
    unfold Tcp.coalesceLoop
    split
    · exact ih pass
    · exact pass.1

section

variable (rcv : p.Receives handed t.ear) (synced : t.ear.opening = false)

include rcv synced

lemma deliverPayload (carries : data ≠ [] → p.Carries seq data) :
    p.Receives handed (deliverPayload t seq data).ear := by
  unfold Tcp.deliverPayload
  split
  · exact rcv
  next some =>
  split
  · exact rcv
  split
  next seq =>
    exact coalesceLoop (kReassQueueMax + 1) ⟨rcv.pushRcv synced (seq ▸ carries some), synced⟩
  · exact rcv.stashOo (carries some)

variable (honest : p.Honest seg)

include honest

lemma deliverFin : p.Receives handed (deliverFin now seg t).ear := by
  unfold Tcp.deliverFin
  dsimp only
  split
  next fin =>
    obtain ⟨flag, fresh, seq⟩ := fin
    have last := honest.fin flag
    have len := rcv.got.length_le
    have short := p.short
    have zero : t.ear.peerFinSeen.toNat = 0 := congrArg Bool.toNat (Bool.not_eq_true _ ▸ fresh)
    have next := rcv.next synced
    rw [zero, Nat.add_zero, ← show _ = t.ear.rcvNxt from seq, last] at next
    -- a FIN in order has the number behind the last byte, so nothing of the stream is missing
    have whole := rcv.got.eq_of_length (number_inj (by omega) (by omega) next).symm
    have state : t.state ≠ .synSent ∧ t.state ≠ .closed :=
      ⟨of_decide_eq_false synced, of_decide_eq_false rcv.live⟩
    rw [finReceived_ear (by exact state)]
    refine { rcv with
      next := fun _ => ?_
      early := fun opening => (nomatch synced.symm.trans opening), fin := fun _ => whole }
    show seg.seq + _ + 1 = _ + UInt32.ofNat ((handed ++ t.ear.held).length + 1)
    rw [last, whole, UInt32.add_assoc, UInt32.ofNat_add]
    rfl
  · exact rcv

lemma deliverTail (ipCe) : p.Receives handed (deliverTail now ipCe seg t).conn.ear := by
  unfold Tcp.deliverTail
  generalize eq : (if hasFlag seg.flags kFlagAck ∧ ackInWindow seg.ack t.sndUna t.sndNxt then
      deliverAck now ipCe seg t else .alive t) = out
  have acked : out.conn.ear = t.ear := by
    rw [← eq]
    split
    · exact deliverAck_ear ipCe seg
    · rfl
  rw [← acked] at rcv synced
  cases out with
  | dropped t₁ => exact rcv
  | alive t₁ =>
    have mute : (Tcp.deliverPayload t₁ seg.seq seg.payload).ear.opening = t₁.ear.opening :=
      (congrArg (fun t : Conn => t.ear.opening) (deliverPayload_mute seg.seq seg.payload) :)
    dsimp only [Outcome.conn]
    rw [acknowledge_ear]
    exact (rcv.deliverPayload synced honest.data).deliverFin (mute.trans synced) honest

end

section

variable (rcv : p.Receives handed t.ear)

include rcv

lemma deliverSynSent (state : t.state = .synSent) (honest : p.Honest seg) (po) :
    p.Receives handed (deliverSynSent now seg po t).ear := by
  obtain ⟨none, unseen⟩ := rcv.early (decide_eq_true state)
  have start (flag : hasFlag seg.flags kFlagSyn) :
      seg.seq + 1 = p.isn + UInt32.ofNat
        ((handed ++ t.ear.held).length + t.ear.peerFinSeen.toNat) := by
    rw [none, unseen, honest.syn flag]
    exact (UInt32.add_zero p.isn).symm
  unfold Tcp.deliverSynSent
  split
  next flags =>
    dsimp only
    rw [ear_of_still ((drainSendBuffer_still 0).trans sendAck_still)]
    exact { rcv with next := fun _ => start flags.1, early := nofun, live := rfl }
  split
  next flags =>
    dsimp only
    rw [ear_of_still (sendSegment_still ..)]
    exact { rcv with next := fun _ => start flags.1, early := nofun, live := rfl }
  · exact rcv

lemma deliverHead (honest : p.Honest seg) (mac : MacAddress) :
    (deliverHead now heap mac seg t).Good (p.Receives handed) := by
  unfold Tcp.deliverHead
  dsimp only
  generalize eq : (if (parseOptions seg.opts).hasTimestamp
    then { t with peerSupportsTimestamps := true } else t) = t₁
  rw [show t.ear = t₁.ear by rw [← eq]; split <;> rfl] at rcv
  have acked {u : Conn} (rcv : p.Receives handed u.ear) :
    p.Receives handed (sendAck now u).ear := by
    rwa [ear_of_still sendAck_still]
  split
  · exact acked rcv
  generalize eq : (if (parseOptions seg.opts).hasTimestamp then
      { t₁ with tsRecent := (parseOptions seg.opts).tsval, tsRecentAgeTicks := now } else t₁) = t₂
  rw [show t₁.ear = t₂.ear by rw [← eq]; split <;> rfl] at rcv
  split
  · split
    · exact rcv
    · exact acked rcv
    · exact rcv
  have absorbed := ear_of_still (@absorbSack_still { t₂ with peerMac := mac } heap seg)
  generalize absorbSack _ seg _ = t₃ at absorbed ⊢
  rw [← show _ = t₂.ear from absorbed] at rcv
  split
  next state => exact rcv.deliverSynSent state honest _
  next state =>
    split
    · have window := @updateSendWindow_still t₃ seg.seq seg.ack seg.win seg.flags
      generalize updateSendWindow t₃ _ _ _ _ = u at window ⊢
      have settled : (settleSyn seg.ack u).ear = u.ear :=
        ear_of_state (by rw [state_of_still window, state]; decide) ⟨nofun, nofun⟩ rfl
      exact ⟨settled ▸ ear_of_still window ▸ rcv, rfl⟩
    · exact rcv
  next synced _ => exact ⟨rcv, decide_eq_false synced⟩

lemma deliverSegment (honest : p.Honest seg) (ipCe) (mac : MacAddress) :
    p.Receives handed (deliverSegment now heap ipCe mac seg t).conn.ear := by
  have head := @deliverHead t now heap p handed rcv seg honest mac
  unfold Tcp.deliverSegment
  generalize Tcp.deliverHead now heap mac seg t = out at head ⊢
  cases out with
  | done u | dropped u => exact head
  | accepted u | proceed u => exact head.1.deliverTail head.2 honest ipCe

lemma drop (le : n ≤ t.rcvbufCount) : p.Receives (handed ++ t.peekRcv n) (t.ear.drop n) := by
  have held : t.peekRcv n ++ (t.ear.drop n).held = t.ear.held := by
    unfold Ear.held Conn.peekRcv Ear.drop Conn.ear
    dsimp only
    rw [← Nat.add_sub_cancel' le, range_add, map_append, map_map]
    simp [Nat.add_assoc]
  have both := (append_assoc handed (t.peekRcv n) _).trans (congrArg _ held)
  refine { rcv with
    head := ?_, room := (Nat.sub_le ..).trans rcv.room, got := both ▸ rcv.got,
    next := both ▸ rcv.next,
    early := both ▸ rcv.early, fin := both ▸ rcv.fin }
  show t.ear.rcvbufHead = ((t.rcvbufTail + n) % _ + (t.rcvbufCount - n)) % _
  rw [rcv.head, Nat.mod_add_mod, Nat.add_assoc, Nat.add_sub_cancel' le]
  rfl

lemma recvConn (cap) :
    p.Receives (handed ++ (Output.received (recvConn now cap t).1).bytes)
      (recvConn now cap t).2.ear := by
  unfold Tcp.recvConn
  split
  · split <;> exact (append_nil handed).symm ▸ rcv
  have rest := rcv.drop (Nat.min_le_right cap t.rcvbufCount)
  dsimp only
  split
  · rw [ear_of_still sendAck_still]
    exact rest
  · exact rest

lemma respond (sends : p.Sends input) :
    p.Receives (handed ++ (respond input t).1.bytes) (respond input t).2.conn.ear := by
  have silent (same : (Tcp.respond input t).2.conn.ear = t.ear)
    (none : (Tcp.respond input t).1.bytes = []) :
      p.Receives (handed ++ (Tcp.respond input t).1.bytes) (Tcp.respond input t).2.conn.ear := by
    rwa [same, none, append_nil]
  cases input with
  | segment now heap ipCe mac seg =>
    rw [show (Tcp.respond _ t).1.bytes = [] from rfl, append_nil]
    exact rcv.deliverSegment sends ipCe mac
  | recv now cap => exact rcv.recvConn cap
  | tick now => exact silent timerConn_ear rfl
  | send now data => exact silent (sendConn_ear data) rfl
  | close now => exact silent closeConn_ear rfl
  | setKeepAlive now on => exact silent rfl rfl
  | setNoDelay on => exact silent rfl rfl

end

end Peer.Receives

/-- The connection as it starts: opened by `Connect`, or for a SYN of the peer by
`HandleListenSyn`. -/
inductive Peer.Opens (p : Peer) : Conn → Prop
  | connect (now iss) : p.Opens (connectConn now iss)
  | accept (now iss) (flag : hasFlag call.seg.flags kFlagSyn) (honest : p.Honest call.seg) :
    p.Opens (synConn now iss call)

lemma Peer.Opens.receives (opens : p.Opens t) : p.Receives [] t.ear := by
  cases opens with
  | connect now iss =>
    rw [show (connectConn now iss).ear = _
      from (ear_timers ..).trans (ear_of_still (sendSegment_still ..))]
    exact ⟨rfl, Nat.zero_le _, nil_prefix, nofun, fun _ => ⟨rfl, rfl⟩, rfl, nofun, nofun⟩
  | accept now iss flag honest =>
    rw [show (synConn now iss _).ear = _
      from (ear_timers ..).trans (ear_of_still (sendSegment_still ..))]
    have start := (honest.syn flag).trans (UInt32.add_zero p.isn).symm
    exact ⟨rfl, Nat.zero_le _, nil_prefix, fun _ => start, nofun, rfl, nofun, nofun⟩

/-- After every input. -/
lemma serve_receives (rcv : p.Receives handed t.ear) (sends : ∀ input ∈ inputs, p.Sends input) :
    p.Receives (handed ++ (serve inputs t).1.flatMap Output.bytes) (serve inputs t).2.conn.ear := by
  -- what was handed out before is a parameter of the invariant
  induction inputs generalizing handed t with
  | nil => exact (append_nil handed).symm ▸ rcv
  | cons input inputs ih =>
    rw [forall_mem_cons] at sends
    have rcv := rcv.respond sends.1
    unfold serve
    generalize respond input t = result at rcv ⊢
    obtain ⟨output, t₁ | t₁⟩ := result
    · have rest := ih rcv sends.2
      rw [append_assoc] at rest
      exact rest
    · rw [flatMap_singleton]
      exact rcv

/-- The bytes `RecvNonblocking` returns over the life of a connection are a prefix of the peer's
stream: none is lost, repeated or out of order, whatever the network does to the segments. -/
theorem received_in_order (opens : p.Opens t) (sends : ∀ input ∈ inputs, p.Sends input) :
    (serve inputs t).1.flatMap Output.bytes <+: p.stream := by
  exact (prefix_append ..).trans (serve_receives opens.receives sends).got

/-- A peer that sends four bytes. -/
def fourBytes : Peer := ⟨[1, 2, 3, 4], 1001, by decide⟩

/-- Its segments as the network delivers them: the second comes first, and the first comes twice. -/
def shuffled : List Segment :=
  [⟨1000, 1, kFlagSyn ||| kFlagAck, 8000, [], []⟩,
    ⟨1003, 1, kFlagAck ||| kFlagFin, 8000, [], [3, 4]⟩,
    ⟨1001, 1, kFlagAck, 8000, [], [1, 2]⟩, ⟨1001, 1, kFlagAck, 8000, [], [1, 2]⟩,
    ⟨1003, 1, kFlagAck ||| kFlagFin, 8000, [], [3, 4]⟩]

def shuffledInputs :
    List Input := shuffled.map (.segment 0 0 false 0) ++ [.recv 0 3, .recv 0 3, .recv 0 3]

lemma fourBytes_sends : ∀ input ∈ shuffledInputs, fourBytes.Sends input := by
  have honest : ∀ seg ∈ shuffled,
      (seg.payload ≠ [] → ∃ pos ≤ 4, seg.seq = 1001 + UInt32.ofNat pos ∧
        seg.payload <+: [1, 2, 3, 4].drop pos) ∧
      (hasFlag seg.flags kFlagSyn → seg.seq + 1 = 1001) ∧
      (hasFlag seg.flags kFlagFin →
        seg.seq + UInt32.ofNat seg.payload.length = 1001 + UInt32.ofNat 4) := by
    decide
  rw [shuffledInputs, forall_mem_append, forall_mem_map]
  refine ⟨fun seg mem => ?_, by simp [Peer.Sends]⟩
  obtain ⟨data, syn, fin⟩ := honest seg mem
  exact ⟨data, syn, fin⟩

theorem received_shuffled :
    (serve shuffledInputs (connectConn 0 0)).1.flatMap Output.bytes = [1, 2, 3, 4] ∧
    (serve shuffledInputs (connectConn 0 0)).1.flatMap Output.bytes <+: fourBytes.stream :=
  ⟨by decide +kernel, received_in_order (.connect 0 0) fourBytes_sends⟩

lemma recvConn_end (rcv : p.Receives handed t.ear) (pos : 0 < cap)
    (done : (recvConn now cap t).1 = .bytes []) : handed = p.stream := by
  unfold recvConn at done
  split at done
  next empty =>
    have none : t.ear.held = [] := by rw [Ear.held, show t.ear.rcvbufCount = 0 from empty]; rfl
    split at done
    next seen =>
      have whole := rcv.fin (seen.resolve_right (of_decide_eq_false rcv.live))
      rwa [none, append_nil] at whole
    · cases done
  next some =>
    have none := congrArg List.length (Received.bytes.inj done)
    rw [Conn.peekRcv, length_map, length_range, length_nil] at none
    omega

lemma serve_end (rcv : p.Receives handed t.ear) (sends : ∀ input ∈ inputs, p.Sends input)
    (call : inputs[k]? = some (.recv time cap)) (pos : 0 < cap)
    (done : (serve inputs t).1[k]? = some (.received (.bytes []))) :
    handed ++ ((serve inputs t).1.take k).flatMap Output.bytes = p.stream := by
  induction inputs generalizing handed t k with
  | nil => cases call
  | cons input inputs ih =>
    unfold serve at done ⊢
    cases k with
    | zero =>
      cases call
      have returned := Output.received.inj (Option.some.inj done)
      rw [take_zero, flatMap_nil, append_nil]
      exact recvConn_end rcv pos returned
    | succ k =>
      rw [forall_mem_cons] at sends
      have rcv := rcv.respond sends.1
      generalize respond input t = result at rcv done ⊢
      obtain ⟨output, t₁ | t₁⟩ := result
      · have rest := ih rcv sends.2 call done
        rw [append_assoc] at rest
        exact rest
      · cases done

/-- `RecvNonblocking` reports the end of the stream only after it has handed out every byte of
it. -/
theorem end_after_last_byte (opens : p.Opens t) (sends : ∀ input ∈ inputs, p.Sends input)
    (call : inputs[k]? = some (.recv time cap)) (pos : 0 < cap)
    (done : (serve inputs t).1[k]? = some (.received (.bytes []))) :
    ((serve inputs t).1.take k).flatMap Output.bytes = p.stream :=
  serve_end opens.receives sends call pos done

theorem end_after_four_bytes :
    ((serve shuffledInputs (connectConn 0 0)).1.take 7).flatMap Output.bytes = [1, 2, 3, 4] :=
  end_after_last_byte (.connect 0 0) fourBytes_sends (k := 7) rfl (by decide : 0 < 3)
    (by decide +kernel)

end DuetOS.Tcp
