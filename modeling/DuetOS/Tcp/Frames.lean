import DuetOS.Tcp.Calls

/-!
# What the sender leaves alone

The functions that send, retire and retransmit segments change the sender's fields and nothing else;
those that take in payload change the receiver's fields and nothing else.
-/

namespace DuetOS.Tcp

/-- The connection without its sender. -/
def Conn.still (t : Conn) : Conn :=
  { t with
    sndUna := 0, sndNxt := 0, sndWnd := 0, sndWl1 := 0, sndWl2 := 0
    sackHigh := 0, sack := {}, peerCePending := false, sentCwr := false, ecnReactSeq := 0
    cwnd := 0, ssthresh := 0, dupAcks := 0, inFastRecovery := false, cubic := {}
    rttHaveSample := false, srttTicks := 0, rttvarTicks := 0, rtoTicks := 0, retries := 0
    rtxDeadline := 0, persistDeadline := 0, persistBackoffTicks := 0
    sndbuf := fun _ => 0, sndbufHead := 0, sndbufTail := 0, sndbufCount := 0
    rtxQueue := fun _ => {}, rtxCount := 0, wire := [] }

/-- The connection without its receiver. -/
def Conn.mute (t : Conn) : Conn :=
  { t with
    rcvNxt := 0, rcvWnd := 0, rcvbuf := fun _ => 0, rcvbufHead := 0, rcvbufTail := 0,
    rcvbufCount := 0
    ooQueue := fun _ => {} }

variable {t t' : Conn} {now : Nat}

lemma ecnApplyTx_eq (flags : UInt8) (len) :
    ∃ cwr, (ecnApplyTx t flags len).2.2 = { t with sentCwr := cwr } := by
  unfold ecnApplyTx
  dsimp only
  split
  · exact ⟨_, rfl⟩
  · split
    · split <;> exact ⟨_, rfl⟩
    · exact ⟨_, rfl⟩

lemma sendSegment_eq (flags : UInt8) (seq ack : UInt32) (payload) :
    ∃ cwr wire, sendSegment now t flags seq ack payload = { t with sentCwr := cwr, wire } := by
  obtain ⟨cwr, eq⟩ := @ecnApplyTx_eq t flags payload.length
  unfold sendSegment
  split
  · exact ⟨_, _, rfl⟩
  dsimp only
  rw [eq]
  split
  · exact ⟨_, _, rfl⟩
  · exact ⟨_, _, rfl⟩

@[simp] lemma sendSegment_still (flags : UInt8) (seq ack : UInt32) (payload) :
    (sendSegment now t flags seq ack payload).still = t.still := by
  obtain ⟨_, _, eq⟩ := @sendSegment_eq t now flags seq ack payload
  rw [eq]
  rfl

@[simp] lemma sendAck_still : (sendAck now t).still = t.still := sendSegment_still ..

lemma cut_still (queue : Fin kRtxQueueMax → SegmentBuf) (tail count rtx) (next : UInt32) :
    { t with
      rtxQueue := queue, sndbufTail := tail, sndbufCount := count, rtxCount := rtx
      sndNxt := next }.still = t.still := rfl

lemma ensureTimer_still (t : Conn) :
    (if t.rtxDeadline = 0 then { t with rtxDeadline := now + t.rtoTicks.toNat } else t).still =
    t.still := by
  split <;> rfl

lemma drainOne_still (drained : drainOne now extra t = some t') : t'.still = t.still := by
  unfold drainOne at drained
  split at drained
  · dsimp only at drained
    split at drained
    · cases drained
    split at drained
    · cases drained
    next slot _ =>
      rw [← Option.some.inj drained]
      exact (ensureTimer_still _).trans ((sendSegment_still ..).trans (cut_still ..))
  · cases drained

lemma drainLoop_still (passes) : (drainLoop now extra passes t).still = t.still := by
  induction passes generalizing t with
  | zero => rfl
  | succ passes ih =>
    unfold drainLoop
    split
    · rfl
    next drained => exact ih.trans (drainOne_still drained)

lemma updatePersist_still : (updatePersist now t).still = t.still := by
  unfold updatePersist
  split
  · split <;> rfl
  · rfl

@[simp] lemma drainSendBuffer_still (extra : UInt32) :
    (drainSendBuffer now extra t).still = t.still := by
  unfold drainSendBuffer
  split
  · rfl
  · exact updatePersist_still.trans (drainLoop_still _)

lemma applySackBlock_still (acc block) : (applySackBlock acc block).2.still = acc.2.still := by
  unfold applySackBlock
  dsimp only
  split <;> rfl

@[simp] lemma applySackScoreboard_still (blocks) :
    (applySackScoreboard t blocks).2.still = t.still := by
  refine blocks.foldlRecOn (motive := fun acc : Bool × Conn => acc.2.still = t.still) _ rfl
    fun acc same block _ => ?_
  exact (applySackBlock_still acc block).trans same

@[simp] lemma resendSlot_still (slot) : (resendSlot now t slot).still = t.still :=
  sendSegment_still ..

lemma sackRetransmitHole_still (hole) : (sackRetransmitHole now t hole).2.still = t.still := by
  unfold sackRetransmitHole
  split
  · rfl
  · split
    · rfl
    next slot _ => exact resendSlot_still slot

def Pass.conn : Pass → Conn
  | .stop t | .next _ t => t

lemma recoverHole_still (hole) : (recoverHole now t hole).conn.still = t.still := by
  cases hole with
  | none => rfl
  | some hole => exact sackRetransmitHole_still hole

lemma recoverOne_still : (recoverOne now t).conn.still = t.still := by
  unfold recoverOne
  dsimp only
  split
  · rfl
  split
  next hole _ => exact recoverHole_still (some hole)
  have drained : (if 0 < t.sndbufCount ∧ sackSetPipe t ≤ (t.sndNxt - t.sndUna).toNat then
      drainSendBuffer now (t.sndNxt - t.sndUna - UInt32.ofNat (sackSetPipe t)) t else t).still =
        t.still := by
    split
    · exact drainSendBuffer_still _
    · rfl
  generalize (if 0 < t.sndbufCount ∧ sackSetPipe t ≤ (t.sndNxt - t.sndUna).toNat then
      drainSendBuffer now (t.sndNxt - t.sndUna - UInt32.ofNat (sackSetPipe t)) t else t) = u
        at drained ⊢
  split
  · exact drained
  · exact (recoverHole_still _).trans drained

lemma recoverLoop_still (passes sent) : (recoverLoop now passes sent t).2.still = t.still := by
  induction passes generalizing sent t with
  | zero => rfl
  | succ passes ih =>
    unfold recoverLoop
    have one := @recoverOne_still t now
    split
    next stopped =>
      rw [stopped] at one
      exact one
    next more _ went =>
      rw [went] at one
      exact (ih _).trans one

@[simp] lemma sackRecoveryTransmit_still : (sackRecoveryTransmit now t).still = t.still := by
  unfold sackRecoveryTransmit
  dsimp only
  split
  all_goals exact recoverLoop_still _ _

@[simp] lemma sackEnterRecovery_still : (sackEnterRecovery now t).still = t.still := by
  unfold sackEnterRecovery
  dsimp only
  rw [sackRecoveryTransmit_still]
  split
  · rfl
  next hole _ => exact sackRetransmitHole_still hole

@[simp] lemma updateSendWindow_still (seq ack win : UInt32) (flags : UInt8) :
    (updateSendWindow t seq ack win flags).still = t.still := by
  unfold updateSendWindow
  split
  · rfl
  · split <;> rfl

@[simp] lemma reduceSsthresh_still (fallback : UInt32) :
    (reduceSsthresh fallback t).still = t.still := by
  unfold reduceSsthresh
  dsimp only
  split <;> rfl

@[simp] lemma ecnReact_still (ipCe) (flags : UInt8) : (ecnReact ipCe flags t).still = t.still := by
  have echoed : ∀ t : Conn, (ecnOnEce t).still = t.still := fun t => by
    unfold ecnOnEce
    split
    · rfl
    · exact reduceSsthresh_still _
  unfold ecnReact
  dsimp only
  split
  · split
    · rw [echoed]
      split <;> split <;> rfl
    · split <;> split <;> rfl
  · rfl

lemma rttSample_still (tsecr : UInt32) : (rttSample now tsecr t).still = t.still := by
  unfold rttSample
  split <;> rfl

lemma ackSlot_still (ack : UInt32) (echo acc i) :
    (ackSlot now ack echo acc i).2.still = acc.2.still := by
  unfold ackSlot
  dsimp only
  split
  · split
    · split
      · exact rttSample_still _
      · rfl
    · rfl
  · rfl

lemma growCwnd_still (acked) : (growCwnd now acked t).still = t.still := by
  unfold growCwnd
  by_cases slow : t.cwnd < t.ssthresh
  · rw [if_pos slow]
    rfl
  rw [if_neg slow]
  by_cases cubic : t.cubic.enabled
  · rw [if_pos cubic]
    rfl
  · rw [if_neg cubic]
    rfl

lemma processed_still (t : Conn) (retries deadline : Nat) (dupAcks : UInt32) :
    { t with retries, dupAcks, rtxDeadline := deadline }.still = t.still := rfl

@[simp] lemma processAck_still (ack : UInt32) (echo : Option UInt32) (grow : Bool) :
    (processAck now ack echo grow t).still = t.still := by
  have retired := (List.finRange kRtxQueueMax).foldlRecOn
    (motive := fun acc : Nat × Conn => acc.2.still = t.still)
    (ackSlot now ack echo) (b := (0, t)) rfl fun acc same i _ =>
      (ackSlot_still ack echo acc i).trans same
  unfold processAck
  generalize (List.finRange kRtxQueueMax).foldl _ _ = out at retired ⊢
  dsimp only
  split
  · split
    · exact (processed_still _ _ _ _).trans ((growCwnd_still _).trans retired)
    · exact retired
  · exact retired

@[simp] lemma onDuplicateAck_still : (onDuplicateAck now t).still = t.still := by
  have entered : ∀ t : Conn, (enterFastRecovery now t).still = t.still := fun t => by
    unfold enterFastRecovery
    dsimp only
    split
    · rw [sackEnterRecovery_still]
      exact reduceSsthresh_still _
    split
    · exact reduceSsthresh_still _
    next slot _ =>
      rw [resendSlot_still]
      exact reduceSsthresh_still _
  unfold onDuplicateAck
  dsimp only
  split
  · exact entered _
  split
  · split
    · exact sackRecoveryTransmit_still
    · rfl
  · split
    · exact drainSendBuffer_still _
    · rfl

@[simp] lemma onNewAck_still (ack : UInt32) (echo) : (onNewAck now ack echo t).still = t.still := by
  unfold onNewAck
  split
  · split
    · rw [sackRecoveryTransmit_still, processAck_still]
      rfl
    · rw [processAck_still]
      rfl
  · rw [processAck_still]
    rfl

@[simp] lemma absorbSack_still (seg) : (absorbSack heap seg t).still = t.still := by
  unfold absorbSack
  dsimp only
  split
  · split
    all_goals exact applySackScoreboard_still _
  · rfl

@[simp] lemma retransmitFirstUnacked_still : (retransmitFirstUnacked now t).still = t.still := by
  unfold retransmitFirstUnacked
  split
  · rfl
  next slot _ =>
  have resent : ∀ t : Conn, ∀ retries, { resendSlot now t slot with retries }.still = t.still :=
    fun t _ => @resendSlot_still t now slot
  refine (resent _ _).trans ?_
  exact reduceSsthresh_still _

lemma coalesceSlot_mute (acc i) : (coalesceSlot acc i).2.mute = acc.2.mute := by
  unfold coalesceSlot
  dsimp only
  split
  · rfl
  · split
    · rfl
    · split <;> rfl

lemma coalescePass_mute : (coalescePass t).2.mute = t.mute := by
  refine List.foldlRecOn (motive := fun acc : Bool × Conn => acc.2.mute = t.mute) _ _ rfl
    fun acc same i _ => ?_
  exact (coalesceSlot_mute acc i).trans same

lemma coalesceLoop_mute (passes) : (coalesceLoop passes t).mute = t.mute := by
  induction passes generalizing t with
  | zero => rfl
  | succ passes ih =>
    unfold coalesceLoop
    split
    · exact ih.trans coalescePass_mute
    · exact coalescePass_mute

@[simp] lemma deliverPayload_mute (seq : UInt32) (data) :
    (deliverPayload t seq data).mute = t.mute := by
  unfold deliverPayload
  split
  · rfl
  split
  · rfl
  split
  · exact coalesceLoop_mute _
  unfold stashOo
  split
  · rfl
  · split <;> rfl

end DuetOS.Tcp
