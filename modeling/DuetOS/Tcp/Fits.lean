import DuetOS.Tcp.Endpoint
import DuetOS.Tcp.Frames

/-!
# Frames that fit

`SendSegment` has room for 40 bytes of options. A timestamp and four selective acknowledgements take
48, so the block is overrun and the header announces the wrong length; and `DrainSendBuffer` cuts
segments of `mss_send` bytes whatever the options take, so that `SendSegment` refuses them.
-/

namespace DuetOS.Tcp

open List

def optionBytes (t : Conn) (syn : Bool) : Nat :=
  if syn then 24
  else (if t.peerSupportsTimestamps then 12 else 0) +
    if t.peerSupportsSack ∧
      0 < ooSegmentCount t then 4 + 8 * min kMaxSackBlocks (ooSegmentCount t) else 0

/-- `SendSegment` sends a frame with this payload and the options of `BuildOptions`. Its data offset
is the length of the header, if these have at most 40 bytes. -/
def Emits (now : Nat) (t : Conn) (flags : UInt8) (seq ack : UInt32) (payload : List UInt8) : Prop :=
  ∃ frame : Frame, (sendSegment now t flags seq ack payload).wire = t.wire ++ [frame] ∧
    frame.payload = payload ∧
    frame.options.length = (buildOptions t flags now).length ∧
    (frame.options.length ≤ 40 → frame.dataOffset.toNat / 16 * 4 = 20 + frame.options.length)

lemma sackOption_length (t) :
    (sackOption t).length = 4 + 8 * min kMaxSackBlocks (ooSegmentCount t) := by
  simp [sackOption, ooSegmentCount, bigEndian, length_flatMap, countP_eq_length_filter]
  omega

/-- The options have the length that is announced for them. -/
lemma buildOptions_length (t flags now) :
    (buildOptions t flags now).length = optionBytes t (hasFlag flags kFlagSyn) := by
  unfold buildOptions optionBytes
  have sacks := sackOption_length t
  have stamps : (timestampOption t now).length = 12 := rfl
  cases hasFlag flags kFlagSyn with
  | true => simp [synOptions, stamps]
  | false =>
    by_cases timestamps : t.peerSupportsTimestamps <;>
      by_cases held : t.peerSupportsSack ∧ 0 < ooSegmentCount t <;>
        simp [timestamps, held, stamps, sacks]
    all_goals omega

lemma hasFlag_or {flags other : UInt8} (apart : other &&& kFlagSyn = 0) :
    hasFlag (flags ||| other) kFlagSyn = hasFlag flags kFlagSyn := by
  have same : (flags ||| other) &&& kFlagSyn = flags &&& kFlagSyn := by
    refine UInt8.toBitVec_inj.mp (BitVec.and_or_distrib_right.trans ?_)
    rw [show other.toBitVec &&& kFlagSyn.toBitVec = 0 from congrArg UInt8.toBitVec apart]
    exact BitVec.or_zero
  rw [hasFlag, same, hasFlag]

/-- The ECN transform keeps the SYN flag and what the options depend on. -/
lemma ecnApplyTx_options (t flags len now) :
    (buildOptions (ecnApplyTx t flags len).2.2 (ecnApplyTx t flags len).1 now).length =
      (buildOptions t flags now).length := by
  have syn : hasFlag (ecnApplyTx t flags len).1 kFlagSyn = hasFlag flags kFlagSyn := by
    unfold ecnApplyTx
    dsimp only
    split_ifs <;> simp only [hasFlag_or (show kFlagEce &&& kFlagSyn = 0 from rfl),
      hasFlag_or (show kFlagCwr &&& kFlagSyn = 0 from rfl)]
  obtain ⟨cwr, eq⟩ := @ecnApplyTx_eq t flags len
  rw [buildOptions_length, buildOptions_length, eq, syn]
  rfl

/-- The data offset has four bits, enough for 40 bytes of options. -/
lemma dataOffset_decodes {len : Nat} (words : len % 4 = 0) (le : len ≤ 40) :
    (UInt8.ofNat ((20 + len) / 4 * 16)).toNat / 16 * 4 = 20 + len := by
  rw [UInt8.toNat_ofNat']
  omega

lemma buildOptions_words (t flags now) : (buildOptions t flags now).length % 4 = 0 := by
  rw [buildOptions_length]
  unfold optionBytes
  split_ifs <;> omega

/-- `SendSegment` refuses exactly what does not fit with its options. -/
lemma sendSegment_emits (now t flags seq ack payload) :
    Emits now t flags seq ack payload ↔
      payload.length + (buildOptions t flags now).length ≤ kSegmentBytes := by
  have length := ecnApplyTx_options t flags payload.length now
  have words := buildOptions_words t flags now
  have wire : (ecnApplyTx t flags payload.length).2.2.wire = t.wire := by
    obtain ⟨cwr, eq⟩ := @ecnApplyTx_eq t flags payload.length
    rw [eq]
  have refused : ∀ frame, t.wire ≠ t.wire ++ [frame] := by simp
  unfold Emits sendSegment
  split
  · exact iff_of_false (fun ⟨frame, sent, _⟩ => refused frame sent) (by omega)
  generalize ecnApplyTx t flags payload.length = sent at length wire ⊢
  obtain ⟨flags', tos, t'⟩ := sent
  dsimp only at length wire ⊢
  unfold frameLen kEthFrameMaxBytes kSegmentBytes
  rw [← length] at words ⊢
  split
  next long =>
    exact iff_of_false (fun ⟨frame, sent, _⟩ => refused frame (wire.symm.trans sent)) (by omega)
  next short =>
    exact iff_of_true ⟨_, congrArg (· ++ _) wire, rfl, rfl, dataOffset_decodes words⟩ (by omega)

lemma sendTake_le (t extra) : sendTake t extra ≤ t.mssSend.toNat := by
  unfold sendTake
  dsimp only
  split
  · exact Nat.zero_le _
  · exact (Nat.min_le_left ..).trans (Nat.min_le_right ..)

lemma drainOne_places (drained : drainOne now extra t = some t') (i) :
    t'.rtxQueue i = t.rtxQueue i ∨ (t'.rtxQueue i).data.length ≤ t.mssSend.toNat := by
  have sent : ∀ (c : Conn) flags seq ack payload,
    (sendSegment now c flags seq ack payload).rtxQueue = c.rtxQueue := by
    intro c flags seq ack payload
    obtain ⟨_, _, eq⟩ := @sendSegment_eq c now flags seq ack payload
    rw [eq]
  have armed : ∀ c : Conn,
    (if c.rtxDeadline = 0 then { c with rtxDeadline := now + c.rtoTicks.toNat } else c).rtxQueue =
      c.rtxQueue := by
    intro c
    split <;> rfl
  unfold drainOne at drained
  dsimp only at drained
  split_ifs at drained
  split at drained
  · cases drained
  next slot _ =>
    rw [← Option.some.inj drained, armed, sent]
    dsimp only
    by_cases at_slot : i = slot
    · rw [at_slot, Function.update_self, Conn.peekSend, length_map, length_range]
      exact .inr (sendTake_le t extra)
    · exact .inl (Function.update_of_ne at_slot ..)

/-- The induction is on the passes; each one fills a slot with at most `mss_send` bytes. -/
lemma drainLoop_places (passes i) : (drainLoop now extra passes t).rtxQueue i = t.rtxQueue i ∨
    ((drainLoop now extra passes t).rtxQueue i).data.length ≤ t.mssSend.toNat := by
  induction passes generalizing t with
  | zero => exact .inl rfl
  | succ passes ih =>
    unfold drainLoop
    split
    · exact .inl rfl
    next t' drained =>
      have same : t'.mssSend = t.mssSend := (congrArg Conn.mssSend (drainOne_still drained) :)
      rcases @ih t' with kept | length
      · rw [kept]
        exact drainOne_places drained i
      · exact .inr (same ▸ length)

lemma drainSendBuffer_places (now extra t i) :
    (drainSendBuffer now extra t).rtxQueue i = t.rtxQueue i ∨
    ((drainSendBuffer now extra t).rtxQueue i).data.length ≤ t.mssSend.toNat := by
  unfold drainSendBuffer
  split
  · exact .inl rfl
  · have queue : ∀ c, (updatePersist now c).rtxQueue = c.rtxQueue := by
      intro c
      unfold updatePersist
      split_ifs <;> rfl
    rw [queue]
    exact drainLoop_places ..

/-- The option block is a whole number of words, and has at most 40 bytes unless it takes a
timestamp and four blocks of selective acknowledgements. `SendSegment` sends what leaves room for
the block. A segment that `DrainSendBuffer` places is sent, then and whenever it is sent again, if
`mss_send` leaves room for the block. -/
theorem every_frame_fits (t : Conn) (now : Nat) :
    (∀ flags, (buildOptions t flags now).length % 4 = 0 ∧ ((buildOptions t flags now).length ≤ 40 ↔
      (t.peerSupportsTimestamps → t.peerSupportsSack → 4 ≤ ooSegmentCount t →
        hasFlag flags kFlagSyn))) ∧
    (∀ flags seq ack payload, Emits now t flags seq ack payload ↔
      payload.length + (buildOptions t flags now).length ≤ kSegmentBytes) ∧
    ∀ extra i, let sb := (drainSendBuffer now extra t).rtxQueue i
      sb ≠ t.rtxQueue i → ∀ u later seq ack,
        t.mssSend.toNat + (buildOptions u sb.flags later).length ≤ kSegmentBytes →
        Emits later u sb.flags seq ack sb.data := by
  refine ⟨fun flags => ⟨buildOptions_words .., ?_⟩, sendSegment_emits now t,
    fun extra i placed u later seq ack room => ?_⟩
  · rw [buildOptions_length]
    unfold optionBytes kMaxSackBlocks
    cases hasFlag flags kFlagSyn <;> cases t.peerSupportsTimestamps <;>
      cases t.peerSupportsSack <;> simp
    all_goals
      split_ifs <;> omega
  · have length := (drainSendBuffer_places now extra t i).resolve_left placed
    exact (sendSegment_emits ..).mpr (by omega)

/-- An established connection with two bytes to send. -/
def speaking : Conn := { state := .established, sndbufCount := 2, nodelay := true }

/-- The segment its bytes are cut into. -/
def spoken : SegmentBuf := (drainSendBuffer 0 0 speaking).rtxQueue ⟨0, by decide⟩

/-- Its options fit, its bytes are sent, and the segment they are cut into is sent again later. -/
theorem every_frame_fits_speaking : (buildOptions speaking kFlagAck 0).length ≤ 40 ∧
    Emits 0 speaking kFlagAck 0 0 [0x41, 0x42] ∧ spoken ≠ speaking.rtxQueue ⟨0, by decide⟩ ∧
    Emits 5 speaking spoken.flags 0 0 spoken.data := by
  obtain ⟨options, emits, again⟩ := every_frame_fits speaking 0
  have placed : spoken ≠ speaking.rtxQueue ⟨0, by decide⟩ := by
    intro same
    have lengths := congrArg (fun sb : SegmentBuf => sb.data.length) same
    exact absurd lengths (by decide +kernel)
  exact ⟨(options kFlagAck).2.mpr (by decide),
    (emits kFlagAck 0 0 _).mpr (by decide +kernel), placed,
    again 0 ⟨0, by decide⟩ placed speaking 5 0 0 (by decide +kernel)⟩

/-- The peer answers a SYN with sequence number 0 and offers selective acknowledgements and
timestamps, and then sends every other byte of eight. -/
def gappedInputs : List Input :=
  .segment 0 0 false 0
    ⟨1000, 1, kFlagSyn ||| kFlagAck, 4096, [4, 2, 8, 10, 0, 0, 0, 1, 0, 0, 0, 0], []⟩ ::
    [1002, 1004, 1006, 1008].map fun seq =>
      .segment 0 0 false 0 ⟨seq, 1, kFlagAck, 4096, [], [0x41]⟩

/-- The acknowledgement of the last of them has 48 bytes of options, in a block of 40, and announces
a header of four bytes. -/
theorem options_overrun :
    ((serve gappedInputs (connectConn 0 0)).2.conn.wire.getLast?.map fun frame =>
    (frame.options.length, frame.dataOffset.toNat / 16 * 4)) = some (48, 4) := by
  decide +kernel

end DuetOS.Tcp
