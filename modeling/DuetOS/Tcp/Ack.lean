import DuetOS.Tcp.Sack

/-!
# Acknowledgements

`ProcessAck` retires what an acknowledgement covers, and the congestion window reacts to
acknowledgements, duplicates and ECN echoes.
-/

namespace DuetOS.Tcp

open SeqNum

def ackInWindow (ack sndUna sndNxt : UInt32) : Bool := ack - sndUna ≤ sndNxt - sndUna

section

variable (now : Nat) (ack : UInt32) (echo : Option UInt32) (t : Conn)

def decodePeerWindow (rawWindow : UInt32) (flags : UInt8) : UInt32 :=
  rawWindow <<< (if ¬hasFlag flags kFlagSyn ∧ t.peerSupportsWscale then t.sndWscale.toUInt32 else 0)

def updateSendWindow (segSeq segAck rawWindow : UInt32) (flags : UInt8) : Conn :=
  if ¬hasFlag flags kFlagAck then t
  else if ¬gt segSeq t.sndWl1 ∧ (segSeq ≠ t.sndWl1 ∨ ¬geq segAck t.sndWl2) then t
  else { t with sndWnd := decodePeerWindow t rawWindow flags, sndWl1 := segSeq, sndWl2 := segAck }

/-- The slow-start threshold after a loss: CUBIC's, or `fallback` without CUBIC, and at least two
segments. -/
def reduceSsthresh (fallback : UInt32) (t : Conn) : Conn :=
  let mss := if t.mssSend = 0 then 1 else t.mssSend
  let t :=
    if t.cubic.enabled then
      let (cubic, pkts) :=
        cubicRecalcSsthresh t.cubic (if t.cwnd / mss = 0 then 1 else t.cwnd / mss)
      { t with cubic, ssthresh := pkts * mss }
    else { t with ssthresh := fallback }
  { t with ssthresh := if t.ssthresh < 2 * t.mssSend then 2 * t.mssSend else t.ssthresh }

def ecnOnEce : Conn :=
  if t.inFastRecovery ∨ ¬geq t.sndUna t.ecnReactSeq then t
  else
    let t := reduceSsthresh (t.cwnd / 2) t
    { t with cwnd := t.ssthresh, sentCwr := true, ecnReactSeq := t.sndNxt }

/-- The ECN part of an acceptable acknowledgement. -/
def ecnReact (ipCe : Bool) (flags : UInt8) (t : Conn) : Conn :=
  if t.ecnOk ∧ ¬hasFlag flags kFlagSyn then
    let t := if ipCe then { t with peerCePending := true } else t
    let t := if hasFlag flags kFlagCwr then { t with peerCePending := false } else t
    if hasFlag flags kFlagEce then ecnOnEce t else t
  else t

def rttSample (tsecr : UInt32) (t : Conn) : Conn :=
  if now < tsecr.toNat then t
  else
    let rtt := UInt32.ofNat (now - tsecr.toNat)
    let cubic :=
      if t.cubic.delayMinTicks = 0 ∨
        rtt < t.cubic.delayMinTicks then { t.cubic with delayMinTicks := rtt }
      else t.cubic
    let (srtt, rttvar) :=
      if ¬t.rttHaveSample then (rtt, rtt / 2)
      else
        let diff := if t.srttTicks < rtt then rtt - t.srttTicks else t.srttTicks - rtt
        (t.srttTicks - (t.srttTicks >>> 3) + (rtt >>> 3),
          t.rttvarTicks - (t.rttvarTicks >>> 2) + (diff >>> 2))
    let rto := srtt + (rttvar <<< 2)
    let rto := if rto < msToTicks kMinRtoMs then msToTicks kMinRtoMs else rto
    let rto := if msToTicks kMaxRtoMs < rto then msToTicks kMaxRtoMs else rto
    { t with
      cubic, rttHaveSample := true, srttTicks := srtt, rttvarTicks := rttvar, rtoTicks := rto }

/-- One slot of the loop of `ProcessAck`: the bytes retired so far, and the connection. -/
def ackSlot (acc : Nat × Conn) (i : Fin kRtxQueueMax) : Nat × Conn :=
  let t := acc.2
  let sb := t.rtxQueue i
  if sb.data ≠ [] ∧ ackInWindow sb.stop t.sndUna ack then
    let t :=
      match echo with
      | some tsecr => if tsecr ≠ 0 then rttSample now tsecr t else t
      | none => t
    (acc.1 + sb.data.length, { t with
      rtxQueue := Function.update t.rtxQueue i { sb with data := [] }, rtxCount := t.rtxCount - 1 })
  else acc

/-- Slow start, then CUBIC with NewReno as its floor. -/
def growCwnd (acked : Nat) (t : Conn) : Conn :=
  let t :=
    if t.cwnd < t.ssthresh then { t with cwnd := t.cwnd + t.mssSend }
    else
      let mss := if t.mssSend = 0 then 1 else t.mssSend
      let reno := t.cwnd + mss * mss / (if t.cwnd = 0 then 1 else t.cwnd)
      if t.cubic.enabled then
        let pkts := if t.cwnd / mss = 0 then 1 else t.cwnd / mss
        let ackedPkts := (UInt32.ofNat acked + mss - 1) / mss
        let c := cubicUpdate t.cubic (UInt64.ofNat now) pkts
          (if ackedPkts = 0 then 1 else ackedPkts)
        let c := { c with cwndCnt := c.cwndCnt + 1 }
        let (pkts, c) := if c.cnt ≤ c.cwndCnt then (pkts + 1, { c with cwndCnt := 0 })
          else (pkts, c)
        { t with cubic := c, cwnd := if reno < pkts * mss then pkts * mss else reno }
      else { t with cwnd := reno }
  { t with cwnd := if 0x7FFFFFFF < t.cwnd then 0x7FFFFFFF else t.cwnd }

/-- C++ `ProcessAck`; `echo` is the echoed timestamp, when the segment has one. -/
def processAck (grow : Bool) (t : Conn) : Conn :=
  let (acked, t) := (List.finRange kRtxQueueMax).foldl (ackSlot now ack echo) (0, t)
  let t :=
    if 0 < acked then
      let t := { t with sndUna := ack }
      let t := if grow then growCwnd now acked t else t
      { t with retries := 0, dupAcks := 0 }
    else t
  { t with rtxDeadline := if t.rtxCount = 0 then 0 else now + t.rtoTicks.toNat }

/-- The first segment that was not acknowledged, unless the peer holds it. -/
def firstUnsacked : Option (Fin kRtxQueueMax) :=
  (List.finRange kRtxQueueMax).find? fun i =>
    (t.rtxQueue i).data ≠ [] ∧ ¬(t.rtxQueue i).sacked ∧ (t.rtxQueue i).seq = t.sndUna

/-- The third duplicate acknowledgement. -/
def enterFastRecovery : Conn :=
  let t := reduceSsthresh (t.cwnd / 2) { t with inFastRecovery := true }
  if t.sack.holes ≠ [] then sackEnterRecovery now { t with cwnd := t.ssthresh }
  else
    let t := { t with
      cwnd := t.ssthresh + 3 * t.mssSend,
      sack := { t.sack with recoveryPoint := t.sndNxt, highRxt := t.sndUna } }
    match firstUnsacked t with
    | none => t
    | some slot => resendSlot now t slot

def onDuplicateAck : Conn :=
  let t := { t with dupAcks := t.dupAcks + 1 }
  if t.dupAcks = 3 ∧ ¬t.inFastRecovery then enterFastRecovery now t
  else if t.inFastRecovery then
    if t.sack.holes ≠ [] then sackRecoveryTransmit now t else { t with cwnd := t.cwnd + t.mssSend }
  else if t.dupAcks < 3 then drainSendBuffer now (t.dupAcks * t.mssSend) t
  else t

def onNewAck : Conn :=
  if t.inFastRecovery ∧ ack ≠ t.sndUna then
    if t.peerSupportsSack ∧ ack ≠ t.sack.recoveryPoint ∧
      ackInWindow ack t.sndUna t.sack.recoveryPoint then
      -- a partial acknowledgement keeps the episode open
      sackRecoveryTransmit now (processAck now ack echo false (sackOnCumulativeAck t ack))
    else
      processAck now ack echo true
        (sackOnCumulativeAck { t with inFastRecovery := false, cwnd := t.ssthresh } ack)
  else processAck now ack echo true (sackOnCumulativeAck t ack)

end

end DuetOS.Tcp
