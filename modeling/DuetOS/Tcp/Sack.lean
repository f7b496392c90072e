import Mathlib.Algebra.GroupWithZero.Nat
import DuetOS.Tcp.Send

/-!
# SACK loss recovery

The sender's scoreboard: which segments of the retransmit queue the peer holds, the gaps between
them, and the recovery that retransmits the gaps. `heap` is the number of `SackHole` allocations
that succeed.
-/

namespace DuetOS.Tcp

open SeqNum

def kSackDupThresh : Nat := 3
def kSackHoleMax : Nat := kRtxQueueMax

def segCoveredByBlock (sb : SegmentBuf) (block : SackBlock) : Bool :=
  ¬asI32 (block.right - block.left) ≤ 0 ∧ geq sb.seq block.left ∧ geq block.right sb.stop

/-- One block of `ApplySackScoreboard`: whether a segment was marked, and the connection. -/
def applySackBlock (acc : Bool × Conn) (block : SackBlock) : Bool × Conn :=
  let t := acc.2
  if asI32 (block.right - t.sndUna) ≤ 0 then acc
  else
    let covered (sb : SegmentBuf) : Bool := sb.data ≠ [] ∧ ¬sb.sacked ∧ segCoveredByBlock sb block
    (acc.1 || decide (∃ i, covered (t.rtxQueue i)), { t with
        sackHigh := if gt block.right t.sackHigh then block.right else t.sackHigh
        rtxQueue := fun i =>
          if covered (t.rtxQueue i) then { t.rtxQueue i with sacked := true } else t.rtxQueue i })

section

variable (now : Nat) (t : Conn) (seq : UInt32)

def applySackScoreboard (blocks : List SackBlock) : Bool × Conn :=
  blocks.foldl applySackBlock (false, t)

def sackScoreboardClear : Conn := { t with sack := {} }

/-- Insert a slot behind the slots that start no later. -/
def insertSlot (t : Conn) (slot : Fin kRtxQueueMax) :
    List (Fin kRtxQueueMax) → List (Fin kRtxQueueMax)
  | [] => [slot]
  | first :: rest =>
    if (t.rtxQueue slot).seq - t.sndUna < (t.rtxQueue first).seq - t.sndUna
      then slot :: first :: rest
    else first :: insertSlot t slot rest

/-- The slots below the highest selective acknowledgement that the peer does not hold, in sequence
order. -/
def missingSlots : List (Fin kRtxQueueMax) :=
  let order := (List.finRange kRtxQueueMax).filter fun i =>
    (t.rtxQueue i).data ≠ [] ∧ ¬(t.rtxQueue i).sacked ∧ geq (t.rtxQueue i).seq t.sndUna ∧
      geq t.sackHigh (t.rtxQueue i).stop
  order.foldl (fun sorted slot => insertSlot t slot sorted) []

/-- Join adjacent segments into holes; `last` is the hole that may still grow. -/
def coalesceHoles : Nat → List SegmentBuf → List SackHole → Option SackHole → List SackHole
  | _, [], holes, last => holes ++ last.toList
  | heap, sb :: rest, holes, last =>
    match last with
    | some hole =>
      if hole.stop = sb.seq then coalesceHoles heap rest holes (some { hole with stop := sb.stop })
      else if kSackHoleMax ≤ holes.length + 1 ∨ heap = 0 then holes ++ [hole]
      else coalesceHoles (heap - 1) rest (holes ++ [hole]) (some ⟨sb.seq, sb.stop, sb.seq⟩)
    | none =>
      if heap = 0 then holes
      else coalesceHoles (heap - 1) rest holes (some ⟨sb.seq, sb.stop, sb.seq⟩)

/-- What was retransmitted in this episode stays retransmitted. -/
def restoreProgress (highRxt : UInt32) (hole : SackHole) : SackHole :=
  if geq highRxt hole.stop then { hole with rxmit := hole.stop }
  else if gt highRxt hole.start then { hole with rxmit := highRxt }
  else hole

def sackScoreboardRebuild (heap : Nat) (t : Conn) : Conn :=
  let holes := coalesceHoles heap ((missingSlots t).map t.rtxQueue) [] none
  let holes := if t.inFastRecovery then holes.map (restoreProgress t.sack.highRxt) else holes
  { t with sack := { t.sack with holes } }

/-- What a cumulative acknowledgement leaves of a hole. -/
def trimHole (ack : UInt32) (hole : SackHole) : Option SackHole :=
  if ¬gt hole.stop ack then none
  else if gt ack hole.start then
    some { hole with start := ack, rxmit := if gt ack hole.rxmit then ack else hole.rxmit }
  else some hole

def sackOnCumulativeAck (ack : UInt32) : Conn :=
  { t with
    sack := { t.sack with holes := t.sack.holes.filterMap (trimHole ack) }
    sackHigh := if gt ack t.sackHigh then ack else t.sackHigh }

def sackOnRto : Conn :=
  let t := sackScoreboardClear t
  { t with
    rtxQueue := fun i => { t.rtxQueue i with sacked := false }
    sackHigh := t.sndUna }

/-- The slots the peer holds that start at or behind `seq`. -/
def sackedFrom : List (Fin kRtxQueueMax) :=
  (List.finRange kRtxQueueMax).filter fun i =>
    (t.rtxQueue i).data ≠ [] ∧ (t.rtxQueue i).sacked ∧ geq (t.rtxQueue i).seq seq

/-- Does no other segment the peer holds end where this one starts? -/
def startsRun (i : Fin kRtxQueueMax) : Bool :=
  ¬∃ j, j ≠ i ∧ (t.rtxQueue j).data ≠ [] ∧ (t.rtxQueue j).sacked ∧
    (t.rtxQueue j).stop = (t.rtxQueue i).seq

def sackIsLost : Bool :=
  let sacked := sackedFrom t seq
  let mss := if t.mssSend = 0 then 1 else t.mssSend.toNat
  kSackDupThresh ≤ sacked.countP (startsRun t) ∨
    (kSackDupThresh - 1) * mss ≤ (sacked.map fun i => (t.rtxQueue i).data.length).sum

def sackSetPipe : Nat :=
  (((List.finRange kRtxQueueMax).filter fun i => (t.rtxQueue i).data ≠ [] ∧
    ¬(t.rtxQueue i).sacked).map fun i =>
    (if sackIsLost t (t.rtxQueue i).seq then 0 else (t.rtxQueue i).data.length) +
      (if t.inFastRecovery ∧ gt t.sack.highRxt (t.rtxQueue i).seq then (t.rtxQueue i).data.length
        else 0)).sum

/-- C++ `SackNextSeg`: the number of the lowest hole to retransmit from. -/
def sackNextSeg (requireLost : Bool) : Option Nat :=
  t.sack.holes.findIdx? fun hole =>
    gt hole.stop hole.rxmit ∧ gt t.sackHigh hole.rxmit ∧ (requireLost → sackIsLost t hole.rxmit)

def rtxSlotForSeq : Option (Fin kRtxQueueMax) :=
  (List.finRange kRtxQueueMax).find? fun i =>
    (t.rtxQueue i).data ≠ [] ∧ geq seq (t.rtxQueue i).seq ∧ gt (t.rtxQueue i).stop seq

def resendSlot (slot : Fin kRtxQueueMax) : Conn :=
  let sb := t.rtxQueue slot
  let t := sendSegment now t sb.flags sb.seq t.rcvNxt sb.data
  { t with rtxQueue := Function.update t.rtxQueue slot { t.rtxQueue slot with ticksSent := now } }

/-- C++ `SackRetransmitHole`: whether a segment was sent, and the connection. -/
def sackRetransmitHole (hole : Nat) : Bool × Conn :=
  match t.sack.holes[hole]? with
  | none => (false, t)
  | some h =>
    match rtxSlotForSeq t h.rxmit with
    | none =>
      (false, { t with
        sack := { t.sack with holes := t.sack.holes.set hole { h with rxmit := h.stop } } })
    | some slot =>
      let stop := (t.rtxQueue slot).stop
      let t := resendSlot now t slot
      (true, { t with
        sack := { t.sack with
          holes := t.sack.holes.set hole { h with rxmit := stop }
          highRxt := if gt stop t.sack.highRxt then stop else t.sack.highRxt } })

end

/-- How a pass of the loop of `SackRecoveryTransmit` ends. -/
inductive Pass where
  | stop (t : Conn)
  | next (sent : Bool) (t : Conn)

section

variable (now : Nat) (t : Conn)

def recoverHole : Option Nat → Pass
  | none => .stop t
  | some hole => .next (sackRetransmitHole now t hole).1 (sackRetransmitHole now t hole).2

/-- One pass of the loop of `SackRecoveryTransmit`: a lost hole, then new data, then any hole. -/
def recoverOne : Pass :=
  let pipe := sackSetPipe t
  if t.cwnd.toNat ≤ pipe ∨ t.cwnd.toNat - pipe < t.mssSend.toNat then .stop t
  else
    match sackNextSeg t true with
    | some hole => recoverHole now t (some hole)
    | none =>
      let inFlight := t.sndNxt - t.sndUna
      let drained :=
        if 0 < t.sndbufCount ∧ pipe ≤ inFlight.toNat then
          drainSendBuffer now (inFlight - UInt32.ofNat pipe) t
        else t
      if drained.sndNxt ≠ t.sndNxt then .next true drained
      else recoverHole now drained (sackNextSeg drained false)

def recoverLoop (now : Nat) : Nat → Bool → Conn → Bool × Conn
  | 0, sent, t => (sent, t)
  | passes + 1, sent, t =>
    match recoverOne now t with
    | .stop t => (sent, t)
    | .next more t => recoverLoop now passes (sent || more) t

def sackRecoveryTransmit : Conn :=
  let (sent, t) := recoverLoop now (2 * kRtxQueueMax) false t
  if sent then armRtxTimer now t else t

def sackEnterRecovery : Conn :=
  let t := { t with sack := { t.sack with recoveryPoint := t.sndNxt, highRxt := t.sndUna } }
  let t :=
    match (sackNextSeg t true).or (sackNextSeg t false) with
    | none => t
    | some hole => armRtxTimer now (sackRetransmitHole now t hole).2
  sackRecoveryTransmit now t

end

end DuetOS.Tcp
