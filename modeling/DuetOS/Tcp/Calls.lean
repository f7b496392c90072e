import DuetOS.Tcp.Deliver

/-!
# Timer and calls

`TimerTick` on one connection, and `Send`, `RecvNonblocking` and `Close` on the connection a handle
names.
-/

namespace DuetOS.Tcp

section

variable (now : Nat) (t : Conn)

/-- The segment `RetransmitFirstUnacked` chooses: the one that starts first behind `sndUna`. -/
def firstUnacked : Option (Fin kRtxQueueMax) :=
  ((List.finRange kRtxQueueMax).foldl (fun (best : UInt32 × Option (Fin kRtxQueueMax)) i =>
    if (t.rtxQueue i).data ≠ [] ∧ (t.rtxQueue i).seq - t.sndUna < best.1 then
      ((t.rtxQueue i).seq - t.sndUna, some i)
    else best) (0xFFFFFFFF, none)).2

def doubleRto : UInt32 :=
  if msToTicks kMaxRtoMs < t.rtoTicks * 2 then msToTicks kMaxRtoMs else t.rtoTicks * 2

def retransmitFirstUnacked : Conn :=
  match firstUnacked t with
  | none => t
  | some slot =>
    let t := sackOnRto t
    let t := reduceSsthresh ((t.sndNxt - t.sndUna) / 2) t
    let t := { t with cwnd := t.mssSend, inFastRecovery := false, rtoTicks := doubleRto t }
    { resendSlot now t slot with retries := t.retries + 1 }

def rtxExpired : Bool := t.rtxDeadline ≠ 0 ∧ t.rtxDeadline ≤ now

/-- `TimerTick`: retransmit data, or give up. -/
def timerData : Outcome :=
  if 0 < t.rtxCount ∧ rtxExpired now t then
    if kMaxRetries ≤ t.retries then
      .dropped (sendSegment now t (kFlagRst ||| kFlagAck) t.sndNxt t.rcvNxt [])
    else
      let t := retransmitFirstUnacked now t
      .alive { t with rtxDeadline := now + t.rtoTicks.toNat }
  else .alive t

/-- `TimerTick`: retransmit a control segment `flags` at `seq`, or give up. -/
def timerControl (flags : UInt8) (seq ack : UInt32) (t : Conn) : Outcome :=
  if kMaxRetries ≤ t.retries then .dropped t
  else
    let t := { t with retries := t.retries + 1, rtoTicks := doubleRto t }
    let t := sendSegment now t flags seq ack []
    .alive { t with rtxDeadline := now + t.rtoTicks.toNat }

def timerSyn : Outcome :=
  if (t.state = .synSent ∨ t.state = .synRcvd) ∧ rtxExpired now t then
    timerControl now (if t.state = .synSent then kFlagSyn else kFlagSyn ||| kFlagAck) t.iss
      (if t.state = .synRcvd then t.rcvNxt else 0) t
  else .alive t

def timerFin : Outcome :=
  if (t.state = .finWait1 ∨ t.state = .lastAck) ∧ t.rtxCount = 0 ∧ rtxExpired now t then
    timerControl now (kFlagAck ||| kFlagFin) (t.sndNxt - 1) t.rcvNxt t
  else .alive t

def timerDelack : Conn :=
  if t.delackPending ∧ t.delackDeadline ≠ 0 ∧ t.delackDeadline ≤ now then
    { sendAck now t with delackPending := false, delackDeadline := 0 }
  else t

/-- The stale acknowledgement that makes the peer answer. -/
def sendProbe : Conn := sendSegment now t kFlagAck (t.sndUna - 1) t.rcvNxt []

def timerKeepalive : Conn :=
  if t.keepaliveOn ∧ t.state = .established ∧ t.keepaliveDeadline ≠ 0 ∧
    t.keepaliveDeadline ≤ now then
    { sendProbe now t with keepaliveDeadline := now + (msToTicks 60000).toNat }
  else t

/-- `TimerTick`: the probe of a closed window. -/
def timerPersist : Conn :=
  if (t.state = .established ∨ t.state = .closeWait) ∧ t.sndWnd = 0 ∧ 0 < t.sndbufCount ∧
      t.persistDeadline ≠ 0 ∧ t.persistDeadline ≤ now then
    let t := sendProbe now t
    let backoff := if t.persistBackoffTicks = 0 then t.rtoTicks else t.persistBackoffTicks * 2
    let backoff := if msToTicks kMaxRtoMs < backoff then msToTicks kMaxRtoMs else backoff
    { t with persistBackoffTicks := backoff, persistDeadline := now + backoff.toNat }
  else t

/-- Go on with a connection that was not dropped. -/
def Outcome.andThen (outcome : Outcome) (next : Conn → Outcome) : Outcome :=
  match outcome with
  | .alive t => next t
  | .dropped t => .dropped t

def timerConn : Outcome :=
  if t.state = .timeWait ∧ t.timewaitDeadline ≠ 0 ∧ t.timewaitDeadline ≤ now then .dropped t
  else
    (((timerData now t).andThen (timerSyn now)).andThen (timerFin now)).andThen fun t =>
      .alive (timerPersist now (timerKeepalive now (timerDelack now t)))

/-- C++ `Send`: the bytes taken, or none when the connection does not send. -/
def sendConn (data : List UInt8) (t : Conn) : Option Nat × Conn :=
  if t.txClosed ∨ (t.state ≠ .established ∧ t.state ≠ .closeWait) then (none, t)
  else
    let taken := data.take (kSndBufBytes - t.sndbufCount)
    let t := { t with
      sndbuf := Circular.blit t.sndbuf (Circular.writes kSndBufBytes t.sndbufHead taken),
      sndbufHead := (t.sndbufHead + taken.length) % kSndBufBytes,
      sndbufCount := t.sndbufCount + taken.length }
    (some taken.length, drainSendBuffer now 0 t)

/-- What `RecvNonblocking` returns: bytes (none of them for the end of the stream), or `-2`. -/
inductive Received where
  | bytes (data : List UInt8)
  | wouldBlock
  deriving DecidableEq, Repr

/-- Bytes at the tail of the receive ring. -/
def Conn.peekRcv (len : Nat) : List UInt8 :=
  (List.range len).map fun i => t.rcvbuf ((t.rcvbufTail + i) % kRcvBufBytes)

def recvConn (cap : Nat) (t : Conn) : Received × Conn :=
  if t.rcvbufCount = 0 then
    if t.peerFinSeen ∨ t.state = .closed then (.bytes [], t) else (.wouldBlock, t)
  else
    let take := min cap t.rcvbufCount
    let data := t.peekRcv take
    let t := { t with
      rcvbufTail := (t.rcvbufTail + take) % kRcvBufBytes, rcvbufCount := t.rcvbufCount - take }
    let free := UInt32.ofNat t.rcvRoom
    (.bytes data,
      if t.rcvWnd < free ∧
        t.mssSend ≤ free - t.rcvWnd then sendAck now { t with rcvWnd := free } else t)

/-- Send the FIN and wait in `next` for its acknowledgement. -/
def sendFin (next : State) (t : Conn) : Conn :=
  let t := sendSegment now t (kFlagAck ||| kFlagFin) t.sndNxt t.rcvNxt []
  { t with sndNxt := t.sndNxt + 1, state := next, rtxDeadline := now + t.rtoTicks.toNat }

/-- What `Close` and the last `Release` do to a connection that still sends. -/
def closeConn : Conn :=
  if t.txClosed then t
  else
    let t := drainSendBuffer now 0 { t with txClosed := true }
    match t.state with
    | .established => sendFin now .finWait1 t
    | .closeWait => sendFin now .lastAck t
    | _ => t

def setKeepAlive (on : Bool) (t : Conn) : Conn :=
  { t with keepaliveOn := on, keepaliveDeadline := if on then now + (msToTicks 60000).toNat else 0 }

end

end DuetOS.Tcp
