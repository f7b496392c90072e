import DuetOS.Tcp.Cubic
import DuetOS.Tcp.Options

/-!
# Sending

`SendSegment` with its ECN transform, the windows, and `DrainSendBuffer`, which cuts the send ring
into segments of the retransmit queue.
-/

namespace DuetOS.Tcp

section

variable (now : Nat) (t : Conn) (extraCwnd : UInt32)

/-- C++ `EcnApplyTx`: the flags to send, the type-of-service byte, and the connection. -/
def ecnApplyTx (flags : UInt8) (payloadLen : Nat) : UInt8 × UInt8 × Conn :=
  if ¬t.ecnOk ∨ hasFlag flags (kFlagSyn ||| kFlagRst) then (flags, 0x00, t)
  else
    let flags := if t.peerCePending ∧ hasFlag flags kFlagAck then flags ||| kFlagEce else flags
    if 0 < payloadLen then
      if t.sentCwr then (flags ||| kFlagCwr, 0x02, { t with sentCwr := false })
        else (flags, 0x02, t)
    else (flags, 0x00, t)

def advertisedWindow : UInt32 := min (t.rcvWnd >>> t.rcvWscale.toUInt32) 0xFFFF

/-- The length of the frame: Ethernet, IPv4 and TCP headers, options and payload. -/
def frameLen (options payload : List UInt8) :
    Nat := 14 + 20 + (20 + options.length) + payload.length

def sendSegment (flags : UInt8) (seq ack : UInt32) (payload : List UInt8) : Conn :=
  if kSegmentBytes < payload.length then t
  else
    let (flags, ipTos, t) := ecnApplyTx t flags payload.length
    let options := buildOptions t flags now
    if kEthFrameMaxBytes < frameLen options payload then t
    else
      { t with
        wire := t.wire ++ [⟨t.peerMac, ipTos, seq, ack,
          UInt8.ofNat ((20 + options.length) / 4 * 16), flags,
          advertisedWindow t, options, payload⟩] }

def sendAck : Conn := sendSegment now t kFlagAck t.sndNxt t.rcvNxt []

def effectiveSendWindow : UInt32 :=
  let effCwnd := if 0xFFFFFFFF - extraCwnd < t.cwnd then 0xFFFFFFFF else t.cwnd + extraCwnd
  if t.sndWnd < effCwnd then t.sndWnd else effCwnd

/-- `len` bytes of the send ring, from its tail. -/
def Conn.peekSend (len : Nat) : List UInt8 :=
  (List.range len).map fun i => t.sndbuf ((t.sndbufTail + i) % kSndBufBytes)

def Conn.freeRtxSlot : Option (Fin kRtxQueueMax) :=
  (List.finRange kRtxQueueMax).find? fun i => (t.rtxQueue i).data.isEmpty

/-- What the next segment may carry: queued bytes, one MSS, and the room left in the window. -/
def sendTake : Nat :=
  let inFlight := t.sndNxt - t.sndUna
  let wnd := effectiveSendWindow t extraCwnd
  if wnd ≤ inFlight then 0 else min (min t.sndbufCount t.mssSend.toNat) (wnd - inFlight).toNat

/-- One pass of the loop of `DrainSendBuffer`, or none when the loop ends. -/
def drainOne (t : Conn) : Option Conn :=
  if 0 < t.sndbufCount ∧ t.rtxCount < kRtxQueueMax then
    let take := sendTake t extraCwnd
    if take = 0 then none
    else
      match t.freeRtxSlot with
      | none => none
      | some slot =>
        let sb : SegmentBuf := ⟨t.sndNxt, t.peekSend take, kFlagAck ||| kFlagPsh, false, now⟩
        let t := { t with
          rtxQueue := Function.update t.rtxQueue slot sb,
          sndbufTail := (t.sndbufTail + take) % kSndBufBytes,
          sndbufCount := t.sndbufCount - take, rtxCount := t.rtxCount + 1,
          sndNxt := t.sndNxt + UInt32.ofNat take }
        let t := sendSegment now t sb.flags sb.seq t.rcvNxt sb.data
        some (if t.rtxDeadline = 0 then { t with rtxDeadline := now + t.rtoTicks.toNat } else t)
  else none

/-- The loop of `DrainSendBuffer`. Every pass fills a slot, so it makes at most `kRtxQueueMax` of
them. -/
def drainLoop (now : Nat) (extraCwnd : UInt32) : Nat → Conn → Conn
  | 0, t => t
  | passes + 1, t =>
    match drainOne now extraCwnd t with
    | none => t
    | some t => drainLoop now extraCwnd passes t

/-- The persist timer runs while the peer's window is shut and bytes are queued. -/
def updatePersist : Conn :=
  if t.sndWnd = 0 ∧ 0 < t.sndbufCount then
    if t.persistDeadline = 0 then
      { t with persistBackoffTicks := t.rtoTicks, persistDeadline := now + t.rtoTicks.toNat }
    else t
  else { t with persistDeadline := 0, persistBackoffTicks := 0 }

def drainSendBuffer (t : Conn) : Conn :=
  if t.state ≠ .established ∧ t.state ≠ .closeWait then t
  else updatePersist now (drainLoop now extraCwnd kRtxQueueMax t)

def armRtxTimer : Conn :=
  { t with rtxDeadline := if t.rtxCount = 0 then 0 else now + t.rtoTicks.toNat }

end

end DuetOS.Tcp
