import DuetOS.Lib.SeqNum
import Mathlib.Logic.Function.Basic

/-!
# Connection control blocks

The part of a `Tcb` that belongs to one connection: its state, sequence space, options, congestion
and round-trip estimators, timers, buffers and segment queues. `DuetOS.Tcp.Table` adds the fields of
the table. Ticks are natural numbers; `wire` lists the segments handed to `NetStackTransmit`.
-/

namespace DuetOS.Tcp

def kReassQueueMax : Nat := 8
def kRtxQueueMax : Nat := 16
def kRcvBufBytes : Nat := 32768
def kSndBufBytes : Nat := 32768
def kSegmentBytes : Nat := 1460
def kDefaultMss : UInt32 := 1460
def kMaxRetries : Nat := 7
def kInitialRtoMs : UInt32 := 1000
def kMinRtoMs : UInt32 := 200
def kMaxRtoMs : UInt32 := 60000
def kTimeWaitMs : UInt32 := 4000
def kDelackMs : UInt32 := 200
def kEthFrameMaxBytes : Nat := 1514

def kFlagFin : UInt8 := 0x01
def kFlagSyn : UInt8 := 0x02
def kFlagRst : UInt8 := 0x04
def kFlagPsh : UInt8 := 0x08
def kFlagAck : UInt8 := 0x10
def kFlagEce : UInt8 := 0x40
def kFlagCwr : UInt8 := 0x80

/-- `(flags & flag) != 0`. -/
def hasFlag (flags flag : UInt8) : Bool := flags &&& flag != 0

def msToTicks (ms : UInt32) : UInt32 := (ms + 9) / 10

inductive State where
  | closed | listen | synSent | synRcvd | established | finWait1 | finWait2 | closeWait | closing
  | lastAck
  | timeWait
  deriving DecidableEq, Repr

/-- `static_cast<u8>(state)`. -/
def State.code : State → Nat
  | .closed => 0
  | .listen => 1
  | .synSent => 2
  | .synRcvd => 3
  | .established => 4
  | .finWait1 => 5
  | .finWait2 => 6
  | .closeWait => 7
  | .closing => 8
  | .lastAck => 9
  | .timeWait => 10

abbrev MacAddress := BitVec 48

/-- A segment in flight. A slot without data is unused. -/
structure SegmentBuf where
  seq : UInt32 := 0
  data : List UInt8 := []
  flags : UInt8 := 0
  sacked : Bool := false
  ticksSent : Nat := 0
  deriving DecidableEq, Repr

/-- The sequence number behind the segment. -/
def SegmentBuf.stop (sb : SegmentBuf) : UInt32 := sb.seq + UInt32.ofNat sb.data.length

structure OoSegment where
  inUse : Bool := false
  seq : UInt32 := 0
  data : List UInt8 := []
  deriving DecidableEq, Repr

/-- A gap in what the peer has acknowledged selectively; `rxmit` is where to go on
retransmitting. -/
structure SackHole where
  (start stop rxmit : UInt32)
  deriving DecidableEq, Repr

structure SackScoreboard where
  holes : List SackHole := []
  highRxt : UInt32 := 0
  recoveryPoint : UInt32 := 0
  deriving DecidableEq, Repr

structure CubicState where
  lastMaxCwnd : UInt32 := 0
  bicOriginPoint : UInt32 := 0
  bicK : UInt32 := 0
  tcpCwnd : UInt32 := 0
  cnt : UInt32 := 0
  cwndCnt : UInt32 := 0
  ackCnt : UInt32 := 0
  delayMinTicks : UInt32 := 0
  epochStart : UInt64 := 0
  enabled : Bool := true
  deriving DecidableEq, Repr

/-- What `SendSegment` puts into a frame, next to the addresses of the connection. -/
structure Frame where
  peerMac : MacAddress
  ipTos : UInt8
  (seq ack : UInt32)
  (dataOffset flags : UInt8)
  win : UInt32
  (options payload : List UInt8)
  deriving DecidableEq, Repr

/-- The fields of C++ `Tcb` that belong to one connection, with the values `ResetTcbStorage` and
`AllocTcbBuffers` give them. -/
structure Conn where
  state : State := .closed
  peerMac : MacAddress := 0
  iss : UInt32 := 0
  irs : UInt32 := 0
  sndUna : UInt32 := 0
  sndNxt : UInt32 := 0
  sndWnd : UInt32 := 65535
  sndWl1 : UInt32 := 0
  sndWl2 : UInt32 := 0
  rcvNxt : UInt32 := 0
  rcvWnd : UInt32 := UInt32.ofNat kRcvBufBytes
  sndWscale : UInt8 := 0
  rcvWscale : UInt8 := 0
  peerSupportsWscale : Bool := false
  peerSupportsTimestamps : Bool := false
  peerSupportsSack : Bool := false
  tsRecent : UInt32 := 0
  tsRecentAgeTicks : Nat := 0
  mssSend : UInt32 := kDefaultMss
  sackHigh : UInt32 := 0
  sack : SackScoreboard := {}
  ecnOk : Bool := false
  peerCePending : Bool := false
  sentCwr : Bool := false
  ecnReactSeq : UInt32 := 0
  cwnd : UInt32 := 4 * kDefaultMss
  ssthresh : UInt32 := 0x7FFFFFFF
  dupAcks : UInt32 := 0
  inFastRecovery : Bool := false
  cubic : CubicState := {}
  rttHaveSample : Bool := false
  srttTicks : UInt32 := 0
  rttvarTicks : UInt32 := 0
  rtoTicks : UInt32 := msToTicks kInitialRtoMs
  retries : Nat := 0
  rtxDeadline : Nat := 0
  timewaitDeadline : Nat := 0
  delackDeadline : Nat := 0
  keepaliveDeadline : Nat := 0
  persistDeadline : Nat := 0
  persistBackoffTicks : UInt32 := 0
  delackPending : Bool := false
  keepaliveOn : Bool := false
  nodelay : Bool := false
  peerFinSeen : Bool := false
  peerFinSeq : UInt32 := 0
  txClosed : Bool := false
  sndbuf : Nat → UInt8 := fun _ => 0
  sndbufHead : Nat := 0
  sndbufTail : Nat := 0
  sndbufCount : Nat := 0
  rcvbuf : Nat → UInt8 := fun _ => 0
  rcvbufHead : Nat := 0
  rcvbufTail : Nat := 0
  rcvbufCount : Nat := 0
  rtxQueue : Fin kRtxQueueMax → SegmentBuf := fun _ => {}
  rtxCount : Nat := 0
  ooQueue : Fin kReassQueueMax → OoSegment := fun _ => {}
  wire : List Frame := []

end DuetOS.Tcp
