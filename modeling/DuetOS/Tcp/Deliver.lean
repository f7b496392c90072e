import DuetOS.Tcp.Ack
import DuetOS.Tcp.Receive

/-!
# The state machine

`DeliverSegment` on one connection. It is cut where the source calls `NotifyParentAccept`:
`deliverHead` ends there, or earlier; `deliverTail` is the part for the synchronised states. A
connection the source drops is handed back as such, so that the table can drop it.
-/

namespace DuetOS.Tcp

structure Segment where
  (seq ack : UInt32)
  flags : UInt8
  win : UInt32
  (opts payload : List UInt8)
  deriving DecidableEq, Repr

/-- A connection that goes on, or that is dropped. -/
inductive Outcome where
  | alive (t : Conn)
  | dropped (t : Conn)

def Outcome.conn : Outcome → Conn
  | .alive t | .dropped t => t

inductive RstAction where
  | ignore | challengeAck | accept
  deriving DecidableEq, Repr

def classifyRst (t : Conn) (seq ack : UInt32) (flags : UInt8) : RstAction :=
  if t.state = .synSent then
    if ¬hasFlag flags kFlagAck ∨ ack ≠ t.sndNxt then .ignore else .accept
  else if t.rcvWnd < seq - t.rcvNxt then .ignore
  else if seq ≠ t.rcvNxt then .challengeAck
  else .accept

def pawsReject (t : Conn) (segTsval : UInt32) (flags : UInt8) (hasTimestamp : Bool) : Bool :=
  hasTimestamp ∧ t.peerSupportsTimestamps ∧ ¬hasFlag flags kFlagRst ∧
    State.established.code ≤ t.state.code ∧ ¬SeqNum.geq segTsval t.tsRecent

section

variable (now : Nat) (ipCe : Bool) (seg : Segment)

def enterTimeWait (t : Conn) : Conn :=
  { sackScoreboardClear t with
    state := .timeWait
    timewaitDeadline := now + (msToTicks kTimeWaitMs).toNat
    rtxCount := 0
    rtxQueue := fun i => { t.rtxQueue i with data := [] }
    rtxDeadline := 0 }

/-- The selective acknowledgements of a segment. -/
def absorbSack (heap : Nat) (seg : Segment) (t : Conn) : Conn :=
  if t.peerSupportsSack ∧ hasFlag seg.flags kFlagAck ∧ 0 < t.rtxCount then
    let blocks := parseSackBlocks seg.opts
    let (marked, t) := applySackScoreboard t blocks
    if blocks ≠ [] ∧ marked then sackScoreboardRebuild heap t else t
  else t

/-- The handshake is over: nothing of it is left to retransmit. -/
def settleSyn (ack : UInt32) (t : Conn) : Conn :=
  { t with
    sndUna := ack
    sackHigh := ack
    rtxCount := 0
    rtxQueue := fun i => { t.rtxQueue i with data := [] }
    rtxDeadline := 0
    state := .established }

def deliverSynSent (po : ParsedOptions) (t : Conn) : Conn :=
  if hasFlag seg.flags kFlagSyn ∧ hasFlag seg.flags kFlagAck ∧
    ackInWindow seg.ack t.sndUna t.sndNxt then
    let t := { t with
      irs := seg.seq, rcvNxt := seg.seq + 1, peerSupportsWscale := po.hasWscale,
      sndWscale := if po.hasWscale then po.wscale else 0, peerSupportsSack := po.sackPermitted,
      ecnOk := hasFlag seg.flags kFlagEce && !hasFlag seg.flags kFlagCwr,
      mssSend := if 0 < po.mss ∧ po.mss.toUInt32 < t.mssSend then po.mss.toUInt32 else t.mssSend }
    let t := { t with
      sndWnd := decodePeerWindow t seg.win seg.flags, sndWl1 := seg.seq, sndWl2 := seg.ack }
    drainSendBuffer now 0 (sendAck now (settleSyn seg.ack t))
  else if hasFlag seg.flags kFlagSyn ∧ ¬hasFlag seg.flags kFlagAck then
    let t := { t with irs := seg.seq, rcvNxt := seg.seq + 1, state := .synRcvd }
    sendSegment now t (kFlagSyn ||| kFlagAck) t.iss t.rcvNxt []
  else t

/-- How far `DeliverSegment` gets before it calls `NotifyParentAccept`. -/
inductive Head where
  /-- It returns. -/
  | done (t : Conn)
  /-- It drops the connection. -/
  | dropped (t : Conn)
  /-- The handshake of a passive open is complete; the parent is notified next. -/
  | accepted (t : Conn)
  /-- It goes on in a synchronised state. -/
  | proceed (t : Conn)

/-- C++ `DeliverSegment` up to the call of `NotifyParentAccept`. -/
def deliverHead (now heap : Nat) (peerMac : MacAddress) (seg : Segment) (t : Conn) : Head :=
  let po := parseOptions seg.opts
  let t := if po.hasTimestamp then { t with peerSupportsTimestamps := true } else t
  if pawsReject t po.tsval seg.flags po.hasTimestamp then .done (sendAck now t)
  else
    let t := if po.hasTimestamp then { t with tsRecent := po.tsval, tsRecentAgeTicks := now } else t
    if hasFlag seg.flags kFlagRst then
      match classifyRst t seg.seq seg.ack seg.flags with
      | .ignore => .done t
      | .challengeAck => .done (sendAck now t)
      | .accept => .dropped t
    else
      let t := absorbSack heap seg { t with peerMac }
      match t.state with
      | .synSent => .done (deliverSynSent now seg po t)
      | .synRcvd =>
        if hasFlag seg.flags kFlagAck ∧ ackInWindow seg.ack t.sndUna t.sndNxt then
          .accepted (settleSyn seg.ack (updateSendWindow t seg.seq seg.ack seg.win seg.flags))
        else .done t
      | _ => .proceed t

/-- What an acknowledgement that leaves nothing to retransmit means while a FIN is out. -/
def finAcked (t : Conn) : Outcome :=
  if t.state = .finWait1 ∧ t.rtxCount = 0 then
    .alive (if t.peerFinSeen then enterTimeWait now t else { t with state := .finWait2 })
  else if t.state = .closing ∧ t.rtxCount = 0 then .alive (enterTimeWait now t)
  else if t.state = .lastAck ∧ t.rtxCount = 0 then .dropped t
  else .alive t

/-- The part of `DeliverSegment` for an acknowledgement in the window. -/
def deliverAck (t : Conn) : Outcome :=
  let po := parseOptions seg.opts
  let echo := if po.hasTimestamp then some po.tsecr else none
  let t := ecnReact ipCe seg.flags (updateSendWindow t seg.seq seg.ack seg.win seg.flags)
  let t :=
    if seg.ack = t.sndUna ∧ seg.payload = [] ∧ 0 < t.rtxCount then onDuplicateAck now t
    else onNewAck now seg.ack echo t
  match finAcked now t with
  | .dropped t => .dropped t
  | .alive t =>
    .alive (if t.peerSupportsSack ∧ t.inFastRecovery then t else drainSendBuffer now 0 t)

/-- The state after the peer's FIN. -/
def finReceived (t : Conn) : Conn :=
  match t.state with
  | .established => { t with state := .closeWait }
  | .finWait1 => if t.rtxCount = 0 then enterTimeWait now t else { t with state := .closing }
  | .finWait2 => enterTimeWait now t
  | _ => t

def deliverFin (t : Conn) : Conn :=
  let finSeq := seg.seq + UInt32.ofNat seg.payload.length
  if hasFlag seg.flags kFlagFin ∧ ¬t.peerFinSeen ∧ finSeq = t.rcvNxt then
    finReceived now { t with peerFinSeen := true, peerFinSeq := finSeq, rcvNxt := finSeq + 1 }
  else t

def acknowledge (t : Conn) : Conn :=
  if seg.payload ≠ [] ∨ hasFlag seg.flags kFlagFin then
    if hasFlag seg.flags kFlagFin ∨ t.mssSend.toNat ≤ seg.payload.length ∨ t.delackPending then
      { sendAck now t with delackPending := false, delackDeadline := 0 }
    else { t with delackPending := true, delackDeadline := now + (msToTicks kDelackMs).toNat }
  else t

/-- C++ `DeliverSegment` in the synchronised states. -/
def deliverTail (t : Conn) : Outcome :=
  let acked :=
    if hasFlag seg.flags kFlagAck ∧
      ackInWindow seg.ack t.sndUna t.sndNxt then deliverAck now ipCe seg t
    else .alive t
  match acked with
  | .dropped t => .dropped t
  | .alive t =>
    .alive (acknowledge now seg (deliverFin now seg (deliverPayload t seg.seq seg.payload)))

end

/-- C++ `DeliverSegment` on a connection whose parent, if it has one, takes it. -/
def deliverSegment (now heap : Nat) (ipCe : Bool) (peerMac : MacAddress) (seg : Segment)
    (t : Conn) : Outcome :=
  match deliverHead now heap peerMac seg t with
  | .done t => .alive t
  | .dropped t => .dropped t
  | .accepted t | .proceed t => deliverTail now ipCe seg t

end DuetOS.Tcp
