import DuetOS.Tcp.Calls

/-!
# The TCB table

The 256 slots of `g_tcbs`, the 64 hash chains threaded through them, and the functions that take,
publish, find and drop a slot. Every function here runs under `g_tcb_lock`; the calls that leave the
lock while they allocate buffers are cut at that point.
-/

namespace DuetOS.Tcp

open Function List

def kTcbCap : Nat := 256
def kTcbBuckets : Nat := 64
def kListenBacklogMax : Nat := 32
def kBucketNone : UInt8 := 0xFF
def kInvalidTcbId : UInt32 := 0

structure Ipv4Address where
  octets : BitVec 32
  deriving DecidableEq, Repr

/-- Octet `i` of an address, from the left. -/
def Ipv4Address.octet (ip : Ipv4Address) (i : Nat) : UInt32 :=
  UInt32.ofNat (ip.octets.toNat / 2 ^ (24 - 8 * i) % 256)

structure NetInterfaceBinding where
  ifaceIndex : UInt32
  generation : UInt64
  deriving DecidableEq, Repr

def kInvalidNetInterfaceBinding : NetInterfaceBinding := ⟨0xFFFFFFFF, 0⟩

def netInterfaceBindingIsValid (binding : NetInterfaceBinding) : Bool :=
  binding.ifaceIndex ≠ 0xFFFFFFFF ∧ binding.generation ≠ 0

structure NetInterfaceSnapshot where
  binding : NetInterfaceBinding
  mac : MacAddress
  ip : Ipv4Address
  deriving DecidableEq, Repr

/-- What tells connections apart. -/
structure FiveTuple where
  binding : NetInterfaceBinding := kInvalidNetInterfaceBinding
  localIp : Ipv4Address := ⟨0⟩
  localPort : UInt16 := 0
  peerIp : Ipv4Address := ⟨0⟩
  peerPort : UInt16 := 0
  deriving DecidableEq, Repr

/-- C++ `Tcb`: a connection or a listener in a slot of the table. -/
structure Tcb extends Conn where
  inUse : Bool := false
  isListener : Bool := false
  generation : UInt8 := 0
  tuple : FiveTuple := {}
  localMac : MacAddress := 0
  refs : UInt32 := 0
  initializing : Bool := false
  backlogMax : Nat := 0
  backlogCount : Nat := 0
  synBacklogCount : Nat := 0
  backlogHead : Nat := 0
  backlogTail : Nat := 0
  backlogRing : Nat → UInt32 := fun _ => 0
  parentListener : UInt32 := 0
  bucketNext : UInt8 := kBucketNone

/-- The globals of `tcp.cpp`. -/
structure Table where
  tcbs : Fin kTcbCap → Tcb
  buckets : Fin kTcbBuckets → UInt8
  ephemeralCursor : UInt16
  isnSecret : UInt64

def initTable (isnSecret : UInt64) : Table := ⟨fun _ => {}, fun _ => kBucketNone, 49152, isnSecret⟩

def Table.setTcb (s : Table) (i : Fin kTcbCap) (t : Tcb) : Table :=
  { s with tcbs := update s.tcbs i t }

@[simp] lemma setTcb_self {s : Table} {i t} : (s.setTcb i t).tcbs i = t :=
  update_self ..

@[simp] lemma setTcb_of_ne {s : Table} {i j t} (ne : j ≠ i) : (s.setTcb i t).tcbs j = s.tcbs j :=
  update_of_ne ne ..

def Table.setConn (s : Table) (i : Fin kTcbCap) (t : Conn) : Table :=
  s.setTcb i { s.tcbs i with toConn := t }

def makeId (i : Fin kTcbCap) (generation : UInt8) : UInt32 :=
  generation.toUInt32 <<< 24 ||| (UInt32.ofNat (i + 1) &&& 0x00FFFFFF)

def decodeId (s : Table) (id : UInt32) : Option (Fin kTcbCap) :=
  if id = kInvalidTcbId then none
  else
    let idxPlusOne := (id &&& 0x00FFFFFF).toNat
    if h : idxPlusOne = 0 ∨ kTcbCap < idxPlusOne then none
    else
      let i : Fin kTcbCap := ⟨idxPlusOne - 1, by omega⟩
      if ¬(s.tcbs i).inUse ∨ (s.tcbs i).initializing then none
      else if (s.tcbs i).generation ≠ (id >>> 24).toUInt8 then none
      else some i

def hashStep (h x : UInt32) : UInt32 := ((h <<< 5) + h) + x

def bucketHash (tuple : FiveTuple) : Fin kTcbBuckets :=
  let words := [tuple.binding.ifaceIndex, tuple.binding.generation.toUInt32,
    (tuple.binding.generation >>> 32).toUInt32, tuple.localPort.toUInt32,
    tuple.peerPort.toUInt32] ++
    (range 4).map tuple.localIp.octet ++ (range 4).map tuple.peerIp.octet
  ⟨(words.foldl hashStep 5381).toNat % kTcbBuckets, Nat.mod_lt _ (by decide)⟩

def slotByte (i : Fin kTcbCap) : UInt8 := UInt8.ofNat i

def byteSlot (b : UInt8) : Fin kTcbCap := ⟨b.toNat, b.toNat_lt⟩

/-- The places a chain is threaded through. -/
inductive Link where
  | head (h : Fin kTcbBuckets)
  | next (i : Fin kTcbCap)

section

variable (s : Table) (binding : NetInterfaceBinding) (now : Nat) (i : Fin kTcbCap)

def Table.link : Link → UInt8
  | .head h => s.buckets h
  | .next i => (s.tcbs i).bucketNext

def Table.setLink (link : Link) (value : UInt8) : Table :=
  match link with
  | .head h => { s with buckets := update s.buckets h value }
  | .next i => s.setTcb i { s.tcbs i with bucketNext := value }

def bucketInsert : Table :=
  let h := bucketHash (s.tcbs i).tuple
  (s.setLink (.next i) (s.link (.head h))).setLink (.head h) (slotByte i)

/-- The loop of `BucketRemove`. A chain without a cycle ends within the table's capacity. -/
def bucketRemoveLoop (i : Fin kTcbCap) : Nat → Table → Link → Table
  | 0, s, _ => s
  | steps + 1, s, prev =>
    if s.link prev = kBucketNone then s
    else if s.link prev = slotByte i then
      (s.setLink prev (s.link (.next i))).setLink (.next i) kBucketNone
    else bucketRemoveLoop i steps s (.next (byteSlot (s.link prev)))

def bucketRemove : Table :=
  bucketRemoveLoop i (kTcbCap + 1) s (.head (bucketHash (s.tcbs i).tuple))

def lookupLoop (s : Table) (tuple : FiveTuple) : Nat → UInt8 → Option (Fin kTcbCap)
  | 0, _ => none
  | steps + 1, idx =>
    if idx = kBucketNone then none
    else
      let t := s.tcbs (byteSlot idx)
      if t.inUse ∧ ¬t.isListener ∧ t.tuple = tuple then some (byteSlot idx)
      else lookupLoop s tuple steps t.bucketNext

def lookupExact (tuple : FiveTuple) : Option (Fin kTcbCap) :=
  lookupLoop s tuple (kTcbCap + 1) (s.buckets (bucketHash tuple))

def lookupListener (localPort : UInt16) : Option (Fin kTcbCap) :=
  (finRange kTcbCap).find? fun i =>
    (s.tcbs i).inUse ∧ (s.tcbs i).isListener ∧ (s.tcbs i).tuple.binding = binding ∧
      (s.tcbs i).tuple.localPort = localPort

def allocSlot : Option (Fin kTcbCap) :=
  (finRange kTcbCap).find? fun i => ¬(s.tcbs i).inUse

/-- C++ `ResetTcbStorage`: everything but the generation and the half-open count. -/
def resetTcbStorage (t : Tcb) :
    Tcb := { generation := t.generation, synBacklogCount := t.synBacklogCount }

def reserveSlot : Table :=
  s.setTcb i { resetTcbStorage (s.tcbs i) with
    generation := (s.tcbs i).generation + 1, inUse := true, initializing := true }

def unreserveSlot : Table :=
  s.setTcb i { s.tcbs i with inUse := false, initializing := false }

/-- One child less is half open, when its parent is still a listener. -/
def releaseSynBacklog (parent : UInt32) : Table :=
  match decodeId s parent with
  | none => s
  | some p =>
    if (s.tcbs p).isListener ∧ 0 < (s.tcbs p).synBacklogCount then
      s.setTcb p { s.tcbs p with synBacklogCount := (s.tcbs p).synBacklogCount - 1 }
    else s

def dropTcb : Table :=
  if ¬(s.tcbs i).inUse then s
  else
    let s := if (s.tcbs i).isListener then s else bucketRemove s i
    let s :=
      if ¬(s.tcbs i).isListener ∧ (s.tcbs i).parentListener ≠ 0 then
        let s := releaseSynBacklog s (s.tcbs i).parentListener
        s.setTcb i { s.tcbs i with parentListener := 0 }
      else s
    s.setTcb i { s.tcbs i with
      toConn := { sackScoreboardClear (s.tcbs i).toConn with state := .closed }, inUse := false,
      generation := (s.tcbs i).generation + 1 }

def settle : Outcome → Table
  | .alive t => s.setConn i t
  | .dropped t => dropTcb (s.setConn i t) i

/-- C++ `Listen`: the slot taken, and the table. -/
def listen (s : Table) (snapshot : NetInterfaceSnapshot) (localIp : Ipv4Address)
    (localPort : UInt16)
    (backlog : Nat) : Option (Fin kTcbCap) × Table :=
  let backlog := min (if backlog = 0 then 1 else backlog) kListenBacklogMax
  if localPort = 0 then (none, s)
  else if lookupListener s snapshot.binding localPort ≠ none then (none, s)
  else
    match allocSlot s with
    | none => (none, s)
    | some i =>
      (some i, s.setTcb i { resetTcbStorage (s.tcbs i) with
        state := .listen, generation := (s.tcbs i).generation + 1, inUse := true,
        isListener := true,
        tuple := { binding := snapshot.binding, localIp, localPort }, localMac := snapshot.mac,
        backlogMax := backlog, refs := 1 })

/-- The loop of `AcceptNonblocking`: the child taken, if any, and the listener. -/
def acceptLoop (s : Table) : Nat → Tcb → Option UInt32 × Tcb
  | 0, lp => (none, lp)
  | entries + 1, lp =>
    if lp.backlogCount = 0 then (none, lp)
    else
      let child := lp.backlogRing lp.backlogTail
      let lp := { lp with
        backlogTail := (lp.backlogTail + 1) % kListenBacklogMax,
        backlogCount := lp.backlogCount - 1 }
      match decodeId s child with
      | none => acceptLoop s entries lp
      | some c =>
        if (s.tcbs c).state ≠ .established then acceptLoop s entries lp else (some child, lp)

def acceptNonblocking (listener : UInt32) : Option UInt32 × Table :=
  match decodeId s listener with
  | none => (none, s)
  | some l =>
    if ¬(s.tcbs l).isListener then (none, s)
    else
      let (child, lp) := acceptLoop s (s.tcbs l).backlogCount (s.tcbs l)
      (child, s.setTcb l lp)

def notifyParentAccept (s : Table) (i : Fin kTcbCap) : Table :=
  let child := s.tcbs i
  if child.parentListener = 0 then s
  else
    match decodeId s child.parentListener with
    | none => s
    | some p =>
      let parent := s.tcbs p
      if ¬parent.isListener then s
      else if parent.backlogMax ≤ parent.backlogCount then
        dropTcb (s.setConn i
          (sendSegment now child.toConn (kFlagRst ||| kFlagAck) child.sndNxt child.rcvNxt [])) i
      else
        let s := s.setTcb p { parent with
          backlogRing := update parent.backlogRing parent.backlogHead (makeId i child.generation),
          backlogHead := (parent.backlogHead + 1) % kListenBacklogMax,
          backlogCount := parent.backlogCount + 1,
          synBacklogCount := parent.synBacklogCount - 1 }
        s.setTcb i { s.tcbs i with parentListener := 0 }

/-- C++ `DeliverSegment`. None is the fall through to a connection whose buffers
`NotifyParentAccept` has freed: `ProcessAck` reads its retransmit queue next. -/
def deliver (now heap : Nat) (ipCe : Bool) (peerMac : MacAddress) (seg : Segment) (s : Table)
    (i : Fin kTcbCap) :
    Option Table :=
  match deliverHead now heap peerMac seg (s.tcbs i).toConn with
  | .done t => some (s.setConn i t)
  | .dropped t => some (dropTcb (s.setConn i t) i)
  | .accepted t =>
    let s := notifyParentAccept now (s.setConn i t) i
    if (s.tcbs i).inUse then some (settle s i (deliverTail now ipCe seg (s.tcbs i).toConn))
      else none
  | .proceed t => some (settle s i (deliverTail now ipCe seg t))

/-- A SYN on its way to a listener, while buffers are allocated for the child. -/
structure SynCall where
  slot : Fin kTcbCap
  parent : UInt32
  snapshot : NetInterfaceSnapshot
  peerMac : MacAddress
  tuple : FiveTuple
  seg : Segment

/-- C++ `HandleListenSyn` up to the allocation. -/
def synReserve (listener : Fin kTcbCap) (snapshot : NetInterfaceSnapshot) (peerMac : MacAddress)
    (tuple : FiveTuple)
    (seg : Segment) : Option SynCall × Table :=
  let parent := s.tcbs listener
  if parent.backlogMax ≤ parent.backlogCount + parent.synBacklogCount then (none, s)
  else
    match allocSlot s with
    | none => (none, s)
    | some i =>
      (some ⟨i, makeId listener parent.generation, snapshot, peerMac, tuple, seg⟩, reserveSlot s i)

def kFnvPrime : UInt64 := 0x100000001B3

def genIsn (secret : UInt64) (now : Nat) (tuple : FiveTuple) : UInt32 :=
  let words := (range 4).map tuple.localIp.octet ++ (range 4).map tuple.peerIp.octet ++
    [tuple.localPort.toUInt32, tuple.peerPort.toUInt32]
  let h := words.foldl (fun h v => (h ^^^ v.toUInt64) * kFnvPrime) (0xCBF29CE484222325 ^^^ secret)
  UInt32.ofNat (now / 64) + (h ^^^ (h >>> 32)).toUInt32

/-- The child's connection as `HandleListenSyn` sets it up. -/
def synConn (iss : UInt32) (call : SynCall) : Conn :=
  let seg := call.seg
  let po := parseOptions seg.opts
  let ecn := hasFlag seg.flags kFlagEce && hasFlag seg.flags kFlagCwr
  let t : Conn := {
    state := .synRcvd
    peerMac := call.peerMac
    iss
    sndUna := iss
    sndNxt := iss + 1
    sndWl1 := seg.seq
    sndWl2 := 0
    irs := seg.seq
    rcvNxt := seg.seq + 1
    mssSend := if 0 < po.mss ∧ po.mss.toUInt32 < kDefaultMss then po.mss.toUInt32 else kDefaultMss
    peerSupportsWscale := po.hasWscale
    sndWscale := if po.hasWscale then po.wscale else 0
    peerSupportsTimestamps := po.hasTimestamp
    peerSupportsSack := po.sackPermitted
    tsRecent := if po.hasTimestamp then po.tsval else 0
    ecnOk := ecn
    ecnReactSeq := iss }
  let t := sendSegment now t (kFlagSyn ||| kFlagAck ||| (if ecn then kFlagEce else 0)) iss
    t.rcvNxt []
  { t with rtxDeadline := now + t.rtoTicks.toNat }

/-- Does `HandleListenSyn` still find room at the listener after the allocation? -/
def synWelcome (parent : UInt32) : Option (Fin kTcbCap) :=
  match decodeId s parent with
  | none => none
  | some p =>
    if (s.tcbs p).isListener ∧
      (s.tcbs p).backlogCount + (s.tcbs p).synBacklogCount < (s.tcbs p).backlogMax then
      some p
    else none

/-- C++ `HandleListenSyn` after the allocation, with room at listener `p`. -/
def synPublish (call : SynCall) (p : Fin kTcbCap) : Table :=
  let i := call.slot
  let s := s.setTcb i { s.tcbs i with
    toConn := synConn now (genIsn s.isnSecret now call.tuple) call, initializing := false,
    isListener := false,
    tuple := call.tuple, localMac := call.snapshot.mac, refs := 1, parentListener := call.parent }
  let s := s.setTcb p { s.tcbs p with synBacklogCount := (s.tcbs p).synBacklogCount + 1 }
  bucketInsert s i

/-- The loop of `AllocEphemeralPort`: the port, and the cursor behind it. -/
def ephemeralLoop (s : Table) : Nat → UInt16 → UInt16 × UInt16
  | 0, cursor => (0, cursor)
  | attempts + 1, cursor =>
    let next := if cursor + 1 < 49152 then 49152 else cursor + 1
    if cursor = 0 ∨ ∃ i, (s.tcbs i).inUse ∧ (s.tcbs i).tuple.localPort = cursor then
      ephemeralLoop s attempts next
    else (cursor, next)

def allocEphemeralPort : UInt16 × Table :=
  let (port, cursor) := ephemeralLoop s 65536 s.ephemeralCursor
  (port, { s with ephemeralCursor := cursor })

/-- An active open, while its buffers are allocated. -/
structure ConnectCall where
  slot : Fin kTcbCap
  generation : UInt8
  snapshot : NetInterfaceSnapshot
  tuple : FiveTuple

def connectReserve (snapshot : NetInterfaceSnapshot) (dstIp : Ipv4Address)
    (dstPort localPort : UInt16)
    : Option ConnectCall × Table :=
  let (port, s) := if localPort = 0 then allocEphemeralPort s else (localPort, s)
  let tuple : FiveTuple := ⟨snapshot.binding, snapshot.ip, port, dstIp, dstPort⟩
  if port = 0 then (none, s)
  else if lookupExact s tuple ≠ none then (none, s)
  else
    match allocSlot s with
    | none => (none, s)
    | some i => (some ⟨i, (s.tcbs i).generation + 1, snapshot, tuple⟩, reserveSlot s i)

/-- The connection as `Connect` sets it up. -/
def connectConn (iss : UInt32) : Conn :=
  let t : Conn := { state := .synSent, iss, sndUna := iss, sndNxt := iss + 1, ecnReactSeq := iss }
  let t := sendSegment now t (kFlagSyn ||| kFlagEce ||| kFlagCwr) iss 0 []
  { t with rtxDeadline := now + t.rtoTicks.toNat }

def connectPublish (call : ConnectCall) : Table :=
  let i := call.slot
  bucketInsert (s.setTcb i { s.tcbs i with
    toConn := connectConn now (genIsn s.isnSecret now call.tuple), generation := call.generation,
    initializing := false, isListener := false, tuple := call.tuple, localMac := call.snapshot.mac,
    refs := 1 }) i

def close : Table :=
  if (s.tcbs i).isListener then dropTcb s i else s.setConn i (closeConn now (s.tcbs i).toConn)

def abort : Table :=
  let t := s.tcbs i
  if ¬t.isListener ∧ t.state ≠ .closed ∧ t.state ≠ .listen then
    dropTcb (s.setConn i (sendSegment now t.toConn (kFlagRst ||| kFlagAck) t.sndNxt t.rcvNxt [])) i
  else dropTcb s i

def retain : Table := s.setTcb i { s.tcbs i with refs := (s.tcbs i).refs + 1 }

def release : Table :=
  let s := s.setTcb i
    { s.tcbs i with refs := if 0 < (s.tcbs i).refs then (s.tcbs i).refs - 1 else (s.tcbs i).refs }
  let t := s.tcbs i
  if t.refs ≠ 0 then s
  else if t.isListener ∨ t.state = .closed ∨ t.state = .timeWait then dropTcb s i
  else s.setConn i (closeConn now t.toConn)

def timerSlot (s : Table) (i : Fin kTcbCap) : Table :=
  if ¬(s.tcbs i).inUse ∨ (s.tcbs i).initializing ∨ (s.tcbs i).isListener then s
  else settle s i (timerConn now (s.tcbs i).toConn)

def timerTick : Table := (finRange kTcbCap).foldl (timerSlot now) s

def retireSlot (s : Table) (i : Fin kTcbCap) : Table :=
  if ¬(s.tcbs i).inUse ∨ (s.tcbs i).tuple.binding ≠ binding then s else dropTcb s i

def retireInterface : Table :=
  if ¬netInterfaceBindingIsValid binding then s
  else (finRange kTcbCap).foldl (retireSlot binding) s

end

end DuetOS.Tcp
