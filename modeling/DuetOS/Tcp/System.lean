import DuetOS.Lib.Lts
import DuetOS.Tcp.Table

/-!
# Runs of the TCP stack

Every section that holds `g_tcb_lock` is one step. A `Connect` or an inbound SYN that allocates
buffers for the slot it reserved is a call between two of its sections; any number of calls may be
there at once. `returned` records which slots `Connect` or `AcceptNonblocking` handed to a caller.
An interface that `NetStackAcquireInterface` pinned has a valid binding.
-/

namespace DuetOS.Tcp

inductive Call where
  /-- `Connect` allocates buffers. -/
  | connecting (call : ConnectCall)
  /-- `HandleListenSyn` allocates buffers. -/
  | answering (call : SynCall)
  /-- `HandleListenSyn` frees the buffers of a slot it does not publish. -/
  | discarding (slot : Fin kTcbCap)

def Call.slot : Call → Fin kTcbCap
  | .connecting call => call.slot
  | .answering call => call.slot
  | .discarding slot => slot

structure System where
  table : Table
  calls : Multiset Call
  returned : Fin kTcbCap → Bool

def initSystem (isnSecret : UInt64) : System := ⟨initTable isnSecret, 0, fun _ => false⟩

/-- The ports and the segment in the bytes behind an IPv4 header; none when `OnSegment` ignores
them. -/
def parseSegment (tcp : List UInt8) : Option (UInt16 × UInt16 × Segment) :=
  let dataOff := ((tcp.getD 12 0) >>> 4).toNat * 4
  let half (i : Nat) : UInt16 := (tcp.getD i 0).toUInt16 <<< 8 ||| (tcp.getD (i + 1) 0).toUInt16
  if tcp.length < 20 ∨ dataOff < 20 ∨ tcp.length < dataOff then none
  else
    some (half 0, half 2,
      { seq := word32 (tcp.drop 4)
        ack := word32 (tcp.drop 8)
        flags := tcp.getD 13 0
        win := (half 14).toUInt32
        opts := (tcp.drop 20).take (dataOff - 20)
        payload := tcp.drop dataOff })

inductive Event where
  | listen (slot : Option (Fin kTcbCap))
  | accept (child : Option UInt32)
  | connectReserve (slot : Option (Fin kTcbCap))
  | connectPublish (slot : Fin kTcbCap)
  | connectFail (slot : Fin kTcbCap)
  | deliver (slot : Fin kTcbCap)
  | synReserve (slot : Option (Fin kTcbCap))
  | synPublish (slot : Fin kTcbCap)
  | synDiscard (slot : Fin kTcbCap)
  | synFail (slot : Fin kTcbCap)
  | timerTick
  | send (slot : Fin kTcbCap)
  | recv (slot : Fin kTcbCap)
  | option (slot : Fin kTcbCap)
  | close (slot : Fin kTcbCap)
  | abort (slot : Fin kTcbCap)
  | retain (slot : Fin kTcbCap)
  | release (slot : Fin kTcbCap)
  | retireInterface

def Event.takes : Event → Option (Fin kTcbCap)
  | .listen slot | .connectReserve slot | .synReserve slot => slot
  | _ => none

def System.handOut (s : System) (slot : Fin kTcbCap) :
    Fin kTcbCap → Bool := Function.update s.returned slot true

inductive Step : System → Event → System → Prop where
  | listen {s slot table} snapshot localIp localPort backlog :
    netInterfaceBindingIsValid snapshot.binding →
    listen s.table snapshot localIp localPort backlog = (slot, table) →
    Step s (.listen slot) { s with table }
  | acceptNone {s table} listener :
    acceptNonblocking s.table listener = (none, table) →
    Step s (.accept none) { s with table }
  | accept {s table child slot} listener :
    acceptNonblocking s.table listener = (some child, table) → decodeId s.table child = some slot →
    Step s (.accept (some child)) { s with table, returned := s.handOut slot }
  | connectRefused {s table} snapshot dstIp dstPort localPort :
    netInterfaceBindingIsValid snapshot.binding →
    connectReserve s.table snapshot dstIp dstPort localPort = (none, table) →
    Step s (.connectReserve none) { s with table }
  | connectReserve {s table call} snapshot dstIp dstPort localPort :
    netInterfaceBindingIsValid snapshot.binding →
    connectReserve s.table snapshot dstIp dstPort localPort = (some call, table) →
    Step s (.connectReserve (some call.slot))
      { s with table, calls := .connecting call ::ₘ s.calls,
               returned := Function.update s.returned call.slot false }
  | connectPublish {s calls call} now :
    s.calls = .connecting call ::ₘ calls →
    Step s (.connectPublish call.slot)
      { s with table := connectPublish s.table now call, calls, returned := s.handOut call.slot }
  | connectFail {s calls call} :
    s.calls = .connecting call ::ₘ calls →
    Step s (.connectFail call.slot) { s with table := unreserveSlot s.table call.slot, calls }
  | deliver {s table slot srcPort dstPort seg} now heap ipCe peerMac peerIp
      (snapshot : NetInterfaceSnapshot) tcp :
    netInterfaceBindingIsValid snapshot.binding →
    parseSegment tcp = some (srcPort, dstPort, seg) →
    lookupExact s.table ⟨snapshot.binding, snapshot.ip, dstPort, peerIp, srcPort⟩ = some slot →
    deliver now heap ipCe peerMac seg s.table slot = some table →
    Step s (.deliver slot) { s with table }
  | synRefused {s table srcPort dstPort seg listener} peerMac peerIp
    (snapshot : NetInterfaceSnapshot) tcp :
    netInterfaceBindingIsValid snapshot.binding →
    parseSegment tcp = some (srcPort, dstPort, seg) →
    lookupExact s.table ⟨snapshot.binding, snapshot.ip, dstPort, peerIp, srcPort⟩ = none →
    hasFlag seg.flags kFlagSyn → ¬hasFlag seg.flags kFlagAck →
    lookupListener s.table snapshot.binding dstPort = some listener →
    synReserve s.table listener snapshot peerMac
      ⟨snapshot.binding, snapshot.ip, dstPort, peerIp, srcPort⟩ seg =
      (none, table) →
    Step s (.synReserve none) { s with table }
  | synReserve {s table srcPort dstPort seg listener call} peerMac peerIp
    (snapshot : NetInterfaceSnapshot) tcp :
    netInterfaceBindingIsValid snapshot.binding →
    parseSegment tcp = some (srcPort, dstPort, seg) →
    lookupExact s.table ⟨snapshot.binding, snapshot.ip, dstPort, peerIp, srcPort⟩ = none →
    hasFlag seg.flags kFlagSyn → ¬hasFlag seg.flags kFlagAck →
    lookupListener s.table snapshot.binding dstPort = some listener →
    synReserve s.table listener snapshot peerMac
      ⟨snapshot.binding, snapshot.ip, dstPort, peerIp, srcPort⟩ seg =
      (some call, table) →
    Step s (.synReserve (some call.slot))
      { s with table, calls := .answering call ::ₘ s.calls,
               returned := Function.update s.returned call.slot false }
  | synPublish {s calls call p} now :
    s.calls = .answering call ::ₘ calls → synWelcome s.table call.parent = some p →
    Step s (.synPublish call.slot) { s with table := synPublish s.table now call p, calls }
  | synDiscard {s calls call} :
    s.calls = .answering call ::ₘ calls → synWelcome s.table call.parent = none →
    Step s (.synDiscard call.slot) { s with calls := .discarding call.slot ::ₘ calls }
  | synFail {s calls call} :
    s.calls = .answering call ::ₘ calls →
    Step s (.synFail call.slot) { s with table := unreserveSlot s.table call.slot, calls }
  | synDiscarded {s calls slot} :
    s.calls = .discarding slot ::ₘ calls →
    Step s (.synFail slot) { s with table := unreserveSlot s.table slot, calls }
  | timerTick {s} now :
    Step s .timerTick { s with table := timerTick s.table now }
  | send {s slot} now id data :
    decodeId s.table id = some slot → ¬(s.table.tcbs slot).isListener →
    Step s (.send slot)
      { s with table := s.table.setConn slot (sendConn now data (s.table.tcbs slot).toConn).2 }
  | recv {s slot} now id cap :
    decodeId s.table id = some slot → ¬(s.table.tcbs slot).isListener →
    Step s (.recv slot)
      { s with table := s.table.setConn slot (recvConn now cap (s.table.tcbs slot).toConn).2 }
  | setKeepAlive {s slot} now id on :
    decodeId s.table id = some slot →
    Step s (.option slot)
      { s with table := s.table.setConn slot (setKeepAlive now on (s.table.tcbs slot).toConn) }
  | setNoDelay {s slot} id on :
    decodeId s.table id = some slot →
    Step s (.option slot)
      { s with table := s.table.setConn slot { (s.table.tcbs slot).toConn with nodelay := on } }
  | close {s slot} now id :
    decodeId s.table id = some slot →
    Step s (.close slot) { s with table := close s.table now slot }
  | abort {s slot} now id :
    decodeId s.table id = some slot →
    Step s (.abort slot) { s with table := abort s.table now slot }
  | retain {s slot} id :
    decodeId s.table id = some slot →
    Step s (.retain slot) { s with table := retain s.table slot }
  | release {s slot} now id :
    decodeId s.table id = some slot →
    Step s (.release slot) { s with table := release s.table now slot }
  | retireInterface {s} binding :
    Step s .retireInterface { s with table := retireInterface s.table binding }

end DuetOS.Tcp
