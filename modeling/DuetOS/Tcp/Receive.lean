import DuetOS.Lib.Circular
import DuetOS.Tcp.Options

/-!
# Receiving

`DeliverPayload` puts payload in order into the receive ring, or keeps it in the reassembly queue
until it is.
-/

namespace DuetOS.Tcp

def Conn.rcvRoom (t : Conn) : Nat := kRcvBufBytes - t.rcvbufCount

/-- Copy as much of `data` into the receive ring as fits. -/
def Conn.pushRcv (t : Conn) (data : List UInt8) : Conn :=
  let taken := data.take t.rcvRoom
  { t with
    rcvbuf := Circular.blit t.rcvbuf (Circular.writes kRcvBufBytes t.rcvbufHead taken),
    rcvbufHead := (t.rcvbufHead + taken.length) % kRcvBufBytes,
    rcvbufCount := t.rcvbufCount + taken.length,
    rcvNxt := t.rcvNxt + UInt32.ofNat taken.length }

def Conn.freeOo (t : Conn) (i : Fin kReassQueueMax) : Conn :=
  { t with ooQueue := Function.update t.ooQueue i { t.ooQueue i with inUse := false } }

/-- One slot of the coalescing loop: whether something changed, and the connection. -/
def coalesceSlot (acc : Bool × Conn) (i : Fin kReassQueueMax) : Bool × Conn :=
  let t := acc.2
  let oo := t.ooQueue i
  if ¬oo.inUse then acc
  else if oo.seq = t.rcvNxt then (true, (t.pushRcv oo.data).freeOo i)
  else if t.rcvNxt - oo.seq ≤ UInt32.ofNat oo.data.length then (true, t.freeOo i)
  else acc

def coalescePass (t : Conn) :
    Bool × Conn := (List.finRange kReassQueueMax).foldl coalesceSlot (false, t)

/-- The coalescing loop. Every pass that changes something frees a slot. -/
def coalesceLoop : Nat → Conn → Conn
  | 0, t => t
  | passes + 1, t =>
    if (coalescePass t).1 then coalesceLoop passes (coalescePass t).2 else (coalescePass t).2

/-- Keep a segment that is not in order, unless its start is queued already or the queue is full. -/
def stashOo (t : Conn) (seq : UInt32) (data : List UInt8) : Conn :=
  if ∃ i, (t.ooQueue i).inUse ∧ (t.ooQueue i).seq = seq then t
  else
    match (List.finRange kReassQueueMax).find? fun i => ¬(t.ooQueue i).inUse with
    | none => t
    | some i =>
      { t with ooQueue := Function.update t.ooQueue i ⟨true, seq, data.take kSegmentBytes⟩ }

def deliverPayload (t : Conn) (seq : UInt32) (data : List UInt8) : Conn :=
  if data = [] then t
  else if t.rcvWnd < seq - t.rcvNxt then t
  else if seq = t.rcvNxt then
    let t := coalesceLoop (kReassQueueMax + 1) (t.pushRcv data)
    { t with rcvWnd := UInt32.ofNat t.rcvRoom }
  else stashOo t seq data

end DuetOS.Tcp
