import DuetOS.Tcp.Table

/-!
# One connection

A connection as its peer, the clock and its owner see it: what arrives, and what is handed back.
Every input is one section of the stack on the connection's slot.
-/

namespace DuetOS.Tcp

/-- What happens to a connection. -/
inductive Input where
  | segment (now heap : Nat) (ipCe : Bool) (peerMac : MacAddress) (seg : Segment)
  | tick (now : Nat)
  | send (now : Nat) (data : List UInt8)
  | recv (now cap : Nat)
  | close (now : Nat)
  | setKeepAlive (now : Nat) (on : Bool)
  | setNoDelay (on : Bool)

/-- What the caller gets. -/
inductive Output where
  | silent
  | sent (taken : Option Nat)
  | received (data : Received)
  deriving DecidableEq, Repr

/-- One section. -/
def respond (input : Input) (t : Conn) : Output × Outcome :=
  match input with
  | .segment now heap ipCe peerMac seg => (.silent, deliverSegment now heap ipCe peerMac seg t)
  | .tick now => (.silent, timerConn now t)
  | .send now data => (.sent (sendConn now data t).1, .alive (sendConn now data t).2)
  | .recv now cap => (.received (recvConn now cap t).1, .alive (recvConn now cap t).2)
  | .close now => (.silent, .alive (closeConn now t))
  | .setKeepAlive now on => (.silent, .alive (setKeepAlive now on t))
  | .setNoDelay on => (.silent, .alive { t with nodelay := on })

/-- Section after section, until the connection is dropped. -/
def serve : List Input → Conn → List Output × Outcome
  | [], t => ([], .alive t)
  | input :: inputs, t =>
    match respond input t with
    | (output, .dropped t) => ([output], .dropped t)
    | (output, .alive t) => (output :: (serve inputs t).1, (serve inputs t).2)

lemma setConn_setConn {s : Table} {i t u} : (s.setConn i t).setConn i u = s.setConn i u := by
  have slot : (s.setConn i t).tcbs i = { s.tcbs i with toConn := t } := setTcb_self
  unfold Table.setConn at slot ⊢
  rw [slot]
  exact congrArg (fun tcbs => { s with tcbs }) (Function.update_idem ..)

/-- `DeliverSegment` on a slot whose connection no listener waits for. -/
lemma deliver_eq_settle {s : Table} {i} (now heap ipCe) (peerMac : MacAddress) (seg)
    (inUse : (s.tcbs i).inUse)
    (parent : (s.tcbs i).parentListener = 0) : deliver now heap ipCe peerMac seg s i =
      some (settle s i (deliverSegment now heap ipCe peerMac seg (s.tcbs i).toConn)) := by
  unfold deliver deliverSegment
  cases deliverHead now heap peerMac seg (s.tcbs i).toConn with
  | done t | dropped t | proceed t => rfl
  | accepted t =>
    have slot : (s.setConn i t).tcbs i = { s.tcbs i with toConn := t } := setTcb_self
    have idle : notifyParentAccept now (s.setConn i t) i = s.setConn i t := by
      rw [notifyParentAccept, slot]
      exact if_pos parent
    dsimp only
    rw [idle, slot, if_pos inUse]
    cases deliverTail now ipCe seg t with
    | alive u => exact congrArg some setConn_setConn
    | dropped u => exact congrArg (fun s => some (dropTcb s i)) setConn_setConn

end DuetOS.Tcp
