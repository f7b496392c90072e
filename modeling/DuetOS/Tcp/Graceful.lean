import DuetOS.Tcp.Endpoint
import DuetOS.Tcp.Frames
import DuetOS.Tcp.Lookup
import DuetOS.Lib.Slots

/-!
# The last bytes

`Close` and the last `Release` drain the send buffer once and send the FIN. What the window or the
retransmit queue has no room for stays in the buffer, and nothing drains it afterwards.
-/

namespace DuetOS.Tcp

open List

/-- The bytes that the window still takes. -/
def Conn.room (t : Conn) : Nat := (effectiveSendWindow t 0).toNat - (t.sndNxt - t.sndUna).toNat

def Conn.freeSlots (t : Conn) : Nat :=
  (finRange kRtxQueueMax).countP fun i => (t.rtxQueue i).data.isEmpty

/-- The window and the retransmit queue have room for the queued bytes, in this many segments. -/
structure Roomy (t : Conn) (segments : Nat) : Prop where
  cut : t.sndbufCount ≤ segments * t.mssSend.toNat
  window : t.sndbufCount ≤ t.room
  count : segments ≤ kRtxQueueMax - t.rtxCount
  slots : segments ≤ t.freeSlots

/-- One pass of the drain moves `taken` bytes from the send buffer to a slot of the queue. -/
structure Cut (t t' : Conn) (taken : Nat) : Prop where
  pos : 0 < taken
  take : taken = min (min t.sndbufCount t.mssSend.toNat) t.room
  left : t'.sndbufCount = t.sndbufCount - taken
  next : t'.sndNxt = t.sndNxt + UInt32.ofNat taken
  same : t'.mssSend = t.mssSend ∧ t'.sndUna = t.sndUna ∧
    effectiveSendWindow t' 0 = effectiveSendWindow t 0
  count : t.rtxCount < kRtxQueueMax ∧ t'.rtxCount = t.rtxCount + 1
  slots : t'.freeSlots + 1 = t.freeSlots

variable {t t' : Conn} {now segments taken passes : Nat}

/-- The bytes of a pass in terms of the room in the window. -/
lemma sendTake_eq (t : Conn) : sendTake t 0 = min (min t.sndbufCount t.mssSend.toNat) t.room := by
  unfold sendTake Conn.room
  dsimp only
  split
  next shut => rw [Nat.sub_eq_zero_of_le (UInt32.le_iff_toNat_le.mp shut), Nat.min_zero]
  next lt => rw [UInt32.toNat_sub_of_le _ _ (UInt32.le_of_lt (UInt32.not_le.mp lt))]

/-- A pass takes its bytes from the room in the window. -/
lemma Cut.room (cut : Cut t t' taken) : t'.room = t.room - taken := by
  have small := (effectiveSendWindow t 0).toNat_lt
  have le : taken ≤ t.room := cut.take.trans_le (Nat.min_le_right ..)
  have pos := cut.pos
  have flight : t.sndNxt + UInt32.ofNat taken - t.sndUna =
      t.sndNxt - t.sndUna + UInt32.ofNat taken := by
    grind
  unfold Conn.room at le ⊢
  rw [cut.same.2.2, cut.next, cut.same.2.1, flight, UInt32.toNat_add, UInt32.toNat_ofNat']
  omega

/-- The number behind the queued bytes stays. -/
lemma Cut.numbers (cut : Cut t t' taken) :
    t'.sndNxt + UInt32.ofNat t'.sndbufCount = t.sndNxt + UInt32.ofNat t.sndbufCount := by
  have take := cut.take
  rw [cut.next, cut.left, UInt32.add_assoc, ← UInt32.ofNat_add, Nat.add_sub_cancel' (by omega)]

/-- What is left after a pass fits in one segment less. -/
lemma Cut.roomy_iff (cut : Cut t t' taken) : Roomy t' segments ↔ Roomy t (segments + 1) := by
  have room := cut.room
  have take := cut.take
  have left := cut.left
  have count := cut.count
  have slots := cut.slots
  have mul : (segments + 1) * t.mssSend.toNat = segments * t.mssSend.toNat + t.mssSend.toNat :=
    Nat.succ_mul ..
  constructor
  · rintro ⟨fits, window, counted, free⟩
    rw [cut.same.1] at fits
    exact ⟨by omega, by omega, by omega, by omega⟩
  · rintro ⟨fits, window, counted, free⟩
    refine ⟨?_, by omega, by omega, by omega⟩
    rw [cut.same.1]
    omega

/-- What a pass of the drain does. -/
lemma drainOne_cut (drained : drainOne now 0 t = some t') : ∃ taken, Cut t t' taken := by
  unfold drainOne at drained
  split at drained
  next queued =>
    dsimp only at drained
    split at drained
    · cases drained
    next some_bytes =>
    split at drained
    · cases drained
    next slot free =>
    refine ⟨sendTake t 0, ?_⟩
    have unused : (t.rtxQueue slot).data.isEmpty := (find?_some free :)
    have filled : (t.peekSend (sendTake t 0)).isEmpty = false := by
      rw [isEmpty_eq_false_iff, ← length_pos_iff, Conn.peekSend, length_map, length_range]
      omega
    have slots := Slots.countP_update (fun sb => sb.data.isEmpty) t.rtxQueue slot
      ⟨t.sndNxt, t.peekSend (sendTake t 0), kFlagAck ||| kFlagPsh, false, now⟩
    simp only [unused, filled, if_true] at slots
    rw [← Option.some.inj drained, (sendSegment_eq ..).choose_spec.choose_spec]
    split <;>
      exact ⟨Nat.pos_of_ne_zero some_bytes, sendTake_eq t, rfl, rfl, ⟨rfl, rfl, rfl⟩,
        ⟨queued.2, rfl⟩, slots⟩
  · cases drained

/-- The drain stops only when nothing is queued or there is no room. -/
lemma drainOne_none (idle : drainOne now 0 t = none) (roomy : Roomy t segments) :
    t.sndbufCount = 0 := by
  obtain ⟨cut, window, count, slots⟩ := roomy
  by_contra queued
  have some_segments : 0 < segments ∧ 0 < t.mssSend.toNat := by
    by_contra none
    have zero : segments * t.mssSend.toNat = 0 := Nat.mul_eq_zero.mpr (by omega)
    omega
  have take := sendTake_eq t
  unfold drainOne at idle
  rw [if_pos ⟨by omega, by omega⟩] at idle
  dsimp only at idle
  rw [if_neg (by omega)] at idle
  split at idle
  next free =>
    have none_free := countP_eq_zero.mpr (find?_eq_none.mp free)
    unfold Conn.freeSlots at slots
    omega
  · cases idle

/-- The drain empties the buffer just when the queued bytes have room. -/
lemma drainLoop_empty_iff :
    (drainLoop now 0 passes t).sndbufCount = 0 ↔ ∃ segments ≤ passes, Roomy t segments := by
  have roomy_of_empty : ∀ {t : Conn}, t.sndbufCount = 0 → Roomy t 0 := fun empty =>
    ⟨by omega, by omega, Nat.zero_le _, Nat.zero_le _⟩
  induction passes generalizing t with
  | zero =>
    refine ⟨fun empty => ⟨0, le_rfl, roomy_of_empty empty⟩, ?_⟩
    rintro ⟨segments, le, roomy⟩
    have cut := roomy.cut
    rw [Nat.le_zero.mp le, Nat.zero_mul] at cut
    exact Nat.le_zero.mp cut
  | succ passes ih =>
    rw [drainLoop]
    split
    next idle =>
      refine ⟨fun empty => ⟨0, Nat.zero_le _, roomy_of_empty empty⟩, ?_⟩
      rintro ⟨segments, _, roomy⟩
      exact drainOne_none idle roomy
    next t' drained =>
      obtain ⟨taken, cut⟩ := drainOne_cut drained
      refine ih.trans ⟨?_, ?_⟩
      · rintro ⟨segments, le, roomy⟩
        exact ⟨segments + 1, Nat.succ_le_succ le, cut.roomy_iff.mp roomy⟩
      · rintro ⟨segments, le, roomy⟩
        have fits := roomy.cut
        have pos := cut.pos
        have take := cut.take
        cases segments with
        | zero => omega
        | succ segments => exact ⟨segments, Nat.le_of_succ_le_succ le, cut.roomy_iff.mpr roomy⟩

/-- The drain keeps the number behind the queued bytes. -/
lemma drainLoop_numbers :
    (drainLoop now 0 passes t).sndNxt + UInt32.ofNat (drainLoop now 0 passes t).sndbufCount =
      t.sndNxt + UInt32.ofNat t.sndbufCount := by
  induction passes generalizing t with
  | zero => rfl
  | succ passes ih =>
    rw [drainLoop]
    split
    · rfl
    next drained => exact ih.trans (drainOne_cut drained).choose_spec.numbers

/-- What `Close` does to a connection that still sends. -/
lemma closeConn_iff (now : Nat)
    (sends : t.state = .established ∨ t.state = .closeWait)
    (live : t.txClosed = false) :
    ((closeConn now t).sndbufCount = 0 ↔ ∃ segments, Roomy t segments) ∧
      (closeConn now t).sndNxt + UInt32.ofNat (closeConn now t).sndbufCount =
        t.sndNxt + UInt32.ofNat t.sndbufCount + 1 := by
  have fin : ∀ c next, (sendFin now next c).sndbufCount = c.sndbufCount ∧
      (sendFin now next c).sndNxt = c.sndNxt + 1 := by
    intro c next
    unfold sendFin
    rw [(sendSegment_eq ..).choose_spec.choose_spec]
    exact ⟨rfl, rfl⟩
  have persist : ∀ c, (updatePersist now c).state = c.state ∧
      (updatePersist now c).sndbufCount = c.sndbufCount ∧
        (updatePersist now c).sndNxt = c.sndNxt := by
    intro c
    unfold updatePersist
    split_ifs <;> exact ⟨rfl, rfl, rfl⟩
  have drained := @drainLoop_empty_iff { t with txClosed := true } now kRtxQueueMax
  have numbers := @drainLoop_numbers { t with txClosed := true } now kRtxQueueMax
  have state : (drainLoop now 0 kRtxQueueMax { t with txClosed := true }).state = t.state :=
    (congrArg Conn.state (@drainLoop_still { t with txClosed := true } now 0 kRtxQueueMax) :)
  have fits : (∃ n ≤ kRtxQueueMax, Roomy { t with txClosed := true } n) ↔ ∃ n, Roomy t n := by
    constructor
    · rintro ⟨n, _, roomy⟩
      exact ⟨n, roomy.cut, roomy.window, roomy.count, roomy.slots⟩
    · rintro ⟨n, roomy⟩
      exact ⟨n, roomy.count.trans (Nat.sub_le ..), roomy.cut, roomy.window, roomy.count,
        roomy.slots⟩
  unfold closeConn drainSendBuffer
  rw [live, if_neg Bool.false_ne_true, if_neg (not_and_or.mpr (sends.imp not_not.mpr not_not.mpr))]
  generalize drainLoop now 0 kRtxQueueMax { t with txClosed := true } = d at drained numbers state ⊢
  dsimp only
  rw [(persist d).1, state]
  have last : ∀ next, (sendFin now next (updatePersist now d)).sndNxt +
      UInt32.ofNat (sendFin now next (updatePersist now d)).sndbufCount =
        t.sndNxt + UInt32.ofNat t.sndbufCount + 1 := by
    intro next
    rw [(fin ..).1, (fin ..).2, (persist d).2.1, (persist d).2.2, ← numbers]
    grind
  rcases sends with eq | eq <;> rw [eq] <;> dsimp only <;> refine ⟨?_, last _⟩ <;>
    rw [(fin ..).1, (persist d).2.1, drained, fits]

/-- The step sends the FIN of the connection in slot `i`. -/
structure Finishes (s : System) (e : Event) (i : Fin kTcbCap) : Prop where
  call : e = .close i ∨ e = .release i ∧ (s.table.tcbs i).refs ≤ 1
  sends : (s.table.tcbs i).state = .established ∨ (s.table.tcbs i).state = .closeWait
  live : (s.table.tcbs i).txClosed = false
  connection : (s.table.tcbs i).isListener = false

/-- The step that sends the FIN closes the connection in its slot. -/
lemma Finishes.closes {s s' : System} {e : Event} {i : Fin kTcbCap}
    (fin : Finishes s e i)
    (st : Step s e s') :
    ∃ now, (s'.table.tcbs i).toConn = closeConn now (s.table.tcbs i).toConn := by
  obtain ⟨call, sends, live, connection⟩ := fin
  rcases call with rfl | ⟨rfl, last⟩
  · cases st with
    | close now =>
      refine ⟨now, ?_⟩
      unfold close Table.setConn
      rw [connection, if_neg Bool.false_ne_true, setTcb_self]
  · cases st with
    | release now =>
      refine ⟨now, ?_⟩
      have refs : (if 0 < (s.table.tcbs i).refs then (s.table.tcbs i).refs - 1
          else (s.table.tcbs i).refs) = 0 := by
        split <;> grind
      unfold release Table.setConn
      rw [refs]
      simp only [setTcb_self, connection]
      rcases sends with eq | eq <;> simp [eq]

/-- In every run of the stack, a `Close` or a last `Release` that sends the FIN sends it under the
number after the last byte that `Send` took and leaves no byte behind just when the window and the
retransmit queue have room for the queued bytes. -/
theorem fin_follows_last_byte {secret : UInt64} {es : List Event} {s s' : System} {e : Event}
    {i : Fin kTcbCap}
    (_run : Lts.Run Step (initSystem secret) es s)
    (st : Step s e s')
    (fin : Finishes s e i) :
    ((s'.table.tcbs i).sndbufCount = 0 ∧
        (s'.table.tcbs i).sndNxt =
          (s.table.tcbs i).sndNxt + UInt32.ofNat (s.table.tcbs i).sndbufCount + 1) ↔
      ∃ segments, Roomy (s.table.tcbs i).toConn segments := by
  obtain ⟨now, closed⟩ := fin.closes st
  obtain ⟨empty, numbers⟩ := closeConn_iff now fin.sends fin.live
  rw [← closed] at empty numbers
  rw [← empty]
  refine ⟨And.left, fun none => ⟨none, ?_⟩⟩
  rw [none] at numbers
  exact (UInt32.add_zero _).symm.trans numbers

/-- The answer of the peer to the SYN of the connection from port 5000. -/
def welcome : List UInt8 :=
  [0, 80, 19, 136, 0, 0, 3, 232, 34, 149, 93, 42, 80, 18, 255, 255, 0, 0, 0, 0]

/-- `Close` right after the handshake, with nothing queued. -/
theorem fin_follows_handshake :
    ∃ es s s', Lts.Run Step (initSystem 0) es s ∧ Step s (.close firstSlot) s' ∧
      (s'.table.tcbs firstSlot).sndbufCount = 0 := by
  let s₁ := connectDone (initSystem 0) firstSlot 5000 0
  have connected : Lts.Run Step (initSystem 0) _ s₁ :=
    run_connect (by decide) (lookupExact_empty rfl)
      (allocSlot_eq rfl fun j lt => absurd lt (Nat.not_lt_zero _))
  let seg : Segment := ⟨1000, 580214058, 18, 65535, [], []⟩
  let s₂ : System := { s₁ with table := (deliver 0 0 false 0 seg s₁.table firstSlot).getD s₁.table }
  have delivered : deliver 0 0 false 0 seg s₁.table firstSlot = some s₂.table := by
    obtain ⟨table, eq⟩ := Option.isSome_iff_exists.mp
      (show (deliver 0 0 false 0 seg s₁.table firstSlot).isSome by decide +kernel)
    exact eq.trans (congrArg some (congrArg (Option.getD · s₁.table) eq).symm)
  have established : Lts.Run Step (initSystem 0) _ s₂ :=
    connected.snoc (@Step.deliver s₁ _ firstSlot 80 5000 seg 0 0 false 0 loopback.ip loopback
      welcome rfl
      (by decide +kernel) (by decide +kernel) delivered)
  have st : Step s₂ (.close firstSlot) _ := .close 0 0x01000001 (by decide +kernel)
  have fin : Finishes s₂ (.close firstSlot) firstSlot :=
    ⟨.inl rfl, by decide +kernel, by decide +kernel, by decide +kernel⟩
  have roomy : Roomy (s₂.table.tcbs firstSlot).toConn 0 :=
    ⟨by decide +kernel, by decide +kernel, Nat.zero_le _, Nat.zero_le _⟩
  exact ⟨_, s₂, _, established, st, ((fin_follows_last_byte established st fin).mpr ⟨0, roomy⟩).1⟩
/-- The peer's window takes two of four bytes. It acknowledges these and the FIN, and sends its
own. -/
def lostInputs : List Input :=
  [.segment 0 0 false 0 ⟨1000, 1, kFlagSyn ||| kFlagAck, 2, [], []⟩,
    .send 0 [0x41, 0x42, 0x43, 0x44], .close 0,
    .segment 1 0 false 0 ⟨1001, 4, kFlagAck ||| kFlagFin, 2, [], []⟩, .tick 1000000]

/-- `Send` took four bytes. The connection is closed by both sides and dropped, and two of them were
never sent. -/
theorem queued_bytes_lost :
    ∃ outputs t, serve lostInputs (connectConn 0 0) = (outputs, .dropped t) ∧
    .sent (some 4) ∈ outputs ∧ t.sndbufCount = 2 ∧ t.wire.flatMap Frame.payload = [0x41, 0x42] := by
  have runs : (match serve lostInputs (connectConn 0 0) with
    | (outputs, .dropped t) => decide (.sent (some 4) ∈ outputs ∧ t.sndbufCount = 2 ∧
        t.wire.flatMap Frame.payload = [0x41, 0x42])
    | _ => false) = true := by decide +kernel
  split at runs
  next outputs t eq => exact ⟨outputs, t, eq, of_decide_eq_true runs⟩
  · cases runs

end DuetOS.Tcp
