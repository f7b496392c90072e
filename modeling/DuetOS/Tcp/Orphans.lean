import DuetOS.Tcp.Owners

/-!
# No connection without an owner

What holds of the owners after a run of tidy steps, and the `Close` during a handshake that strands
a connection.
-/

namespace DuetOS.Tcp

/-- The SYN+ACK for a connection from port 5000 to port 80. -/
def synAckBytes : List UInt8 :=
  [0, 80, 0x13, 0x88, 0, 0, 0, 7, 0x22, 0x95, 0x5D, 0x2A, 0x50, 0x12, 0x10, 0, 0, 0, 0, 0]

def synAckSegment : Segment :=
  { seq := 7, ack := 580214058, flags := kFlagSyn ||| kFlagAck, win := 4096, opts := []
    payload := [] }

lemma parse_synAckBytes : parseSegment synAckBytes = some (80, 5000, synAckSegment) := by decide

lemma step_synAck {s : System} (found : lookupExact s.table (loopTuple 5000) = some firstSlot)
    (lives : (deliver 0 0 false 0 synAckSegment s.table firstSlot).isSome) :
    Step s (.deliver firstSlot)
      { s with table := (deliver 0 0 false 0 synAckSegment s.table firstSlot).get lives } :=
  .deliver 0 0 false 0 loopback.ip loopback synAckBytes rfl parse_synAckBytes found
    (Option.some_get lives).symm

lemma tidy_of_connections (step : Step s e s') (none : ∀ l, (s.table.tcbs l).isListener = false)
    (close : ∀ i, e ≠ .close i) (release : ∀ i, e ≠ .release i) (retain : ∀ i, e ≠ .retain i) :
    TidyStep s e s' := by
  have unreferred : ∀ {l i}, ¬Refers s.table l i := by
    intro l i refers
    have listener := refers.listener
    rw [none l] at listener
    cases listener
  exact ⟨step, fun i eq => absurd eq (close i), fun i eq => absurd eq (release i),
    fun i eq => absurd eq (retain i),
    fun _ _ refers => absurd refers unreferred, fun _ _ _ _ refers => absurd refers unreferred⟩

lemma run_connect_tidy :
    Lts.Run TidyStep (initSystem 0) [.connectReserve (some firstSlot), .connectPublish firstSlot]
    (connectDone (initSystem 0) firstSlot 5000 0) := by
  have reserve := @step_connectReserve firstSlot 5000 (initSystem 0) (by decide)
    (lookupExact_empty rfl)
    (by decide +kernel)
  have publish := @step_connectPublish firstSlot 5000 0 (initSystem 0)
  refine .snoc (.single (tidy_of_connections reserve (fun _ => rfl) ?_ ?_ ?_))
    (tidy_of_connections publish (by decide +kernel) ?_ ?_ ?_)
  all_goals exact nofun

/-- After any run of tidy steps, every connection that is established or half closed by its peer is
still open for its owner, and a live listener refers to it or it was handed to a caller who holds a
reference. -/
theorem open_connections_owned {isnSecret : UInt64} {es : List Event} {s : System}
    (run : Lts.Run TidyStep (initSystem isnSecret) es s) (i : Fin kTcbCap)
    (inUse : (s.table.tcbs i).inUse) (connection : (s.table.tcbs i).isListener = false)
    (state : (s.table.tcbs i).state = .established ∨ (s.table.tcbs i).state = .closeWait) :
    (s.table.tcbs i).txClosed = false ∧
    ((∃ l, Refers s.table l i) ∨ s.returned i ∧ 0 < (s.table.tcbs i).refs) := by
  have live : (s.table.tcbs i).isOpen := by
    rcases state with state | state <;> rw [Conn.isOpen, state] <;> rfl
  obtain ⟨owned, idle⟩ := owned_of_run run
  have settled : (s.table.tcbs i).settled := by
    refine ⟨inUse, Bool.eq_false_iff.mpr fun initializing => ?_⟩
    rw [idle i initializing] at state
    rcases state with state | state <;> cases state
  obtain ⟨sends, counted, owner⟩ := owned.held i (Tcb.published_iff.mpr ⟨settled, connection⟩) live
  exact ⟨sends, owner.imp_right fun handed => ⟨handed, counted⟩⟩

/-- `Connect`, and the SYN+ACK: the connection belongs to the caller. -/
theorem open_connections_owned_first : ∃ es s, Lts.Run TidyStep (initSystem 0) es s ∧
    (s.table.tcbs firstSlot).inUse ∧ (s.table.tcbs firstSlot).isListener = false ∧
    (s.table.tcbs firstSlot).state = .established ∧ (s.table.tcbs firstSlot).txClosed = false ∧
      ((∃ l, Refers s.table l firstSlot) ∨ s.returned firstSlot ∧
        0 < (s.table.tcbs firstSlot).refs) := by
  have answered := @step_synAck (connectDone (initSystem 0) firstSlot 5000 0) (by decide +kernel)
    (by decide +kernel)
  have run := run_connect_tidy.snoc (tidy_of_connections answered (by decide +kernel)
    nofun nofun nofun)
  refine ⟨_, _, run, ?_, ?_, ?_, open_connections_owned run firstSlot ?_ ?_ (.inl ?_)⟩
  all_goals decide +kernel

/-- The caller closes while the SYN is out; then the SYN+ACK comes. The connection is established,
nobody will close it, and no FIN is ever sent. -/
theorem close_in_handshake_strands : ∃ es s, Lts.Run Step (initSystem 0) es s ∧
    (s.table.tcbs firstSlot).inUse ∧ (s.table.tcbs firstSlot).isListener = false ∧
    (s.table.tcbs firstSlot).state = .established ∧ (s.table.tcbs firstSlot).txClosed := by
  have connected := run_connect_tidy.mono fun tidy => tidy.step
  have closing := @Step.close (connectDone (initSystem 0) firstSlot 5000 0) firstSlot 0
    (makeId firstSlot 1)
    (by decide +kernel)
  have answered := @step_synAck { connectDone (initSystem 0) firstSlot 5000 0 with
    table := close (connectDone (initSystem 0) firstSlot 5000 0).table 0 firstSlot }
      (by decide +kernel)
    (by decide +kernel)
  refine ⟨_, _, (connected.snoc closing).snoc answered, ?_, ?_, ?_, ?_⟩
  all_goals decide +kernel

end DuetOS.Tcp
