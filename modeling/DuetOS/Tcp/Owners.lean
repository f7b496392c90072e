import DuetOS.Tcp.Listeners
import DuetOS.Tcp.References

/-!
# Owners of connections

An open connection is referred to by a live listener, or was handed to a caller who has not closed
it. That needs callers that do not close during a handshake, listeners closed without open children,
and accept calls that meet no child the peer has half closed: otherwise the stack forgets a
connection that stays open.
-/

namespace DuetOS.Tcp

open Function

def Conn.opening (t : Conn) : Bool := t.state = .synSent ∨ t.state = .synRcvd

lemma Conn.isOpen_of_ended {t : Conn} (ended : t.state = .closed ∨ t.state = .timeWait) :
    t.isOpen = false := by
  rcases ended with state | state <;> rw [Conn.isOpen, state] <;> rfl

/-- A step that leaves no open connection behind. -/
structure TidyStep (s : System) (e : Event) (s' : System) : Prop where
  step : Step s e s'
  /-- No connection is closed during its handshake, -/
  close : ∀ i, e = .close i → (s.table.tcbs i).opening = false
  /-- nor with its last reference. -/
  release : ∀ i, e = .release i → (s.table.tcbs i).refs ≤ 1 → (s.table.tcbs i).opening = false
  /-- The count of references does not wrap. -/
  retain : ∀ i, e = .retain i → (s.table.tcbs i).refs + 1 ≠ 0
  /-- No listener goes while a connection it refers to stays open. -/
  drop : ∀ l i, Refers s.table l i → (s'.table.tcbs i).published → (s'.table.tcbs i).isOpen →
    (s'.table.tcbs l).inUse
  /-- `AcceptNonblocking` throws no open connection away. -/
  accept : ∀ child, e = .accept child → ∀ l i, Refers s.table l i → (s.table.tcbs i).isOpen →
    (s.table.tcbs i).state ≠ .established → Refers s'.table l i

lemma sendSegment_txClosed {ack} :
    (sendSegment now t flags seq ack payload).txClosed = t.txClosed :=
  txClosed_of_still (sendSegment_still ..)

lemma connectConn_txClosed : (connectConn now iss).txClosed = false := by
  unfold connectConn
  rw [sendSegment_txClosed]

lemma synConn_txClosed : (synConn now iss call).txClosed = false := by
  unfold synConn
  rw [sendSegment_txClosed]

/-- Every open connection has an owner. -/
structure Owned (s : System) : Prop where
  rings : Rings s.table
  held : ∀ i, (s.table.tcbs i).published → (s.table.tcbs i).isOpen →
    (s.table.tcbs i).txClosed = false ∧ 0 < (s.table.tcbs i).refs ∧
      ((∃ l, Refers s.table l i) ∨ s.returned i)

namespace Owned

variable {s : System} {table : Table} {returned : Fin kTcbCap → Bool} {i : Fin kTcbCap}

lemma init (isnSecret) : Owned (initSystem isnSecret) where
  rings _ settled := by cases settled.1
  held _ published := by cases published

/-- Segments, timers and interfaces leave every open connection with its owner. -/
lemma turns (owned : Owned s) (turns : Turns s.table table)
    (stay : ∀ l i, Refers s.table l i → (table.tcbs i).published → (table.tcbs i).isOpen →
      (table.tcbs l).inUse) : Owned { s with table } := by
  refine ⟨turns.rings owned.rings, fun i published live => ?_⟩
  have inUse := (Tcb.published_iff.mp published).1.1
  have kept : Kept (s.table.tcbs i) (table.tcbs i) := by
    rcases turns.quiets.survived i with kept | ⟨_, dropped⟩
    · exact kept
    · rw [dropped.inUse] at inUse
      cases inUse
  obtain ⟨live', txClosed, refs⟩ := turns.opened inUse live
  obtain ⟨sends, counted, owner⟩ := owned.held i (kept.published ▸ published) live'
  refine ⟨txClosed.trans sends, refs ▸ counted, ?_⟩
  rcases owner with ⟨l, refers⟩ | handed
  · exact .inl ⟨l, turns.refers owned.rings refers inUse (stay l i refers published live)⟩
  · exact .inr handed

lemma update (owned : Owned s) (same : SameRefs (s.table.tcbs i) t) (held : t.published → t.isOpen →
      t.txClosed = false ∧ 0 < t.refs ∧ (s.table.tcbs i).isOpen) :
        Owned { s with table := s.table.setTcb i t } := by
  have sames := setTcb_sameRefs same
  refine ⟨fun l settled listener => ?_, fun j published live => ?_⟩
  · have kept := (sames l).toKept
    refine (sames l).ring (owned.rings l ⟨?_, ?_⟩ (kept.isListener ▸ listener))
    · exact kept.inUse ▸ settled.1
    · exact kept.initializing ▸ settled.2
  · have owner : (s.table.tcbs j).isOpen → (∃ l, Refers (s.table.setTcb i t) l j) ∨
      s.returned j := by
      intro live'
      obtain ⟨_, _, ⟨l, refers⟩ | handed⟩ :=
        owned.held j ((sames j).toKept.published ▸ published) live'
      · exact .inl ⟨l, refers.same (sames l) (sames j)⟩
      · exact .inr handed
    by_cases at_i : j = i
    · subst at_i
      rw [setTcb_self] at published live ⊢
      obtain ⟨sends, counted, live'⟩ := held published live
      exact ⟨sends, counted, owner live'⟩
    · rw [setTcb_of_ne at_i] at published live ⊢
      obtain ⟨sends, counted, _⟩ := owned.held j published live
      exact ⟨sends, counted, owner live⟩

lemma elsewhere (owned : Owned s) (idle : ¬(s.table.tcbs k).settled)
    (others : ∀ j, j ≠ k → SameRefs (s.table.tcbs j) (table.tcbs j) ∧
      (table.tcbs j).toConn = (s.table.tcbs j).toConn ∧ (table.tcbs j).refs = (s.table.tcbs j).refs)
    (handed : ∀ j, j ≠ k → returned j = s.returned j)
    (ring : (table.tcbs k).settled → (table.tcbs k).isListener → Ring (table.tcbs k))
    (held : (table.tcbs k).published → (table.tcbs k).txClosed = false ∧ 0 < (table.tcbs k).refs ∧
      ((∃ l, Refers table l k) ∨ returned k)) : Owned ⟨table, calls, returned⟩ := by
  refine ⟨fun l settled listener => ?_, fun j published live => ?_⟩
  · by_cases at_k : l = k
    · subst at_k
      exact ring settled listener
    · obtain ⟨same, _⟩ := others l at_k
      refine same.ring (owned.rings l ⟨?_, ?_⟩ (same.isListener ▸ listener))
      · exact same.inUse ▸ settled.1
      · exact same.initializing ▸ settled.2
  · by_cases at_k : j = k
    · subst at_k
      exact held published
    · obtain ⟨same, conn, refs⟩ := others j at_k
      rw [conn] at live ⊢
      obtain ⟨sends, counted, owner⟩ := owned.held j (same.toKept.published ▸ published) live
      refine ⟨sends, refs ▸ counted, ?_⟩
      rcases owner with ⟨l, refers⟩ | mine
      · have ne : l ≠ k := fun eq => idle (eq ▸ refers.settled)
        exact .inl ⟨l, refers.same (others l ne).1 same⟩
      · exact .inr ((handed j at_k).trans mine)

end Owned

section Accept

variable {s : Table} {lp : Tcb} {child : Option UInt32} {n : Nat} {id : UInt32} {i l : Fin kTcbCap}

lemma acceptLoop_pops {P : Tcb → Prop} (pop : ∀ t : Tcb, t.backlogCount ≠ 0 → P t → P t.popped)
    (start : P lp)
    (taken : acceptLoop s n lp = (child, lp')) : P lp' := by
  induction n generalizing lp with
  | zero =>
    cases taken
    exact start
  | succ n ih =>
    unfold acceptLoop at taken
    split at taken
    · cases taken
      exact start
    next some =>
    have popped := pop lp some start
    dsimp only at taken
    split at taken
    · exact ih popped taken
    split at taken
    · exact ih popped taken
    · cases taken
      exact popped

/-- An established connection stays in the ring, or it is the one that is handed out. -/
lemma acceptLoop_entries (ring : Ring lp) (taken : acceptLoop s n lp = (child, lp'))
    (mem : id ∈ lp.entries)
    (decoded : decodeId s id = some i) (established : (s.tcbs i).state = .established) :
    id ∈ lp'.entries ∨ child = some id := by
  induction n generalizing lp with
  | zero =>
    cases taken
    exact .inl mem
  | succ n ih =>
    unfold acceptLoop at taken
    split at taken
    · cases taken
      exact .inl mem
    next some =>
    have popped := ring.popped some
    rw [Tcb.entries_popped some ring.tail, List.mem_cons] at mem
    dsimp only at taken
    split at taken
    next none =>
      refine ih popped taken (mem.resolve_left ?_)
      rintro rfl
      rw [none] at decoded
      cases decoded
    next c found =>
    split at taken
    next other =>
      refine ih popped taken (mem.resolve_left ?_)
      rintro rfl
      rw [found] at decoded
      cases decoded
      exact other established
    · cases taken
      rcases mem with rfl | mem
      · exact .inr rfl
      · exact .inl mem

lemma acceptLoop_kept (taken : acceptLoop s n lp = (child, lp')) : Kept lp lp' :=
  acceptLoop_pops (P := Kept lp) (fun _ _ kept => kept.trans ⟨rfl, rfl, rfl, rfl, rfl⟩)
    (.refl lp) taken

lemma acceptNonblocking_cases (accepted : acceptNonblocking s listener = (child, s')) :
    s' = s ∨ ∃ l lp, (s.tcbs l).settled ∧ (s.tcbs l).isListener ∧
      acceptLoop s (s.tcbs l).backlogCount (s.tcbs l) = (child, lp) ∧ s' = s.setTcb l lp := by
  unfold acceptNonblocking at accepted
  split at accepted
  · cases accepted
    exact .inl rfl
  next l decoded =>
  split at accepted
  · cases accepted
    exact .inl rfl
  next isListener =>
  cases taken : acceptLoop s (s.tcbs l).backlogCount (s.tcbs l) with
  | mk child' lp =>
    rw [taken] at accepted
    cases accepted
    exact .inr ⟨l, lp, (decodeId_some decoded).1, not_not.mp isListener, taken, rfl⟩

lemma Refers.accepted {l'} (refers : Refers s l' i) (ring : Ring (s.tcbs l))
    (taken : acceptLoop s n (s.tcbs l) = (child, lp)) (settled : (s.tcbs i).settled) (ne : i ≠ l)
    (established : (s.tcbs i).state = .established) :
    Refers (s.setTcb l lp) l' i ∨ child = some (makeId i (s.tcbs i).generation) := by
  have kept := acceptLoop_kept taken
  by_cases at_l : l' = l
  · subst at_l
    have keeps : (s.tcbs i).parentListener = makeId l' (s.tcbs l').generation ∨
        makeId i (s.tcbs i).generation ∈ lp.entries → Refers (s.setTcb l' lp) l' i := by
      intro child
      refine ⟨?_, ?_, ?_⟩
      · rw [setTcb_self]
        exact kept.settled refers.settled
      · rw [setTcb_self, kept.isListener]
        exact refers.listener
      · rw [setTcb_self, setTcb_of_ne ne, kept.generation]
        exact child
    rcases refers.child with parent | queued
    · exact .inl (keeps (.inl parent))
    · exact (acceptLoop_entries ring taken queued (decodeId_makeId settled) established).imp_left
        fun queued => keeps (.inr queued)
  · refine .inl (refers.same ?_ ?_)
    · rw [setTcb_of_ne at_l]
      exact .refl _
    · rw [setTcb_of_ne ne]
      exact .refl _

end Accept

namespace Owned

variable {s : System} {table : Table} {returned : Fin kTcbCap → Bool} {i : Fin kTcbCap}

lemma accept {listener child} (owned : Owned s)
    (accepted : acceptNonblocking s.table listener = (child, table))
    (keeps : ∀ i, s.returned i → returned i)
    (hands : ∀ id i, child = some id → decodeId s.table id = some i → returned i)
    (passes : ∀ l i, Refers s.table l i → (s.table.tcbs i).isOpen →
      (s.table.tcbs i).state ≠ .established → Refers table l i) :
        Owned ⟨table, s.calls, returned⟩ := by
  rcases acceptNonblocking_cases accepted with rfl | ⟨l, lp, settled, listener, taken, rfl⟩
  · refine ⟨owned.rings, fun i published live => ?_⟩
    obtain ⟨sends, counted, owner⟩ := owned.held i published live
    exact ⟨sends, counted, owner.imp_right (keeps i)⟩
  have ring := owned.rings l settled listener
  have kept := acceptLoop_kept taken
  refine ⟨fun l' settled' listener' => ?_, fun i published live => ?_⟩
  · by_cases at_l : l' = l
    · rw [at_l, setTcb_self]
      exact acceptLoop_pops (fun _ some ring => ring.popped some) ring taken
    · rw [setTcb_of_ne at_l] at settled' listener' ⊢
      exact owned.rings l' settled' listener'
  · have ne : i ≠ l := by
      rintro rfl
      rw [setTcb_self, Tcb.published_iff, kept.isListener, listener] at published
      cases published.2
    rw [setTcb_of_ne ne] at published live ⊢
    obtain ⟨sends, counted, owner⟩ := owned.held i published live
    have settled' := (Tcb.published_iff.mp published).1
    refine ⟨sends, counted, ?_⟩
    rcases owner with ⟨l', refers⟩ | handed
    · by_cases established : (s.table.tcbs i).state = .established
      · rcases refers.accepted ring taken settled' ne established with refers | handed
        · exact .inl ⟨l', refers⟩
        · exact .inr (hands _ i handed (decodeId_makeId settled'))
      · exact .inl ⟨l', passes l' i refers live established⟩
    · exact .inr (keeps i handed)

lemma closeConn_shut (owned : Owned s) (published : (s.table.tcbs i).published)
    (synced : (s.table.tcbs i).opening = false) :
    (closeConn now (s.table.tcbs i).toConn).isOpen = false := by
  have states : (s.table.tcbs i).state ≠ .synSent ∧ (s.table.tcbs i).state ≠ .synRcvd := by
    simpa [Conn.opening] using synced
  cases closed : (s.table.tcbs i).txClosed with
  | false => exact closeConn_closes closed states
  | true =>
    rw [closeConn, if_pos closed]
    cases live : (s.table.tcbs i).isOpen with
    | false => rfl
    | true =>
      have sends := (owned.held i published live).1
      rw [closed] at sends
      cases sends

lemma close (owned : Owned s) (settled : (s.table.tcbs i).settled)
    (synced : (s.table.tcbs i).opening = false)
    (stay : ∀ l j, Refers s.table l j → ((close s.table now i).tcbs j).published →
      ((close s.table now i).tcbs j).isOpen → ((close s.table now i).tcbs l).inUse) :
    Owned { s with table := close s.table now i } := by
  unfold Tcp.close at stay ⊢
  split at stay
  next listener =>
    rw [if_pos listener]
    exact owned.turns (turns_drop settled) stay
  next connection =>
  rw [if_neg connection]
  refine owned.update ⟨⟨rfl, rfl, rfl, rfl, rfl⟩, rfl, rfl, rfl, rfl, rfl, rfl⟩
    fun published live => ?_
  have shut := @closeConn_shut s i now owned published synced
  rw [shut] at live
  cases live

lemma release_last {refs : UInt32} (last : (if 0 < refs then refs - 1 else refs) = 0) :
    refs ≤ 1 := by
  split at last
  · exact UInt32.le_of_eq (by grind)
  next positive => exact UInt32.le_of_lt (by grind)

variable (owned : Owned s)

include owned

lemma release (settled : (s.table.tcbs i).settled)
    (synced : (s.table.tcbs i).refs ≤ 1 → (s.table.tcbs i).opening = false)
    (stay : ∀ l j, Refers s.table l j → ((release s.table now i).tcbs j).published →
      ((release s.table now i).tcbs j).isOpen → ((release s.table now i).tcbs l).inUse) :
    Owned { s with table := release s.table now i } := by
  unfold Tcp.release at stay ⊢
  dsimp only at stay ⊢
  have last := @release_last (s.table.tcbs i).refs
  generalize (if 0 < (s.table.tcbs i).refs then (s.table.tcbs i).refs - 1
    else (s.table.tcbs i).refs) = refs
    at stay last ⊢
  have same : SameRefs (s.table.tcbs i) { s.table.tcbs i with refs } :=
    ⟨⟨rfl, rfl, rfl, rfl, rfl⟩, rfl, rfl, rfl, rfl, rfl, rfl⟩
  rw [setTcb_self] at stay ⊢
  split at stay
  next more =>
    rw [if_pos more]
    refine owned.update same fun published live => ?_
    exact ⟨(owned.held i published live).1, UInt32.pos_iff_ne_zero.mpr more, live⟩
  next zero =>
  rw [if_neg zero]
  have synced := synced (last (not_not.mp zero))
  split at stay
  next ended =>
    rw [if_pos ended]
    -- nobody waits for a listener or a connection that has ended
    have first : Owned { s with table := s.table.setTcb i { s.table.tcbs i with refs } } := by
      refine owned.update same fun published live => ?_
      rcases ended with listener | ended
      · rw [Tcb.published_iff] at published
        rw [published.2] at listener
        cases listener
      · exact absurd ((Conn.isOpen_of_ended ended).symm.trans live) Bool.false_ne_true
    have settled' : ((s.table.setTcb i { s.table.tcbs i with refs }).tcbs i).settled := by
      rw [setTcb_self]
      exact settled
    refine first.turns (turns_drop settled') fun l j refers published live => ?_
    exact stay l j (refers.same (setTcb_sameRefs same l).symm (setTcb_sameRefs same j).symm)
      published live
  next goes =>
    rw [if_neg goes, Table.setConn, setTcb_setTcb]
    refine owned.update ⟨⟨?_, ?_, ?_, ?_, ?_⟩, ?_, ?_, ?_, ?_, ?_, ?_⟩ fun published live => ?_
    iterate 11 rw [setTcb_self]
    rw [setTcb_self] at published
    have shut := @closeConn_shut s i now owned published synced
    rw [shut] at live
    cases live

lemma connectPublish {call} (reserved : Reserved s)
    (pending : s.calls = .connecting call ::ₘ calls) :
    Owned ⟨connectPublish s.table now call, calls, s.handOut call.slot⟩ := by
  have idle := (reserved.pending pending).2.1
  refine owned.elsewhere (k := call.slot) ?_ (fun j ne => ?_) (fun j ne => update_of_ne ne ..) ?_ ?_
  · exact fun settled => absurd (idle.symm.trans settled.2) (by decide)
  · rw [connectPublish_of_ne ne]
    exact ⟨.refl _, rfl, rfl⟩
  · intro _ listener
    obtain ⟨_, slot⟩ := @connectPublish_self s.table now call
    rw [slot] at listener
    cases listener
  · intro _
    obtain ⟨_, slot⟩ := @connectPublish_self s.table now call
    rw [slot]
    exact ⟨connectConn_txClosed, (by decide : (0 : UInt32) < 1), .inr (update_self ..)⟩

lemma synPublish {call p} (reserved : Reserved s) (pending : s.calls = .answering call ::ₘ calls)
    (welcome : synWelcome s.table call.parent = some p) :
    Owned { s with table := synPublish s.table now call p, calls } := by
  have idle := (reserved.pending pending).2.1
  obtain ⟨decoded, listener, _⟩ := synWelcome_some welcome
  obtain ⟨settled, parent⟩ := decodeId_eq_some.mp decoded
  have mem : Call.answering call ∈ s.calls := pending ▸ Multiset.mem_cons_self ..
  have ne : p ≠ call.slot := reserved.ne_slot mem settled.2
  refine owned.elsewhere (k := call.slot) ?_ (fun j ne' => ?_) (fun _ _ => rfl) ?_ ?_
  · exact fun settled => absurd (idle.symm.trans settled.2) (by decide)
  · by_cases at_p : j = p
    · rw [at_p, synPublish_parent ne]
      exact ⟨⟨⟨rfl, rfl, rfl, rfl, rfl⟩, rfl, rfl, rfl, rfl, rfl, rfl⟩, rfl, rfl⟩
    · rw [synPublish_of_ne ne' at_p]
      exact ⟨.refl _, rfl, rfl⟩
  · intro _ listener
    obtain ⟨_, slot⟩ := @synPublish_self s.table p now call ne
    rw [slot] at listener
    cases listener
  · intro _
    obtain ⟨_, slot⟩ := @synPublish_self s.table p now call ne
    refine ⟨?_, ?_, .inl ⟨p, ?_, ?_, .inl ?_⟩⟩
    · rw [slot]
      exact synConn_txClosed
    · rw [slot]
      exact (by decide : (0 : UInt32) < 1)
    · rw [synPublish_parent ne]
      exact settled
    · rw [synPublish_parent ne]
      exact listener
    · rw [synPublish_parent ne, slot]
      exact parent

lemma taken (idle : ¬(s.table.tcbs k).settled) (hidden : t.published = false)
    (ring : t.isListener → Ring t) (handed : ∀ j, j ≠ k → returned j = s.returned j) :
    Owned ⟨{ s.table.setTcb k t with ephemeralCursor := cursor }, calls, returned⟩ := by
  refine owned.elsewhere idle (fun j ne => ?_) handed ?_ ?_
  · rw [setTcb_of_ne ne]
    exact ⟨.refl _, rfl, rfl⟩
  · rw [setTcb_self]
    exact fun _ => ring
  · rw [setTcb_self, hidden]
    exact nofun

lemma step (reserved : Reserved s) (tidy : TidyStep s e s') : Owned s' := by
  have stay := tidy.drop
  have passes := tidy.accept
  have free : ∀ i, (s.table.tcbs i).inUse = false → ¬(s.table.tcbs i).settled :=
    fun i free settled => absurd (free.symm.trans settled.1) (by decide)
  have busy : ∀ {call : Call} {calls}, s.calls = call ::ₘ calls →
    ¬(s.table.tcbs call.slot).settled :=
    fun pending settled => absurd ((reserved.pending pending).2.1.symm.trans settled.2) (by decide)
  cases tidy.step with
  | @listen slot table snapshot localIp localPort backlog valid opened =>
    cases slot with
    | none => exact listen_none opened ▸ owned
    | some i =>
      obtain ⟨idle, _, rfl⟩ := listen_some opened
      refine owned.taken (free i idle) (Tcb.not_published_of_listener rfl) (fun _ => ?_)
        fun _ _ => rfl
      exact ⟨(by decide : 0 < kListenBacklogMax), rfl, Nat.zero_le _, min_le_right ..⟩
  | acceptNone listener accepted =>
    exact owned.accept accepted (fun _ => id) nofun (passes _ rfl)
  | @accept table child slot listener accepted decoded =>
    refine owned.accept accepted (fun i handed => ?_) (fun id i same found => ?_) (passes _ rfl)
    · by_cases at_slot : i = slot
      · rw [at_slot, System.handOut, update_self]
      · rw [System.handOut, update_of_ne at_slot]
        exact handed
    · cases same
      rw [decoded] at found
      cases found
      exact update_self ..
  | connectRefused _ _ _ _ _ refused =>
    obtain ⟨cursor, rfl⟩ := connectReserve_none refused
    exact owned.turns (.single (.cursor cursor)) stay
  | connectReserve _ _ _ _ _ reserved' =>
    obtain ⟨cursor, idle, rfl, _⟩ := connectReserve_some reserved'
    exact owned.taken (free _ idle) (Tcb.not_published_of_initializing rfl) nofun
      fun j ne => update_of_ne ne ..
  | connectPublish now pending => exact owned.connectPublish reserved pending
  | connectFail pending | synFail pending | synDiscarded pending =>
    refine owned.taken (busy pending) (Tcb.not_published_of_free rfl) (fun listener => ?_)
      fun _ _ => rfl
    exact absurd ((reserved.pending pending).2.2.symm.trans listener) (by decide)
  | deliver _ _ _ _ _ _ _ valid _ found delivered =>
    obtain ⟨inUse, connection, tuple⟩ := lookupLoop_some found
    have settled := reserved.unbound.settled inUse (by rw [tuple]; exact valid)
    exact owned.turns (turns_deliver settled connection delivered) stay
  | synRefused _ _ _ _ _ _ _ _ _ _ refused => exact synReserve_none refused ▸ owned
  | synReserve _ _ _ _ _ _ _ _ _ _ reserved' =>
    obtain ⟨idle, rfl, _⟩ := synReserve_some reserved'
    exact owned.taken (free _ idle) (Tcb.not_published_of_initializing rfl) nofun
      fun j ne => update_of_ne ne ..
  | synPublish now pending welcome => exact owned.synPublish reserved pending welcome
  | synDiscard pending _ => exact ⟨owned.rings, owned.held⟩
  | timerTick now =>
    have turns := @turns_timerTick s.table now
    generalize timerTick s.table now = table at turns stay ⊢
    exact owned.turns turns stay
  | send _ _ data decoded _ =>
    exact owned.turns (.single (.conn _ _ (decodeId_some decoded).1 (sendConn_evolves data))) stay
  | recv _ _ cap decoded _ =>
    exact owned.turns (.single (.conn _ _ (decodeId_some decoded).1 (recvConn_evolves cap))) stay
  | setKeepAlive _ _ _ decoded | setNoDelay _ _ decoded =>
    exact owned.turns (.single (.conn _ _ (decodeId_some decoded).1 (.of_state rfl rfl))) stay
  | close _ _ decoded => exact owned.close (decodeId_some decoded).1 (tidy.close _ rfl) stay
  | abort _ _ decoded => exact owned.turns (turns_abort (decodeId_some decoded).1) stay
  | @retain slot _ decoded =>
    refine owned.update ⟨⟨rfl, rfl, rfl, rfl, rfl⟩, rfl, rfl, rfl, rfl, rfl, rfl⟩
      fun published live => ?_
    exact ⟨(owned.held slot published live).1,
      UInt32.pos_iff_ne_zero.mpr (tidy.retain slot rfl), live⟩
  | release _ _ decoded => exact owned.release (decodeId_some decoded).1 (tidy.release _ rfl) stay
  | retireInterface binding => exact owned.turns (turns_retireInterface reserved.unbound) stay

end Owned

/-- Slots that are reserved for a call hold no connection. -/
def Idle (s : Table) : Prop := ∀ i, (s.tcbs i).initializing → (s.tcbs i).state = .closed

namespace Idle

variable {s : Table} {i : Fin kTcbCap}

lemma setTcb (idle : Idle s) (slot : t.initializing → t.state = .closed) : Idle (s.setTcb i t) := by
  intro j initializing
  by_cases at_i : j = i
  · rw [at_i, setTcb_self] at initializing ⊢
    exact slot initializing
  · rw [setTcb_of_ne at_i] at initializing ⊢
    exact idle j initializing

lemma settled (idle : Idle s) (settled : t.settled) : Idle (s.setTcb i t) :=
  idle.setTcb fun initializing => absurd (settled.2.symm.trans initializing) (by decide)

lemma quiet (idle : Idle s) (quiet : Quiet s s') : Idle s' := by
  cases quiet with
  | conn i t settled | refs i refs settled | pop l settled _ _ => exact idle.settled settled
  | cursor => exact idle
  | push i p settled connection _ decoded listener _ =>
    have ne : i ≠ p := fun eq => by rw [eq, listener] at connection; cases connection
    obtain ⟨settled', _⟩ := decodeId_some decoded
    refine Idle.settled (Idle.settled idle ?_) ?_
    · exact settled'
    · rw [setTcb_of_ne ne]
      exact settled
  | drop i settled =>
    intro j initializing
    by_cases at_i : j = i
    · obtain ⟨_, _, slot⟩ := dropTcb_self settled.1
      rw [at_i, slot]
    · obtain ⟨_, eq⟩ := (unlink_sameSlots s i).tcbs j
      rw [dropTcb_of_ne settled.1 at_i, eq] at initializing ⊢
      exact idle j initializing

lemma quiets (idle : Idle s) (quiets : Quiets s s') : Idle s' := by
  induction quiets with
  | refl => exact idle
  | tail _ quiet ih => exact ih.quiet quiet

lemma shape {s s' e} (reserved : Reserved s) (idle : Idle s.table) (shape : Shape s e s') :
    Idle s'.table := by
  cases shape with
  | quiet _ quiets => exact idle.quiets quiets
  | listen => exact idle.settled ⟨rfl, rfl⟩
  | reserve => exact (Idle.quiets idle (.single (.cursor _))).setTcb fun _ => rfl
  | @connectPublish calls call now pending =>
    intro j initializing
    by_cases at_slot : j = call.slot
    · obtain ⟨_, slot⟩ := @connectPublish_self s.table now call
      rw [at_slot, slot] at initializing
      cases initializing
    · rw [connectPublish_of_ne at_slot] at initializing ⊢
      exact idle j initializing
  | @synPublish calls call p now pending welcome =>
    have ne := reserved.parent_ne (pending ▸ Multiset.mem_cons_self ..) welcome
    intro j initializing
    by_cases at_slot : j = call.slot
    · obtain ⟨_, slot⟩ := @synPublish_self s.table p now call ne
      rw [at_slot, slot] at initializing
      cases initializing
    by_cases at_p : j = p
    · rw [at_p, synPublish_parent ne] at initializing ⊢
      exact idle p initializing
    · rw [synPublish_of_ne at_slot at_p] at initializing ⊢
      exact idle j initializing
  | unreserve => exact idle.setTcb nofun
  | discard => exact idle

end Idle

lemma owned_of_run (run : Lts.Run TidyStep (initSystem isnSecret) es s) :
    Owned s ∧ Idle s.table := by
  have all : Reserved s ∧ Owned s ∧ Idle s.table := by
    induction run with
    | nil => exact ⟨.init isnSecret, .init isnSecret, fun _ _ => rfl⟩
    | snoc _ tidy ih =>
      obtain ⟨reserved, owned, idle⟩ := ih
      have shape := tidy.step.shape reserved.unbound
      exact ⟨reserved.shape shape, owned.step reserved tidy, idle.shape reserved shape⟩
  exact all.2

end DuetOS.Tcp
