import DuetOS.Tcp.Backlog

/-!
# Who refers to a child

A live listener refers to a connection that is half open, by the connection's parent, and to one
that waits in its accept ring. Segments and timers move a child from the first place to the second,
and lose it only when they drop the child or the listener.
-/

namespace DuetOS.Tcp

open List

/-- The handles in the accept ring, oldest first. -/
def Tcb.entries (t : Tcb) : List UInt32 :=
  (range t.backlogCount).map fun k => t.backlogRing ((t.backlogTail + k) % kListenBacklogMax)

/-- Listener `l` refers to connection `i`. -/
structure Refers (s : Table) (l i : Fin kTcbCap) : Prop where
  settled : (s.tcbs l).settled
  listener : (s.tcbs l).isListener
  child : (s.tcbs i).parentListener = makeId l (s.tcbs l).generation ∨
    makeId i (s.tcbs i).generation ∈ (s.tcbs l).entries

/-- What a change keeps of a slot so that its references stay. -/
structure SameRefs (t t' : Tcb) : Prop extends Kept t t' where
  parentListener : t'.parentListener = t.parentListener
  backlogMax : t'.backlogMax = t.backlogMax
  backlogCount : t'.backlogCount = t.backlogCount
  backlogHead : t'.backlogHead = t.backlogHead
  backlogTail : t'.backlogTail = t.backlogTail
  backlogRing : t'.backlogRing = t.backlogRing

/-- The accept rings of all live listeners are sound. -/
def Rings (s : Table) : Prop := ∀ l, (s.tcbs l).settled → (s.tcbs l).isListener → Ring (s.tcbs l)

variable {s : Table} {i j : Fin kTcbCap}

lemma SameRefs.refl (t : Tcb) : SameRefs t t := ⟨.refl t, rfl, rfl, rfl, rfl, rfl, rfl⟩

lemma SameRefs.symm (same : SameRefs t t') : SameRefs t' t :=
  ⟨⟨same.inUse.symm, same.initializing.symm, same.isListener.symm, same.generation.symm,
    same.tuple.symm⟩,
    same.parentListener.symm, same.backlogMax.symm, same.backlogCount.symm, same.backlogHead.symm,
    same.backlogTail.symm, same.backlogRing.symm⟩

lemma SameRefs.entries (same : SameRefs t t') : t'.entries = t.entries := by
  rw [Tcb.entries, Tcb.entries, same.backlogCount, same.backlogTail, same.backlogRing]

lemma SameRefs.ring (same : SameRefs t t') (ring : Ring t) : Ring t' := by
  obtain ⟨⟩ := t'
  obtain ⟨_, _, rfl, rfl, rfl, rfl, _⟩ := same
  exact { ring with }

lemma Refers.same (refers : Refers s l i) (listener : SameRefs (s.tcbs l) (s'.tcbs l))
    (child : SameRefs (s.tcbs i) (s'.tcbs i)) : Refers s' l i := by
  refine ⟨listener.toKept.settled refers.settled, listener.isListener.trans refers.listener, ?_⟩
  rw [child.parentListener, child.generation, listener.generation, listener.entries]
  exact refers.child

lemma setTcb_sameRefs (same : SameRefs (s.tcbs i) t) (j : Fin kTcbCap) :
    SameRefs (s.tcbs j) ((s.setTcb i t).tcbs j) := by
  by_cases at_i : j = i
  · rw [at_i, setTcb_self]
    exact same
  · rw [setTcb_of_ne at_i]
    exact .refl _

lemma dropTcb_sameRefs (inUse : (s.tcbs i).inUse) (ne : j ≠ i) :
    SameRefs (s.tcbs j) ((dropTcb s i).tcbs j) := by
  obtain ⟨_, eq⟩ := (unlink_sameSlots s i).tcbs j
  rw [dropTcb_of_ne inUse ne, eq]
  exact ⟨⟨rfl, rfl, rfl, rfl, rfl⟩, rfl, rfl, rfl, rfl, rfl, rfl⟩

/-- The oldest entry, and the rest. -/
lemma Tcb.entries_popped {t : Tcb} (some : t.backlogCount ≠ 0)
    (tail : t.backlogTail < kListenBacklogMax) :
    t.entries = t.backlogRing t.backlogTail :: t.popped.entries := by
  obtain ⟨count, eq⟩ := Nat.exists_eq_succ_of_ne_zero some
  have rest : t.popped.backlogCount = count := by
    show t.backlogCount - 1 = count
    omega
  rw [Tcb.entries, Tcb.entries, rest, eq, range_succ_eq_map, map_cons, map_map]
  refine cons_eq_cons.mpr ⟨?_, map_congr_left fun k _ => ?_⟩
  · rw [Nat.add_zero, Nat.mod_eq_of_lt tail]
  · show t.backlogRing ((t.backlogTail + (k + 1)) % kListenBacklogMax) =
      t.backlogRing (((t.backlogTail + 1) % kListenBacklogMax + k) % kListenBacklogMax)
    rw [Nat.mod_add_mod, Nat.add_assoc, Nat.add_comm 1 k]

lemma Tcb.entries_pushed (ring : Ring t) (room : t.backlogCount < t.backlogMax) (id : UInt32) :
    (t.pushed id).entries = t.entries ++ [id] := by
  have max := ring.max
  have last : (t.backlogTail + t.backlogCount) % kListenBacklogMax = t.backlogHead := ring.head.symm
  show (range (t.backlogCount + 1)).map (fun k => Function.update t.backlogRing t.backlogHead id
    ((t.backlogTail + k) % kListenBacklogMax)) = _
  rw [range_succ, map_append, map_singleton, last, Function.update_self, Tcb.entries]
  refine congrArg (· ++ [id]) (map_congr_left fun k mem => Function.update_of_ne ?_ ..)
  have lt := mem_range.mp mem
  unfold kListenBacklogMax at *
  omega

lemma Quiets.inUse (quiets : Quiets s s') (inUse : (s'.tcbs j).inUse) : (s.tcbs j).inUse := by
  rcases quiets.survived j with kept | ⟨_, dropped⟩
  · exact kept.inUse ▸ inUse
  · rw [dropped.inUse] at inUse
    cases inUse

lemma Turn.rings (turn : Turn s s') (rings : Rings s) : Rings s' := by
  intro l settled listener
  have kept : Kept (s.tcbs l) (s'.tcbs l) := by
    rcases (Turns.quiets (.single turn)).survived l with kept | ⟨_, dropped⟩
    · exact kept
    · rw [Tcb.settled, dropped.inUse] at settled
      cases settled.1
  have ring := rings l ⟨kept.inUse ▸ settled.1, kept.initializing ▸ settled.2⟩
    (kept.isListener ▸ listener)
  cases turn with
  | conn i t _ _ =>
    have same : SameRefs (s.tcbs i) { s.tcbs i with toConn := t } :=
      ⟨⟨rfl, rfl, rfl, rfl, rfl⟩, rfl, rfl, rfl, rfl, rfl, rfl⟩
    exact (setTcb_sameRefs same l).ring ring
  | cursor => exact ring
  | push i p settled' connection _ _ listener' room =>
    have ne : i ≠ p := fun eq => by rw [eq, listener'] at connection; cases connection
    by_cases at_p : l = p
    · rw [at_p] at ring ⊢
      rw [pushChild_parent ne]
      exact ring.pushed room _
    by_cases at_i : l = i
    · rw [at_i, pushChild_child ne] at listener
      rw [connection] at listener
      cases listener
    · rw [pushChild_of_ne at_i at_p]
      exact ring
  | drop i t settled' =>
    have ne : l ≠ i := by
      rintro rfl
      obtain ⟨_, _, slot⟩ := dropTcb_self (setConn_settled (t := t) settled').1
      rw [Tcb.settled, slot] at settled
      cases settled.1
    have same : SameRefs (s.tcbs i) { s.tcbs i with toConn := t } :=
      ⟨⟨rfl, rfl, rfl, rfl, rfl⟩, rfl, rfl, rfl, rfl, rfl, rfl⟩
    exact (dropTcb_sameRefs (setConn_settled settled').1 ne).ring
      ((setTcb_sameRefs same l).ring ring)

/-- A reference is lost only with the child or with the listener. -/
lemma Turn.refers (turn : Turn s s') (rings : Rings s) (refers : Refers s l i)
    (child : (s'.tcbs i).inUse)
    (listener : (s'.tcbs l).inUse) : Refers s' l i := by
  cases turn with
  | conn j t _ _ =>
    have same : SameRefs (s.tcbs j) { s.tcbs j with toConn := t } :=
      ⟨⟨rfl, rfl, rfl, rfl, rfl⟩, rfl, rfl, rfl, rfl, rfl, rfl⟩
    exact refers.same (setTcb_sameRefs same l) (setTcb_sameRefs same i)
  | cursor => exact ⟨refers.settled, refers.listener, refers.child⟩
  | push j p settled connection _ decoded listener' room =>
    have ne : j ≠ p := fun eq => by rw [eq, listener'] at connection; cases connection
    have ne' : l ≠ j := fun eq => by
      have isListener := refers.listener
      rw [eq, connection] at isListener
      cases isListener
    obtain ⟨settled', same⟩ := decodeId_eq_some.mp decoded
    have ring := rings p settled' listener'
    have generation : ((pushChild s j p).tcbs i).generation = (s.tcbs i).generation := by
      by_cases at_j : i = j
      · rw [at_j, pushChild_child ne]
      by_cases at_p : i = p
      · rw [at_p, pushChild_parent ne]
        rfl
      · rw [pushChild_of_ne at_j at_p]
    by_cases at_p : l = p
    · -- the listener that takes the child in
      subst at_p
      refine ⟨?_, ?_, ?_⟩
      · rw [pushChild_parent ne]
        exact refers.settled
      · rw [pushChild_parent ne]
        exact refers.listener
      · rw [generation, pushChild_parent ne, Tcb.entries_pushed ring room]
        rcases refers.child with parent | queued
        · by_cases at_j : i = j
          · exact .inr (mem_append_right _ (by rw [at_j]; exact mem_singleton_self _))
          · refine .inl ?_
            by_cases self : i = l
            · rw [self] at parent ⊢
              rw [pushChild_parent ne]
              exact parent
            · rw [pushChild_of_ne at_j self]
              exact parent
        · exact .inr (mem_append_left _ queued)
    · have same_l : (pushChild s j p).tcbs l = s.tcbs l := pushChild_of_ne ne' at_p
      refine ⟨same_l ▸ refers.settled, same_l ▸ refers.listener, ?_⟩
      rw [generation, same_l]
      rcases refers.child with parent | queued
      · refine .inl ?_
        have at_j : i ≠ j := by
          rintro rfl
          exact at_p (makeId_inj (parent.symm.trans same)).1
        by_cases self : i = p
        · rw [self] at parent ⊢
          rw [pushChild_parent ne]
          exact parent
        · rw [pushChild_of_ne at_j self]
          exact parent
      · exact .inr queued
  | drop j t settled =>
    obtain ⟨_, _, slot⟩ := dropTcb_self (setConn_settled (t := t) settled).1
    have ne : ∀ k, ((dropTcb (s.setConn j t) j).tcbs k).inUse → k ≠ j := by
      rintro k inUse rfl
      rw [slot] at inUse
      cases inUse
    have same : SameRefs (s.tcbs j) { s.tcbs j with toConn := t } :=
      ⟨⟨rfl, rfl, rfl, rfl, rfl⟩, rfl, rfl, rfl, rfl, rfl, rfl⟩
    have moved : Refers (s.setConn j t) l i :=
      refers.same (setTcb_sameRefs same l) (setTcb_sameRefs same i)
    exact moved.same (dropTcb_sameRefs (setConn_settled settled).1 (ne l listener))
      (dropTcb_sameRefs (setConn_settled settled).1 (ne i child))

lemma Turns.rings (turns : Turns s s') (rings : Rings s) : Rings s' := by
  induction turns with
  | refl => exact rings
  | tail _ turn ih => exact turn.rings ih

lemma Turns.refers (turns : Turns s s') (rings : Rings s) (refers : Refers s l i)
    (child : (s'.tcbs i).inUse)
    (listener : (s'.tcbs l).inUse) : Refers s' l i := by
  induction turns with
  | refl => exact refers
  | tail first turn ih =>
    have quiets := Turns.quiets (.single turn)
    exact turn.refers (Turns.rings first rings) (ih (quiets.inUse child) (quiets.inUse listener))
      child listener

/-- A connection that is open after a turn was open before, and its owner has not changed. -/
lemma Turn.opened (turn : Turn s s') (inUse : (s'.tcbs i).inUse) (live : (s'.tcbs i).isOpen) :
    (s.tcbs i).isOpen ∧ (s'.tcbs i).txClosed = (s.tcbs i).txClosed ∧ (s'.tcbs i).refs =
    (s.tcbs i).refs := by
  cases turn with
  | conn j t _ evolves =>
    by_cases at_j : i = j
    · rw [at_j, Table.setConn, setTcb_self] at live ⊢
      exact ⟨evolves.isOpen live, evolves.txClosed, rfl⟩
    · rw [Table.setConn, setTcb_of_ne at_j] at live ⊢
      exact ⟨live, rfl, rfl⟩
  | cursor => exact ⟨live, rfl, rfl⟩
  | push j p _ connection _ _ listener' _ =>
    have ne : j ≠ p := fun eq => by rw [eq, listener'] at connection; cases connection
    by_cases at_j : i = j
    · rw [at_j, pushChild_child ne] at live ⊢
      exact ⟨live, rfl, rfl⟩
    by_cases at_p : i = p
    · rw [at_p, pushChild_parent ne] at live ⊢
      exact ⟨live, rfl, rfl⟩
    · rw [pushChild_of_ne at_j at_p] at live ⊢
      exact ⟨live, rfl, rfl⟩
  | drop j t settled =>
    have ne : i ≠ j := by
      rintro rfl
      obtain ⟨_, _, slot⟩ := dropTcb_self (setConn_settled (t := t) settled).1
      rw [slot] at inUse
      cases inUse
    obtain ⟨_, eq⟩ := (unlink_sameSlots (s.setConn j t) j).tcbs i
    rw [dropTcb_of_ne (setConn_settled settled).1 ne, eq, Table.setConn, setTcb_of_ne ne] at live ⊢
    exact ⟨live, rfl, rfl⟩

lemma Turns.opened (turns : Turns s s') (inUse : (s'.tcbs i).inUse) (live : (s'.tcbs i).isOpen) :
    (s.tcbs i).isOpen ∧ (s'.tcbs i).txClosed = (s.tcbs i).txClosed ∧ (s'.tcbs i).refs =
    (s.tcbs i).refs := by
  induction turns with
  | refl => exact ⟨live, rfl, rfl⟩
  | tail _ turn ih =>
    obtain ⟨live', txClosed', refs'⟩ := turn.opened inUse live
    obtain ⟨live'', txClosed'', refs''⟩ := ih ((Turns.quiets (.single turn)).inUse inUse) live'
    exact ⟨live'', txClosed'.trans txClosed'', refs'.trans refs''⟩

end DuetOS.Tcp
