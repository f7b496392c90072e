import DuetOS.Tcp.Chains
import DuetOS.Tcp.Control

/-!
# What a section can do

Apart from taking and publishing slots, every section of the stack is a sequence of a few moves: it
replaces a connection, counts references, moves the cursor of the ephemeral ports, pushes a child to
the accept ring of its parent or pops one from it, or drops a slot.
-/

namespace DuetOS.Tcp

def Tcb.settled (t : Tcb) : Prop := t.inUse ∧ t.initializing = false

def pushChild (s : Table) (i p : Fin kTcbCap) : Table :=
  let parent := s.tcbs p
  let s := s.setTcb p { parent with
    backlogRing := Function.update parent.backlogRing parent.backlogHead (makeId i
      (s.tcbs i).generation),
    backlogHead := (parent.backlogHead + 1) % kListenBacklogMax,
    backlogCount := parent.backlogCount + 1,
    synBacklogCount := parent.synBacklogCount - 1 }
  s.setTcb i { s.tcbs i with parentListener := 0 }

def Tcb.popped (t : Tcb) : Tcb :=
  { t with
    backlogTail := (t.backlogTail + 1) % kListenBacklogMax, backlogCount := t.backlogCount - 1 }

/-- The elementary changes of a table. -/
inductive Quiet : Table → Table → Prop where
  | conn i t : (s.tcbs i).settled → Quiet s (s.setConn i t)
  | refs i refs : (s.tcbs i).settled → Quiet s (s.setTcb i { s.tcbs i with refs })
  | cursor cursor : Quiet s { s with ephemeralCursor := cursor }
  | pop l : (s.tcbs l).settled → (s.tcbs l).isListener → (s.tcbs l).backlogCount ≠ 0 →
    Quiet s (s.setTcb l (s.tcbs l).popped)
  | push i p : (s.tcbs i).settled → (s.tcbs i).isListener = false → (s.tcbs i).parentListener ≠ 0 →
    decodeId s (s.tcbs i).parentListener = some p → (s.tcbs p).isListener →
    (s.tcbs p).backlogCount < (s.tcbs p).backlogMax →
    Quiet s (pushChild s i p)
  | drop i : (s.tcbs i).settled → Quiet s (dropTcb s i)

abbrev Quiets : Table → Table → Prop := Relation.ReflTransGen Quiet

/-- The changes that segments, timers and interfaces cause. They close no connection for its owner,
and take none from an accept ring. -/
inductive Turn : Table → Table → Prop where
  | conn i t : (s.tcbs i).settled → Evolves (s.tcbs i).toConn t → Turn s (s.setConn i t)
  | cursor cursor : Turn s { s with ephemeralCursor := cursor }
  | push i p : (s.tcbs i).settled → (s.tcbs i).isListener = false → (s.tcbs i).parentListener ≠ 0 →
    decodeId s (s.tcbs i).parentListener = some p → (s.tcbs p).isListener →
    (s.tcbs p).backlogCount < (s.tcbs p).backlogMax →
    Turn s (pushChild s i p)
  | drop i t : (s.tcbs i).settled → Turn s (dropTcb (s.setConn i t) i)

abbrev Turns : Table → Table → Prop := Relation.ReflTransGen Turn

variable {s s' : Table} {i j : Fin kTcbCap} {id : UInt32}

lemma setConn_settled (settled : (s.tcbs i).settled) : ((s.setConn i t).tcbs i).settled := by
  unfold Table.setConn
  rw [setTcb_self]
  exact settled

lemma setConn_self : s.setConn i (s.tcbs i).toConn = s :=
  congrArg (fun tcbs => { s with tcbs }) (Function.update_eq_self ..)

lemma turns_drop (settled : (s.tcbs i).settled) : Turns s (dropTcb s i) := by
  have drop := @Turn.drop s i (s.tcbs i).toConn settled
  rw [setConn_self] at drop
  exact .single drop

lemma Turns.quiets (turns : Turns s s') : Quiets s s' := by
  induction turns with
  | refl => exact .refl
  | tail _ turn ih =>
    cases turn with
    | conn i t settled _ => exact ih.tail (.conn i t settled)
    | cursor cursor => exact ih.tail (.cursor cursor)
    | push i p settled connection child decoded listener room =>
      exact ih.tail (.push i p settled connection child decoded listener room)
    | drop i t settled =>
      exact (ih.tail (.conn i t settled)).tail (.drop i (setConn_settled settled))

lemma decodeId_some (found : decodeId s id = some i) :
    (s.tcbs i).settled ∧ (s.tcbs i).generation = (id >>> 24).toUInt8 ∧
    (id &&& 0x00FFFFFF).toNat = i + 1 := by
  unfold decodeId at found
  dsimp only at found
  split_ifs at found with _ bounds live current
  cases found
  simp only [not_or, Bool.not_eq_true, not_not, Bool.not_eq_false] at live current
  refine ⟨live, current, ?_⟩
  dsimp only
  omega

lemma decodeId_congr (same : ∀ j, (s'.tcbs j).inUse = (s.tcbs j).inUse ∧
    (s'.tcbs j).initializing = (s.tcbs j).initializing ∧ (s'.tcbs j).generation =
    (s.tcbs j).generation) :
    decodeId s' id = decodeId s id := by
  unfold decodeId
  simp only [(same _).1, (same _).2.1, (same _).2.2]

section Drop

/-- The live listener behind a handle. -/
def listenerOf (s : Table) (id : UInt32) : Option (Fin kTcbCap) :=
  match decodeId s id with
  | none => none
  | some p => if (s.tcbs p).isListener then some p else none

/-- The listener that loses a half-open child when the slot is dropped. -/
def halfOpenParent (s : Table) (i : Fin kTcbCap) : Option (Fin kTcbCap) :=
  if (s.tcbs i).isListener = false ∧
    (s.tcbs i).parentListener ≠ 0 then listenerOf s (s.tcbs i).parentListener
  else none

lemma listenerOf_some (found : listenerOf s id = some p) :
    decodeId s id = some p ∧ (s.tcbs p).isListener := by
  unfold listenerOf at found
  split at found
  · cases found
  next decoded =>
  split at found
  next listener =>
    cases found
    exact ⟨decoded, listener⟩
  · cases found

/-- What `DropTcb` does to the slot. -/
structure Dropped (t t' : Tcb) : Prop where
  inUse : t'.inUse = false
  initializing : t'.initializing = t.initializing
  isListener : t'.isListener = t.isListener
  generation : t'.generation = t.generation + 1
  tuple : t'.tuple = t.tuple

lemma releaseSynBacklog_buckets (parent) : (releaseSynBacklog s parent).buckets = s.buckets := by
  unfold releaseSynBacklog
  split
  · rfl
  · split
    · rfl
    · rfl

/-- The slot with this many half-open children less. -/
def Tcb.lose (t : Tcb) (children : Nat) :
    Tcb := { t with synBacklogCount := t.synBacklogCount - children }

lemma releaseSynBacklog_none (absent : listenerOf s parent = none) :
    releaseSynBacklog s parent = s := by
  unfold releaseSynBacklog
  cases decoded : decodeId s parent with
  | none => rfl
  | some p =>
    have connection : ¬(s.tcbs p).isListener := by
      intro listener
      rw [listenerOf, decoded] at absent
      dsimp only at absent
      rw [if_pos listener] at absent
      cases absent
    exact if_neg fun both => connection both.1

lemma releaseSynBacklog_some (found : listenerOf s parent = some p) :
    releaseSynBacklog s parent = s.setTcb p ((s.tcbs p).lose 1) := by
  obtain ⟨decoded, listener⟩ := listenerOf_some found
  unfold releaseSynBacklog
  rw [decoded]
  dsimp only
  split
  · rfl
  next empty =>
  have same : (s.tcbs p).lose 1 = s.tcbs p := by
    have zero : (s.tcbs p).synBacklogCount - 1 = (s.tcbs p).synBacklogCount := by
      by_contra ne
      exact empty ⟨listener, by omega⟩
    rw [Tcb.lose, zero]
  rw [same]
  exact (congrArg (fun tcbs => { s with tcbs }) (Function.update_eq_self ..)).symm

/-- The half-open children listener `j` loses with slot `i`. -/
def lost (s : Table) (i j : Fin kTcbCap) : Nat := if halfOpenParent s i = some j then 1 else 0

def unlink (s : Table) (i : Fin kTcbCap) :
    Table := if (s.tcbs i).isListener then s else bucketRemove s i

/-- The second part of `DropTcb`: a half-open child leaves its listener. -/
def disown (s : Table) (i : Fin kTcbCap) : Table :=
  if ¬(s.tcbs i).isListener ∧ (s.tcbs i).parentListener ≠ 0 then
    let s := releaseSynBacklog s (s.tcbs i).parentListener
    s.setTcb i { s.tcbs i with parentListener := 0 }
  else s

lemma unlink_sameSlots (s i) : SameSlots s (unlink s i) := by
  unfold unlink
  split
  · exact ⟨fun _ => ⟨_, rfl⟩, rfl, rfl⟩
  · exact bucketRemove_sameSlots s i

lemma listenerOf_sameSlots (same : SameSlots s s') : listenerOf s' id = listenerOf s id := by
  have decoded : decodeId s' id = decodeId s id := decodeId_congr fun j => by
    obtain ⟨_, eq⟩ := same.tcbs j
    rw [eq]
    exact ⟨rfl, rfl, rfl⟩
  have listeners : ∀ j, (s'.tcbs j).isListener = (s.tcbs j).isListener := fun j => by
    obtain ⟨_, eq⟩ := same.tcbs j
    rw [eq]
  simp only [listenerOf, decoded, listeners]

lemma lost_sameSlots (same : SameSlots s s') : lost s' i j = lost s i j := by
  obtain ⟨_, eq⟩ := same.tcbs i
  rw [lost, lost, halfOpenParent, halfOpenParent, eq, listenerOf_sameSlots same]

lemma disown_of_ne (ne : j ≠ i) : (disown s i).tcbs j = (s.tcbs j).lose (lost s i j) := by
  by_cases child : ¬(s.tcbs i).isListener ∧ (s.tcbs i).parentListener ≠ 0
  · have parent : halfOpenParent s i = listenerOf s (s.tcbs i).parentListener :=
      if_pos ⟨Bool.not_eq_true _ ▸ child.1, child.2⟩
    rw [disown, if_pos child, lost, parent]
    rw [setTcb_of_ne ne]
    cases found : listenerOf s (s.tcbs i).parentListener with
    | none =>
      rw [releaseSynBacklog_none found]
      rfl
    | some p =>
      rw [releaseSynBacklog_some found]
      by_cases at_p : j = p
      · rw [at_p, setTcb_self, if_pos rfl]
      · rw [setTcb_of_ne at_p, if_neg fun eq => at_p (Option.some.inj eq).symm]
        rfl
  · have orphan : halfOpenParent s i = none :=
      if_neg fun both => child ⟨Bool.not_eq_true _ ▸ both.1, both.2⟩
    rw [disown, if_neg child, lost, orphan]
    rfl

lemma disown_self : ∃ parent, (disown s i).tcbs i = { s.tcbs i with parentListener := parent } := by
  unfold disown
  split
  next child =>
    refine ⟨0, ?_⟩
    rw [setTcb_self]
    cases found : listenerOf s (s.tcbs i).parentListener with
    | none => rw [releaseSynBacklog_none found]
    | some p =>
      have ne : i ≠ p := fun eq => child.1 (eq ▸ (listenerOf_some found).2)
      rw [releaseSynBacklog_some found, setTcb_of_ne ne]
  · exact ⟨_, rfl⟩

lemma disown_buckets : (disown s i).buckets = s.buckets := by
  unfold disown
  split
  · exact releaseSynBacklog_buckets _
  · rfl

variable (inUse : (s.tcbs i).inUse)

include inUse

lemma dropTcb_parts :
    dropTcb s i = (disown (unlink s i) i).setTcb i { (disown (unlink s i) i).tcbs i with
      toConn := { sackScoreboardClear ((disown (unlink s i) i).tcbs i).toConn with
        state := .closed },
      inUse := false, generation := ((disown (unlink s i) i).tcbs i).generation + 1 } :=
  if_neg (not_not.mpr inUse)

lemma dropTcb_self : ∃ parent next, (dropTcb s i).tcbs i = { s.tcbs i with
    toConn := { sackScoreboardClear (s.tcbs i).toConn with state := .closed }, inUse := false,
    generation := (s.tcbs i).generation + 1, parentListener := parent, bucketNext := next } := by
  obtain ⟨parent, disowned⟩ := @disown_self (unlink s i) i
  obtain ⟨next, unlinked⟩ := (unlink_sameSlots s i).tcbs i
  refine ⟨parent, next, ?_⟩
  rw [dropTcb_parts inUse, setTcb_self, disowned, unlinked]

lemma dropTcb_of_ne (ne : j ≠ i) :
    (dropTcb s i).tcbs j = ((unlink s i).tcbs j).lose (lost s i j) := by
  rw [dropTcb_parts inUse, setTcb_of_ne ne, disown_of_ne ne, lost_sameSlots (unlink_sameSlots s i)]

lemma dropTcb_tcbs :
    (dropTcb s i).buckets = (unlink s i).buckets ∧ Dropped (s.tcbs i) ((dropTcb s i).tcbs i) ∧
    ∀ j, j ≠ i → (dropTcb s i).tcbs j = ((unlink s i).tcbs j).lose (lost s i j) := by
  obtain ⟨_, _, slot⟩ := dropTcb_self inUse
  refine ⟨?_, ?_, fun j ne => dropTcb_of_ne inUse ne⟩
  · rw [dropTcb_parts inUse]
    exact disown_buckets
  · rw [slot]
    exact ⟨rfl, rfl, rfl, rfl, rfl⟩

end Drop

/-- What every move but a drop keeps of a slot. -/
structure Kept (t t' : Tcb) : Prop where
  inUse : t'.inUse = t.inUse
  initializing : t'.initializing = t.initializing
  isListener : t'.isListener = t.isListener
  generation : t'.generation = t.generation
  tuple : t'.tuple = t.tuple

lemma Kept.refl (t) : Kept t t := ⟨rfl, rfl, rfl, rfl, rfl⟩

lemma Kept.trans (first : Kept t t') (second : Kept t' t'') : Kept t t'' :=
  ⟨second.inUse.trans first.inUse, second.initializing.trans first.initializing,
    second.isListener.trans first.isListener, second.generation.trans first.generation,
    second.tuple.trans first.tuple⟩

lemma Kept.settled (kept : Kept t t') (settled : t.settled) : t'.settled :=
  ⟨kept.inUse.trans settled.1, kept.initializing.trans settled.2⟩

/-- A slot was kept, or was dropped once. -/
def Survived (t t' : Tcb) : Prop := Kept t t' ∨ t.settled ∧ Dropped t t'

lemma Survived.refl (t) : Survived t t := .inl (.refl t)

/-- A slot that was dropped is not dropped again, as it is not in use. -/
lemma Survived.trans (first : Survived t t') (second : Survived t' t'') : Survived t t'' := by
  rcases first with kept | ⟨settled, dropped⟩
  · rcases second with kept' | ⟨settled', dropped'⟩
    · exact .inl (kept.trans kept')
    · refine .inr ⟨⟨kept.inUse ▸ settled'.1, kept.initializing ▸ settled'.2⟩, dropped'.inUse, ?_,
        ?_, ?_, ?_⟩
      · exact dropped'.initializing.trans kept.initializing
      · exact dropped'.isListener.trans kept.isListener
      · rw [dropped'.generation, kept.generation]
      · exact dropped'.tuple.trans kept.tuple
  · rcases second with kept' | ⟨settled', _⟩
    · refine .inr ⟨settled, kept'.inUse.trans dropped.inUse, ?_, ?_, ?_, ?_⟩
      · exact kept'.initializing.trans dropped.initializing
      · exact kept'.isListener.trans dropped.isListener
      · exact kept'.generation.trans dropped.generation
      · exact kept'.tuple.trans dropped.tuple
    · exact absurd settled'.1 (by rw [dropped.inUse]; decide)

lemma setTcb_kept (kept : Kept (s.tcbs i) t) (j) : Kept (s.tcbs j) ((s.setTcb i t).tcbs j) := by
  by_cases at_i : j = i
  · rw [at_i, setTcb_self]
    exact kept
  · rw [setTcb_of_ne at_i]
    exact .refl _

lemma Quiet.survived (quiet : Quiet s s') (j) : Survived (s.tcbs j) (s'.tcbs j) := by
  cases quiet with
  | cursor => exact .refl _
  | push i p _ _ _ _ _ _ =>
    refine .inl (.trans (setTcb_kept ?_ j) (setTcb_kept ?_ j))
    all_goals exact ⟨rfl, rfl, rfl, rfl, rfl⟩
  | drop i settled =>
    obtain ⟨_, dropped, others⟩ := dropTcb_tcbs settled.1
    by_cases at_i : j = i
    · rw [at_i]
      exact .inr ⟨settled, dropped⟩
    · obtain ⟨_, eq⟩ := (unlink_sameSlots s i).tcbs j
      rw [others j at_i, eq]
      exact .inl ⟨rfl, rfl, rfl, rfl, rfl⟩
  | _ =>
    refine .inl (setTcb_kept ?_ j)
    exact ⟨rfl, rfl, rfl, rfl, rfl⟩

lemma Quiets.survived (quiets : Quiets s s') (j) : Survived (s.tcbs j) (s'.tcbs j) := by
  induction quiets with
  | refl => exact .refl _
  | tail _ quiet ih => exact ih.trans (quiet.survived j)

end DuetOS.Tcp
