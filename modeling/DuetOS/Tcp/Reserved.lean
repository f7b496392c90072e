import DuetOS.Tcp.Sections

/-!
# Slots reserved for a call

While `Connect` or `HandleListenSyn` allocates buffers, its slot is in use and initialising: no
other call holds it, no handle leads to it, and no segment or interface finds it.
-/

namespace DuetOS.Tcp

open Multiset

def connected (t : Tcb) (isnSecret : UInt64) (now : Nat) (call : ConnectCall) : Tcb :=
  { t with
    toConn := connectConn now (genIsn isnSecret now call.tuple), generation := call.generation,
    initializing := false, isListener := false, tuple := call.tuple, localMac := call.snapshot.mac,
    refs := 1 }

def answered (t : Tcb) (isnSecret : UInt64) (now : Nat) (call : SynCall) : Tcb :=
  { t with
    toConn := synConn now (genIsn isnSecret now call.tuple) call, initializing := false,
    isListener := false,
    tuple := call.tuple, localMac := call.snapshot.mac, refs := 1, parentListener := call.parent }

/-- The listener with one more half-open child. -/
def Tcb.gain (t : Tcb) : Tcb := { t with synBacklogCount := t.synBacklogCount + 1 }

section Publish

variable {s : Table}

lemma connectPublish_self {call} : ∃ next, (connectPublish s now call).tcbs call.slot =
    { connected (s.tcbs call.slot) s.isnSecret now call with bucketNext := next } := by
  have inserted : ∃ next, (connectPublish s now call).tcbs call.slot =
      { (s.setTcb call.slot (connected (s.tcbs call.slot) s.isnSecret now call)).tcbs call.slot with
        bucketNext := next } := ⟨_, bucketInsert_self⟩
  rw [setTcb_self] at inserted
  exact inserted

lemma connectPublish_of_ne (ne : j ≠ call.slot) :
    (connectPublish s now call).tcbs j = s.tcbs j := by
  refine (bucketInsert_of_ne ne).trans ?_
  rw [setTcb_of_ne ne]

lemma synPublish_self {call} (ne : p ≠ call.slot) :
    ∃ next, (synPublish s now call p).tcbs call.slot =
    { answered (s.tcbs call.slot) s.isnSecret now call with bucketNext := next } := by
  have inserted : ∃ next, (synPublish s now call p).tcbs call.slot =
      { ((s.setTcb call.slot (answered (s.tcbs call.slot) s.isnSecret now call)).setTcb p
          ((s.setTcb call.slot (answered (s.tcbs call.slot) s.isnSecret now call)).tcbs
            p).gain).tcbs call.slot with
        bucketNext := next } := ⟨_, bucketInsert_self⟩
  rw [setTcb_of_ne ne.symm, setTcb_self] at inserted
  exact inserted

lemma synPublish_parent (ne : p ≠ call.slot) :
    (synPublish s now call p).tcbs p = (s.tcbs p).gain := by
  refine (bucketInsert_of_ne ne).trans ?_
  rw [setTcb_self, setTcb_of_ne ne]
  rfl

lemma synPublish_of_ne (ne : j ≠ call.slot) (ne' : j ≠ p) :
    (synPublish s now call p).tcbs j = s.tcbs j := by
  refine (bucketInsert_of_ne ne).trans ?_
  rw [setTcb_of_ne ne', setTcb_of_ne ne]

lemma synWelcome_some (welcome : synWelcome s parent = some p) :
    decodeId s parent = some p ∧ (s.tcbs p).isListener ∧
      (s.tcbs p).backlogCount + (s.tcbs p).synBacklogCount < (s.tcbs p).backlogMax := by
  unfold synWelcome at welcome
  split at welcome
  · cases welcome
  next decoded =>
  split at welcome
  next fits =>
    cases welcome
    exact ⟨decoded, fits⟩
  · cases welcome

end Publish

/-- The calls hold distinct slots, which nobody else reaches. -/
structure Reserved (s : System) : Prop where
  nodup : (s.calls.map Call.slot).Nodup
  held : ∀ call ∈ s.calls, (s.table.tcbs call.slot).inUse ∧ (s.table.tcbs call.slot).initializing ∧
    (s.table.tcbs call.slot).isListener = false
  unbound : Unbound s.table
  current : ∀ call, .connecting call ∈ s.calls →
    call.generation = (s.table.tcbs call.slot).generation

namespace Reserved

variable {s s' : System} {e : Event}

lemma init (isnSecret : UInt64) : Reserved (initSystem isnSecret) where
  nodup := nodup_zero
  held _ mem := absurd mem (notMem_zero _)
  unbound _ initializing := by cases initializing
  current _ mem := absurd mem (notMem_zero _)

variable (reserved : Reserved s)

include reserved

lemma other (pending : s.calls = call ::ₘ calls) (mem : c ∈ calls) : c.slot ≠ call.slot := by
  have nodup := reserved.nodup
  rw [pending, map_cons, nodup_cons] at nodup
  exact ne_of_mem_of_not_mem (mem_map_of_mem _ mem) nodup.1

lemma pending (pending : s.calls = call ::ₘ calls) :
    (s.table.tcbs call.slot).inUse ∧ (s.table.tcbs call.slot).initializing ∧
      (s.table.tcbs call.slot).isListener = false :=
  reserved.held call (pending ▸ mem_cons_self ..)

lemma ne_slot (mem : call ∈ s.calls) (idle : (s.table.tcbs i).initializing = false) :
    i ≠ call.slot := by
  rintro rfl
  rw [(reserved.held call mem).2.1] at idle
  cases idle

lemma ne_slot_of_free (mem : call ∈ s.calls) (free : (s.table.tcbs i).inUse = false) :
    i ≠ call.slot := by
  rintro rfl
  rw [(reserved.held call mem).1] at free
  cases free

/-- A slot that keeps what the table says of it keeps its call. -/
lemma of_kept (le : calls ≤ s.calls)
    (kept : ∀ call ∈ calls, Kept (s.table.tcbs call.slot) (table.tcbs call.slot))
    (unbound : Unbound table) :
    Reserved ⟨table, calls, returned⟩ where
  nodup := nodup_of_le (map_le_map le) reserved.nodup
  held call mem := by
    have same := kept call mem
    obtain ⟨inUse, initializing, connection⟩ := reserved.held call (mem_of_le le mem)
    exact ⟨same.inUse.trans inUse, same.initializing.trans initializing,
      same.isListener.trans connection⟩
  unbound
  current call mem := by
    have same : (table.tcbs call.slot).generation = (s.table.tcbs call.slot).generation :=
      (kept _ mem).generation
    exact (reserved.current call (mem_of_le le mem)).trans same.symm

lemma kept (quiets : Quiets s.table table) (mem : call ∈ s.calls) :
    Kept (s.table.tcbs call.slot) (table.tcbs call.slot) := by
  rcases quiets.survived call.slot with kept | ⟨settled, _⟩
  · exact kept
  · rw [Tcb.settled, (reserved.held call mem).2.1] at settled
    cases settled.2

lemma quiets (quiets : Quiets s.table table) : Reserved ⟨table, s.calls, returned⟩ :=
  reserved.of_kept le_rfl (fun _ mem => reserved.kept quiets mem) (reserved.unbound.quiets quiets)

lemma parent_ne (mem : call ∈ s.calls) (welcome : synWelcome s.table parent = some p) :
    p ≠ call.slot :=
  reserved.ne_slot mem (decodeId_some (synWelcome_some welcome).1).1.2

lemma reserve (free : (s.table.tcbs call.slot).inUse = false) (fresh : call.fresh s.table)
    {returned} :
    Reserved ⟨reserveSlot s.table call.slot, call ::ₘ s.calls, returned⟩ where
  nodup := by
    rw [map_cons, nodup_cons]
    refine ⟨fun mem => ?_, reserved.nodup⟩
    obtain ⟨c, mem, eq⟩ := mem_map.mp mem
    exact reserved.ne_slot_of_free mem free eq.symm
  held c mem := by
    rcases mem_cons.mp mem with rfl | mem
    · rw [reserveSlot, setTcb_self]
      exact ⟨rfl, rfl, rfl⟩
    · rw [reserveSlot, setTcb_of_ne (reserved.ne_slot_of_free mem free).symm]
      exact reserved.held c mem
  unbound j initializing := by
    by_cases at_slot : j = call.slot
    · rw [at_slot, reserveSlot, setTcb_self]
      rfl
    · rw [reserveSlot, setTcb_of_ne at_slot] at initializing ⊢
      exact reserved.unbound j initializing
  current c mem := by
    rcases mem_cons.mp mem with rfl | mem
    · have at_slot : ((reserveSlot s.table c.slot).tcbs c.slot).generation =
          (s.table.tcbs c.slot).generation + 1 := by rw [reserveSlot, setTcb_self]
      exact fresh.1.trans at_slot.symm
    · have ne : c.slot ≠ call.slot := (reserved.ne_slot_of_free mem free).symm
      rw [reserveSlot, setTcb_of_ne ne]
      exact reserved.current c mem

lemma finish (pending : s.calls = call ::ₘ calls)
    (idle : (table.tcbs call.slot).initializing = false)
    (others : ∀ j, j ≠ call.slot → Kept (s.table.tcbs j) (table.tcbs j)) :
    Reserved ⟨table, calls, returned⟩ := by
  refine reserved.of_kept (pending ▸ le_cons_self ..)
    (fun c mem => others _ (reserved.other pending mem)) ?_
  intro j initializing
  have ne : j ≠ call.slot := by
    rintro rfl
    rw [idle] at initializing
    cases initializing
  rw [(others j ne).tuple]
  exact reserved.unbound j ((others j ne).initializing ▸ initializing)

lemma shape (shape : Shape s e s') : Reserved s' := by
  cases shape with
  | quiet _ quiets => exact reserved.quiets quiets
  | @listen i snapshot localIp localPort backlog free _ _ _ _ =>
    refine reserved.of_kept le_rfl (fun c mem => ?_) fun j initializing => ?_
    · rw [setTcb_of_ne (reserved.ne_slot_of_free mem free).symm]
      exact .refl _
    · by_cases at_i : j = i
      · rw [at_i, setTcb_self] at initializing
        cases initializing
      · rw [setTcb_of_ne at_i] at initializing ⊢
        exact reserved.unbound j initializing
  | @reserve _ cursor call _ free fresh =>
    have before : Reserved ⟨{ s.table with ephemeralCursor := cursor }, s.calls, s.returned⟩ :=
      reserved.quiets (.single (.cursor cursor))
    exact before.reserve free fresh
  | @connectPublish calls call now pending =>
    refine reserved.finish pending ?_ fun j ne => ?_
    · obtain ⟨_, eq⟩ := @connectPublish_self s.table now call
      exact eq ▸ rfl
    · rw [connectPublish_of_ne ne]
      exact .refl _
  | @synPublish calls call p now pending welcome =>
    have ne := reserved.parent_ne (pending ▸ mem_cons_self ..) welcome
    refine reserved.finish pending ?_ fun j ne' => ?_
    · obtain ⟨_, eq⟩ := @synPublish_self s.table p now call ne
      exact eq ▸ rfl
    · by_cases at_p : j = p
      · rw [at_p, synPublish_parent ne]
        exact ⟨rfl, rfl, rfl, rfl, rfl⟩
      · rw [synPublish_of_ne ne' at_p]
        exact .refl _
  | @unreserve _ calls call _ pending =>
    refine reserved.finish pending ?_ fun j ne => ?_
    · rw [unreserveSlot, setTcb_self]
    · rw [unreserveSlot, setTcb_of_ne ne]
      exact .refl _
  | @discard _ calls call _ pending =>
    have le : calls ≤ s.calls := pending ▸ le_cons_self ..
    have rest : Reserved ⟨s.table, calls, s.returned⟩ :=
      reserved.of_kept le (fun _ _ => .refl _) reserved.unbound
    refine ⟨?_, fun c mem => ?_, reserved.unbound, fun c mem => ?_⟩
    · have nodup := reserved.nodup
      rw [pending] at nodup
      rw [map_cons] at nodup ⊢
      exact nodup
    · rcases mem_cons.mp mem with rfl | mem
      · have held := reserved.pending pending
        exact held
      · exact rest.held c mem
    · rcases mem_cons.mp mem with eq | mem
      · cases eq
      · exact rest.current c mem

end Reserved

lemma reserved_of_run (run : Lts.Run Step (initSystem isnSecret) es s) : Reserved s :=
  run.invariant (.init isnSecret) fun reserved step => reserved.shape (step.shape reserved.unbound)

end DuetOS.Tcp
