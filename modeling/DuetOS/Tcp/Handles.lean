import DuetOS.Lib.Pack
import DuetOS.Tcp.Lookup

/-!
# Handles

A `TcbId` packs a slot with the eight-bit generation of the slot. The generation moves once when a
slot is taken and once when it is dropped, so that a dead handle stays dead until its slot was taken
128 times.
-/

namespace DuetOS.Tcp

lemma makeId_toNat (i) (g : UInt8) : (makeId i g).toNat = g.toNat * 2 ^ 24 + (i + 1) := by
  have small : (i : Nat) + 1 < 2 ^ 24 := Nat.lt_of_le_of_lt (Nat.succ_le_of_lt i.isLt) (by decide)
  have byte := g.toNat_lt
  have slot : (UInt32.ofNat (i + 1) &&& 0x00FFFFFF).toNat = i + 1 := by
    rw [UInt32.toNat_and, UInt32.toNat_ofNat_of_lt' (Nat.lt_trans small (by decide))]
    exact (Nat.and_two_pow_sub_one_eq_mod _ 24).trans (Nat.mod_eq_of_lt small)
  have high : (g.toUInt32 <<< 24).toNat = g.toNat <<< 24 := by
    show g.toNat <<< 24 % 2 ^ 32 = _
    omega
  rw [makeId, UInt32.toNat_or, slot, high, Pack.shift_or small]

lemma low_toNat (id : UInt32) : (id &&& 0x00FFFFFF).toNat = id.toNat &&& (2 ^ 24 - 1) :=
    UInt32.toNat_and ..

lemma high_toNat (id : UInt32) : (id >>> 24).toUInt8.toNat = id.toNat >>> 24 := by
  have lt := id.toNat_lt
  show id.toNat >>> 24 % 2 ^ 8 = _
  omega

lemma makeId_low (i) (g : UInt8) : (makeId i g &&& 0x00FFFFFF).toNat = i + 1 := by
  rw [low_toNat, makeId_toNat, Pack.low (Nat.lt_of_le_of_lt (Nat.succ_le_of_lt i.isLt) (by decide))]

lemma makeId_high (i) (g : UInt8) : (makeId i g >>> 24).toUInt8 = g := by
  rw [← UInt8.toNat_inj, high_toNat, makeId_toNat,
    Pack.high (Nat.lt_of_le_of_lt (Nat.succ_le_of_lt i.isLt) (by decide))]

lemma makeId_ne_zero (i g) : makeId i g ≠ kInvalidTcbId := by
  intro zero
  have low := makeId_low i g
  rw [zero] at low
  cases low

lemma decodeId_makeId (settled : (s.tcbs i).settled) :
    decodeId s (makeId i (s.tcbs i).generation) = some i := by
  have low := makeId_low i (s.tcbs i).generation
  have slot : ∀ lt, (⟨(makeId i (s.tcbs i).generation &&& 0x00FFFFFF).toNat - 1, lt⟩ :
    Fin kTcbCap) = i :=
    fun _ => Fin.ext (Nat.sub_eq_of_eq_add low)
  have live : ¬(¬(s.tcbs i).inUse ∨ (s.tcbs i).initializing) := by
    rw [settled.1, settled.2]
    decide
  unfold decodeId
  rw [if_neg (makeId_ne_zero i _), dif_neg (by rw [low]; have := i.isLt; omega)]
  simp only [slot]
  rw [if_neg live, makeId_high, if_neg (not_not.mpr rfl)]

lemma decodeId_eq_some {id} :
    decodeId s id = some i ↔ (s.tcbs i).settled ∧ id = makeId i (s.tcbs i).generation := by
  constructor
  · intro found
    obtain ⟨settled, generation, low⟩ := decodeId_some found
    refine ⟨settled, ?_⟩
    rw [← UInt32.toNat_inj, makeId_toNat, generation, high_toNat, ← low, low_toNat]
    exact (Pack.rebuild _ 24).symm
  · rintro ⟨settled, rfl⟩
    exact decodeId_makeId settled

/-- The slot has moved on from generation `g` by at least `least`, within `n` uses of it. -/
def Aged (g : UInt8) (least n : Nat) (t : Tcb) : Prop :=
  ∃ k, t.generation = g + UInt8.ofNat k ∧ least ≤ k ∧ k ≤ 2 * n + 1 ∧ (t.inUse → k ≤ 2 * n) ∧
    (k = 0 → t.settled)

namespace Aged

lemma kept (aged : Aged g least n t) (kept : Kept t t') : Aged g least n t' := by
  obtain ⟨k, generation, ge, le, live, zero⟩ := aged
  refine ⟨k, kept.generation.trans generation, ge, le, fun inUse => live (kept.inUse ▸ inUse),
    fun eq => ?_⟩
  exact kept.settled (zero eq)

lemma next_generation : g + UInt8.ofNat k + 1 = g + UInt8.ofNat (k + 1) := by
  rw [UInt8.ofNat_add, UInt8.add_assoc]
  rfl

lemma dropped (aged : Aged g least n t) (settled : t.settled) (dropped : Dropped t t') :
    Aged g least n t' := by
  obtain ⟨k, generation, ge, le, live, _⟩ := aged
  have within := live settled.1
  refine ⟨k + 1, ?_, by omega, by omega, fun inUse => ?_, fun zero => by omega⟩
  · rw [dropped.generation, generation, next_generation]
  · rw [dropped.inUse] at inUse
    cases inUse

lemma survived (aged : Aged g least n t) (survived : Survived t t') : Aged g least n t' := by
  rcases survived with kept | ⟨settled, dropped⟩
  · exact aged.kept kept
  · exact aged.dropped settled dropped

lemma taken (aged : Aged g least n t) (free : t.inUse = false)
    (generation : t'.generation = t.generation + 1) :
    Aged g least (n + 1) t' := by
  obtain ⟨k, same, ge, le, _, zero⟩ := aged
  have positive : k ≠ 0 := fun eq => by
    rw [Tcb.settled, free] at zero
    cases (zero eq).1
  refine ⟨k + 1, ?_, by omega, by omega, fun _ => by omega, fun eq => by omega⟩
  rw [generation, same, next_generation]

lemma initialized (aged : Aged g least n t) (initializing : t.initializing) (inUse : t.inUse)
    (generation : t'.generation = t.generation) : Aged g least n t' := by
  obtain ⟨k, same, ge, le, live, zero⟩ := aged
  have positive : k ≠ 0 := fun eq => by
    rw [Tcb.settled, initializing] at zero
    cases (zero eq).2
  exact ⟨k, generation.trans same, ge, le, fun _ => live inUse, fun eq => absurd eq positive⟩

def uses (i : Fin kTcbCap) (es : List Event) : Nat := es.countP fun e => e.takes = some i

lemma uses_append (es fs) : uses i (es ++ fs) = uses i es + uses i fs := List.countP_append

lemma uses_of_ne (ne : e.takes ≠ some i) : uses i [e] = 0 :=
  List.countP_eq_zero.mpr fun e' mem => by rw [List.mem_singleton.mp mem]; simpa using ne

lemma uses_of_none (none : e.takes = none) : uses i [e] = 0 :=
  uses_of_ne fun eq => Option.some_ne_none i (eq.symm.trans none)

lemma uses_of_eq {e} (eq : e.takes = some i) : uses i [e] = 1 := by
  rw [uses, List.countP_cons_of_pos (by simpa using eq)]
  rfl

lemma shape {s s' e} (reserved : Reserved s) (aged : Aged g least n (s.table.tcbs i))
    (shape : Shape s e s') :
    Aged g least (n + uses i [e]) (s'.table.tcbs i) := by
  cases shape with
  | quiet takes quiets =>
    rw [uses_of_none takes]
    exact aged.survived (quiets.survived i)
  | @listen j _ _ _ _ free _ _ _ _ =>
    by_cases at_j : i = j
    · rw [← at_j, uses_of_eq rfl, setTcb_self]
      exact aged.taken (at_j ▸ free) rfl
    · have other : (Event.listen (some j)).takes ≠ some i :=
        fun eq => at_j (Option.some.inj eq).symm
      rw [uses_of_ne other, setTcb_of_ne at_j]
      exact aged
  | @reserve _ cursor call takes free _ =>
    by_cases at_slot : i = call.slot
    · rw [uses_of_eq (at_slot ▸ takes), reserveSlot, at_slot, setTcb_self]
      exact (at_slot ▸ aged).taken free rfl
    · rw [uses_of_ne fun eq => at_slot (Option.some.inj (eq.symm.trans takes)), reserveSlot,
        setTcb_of_ne at_slot]
      exact aged
  | @connectPublish calls call now pending =>
    obtain ⟨inUse, initializing, _⟩ := reserved.pending pending
    by_cases at_slot : i = call.slot
    · obtain ⟨_, eq⟩ := @connectPublish_self s.table now call
      have current := reserved.current call (pending ▸ Multiset.mem_cons_self ..)
      rw [at_slot, eq]
      exact (at_slot ▸ aged).initialized initializing inUse current
    · rw [connectPublish_of_ne at_slot]
      exact aged
  | @synPublish calls call p now pending welcome =>
    obtain ⟨inUse, initializing, _⟩ := reserved.pending pending
    have mem : Call.answering call ∈ s.calls := pending ▸ Multiset.mem_cons_self ..
    have ne : p ≠ call.slot := reserved.parent_ne mem welcome
    by_cases at_slot : i = call.slot
    · obtain ⟨_, eq⟩ := @synPublish_self s.table p now call ne
      rw [at_slot, eq]
      exact (at_slot ▸ aged).initialized initializing inUse rfl
    by_cases at_p : i = p
    · rw [at_p, synPublish_parent ne]
      exact (at_p ▸ aged).kept ⟨rfl, rfl, rfl, rfl, rfl⟩
    · rw [synPublish_of_ne at_slot at_p]
      exact aged
  | @unreserve _ calls call takes pending =>
    obtain ⟨inUse, initializing, _⟩ := reserved.pending pending
    rw [uses_of_none takes, unreserveSlot]
    by_cases at_slot : i = call.slot
    · rw [at_slot, setTcb_self]
      exact (at_slot ▸ aged).initialized initializing inUse rfl
    · rw [setTcb_of_ne at_slot]
      exact aged
  | discard takes _ =>
    rw [uses_of_none takes]
    exact aged

lemma run {s s' es} (run : Lts.Run Step s es s') (reserved : Reserved s)
    (aged : Aged g least n (s.table.tcbs i)) :
    Aged g least (n + uses i es) (s'.table.tcbs i) := by
  have both : Reserved s' ∧ Aged g least (n + uses i es) (s'.table.tcbs i) := by
    induction run with
    | nil => exact ⟨reserved, aged⟩
    | snoc _ step ih =>
      have shape := step.shape ih.1.unbound
      refine ⟨ih.1.shape shape, ?_⟩
      rw [uses_append, ← Nat.add_assoc]
      exact ih.2.shape ih.1 shape
  exact both.2

end Aged

/-- A handle that led to a slot, once the slot was dropped, leads nowhere until the slot was taken
128 times. -/
theorem dead_handle_stays_dead {isnSecret : UInt64} {es fs gs : List Event} {s m s' : System}
    {id : UInt32}
    {i : Fin kTcbCap} (run : Lts.Run Step (initSystem isnSecret) es s)
    (live : decodeId s.table id = some i)
    (toDrop : Lts.Run Step s fs m) (free : (m.table.tcbs i).inUse = false)
    (later : Lts.Run Step m gs s')
    (few : Aged.uses i (fs ++ gs) ≤ 127) : decodeId s'.table id = none := by
  have reserved := reserved_of_run run
  obtain ⟨settled, rfl⟩ := decodeId_eq_some.mp live
  have start : Aged (s.table.tcbs i).generation 0 0 (s.table.tcbs i) :=
    ⟨0, (UInt8.add_zero _).symm, le_rfl, by omega, fun _ => le_rfl, fun _ => settled⟩
  -- the slot is free, so it has aged by one at least
  have dropped : Aged (s.table.tcbs i).generation 1 (Aged.uses i fs) (m.table.tcbs i) := by
    obtain ⟨k, generation, _, le, inUse, zero⟩ := Aged.run toDrop reserved start
    have positive : k ≠ 0 := fun eq => by
      rw [Tcb.settled, free] at zero
      cases (zero eq).1
    exact ⟨k, generation, by omega, by omega, fun live => absurd live (by rw [free]; decide),
      fun eq => absurd eq positive⟩
  have reserved' : Reserved m := reserved_of_run (run.append toDrop)
  obtain ⟨k, generation, ge, _, inUse, _⟩ := Aged.run later reserved' dropped
  rw [Aged.uses_append] at few
  cases found : decodeId s'.table (makeId i (s.table.tcbs i).generation) with
  | none => rfl
  | some j =>
    obtain ⟨settled', same⟩ := decodeId_eq_some.mp found
    have slots : i = j := by
      have low := congrArg (fun id : UInt32 => (id &&& 0x00FFFFFF).toNat) same
      simp only [makeId_low] at low
      exact Fin.ext (Nat.succ_injective low)
    subst slots
    have generations : (s.table.tcbs i).generation = (s'.table.tcbs i).generation := by
      have high := congrArg (fun id : UInt32 => (id >>> 24).toUInt8) same
      simp only [makeId_high] at high
      exact high
    rw [generation, UInt8.left_eq_add] at generations
    have wrapped : k % 256 = 0 := congrArg UInt8.toNat generations
    omega

/-- A listener in the first slot, of generation `g + 1`. -/
def slotOpen (g : UInt8) : System :=
  ⟨(initTable 0).setTcb firstSlot (listening { generation := g } loopback loopback.ip 80 1), 0,
    fun _ => false⟩

def slotClosed (g : UInt8) :
    System := { slotOpen g with table := close (slotOpen g).table 0 firstSlot }

lemma slotOpen_live (g : UInt8) :
    decodeId (slotOpen g).table (makeId firstSlot (g + 1)) = some firstSlot :=
  decodeId_eq_some.mpr ⟨⟨rfl, rfl⟩, rfl⟩

lemma step_close (g : UInt8) :
    Step (slotOpen g) (.close firstSlot) (slotClosed g) := .close 0 _ (slotOpen_live g)

lemma step_reopen (g : UInt8) :
    Step (slotClosed g) (.listen (some firstSlot)) (slotOpen (g + 1 + 1)) := by
  have reopened : (slotOpen (g + 1 + 1)).table = (slotClosed g).table.setTcb firstSlot
      (listening ((slotClosed g).table.tcbs firstSlot) loopback loopback.ip 80 1) := by
    refine congrArg (fun tcbs => { initTable 0 with tcbs }) ?_
    exact ((Function.update_idem ..).trans (Function.update_idem ..)).symm
  exact .listen loopback loopback.ip 80 1 rfl (Prod.ext rfl reopened.symm)

def cycles : Nat → List Event
  | 0 => []
  | n + 1 => cycles n ++ [.listen (some firstSlot), .close firstSlot]

lemma uses_cycles (n) : Aged.uses firstSlot (cycles n) = n := by
  induction n with
  | zero => rfl
  | succ n ih =>
    rw [cycles, Aged.uses_append, ih]
    rfl

lemma run_cycles (g : UInt8) (n) :
    Lts.Run Step (slotClosed g) (cycles n) (slotClosed (g + UInt8.ofNat (2 * n))) := by
  induction n with
  | zero => exact (UInt8.add_zero g).symm ▸ .nil
  | succ n ih =>
    have cycle := (Lts.Run.single (step_reopen (g + UInt8.ofNat (2 * n)))).snoc (step_close _)
    rw [Aged.next_generation, Aged.next_generation] at cycle
    exact ih.append cycle

/-- A listener's handle stays dead over the next listener in its slot. -/
theorem dead_handle_after_one_use :
    ∃ s m s', Lts.Run Step (initSystem 0) [.listen (some firstSlot)] s ∧
    decodeId s.table (makeId firstSlot 1) = some firstSlot ∧ Lts.Run Step s [.close firstSlot] m ∧
    Lts.Run Step m [.listen (some firstSlot)] s' ∧
      decodeId s'.table (makeId firstSlot 1) = none := by
  have opened : Step (initSystem 0) (.listen (some firstSlot)) (slotOpen 0) :=
    .listen loopback loopback.ip 80 1 rfl rfl
  exact ⟨_, _, _, .single opened, slotOpen_live 0, .single (step_close 0), .single (step_reopen 0),
    dead_handle_stays_dead (.single opened) (slotOpen_live 0) (.single (step_close 0)) rfl
      (.single (step_reopen 0))
      (by decide)⟩

/-- After 128 uses of the slot the handle of a closed listener leads to another listener. -/
theorem handle_revives_after_128_uses :
    ∃ s m gs s', Lts.Run Step (initSystem 0) [.listen (some firstSlot)] s ∧
    decodeId s.table (makeId firstSlot 1) = some firstSlot ∧ Lts.Run Step s [.close firstSlot] m ∧
    (m.table.tcbs firstSlot).inUse = false ∧ Lts.Run Step m gs s' ∧ Aged.uses firstSlot gs = 128 ∧
    decodeId s'.table (makeId firstSlot 1) = some firstSlot := by
  have run := (run_cycles 0 127).snoc (step_reopen _)
  rw [show (0 : UInt8) + UInt8.ofNat (2 * 127) + 1 + 1 = 0 by decide] at run
  refine ⟨_, _, _, _, .single (.listen loopback loopback.ip 80 1 rfl rfl), slotOpen_live 0,
    .single (step_close 0), rfl,
    run, ?_, slotOpen_live 0⟩
  rw [Aged.uses_append, uses_cycles, Aged.uses_of_eq rfl]

end DuetOS.Tcp
