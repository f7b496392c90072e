import DuetOS.Frame.Ownership

/-!
# Bad frames

The list of frames that the hardware reported. `FreeFrame` asks it and drops what it has;
`FreeContiguousFrames` and the pools do not.
-/

namespace DuetOS.Frame

open Multiset

def kFramePoisonCapacity : Nat := 32

def isFramePoisoned (poisoned : List Nat) (framePhys : Nat) :
    Bool := physOf (frameOf framePhys) ∈ poisoned

/-- Whether the frame is recorded, and the list. -/
def poisonFrame (poisoned : List Nat) (framePhys : Nat) : Bool × List Nat :=
  if isFramePoisoned poisoned framePhys then (true, poisoned)
  else if kFramePoisonCapacity ≤ poisoned.length then (false, poisoned)
  else (true, poisoned ++ [physOf (frameOf framePhys)])

variable {Owner : Type*} {w : World Owner} {frame : Nat} {boot : FrameState}

/-- `FreeFrame` drops the frames of the list. -/
def Obeys (poisoned : List Nat) (w w' : World Owner) : FrameEvent Owner → Prop
  | .freed _ frame => isFramePoisoned poisoned (physOf frame) ↔ w'.dropped ≠ w.dropped
  | _ => True

/-- A call of the allocator, or of `PoisonFrame`. -/
inductive PoisonStep : World Owner × List Nat → Option (FrameEvent Owner) → World Owner × List Nat →
    Prop where
  | call {w w' : World Owner} {e poisoned} : FrameStep w e w' → Obeys poisoned w w' e →
    PoisonStep (w, poisoned) (some e) (w', poisoned)
  | poison {w : World Owner} {poisoned framePhys} :
    PoisonStep (w, poisoned) none (w, (poisonFrame poisoned framePhys).2)

/-- The frame is not freed by `FreeContiguousFrames`. -/
def Spares (frame : Nat) : Option (FrameEvent Owner) → Prop
  | some (.freedRun _ first count) => frame ∉ List.range' first count
  | _ => True

lemma poisonFrame_keeps (bad : isFramePoisoned poisoned phys) :
    isFramePoisoned (poisonFrame poisoned framePhys).2 phys := by
  unfold poisonFrame
  split_ifs
  · exact bad
  · exact bad
  · exact decide_eq_true (List.mem_append_left _ (of_decide_eq_true bad))

lemma poisonFrame_records (recorded : (poisonFrame poisoned phys).1) :
    isFramePoisoned (poisonFrame poisoned phys).2 phys := by
  unfold poisonFrame at recorded ⊢
  split_ifs at recorded ⊢ with bad
  · exact bad
  · exact decide_eq_true (List.mem_append_right _ (List.mem_singleton_self _))

/-- The frame is on the list, and held or dropped. -/
structure Banned (boot : FrameState) (frame : Nat) (s : World Owner × List Nat) : Prop where
  books : Balanced boot s.1
  bad : isFramePoisoned s.2 (physOf frame)
  out : frame ∈ s.1.held.map Prod.snd ∨ frame ∈ s.1.dropped

lemma Banned.step {s s' : World Owner × List Nat} (banned : Banned boot frame s)
    (null : ¬boot.Free 0)
    (step : PoisonStep s e s') (spares : Spares frame e) : Banned boot frame s' := by
  obtain ⟨books, bad, out⟩ := banned
  cases step with
  | poison => exact ⟨books, poisonFrame_keeps bad, out⟩
  | call step obeys =>
    refine ⟨books.step null step, bad, ?_⟩
    cases step with
    | allocate _ =>
      rw [map_add, mem_add]
      exact out.imp_left .inr
    | refuse _ => exact out
    | free split _ _ =>
      -- `FreeFrame` does not give back a frame of the list
      refine out.imp_left fun held => ?_
      rw [split, map_cons] at held
      rcases mem_cons.mp held with rfl | kept
      · exact absurd rfl (obeys.mp bad)
      · exact kept
    | drop split _ _ =>
      rw [split, map_cons, mem_cons] at out
      rw [mem_cons]
      tauto
    | freeRun split _ =>
      refine out.imp_left fun held => ?_
      rw [split, map_add, holding_snd] at held
      exact (mem_add.mp held).resolve_left spares
    | drain => exact out

/-- A frame that is recorded while somebody holds it is never handed out again, unless it is freed
as part of a run. -/
theorem held_poisoned_frame_stays_out {es fs poisoned} {s' : World Owner × List Nat}
    (booted : Booted kernelStartPhys kernelEndPhys boot)
    (run : Lts.Run PoisonStep (⟨boot, 0, 0⟩, []) es (w, poisoned))
    (held : frame ∈ w.held.map Prod.snd)
    (recorded : (poisonFrame poisoned (physOf frame)).1)
    (later : Lts.Run (fun s e s' => PoisonStep s e s' ∧ Spares frame e)
      (w, (poisonFrame poisoned (physOf frame)).2) fs s') :
    ∀ m caller (request : Request)
      first t, request.call m caller s'.1.state = .ok (.ok (physOf first), t) →
      frame ∉ List.range' first request.count := by
  intro m caller request first t returns mem
  have books := run.invariant (P := fun s => Balanced boot s.1) (Balanced.run booted .nil)
    fun books step => by
    cases step with
    | call step _ => exact books.step booted.null step
    | poison => exact books
  have banned := later.invariant (P := Banned boot frame)
    ⟨books, poisonFrame_records recorded, .inl held⟩
    fun banned step => banned.step booted.null step.1 step.2
  -- what a request returns was in the stock, and a frame is in one place only
  have stocked : frame ∈ s'.1.state.stock := by
    rw [(Request.takes banned.books.sound (banned.books.null booted.null) returns).2.stock]
    exact mem_add.mpr (.inl (mem_coe.mpr mem))
  have nodup := boot.free.nodup
  rw [← banned.books.ledger] at nodup
  exact disjoint_left.mp (nodup_add.mp nodup).2.2 (mem_add.mpr banned.out) stocked

def badMachine : Machine := { plainMachine with isFramePoisoned := isFramePoisoned [physOf 264] }

def spareTaken : FrameState := { bitmapMarkUsed (spareMemory 0xFC#8 2) 264 with nextHint := 265 }

/-- The first frame is recorded while it is held, and then freed. The second is handed out, and the
first never is. -/
theorem second_frame_returned :
    (∃ t, allocateFrame badMachine ⟨0, kNoNode, false⟩ spareTaken = .ok (.ok (physOf 265), t)) ∧
      ∀ m caller (request : Request)
        first t, request.call m caller spareTaken = .ok (.ok (physOf first), t) →
        264 ∉ List.range' first request.count := by
  have loops : frameLoop (spareMemory 0xFC#8 2) 272 0 = some (some 264) ∧
      frameLoop spareTaken 272 265 = some (some 265) := by decide +kernel
  have taken : allocateFrame plainMachine ⟨0, kNoNode, false⟩ (spareMemory 0xFC#8 2) =
      .ok (.ok (physOf 264), spareTaken) :=
    allocateFrameFrom_loop rfl rfl rfl loops.1
  refine ⟨⟨_, allocateFrameFrom_loop rfl rfl rfl loops.2⟩, ?_⟩
  exact held_poisoned_frame_stays_out (spareMemory_booted (by decide +kernel))
    (.single (.call (@FrameStep.allocate Nat _ _ _ 7 .frame _ _ taken) trivial)) (by decide) rfl
    (.single ⟨.call (@FrameStep.drop _ _ badMachine 0 7 264 0 _ rfl (by decide) rfl)
      (iff_of_true (by decide) (by simp)), trivial⟩)

/-- The only free frame is recorded while it is parked on CPU 0, and handed out there. Recorded
while it is held, it is free again after `FreeContiguousFrames`. -/
theorem parked_poisoned_frame_returns :
    (∃ es, Lts.Run PoisonStep ((⟨spareMemory 0xFE#8 1, 0, 0⟩ : World Nat), []) es
      (⟨scarceParked, 0, 0⟩, [])) ∧
      264 ∈ scarceParked.parked ∧ poisonFrame [] (physOf 264) = (true, [physOf 264]) ∧
      (∃ t, allocateFrame badMachine ⟨0, kNoNode, false⟩ scarceParked = .ok (.ok (physOf 264), t)) ∧
      ∃ t, freeContiguousFrames scarceTaken (physOf 264) 1 = .ok t ∧ t.Free 264 := by
  have allocated := Lts.Run.single (@PoisonStep.call Nat _ _ _ [] scarce_step_allocate trivial)
  have freed := allocated.snoc (.call scarce_step_free (iff_of_false (by decide) (absurd rfl ·)))
  exact ⟨⟨_, freed⟩, by decide, rfl, ⟨_, rfl⟩, _, rfl, by decide +kernel⟩

end DuetOS.Frame
