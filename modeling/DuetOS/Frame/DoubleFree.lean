import DuetOS.Frame.Ownership

/-!
# Freeing a frame twice

`FreeFrame` looks at the bitmap and at the pool of the CPU it runs on, `FreeContiguousFrames` at the
bitmap only. A second free stops the kernel exactly where one of these has the frame.
-/

namespace DuetOS.Frame

/-- `FreeFrame` on this CPU can see that the frame was freed: it is free in the bitmap or parked on
the same CPU. -/
def Visible (s : FrameState) (cpu frame : Nat) : Prop :=
  s.Free frame ∨ ∃ h : cpu < kMaxCpus, physOf frame ∈ s.pools ⟨cpu, h⟩

/-- A call as before, or a second free that the allocator can see. -/
inductive CarelessStep {Owner : Type*} : World Owner → Option (FrameEvent Owner) → World Owner →
    Prop where
  | call {w w' : World Owner} {e} : FrameStep w e w' → CarelessStep w (some e) w'
  | freeAgain {w : World Owner} {m : Machine} {cpu frame t} : Visible w.state cpu frame →
    m.isFramePoisoned (physOf frame) = false →
    freeFrame m cpu w.state (physOf frame) = .ok t →
    CarelessStep w none { w with state := t }
  | freeRunAgain {w : World Owner} {first count i t} : 0 <
    first → i < count → w.state.Free (first + i) →
    freeContiguousFrames w.state (physOf first) count = .ok t →
    CarelessStep w none { w with state := t }

lemma freeFrame_panics (pos : 0 < frame) (visible : Visible s cpu frame)
    (well : m.isFramePoisoned (physOf frame) = false) :
    ∃ panic, freeFrame m cpu s (physOf frame) = .error panic := by
  rw [freeFrame, if_neg (physOf_ne_null pos), frameOf_physOf, well, if_neg Bool.false_ne_true]
  dsimp only
  split_ifs with _ _ _ used
  any_goals exact ⟨_, rfl⟩
  -- the bitmap has the frame in use, so it is parked here
  all_goals
    obtain free | ⟨h, pooled⟩ := visible
    · exact absurd ⟨free.1, by simp [bitmapIsUsed_eq_false.mpr free]⟩ used
    · contradiction

lemma free_bitmapMarkFree_of_free (free : s.Free other) : (bitmapMarkFree s frame).Free other := by
  by_cases inside : frame < s.bitmapFrames
  · by_cases clear : s.Free frame
    · rw [bitmapMarkFree, if_neg (Nat.not_le.mpr inside),
        if_neg (not_not.mpr (test_iff.mpr clear.2))]
      exact free
    · rw [← mem_free, free_bitmapMarkFree inside clear]
      exact Finset.mem_insert_of_mem (mem_free.mpr free)
  · rw [bitmapMarkFree, if_pos (Nat.le_of_not_lt inside)]
    exact free

lemma freeRun_panics (lt : i < count) (free : s.Free (first + i)) :
    ∃ panic, freeRun count first s = .error panic := by
  induction count generalizing s first i with
  | zero => exact absurd lt (Nat.not_lt_zero i)
  | succ count ih =>
    rw [freeRun]
    split
    · exact ⟨_, rfl⟩
    split
    · exact ⟨_, rfl⟩
    rename_i used _
    cases i with
    | zero =>
      rw [Nat.add_zero] at free
      exact absurd ⟨free.1, by simp [bitmapIsUsed_eq_false.mpr free]⟩ used
    | succ i =>
      refine ih (by omega : i < count) (free_bitmapMarkFree_of_free ?_)
      rwa [show first + 1 + i = first + (i + 1) by omega]

lemma freeContiguousFrames_panics (pos : 0 < first) (lt : i < count) (free : s.Free (first + i)) :
    ∃ panic, freeContiguousFrames s (physOf first) count = .error panic := by
  obtain ⟨panic, loop⟩ := freeRun_panics lt free
  rw [freeContiguousFrames, if_neg (not_or.mpr ⟨physOf_ne_null pos, by omega⟩),
    frameOf_physOf, loop]
  exact ⟨panic, rfl⟩

lemma Visible.mem_stock (visible : Visible s cpu frame) : frame ∈ s.stock := by
  obtain free | ⟨h, pooled⟩ := visible
  · exact Multiset.mem_add.mpr (Or.inr (mem_free.mpr free))
  · refine Multiset.mem_add.mpr (Or.inl (Multiset.mem_sum.mpr ⟨⟨cpu, h⟩, Finset.mem_univ _, ?_⟩))
    have mem := List.mem_map_of_mem (f := frameOf) pooled
    rwa [frameOf_physOf] at mem

lemma Balanced.stock_pos (books : Balanced boot w) (null : ¬boot.Free 0)
    (mem : frame ∈ w.state.stock) : 0 < frame := by
  refine Nat.pos_of_ne_zero fun zero => null (zero ▸ mem_free.mp ?_)
  rw [← Finset.mem_val, ← books.ledger]
  exact Multiset.mem_add.mpr (Or.inr mem)

lemma Balanced.careless_run (booted : Booted kernelStartPhys kernelEndPhys boot)
    (run : Lts.Run CarelessStep ⟨boot, 0, 0⟩ es w) : Balanced boot w := by
  refine run.invariant (P := Balanced boot) (Balanced.run booted .nil) fun books step => ?_
  cases step with
  | call step => exact books.step booted.null step
  | freeAgain visible well returns =>
    obtain ⟨panic, stops⟩ :=
      freeFrame_panics (books.stock_pos booted.null visible.mem_stock) visible well
    rw [stops] at returns
    cases returns
  | freeRunAgain pos lt free returns =>
    obtain ⟨panic, stops⟩ := freeContiguousFrames_panics pos lt free
    rw [stops] at returns
    cases returns

/-- In every run in which frames may be freed again where the allocator can see it: such a free
stops the kernel, and no frame is in two slots of the pools, in a slot and clear in the bitmap, or
in the hands of two owners. -/
theorem visible_double_frees_panic {Owner : Type*} {w : World Owner}
    {boot kernelStartPhys kernelEndPhys} {es}
    (booted : Booted kernelStartPhys kernelEndPhys boot)
    (run : Lts.Run CarelessStep ⟨boot, 0, 0⟩ es w) :
    (∀ (m : Machine) cpu frame, Visible w.state cpu frame →
      m.isFramePoisoned (physOf frame) = false →
      ∃ panic, freeFrame m cpu w.state (physOf frame) = .error panic) ∧
    (∀ first count i, 0 < first → i < count → w.state.Free (first + i) →
      ∃ panic, freeContiguousFrames w.state (physOf first) count = .error panic) ∧
    (∀ frame, w.state.parked.count frame ≤ 1 ∧ (frame ∈ w.state.parked → ¬w.state.Free frame) ∧
      (w.held.map Prod.snd).count frame ≤ 1) := by
  have books := Balanced.careless_run booted run
  refine ⟨fun m cpu frame visible well => ?_, fun first count i pos lt free => ?_, fun frame => ?_⟩
  · exact freeFrame_panics (books.stock_pos booted.null visible.mem_stock) visible well
  · exact freeContiguousFrames_panics pos lt free
  · have places := books.places frame
    have one : (if boot.Free frame then 1 else 0) ≤ 1 := by split <;> decide
    refine ⟨by omega, fun parked free => ?_, by omega⟩
    have slot := Multiset.count_pos.mpr parked
    rw [if_pos free] at places
    omega

/-- The frame of `scarceParked`, freed once more on CPU 1. -/
def scarceTwice : FrameState :=
  { scarceParked with pools := Function.update scarceParked.pools ⟨1, by decide⟩ [physOf 264] }

theorem visible_double_frees_panic_scarce :
    Visible scarceParked 0 264 ∧ ∃ panic, freeFrame plainMachine 0 scarceParked (physOf 264) =
      .error panic := by
  have parked := (Lts.Run.single (CarelessStep.call scarce_step_allocate)).snoc
    (CarelessStep.call scarce_step_free)
  have visible : Visible scarceParked 0 264 := Or.inr ⟨by decide, by decide⟩
  exact ⟨visible, (visible_double_frees_panic scarce_booted parked).1 plainMachine 0 264
    visible rfl⟩

/-- The frame is parked on CPU 0 and freed again on CPU 1. Nothing stops the kernel, the frame is in
two pools, and both CPUs hand it out. -/
theorem second_free_on_other_cpu :
    (∃ es : List (FrameEvent Nat),
      Lts.Run FrameStep ⟨spareMemory 0xFE#8 1, 0, 0⟩ es ⟨scarceParked, 0, 0⟩) ∧
      264 ∈ scarceParked.stock ∧
        freeFrame plainMachine 1 scarceParked (physOf 264) = .ok scarceTwice ∧
      scarceTwice.pools ⟨0, by decide⟩ = [physOf 264] ∧
        scarceTwice.pools ⟨1, by decide⟩ = [physOf 264] ∧
      ∃ t u, allocateFrame plainMachine ⟨0, kNoNode, false⟩ scarceTwice =
        .ok (.ok (physOf 264), t) ∧
        allocateFrame plainMachine ⟨1, kNoNode, false⟩ t = .ok (.ok (physOf 264), u) := by
  refine ⟨⟨_, scarce_run⟩, ?_, rfl, rfl, rfl, _, _, rfl, rfl⟩
  have visible : Visible scarceParked 0 264 := Or.inr ⟨by decide, by decide⟩
  exact visible.mem_stock

end DuetOS.Frame
