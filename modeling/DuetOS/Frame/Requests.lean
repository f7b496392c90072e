import DuetOS.Frame.Search

/-!
# Requests for one frame

What the searches with a hint, the allocators of one frame and the zone allocator make of the byte
scan.
-/

namespace DuetOS.Frame

variable {s : FrameState} {frame : Nat}

/-- The whole frame lies below the address; 0 stands for no limit. -/
def Below (maxPhys frame : Nat) : Prop := maxPhys ≠ 0 → physOf (frame + 1) ≤ maxPhys

/-- Where `BitmapFindFreeBelow` stops: the frames below the address and the ceiling. -/
def frameLimit (s : FrameState) (maxPhys : Nat) : Nat :=
  min (if maxPhys ≠ 0 then frameOf maxPhys else s.bitmapFrames) s.allocCeilingFrames

def scanStart (s : FrameState) (limit : Nat) : Nat := if s.nextHint < limit then s.nextHint else 0

def hintWithin (lo hi hint : Nat) : Nat := if hint < lo ∨ hi ≤ hint then lo else hint

/-- Neither scan of a node's range leaves it for a frame from the ceiling on. -/
def NodeScannable (s : FrameState) (node : Nat) : Prop :=
  ∀ lo hi hint, numaNodeRange s node = some (lo, hi, hint) → ∀ i,
    Escapes s (hintWithin lo (min hi s.allocCeilingFrames) hint) (min hi s.allocCeilingFrames) i ∨
      Escapes s lo (hintWithin lo (min hi s.allocCeilingFrames) hint) i →
    i < s.bitmapFrames → i < s.allocCeilingFrames

/-- A request is served: it hands out a free frame with `p`, or reports that there is none. -/
def Serves (s : FrameState) (p : Nat → Prop) : Allocation → Prop
  | .ok (.ok phys, _) => ∃ frame, phys = physOf frame ∧ s.Free frame ∧ p frame
  | .ok (.error code, _) => code = .outOfMemory ∧ ∀ frame, s.Free frame → ¬p frame
  | .error _ => False

lemma physOf_eq (frame) : physOf frame = 4096 * frame := by
  rw [physOf, Nat.shiftLeft_eq, Nat.mul_comm]
  rfl

lemma frameOf_eq (phys) : frameOf phys = phys / 4096 := Nat.shiftRight_eq_div_pow phys 12

@[simp] lemma frameOf_physOf (frame) : frameOf (physOf frame) = frame := by
  rw [frameOf_eq, physOf_eq, Nat.mul_div_cancel_left _ (by decide)]

lemma allocCeilingFrames_eq (s : FrameState) :
    s.allocCeilingFrames = min s.bitmapFrames 262144 := rfl

lemma physOf_lt_directMap (lt : frame < s.allocCeilingFrames) :
    ¬kDirectMapBytes ≤ physOf frame := by
  rw [allocCeilingFrames_eq] at lt
  rw [physOf_eq]
  simp only [kDirectMapBytes]
  omega

lemma lt_frameLimit : frame < frameLimit s maxPhys ↔
    frame < s.allocCeilingFrames ∧ (maxPhys = 0 → frame < s.bitmapFrames) ∧
      Below maxPhys frame := by
  simp only [frameLimit, Below, physOf_eq, frameOf_eq]
  split <;> omega

/-- A range that starts at a byte is scanned exactly. -/
lemma scannable_of_aligned_lo (aligned : lo % 8 = 0) : Scannable s lo hi := fun _ escapes =>
  absurd aligned escapes.confined.1.2.2

/-- So is one that ends at a byte. -/
lemma scannable_of_aligned_hi (aligned : hi % 8 = 0) : Scannable s lo hi := fun _ escapes => by
  obtain ⟨lt, byte, _⟩ := escapes.confined.1
  omega

lemma scannable_ceiling (s : FrameState) (lo : Nat) : Scannable s lo s.allocCeilingFrames := by
  rw [allocCeilingFrames_eq]
  obtain le | ge := Nat.le_total s.bitmapFrames 262144
  · intro i escapes
    have byte := escapes.confined.1.2.1
    have behind := escapes.first.1.1
    omega
  · rw [Nat.min_eq_right ge]
    exact scannable_of_aligned_hi (by decide)

/-- The scan from the hint on, and then that up to it, find a frame if there is one. -/
lemma found_around (inside : hi ≤ s.bitmapFrames) (ge : lo ≤ hint) (le : hint ≤ hi)
    (upper : Scannable s hint hi)
    (lower : Scannable s lo hint) : Picks (fun i => s.Free i ∧ lo ≤ i ∧ i < hi) (found s
        (if bitmapFindFreeLinear s hint hi < s.bitmapFrames then bitmapFindFreeLinear s hint hi
        else if lo < hint ∧
          bitmapFindFreeLinear s lo hint < s.bitmapFrames then bitmapFindFreeLinear s lo hint
        else s.bitmapFrames)) := by
  have picks := (found_bitmapFindFreeLinear inside upper).wrap
    (found_bitmapFindFreeLinear (le.trans inside) lower) ge le
  -- without frames before the hint, the second scan would find nothing
  have second : (lo < hint ∧ bitmapFindFreeLinear s lo hint < s.bitmapFrames) ↔
      bitmapFindFreeLinear s lo hint < s.bitmapFrames := by
    refine and_iff_right_of_imp fun lt => Nat.lt_of_not_le fun empty => ?_
    rw [bitmapFindFreeLinear, if_pos empty] at lt
    exact Nat.lt_irrefl _ lt
  simp only [second]
  simp only [found] at picks ⊢
  split at picks <;> rename_i first
  · simpa [first] using picks
  · split at picks <;> rename_i next <;> simpa [first, next] using picks

lemma found_bitmapFindFreeBelow
    (scannable : Scannable s (scanStart s (min maxFrames s.allocCeilingFrames))
      (min maxFrames s.allocCeilingFrames)) :
    Picks (fun i => s.Free i ∧ i < min maxFrames s.allocCeilingFrames)
      (found s (bitmapFindFreeBelow s maxFrames)) := by
  have limit : (if s.allocCeilingFrames < maxFrames then s.allocCeilingFrames else maxFrames) =
      min maxFrames s.allocCeilingFrames := by
    split <;> omega
  have inside : min maxFrames s.allocCeilingFrames ≤ s.bitmapFrames := by
    rw [allocCeilingFrames_eq]
    omega
  simp only [bitmapFindFreeBelow, limit]
  generalize min maxFrames s.allocCeilingFrames = max at *
  by_cases none : max = 0
  · rw [if_pos none, found, if_neg (Nat.lt_irrefl _)]
    rintro i ⟨_, lt⟩
    omega
  rw [if_neg none]
  have le : (if s.nextHint < max then s.nextHint else 0) ≤ max := by
    split <;> omega
  have picks := found_around inside (Nat.zero_le _) le scannable (scannable_of_aligned_lo rfl)
  simpa only [Nat.zero_le, true_and] using picks

/-- A scan that leaves the frames below the limit is what the search returns. -/
lemma bitmapFindFreeBelow_escapes {maxFrames i : Nat}
    (escapes : Escapes s (scanStart s (min maxFrames s.allocCeilingFrames))
      (min maxFrames s.allocCeilingFrames) i)
    (lt : i < s.bitmapFrames) :
    bitmapFindFreeBelow s maxFrames = i := by
  have limit : (if s.allocCeilingFrames < maxFrames then s.allocCeilingFrames else maxFrames) =
      min maxFrames s.allocCeilingFrames := by
    split <;> omega
  have some_frames := escapes.confined.1.1
  have hit := escapes.eq
  unfold scanStart at hit
  simp only [bitmapFindFreeBelow, limit]
  rw [if_neg (by omega), hit, if_pos lt]

section NodeRange

variable {lo hi hint i : Nat}

/-- A range of a node from its hint on, and the rest of it. -/
lemma bitmapFindFreeInRange_eq (some_frames : lo < min hi s.allocCeilingFrames) :
    bitmapFindFreeInRange s lo hi hint =
      let mid := hintWithin lo (min hi s.allocCeilingFrames) hint
      let first := bitmapFindFreeLinear s mid (min hi s.allocCeilingFrames)
      if first < s.bitmapFrames then first
      else if lo < mid ∧
        bitmapFindFreeLinear s lo mid < s.bitmapFrames then bitmapFindFreeLinear s lo mid
      else s.bitmapFrames := by
  have limit : (if s.allocCeilingFrames < hi then s.allocCeilingFrames else hi) =
      min hi s.allocCeilingFrames := by
    split <;> omega
  simp only [bitmapFindFreeInRange, limit]
  rw [if_neg (by omega), if_neg (by omega)]
  rfl

/-- What is found is free and below the ceiling, or one of the scans left its range for it. -/
lemma bitmapFindFreeInRange_cases (hit : bitmapFindFreeInRange s lo hi hint < s.bitmapFrames) :
    s.Free (bitmapFindFreeInRange s lo hi hint) ∧
      (bitmapFindFreeInRange s lo hi hint < s.allocCeilingFrames ∨
        Escapes s (hintWithin lo (min hi s.allocCeilingFrames) hint) (min hi s.allocCeilingFrames)
          (bitmapFindFreeInRange s lo hi hint) ∨
        Escapes s lo (hintWithin lo (min hi s.allocCeilingFrames) hint)
          (bitmapFindFreeInRange s lo hi hint)) := by
  have ceiling : s.allocCeilingFrames ≤ s.bitmapFrames := Nat.min_le_left _ _
  by_cases empty : min hi s.allocCeilingFrames ≤ lo
  · simp only [bitmapFindFreeInRange] at hit
    split at hit
    · exact absurd hit (Nat.lt_irrefl _)
    · rw [if_pos (by split <;> omega)] at hit
      exact absurd hit (Nat.lt_irrefl _)
  have mid_le : hintWithin lo (min hi s.allocCeilingFrames) hint ≤ min hi s.allocCeilingFrames := by
    unfold hintWithin
    split <;> omega
  rw [bitmapFindFreeInRange_eq (Nat.lt_of_not_le empty)] at hit ⊢
  dsimp only at hit ⊢
  generalize hintWithin lo (min hi s.allocCeilingFrames) hint = mid at *
  -- a scan of a part of the range
  have scan : ∀ {a b : Nat}, b ≤ min hi s.allocCeilingFrames →
    bitmapFindFreeLinear s a b < s.bitmapFrames →
      s.Free (bitmapFindFreeLinear s a b) ∧ (bitmapFindFreeLinear s a b < s.allocCeilingFrames ∨
        Escapes s a b (bitmapFindFreeLinear s a b)) := by
    intro a b le lt
    refine ⟨free_bitmapFindFreeLinear (by omega) lt, ?_⟩
    rcases bitmapFindFreeLinear_cases a (show b ≤ s.bitmapFrames by omega) with
      escapes | ⟨o, first, result⟩
    · exact .inr escapes
    · cases o with
      | none =>
        rw [result] at lt
        exact absurd lt (Nat.lt_irrefl _)
      | some r =>
        rw [result]
        have in_range := first.1.2.1
        exact .inl (by dsimp only [Option.getD_some]; omega)
  split at hit
  next upper =>
    rw [if_pos upper]
    obtain ⟨free, range⟩ := scan (Nat.le_refl _) upper
    exact ⟨free, range.imp_right .inl⟩
  next upper =>
    rw [if_neg upper]
    split at hit
    next lower =>
      rw [if_pos lower]
      obtain ⟨free, range⟩ := scan mid_le lower.2
      exact ⟨free, range.imp_right .inr⟩
    next => exact absurd hit (Nat.lt_irrefl _)

/-- A scan that leaves the frames below the ceiling is what the search returns. -/
lemma bitmapFindFreeInRange_escapes
    (escapes : Escapes s (hintWithin lo (min hi s.allocCeilingFrames) hint)
        (min hi s.allocCeilingFrames) i ∨
      Escapes s lo (hintWithin lo (min hi s.allocCeilingFrames) hint) i)
    (lt : i < s.bitmapFrames)
    (ge : s.allocCeilingFrames ≤ i) :
    bitmapFindFreeInRange s lo hi hint = i := by
  have ceiling := allocCeilingFrames_eq s
  have some_frames : lo < min hi s.allocCeilingFrames := by
    have mid := hintWithin.eq_1 lo (min hi s.allocCeilingFrames) hint
    rcases escapes with escapes | escapes <;> have confined := escapes.confined.1.1 <;>
      split at mid <;>
      omega
  have mid_lt : hintWithin lo (min hi s.allocCeilingFrames) hint < min hi s.allocCeilingFrames := by
    unfold hintWithin
    split <;> omega
  rw [bitmapFindFreeInRange_eq some_frames]
  dsimp only
  have max_le := Nat.min_le_right hi s.allocCeilingFrames
  generalize hintWithin lo (min hi s.allocCeilingFrames) hint = mid at *
  generalize min hi s.allocCeilingFrames = max at *
  have first : Escapes s mid max i → bitmapFindFreeLinear s mid max < s.bitmapFrames :=
    fun escapes => escapes.eq.trans_lt lt
  rcases escapes with escapes | escapes
  · rw [if_pos (first escapes), escapes.eq]
  · obtain ⟨⟨below, byte, unaligned⟩, used⟩ := escapes.confined
    have behind := escapes.first.1
    -- the range is in the last byte before the ceiling, and so is the end of the first scan, or at
    -- it
    by_cases last : max / 8 = mid / 8
    · have upper : Escapes s mid max i := by
        refine ⟨⟨⟨mid_lt, last.symm, by omega⟩, fun j ge lt => used j (by omega) (by omega)⟩, ?_⟩
        rw [← byte]
        exact escapes.first.some_of_lt (by omega)
      rw [if_pos (first upper), upper.eq]
    · obtain ⟨o, none_free, result⟩ :=
        bitmapFindFreeLinear_first (show max ≤ s.bitmapFrames by omega)
        (fun confined : Confined s mid max => last confined.1.2.1.symm)
      have miss : o = none := none_free.unique fun j ge lt free => by
        have taken := used j (by omega) (by omega)
        exact absurd free.2 (by simp [taken])
      rw [result, miss, Option.getD_none, if_neg (Nat.lt_irrefl _),
        if_pos ⟨below, escapes.eq.trans_lt lt⟩, escapes.eq]

end NodeRange

lemma found_eq_none : found s frame = none ↔ s.bitmapFrames ≤ frame := by
  rw [found]
  split <;> simp_all

lemma found_of_lt (lt : frame < s.bitmapFrames) : found s frame = some frame := if_pos lt

lemma bitmapMarkUsed_bitmapFrames (s frame) :
    (bitmapMarkUsed s frame).bitmapFrames = s.bitmapFrames := by
  rw [bitmapMarkUsed]
  split
  · rfl
  · split <;> rfl

/-- `AllocateFrameInRange` serves its requests just when its scan from the hint on stays below the
limit. -/
lemma allocateFrameInRange_serves {maxPhys : Nat} :
    Serves s (fun frame => frame < s.allocCeilingFrames ∧ Below maxPhys frame)
        (allocateFrameInRange s maxPhys) ↔
      Scannable s (scanStart s (frameLimit s maxPhys)) (frameLimit s maxPhys) := by
  constructor
  · intro serves i escapes
    by_contra inside
    have hit : bitmapFindFreeBelow s (if maxPhys ≠ 0 then frameOf maxPhys else s.bitmapFrames) =
      i :=
      bitmapFindFreeBelow_escapes escapes (Nat.lt_of_not_le inside)
    simp only [allocateFrameInRange] at serves
    rw [hit, if_neg inside] at serves
    simp only [allocateFrameAtIndex] at serves
    split at serves
    · exact serves
    · obtain ⟨frame, same, _, range⟩ := serves
      have index := congrArg frameOf same
      rw [frameOf_physOf, frameOf_physOf] at index
      subst index
      have below := lt_frameLimit.mpr ⟨range.1, fun _ => Nat.lt_of_not_le inside, range.2⟩
      have byte := escapes.confined.1.2.1
      have behind := escapes.first.1.1
      omega
  · intro scannable
    have picks := found_bitmapFindFreeBelow scannable
    simp only [allocateFrameInRange]
    by_cases miss : s.bitmapFrames ≤
        bitmapFindFreeBelow s (if maxPhys ≠ 0 then frameOf maxPhys else s.bitmapFrames)
    · rw [if_pos miss]
      rw [found_eq_none.mpr miss] at picks
      refine ⟨rfl, fun frame free below => picks frame ⟨free, ?_⟩⟩
      exact lt_frameLimit.mpr ⟨below.1, fun _ => free.1, below.2⟩
    · rw [if_neg miss]
      rw [found_of_lt (Nat.lt_of_not_le miss)] at picks
      have range := lt_frameLimit.mp picks.2
      simp only [allocateFrameAtIndex]
      rw [if_neg (physOf_lt_directMap range.1)]
      exact ⟨_, rfl, picks.1, range.1, range.2.2⟩

lemma globalScan_picks (hint : s.nextHint ≤ s.allocCeilingFrames) :
    Picks (fun i => s.Free i ∧ i < s.allocCeilingFrames) (globalScan s) := by
  cases scan : globalScan s with
  | none =>
    rintro frame ⟨free, lt⟩
    rw [globalScan, List.find?_eq_none] at scan
    -- the frame stands before the hint or behind it
    obtain ⟨i, i_lt, at_i⟩ : ∃ i < s.allocCeilingFrames,
        (if s.allocCeilingFrames ≤ s.nextHint + i then s.nextHint + i - s.allocCeilingFrames
          else s.nextHint + i) = frame := by
      obtain before | behind := Nat.lt_or_ge frame s.nextHint
      · exact ⟨frame + s.allocCeilingFrames - s.nextHint, by omega, by split <;> omega⟩
      · exact ⟨frame - s.nextHint, by omega, by split <;> omega⟩
    have used := scan frame (List.mem_map.mpr ⟨i, List.mem_range.mpr i_lt, at_i⟩)
    simp [bitmapIsUsed_eq_false.mpr free] at used
  | some frame =>
    have free := List.find?_some scan
    obtain ⟨i, i_lt, at_i⟩ := List.mem_map.mp (List.mem_of_find?_eq_some scan)
    have lt := List.mem_range.mp i_lt
    refine ⟨bitmapIsUsed_eq_false.mp (by simpa using free), ?_⟩
    rw [← at_i]
    split <;> omega

lemma processAndReturnFrame_serves {p : Nat → Prop}
    (table : m.isRegisteredKernelPt (physOf frame) = false)
    (lt : frame < s.allocCeilingFrames) (free : s.Free frame) (holds : p frame) :
    Serves s p (processAndReturnFrame m s frame node) := by
  simp only [processAndReturnFrame, table, Bool.false_eq_true, ↓reduceIte]
  rw [if_neg (physOf_lt_directMap lt)]
  exact ⟨frame, rfl, free, holds⟩

/-- `AllocateFrameNode` serves its requests just when no scan of the node's range passes the
ceiling. -/
lemma allocateFrameNode_serves {m : Machine} {caller : Caller} {node : Nat}
    (hint : s.nextHint ≤ s.allocCeilingFrames)
    (quiet : oomInjectionAppliesHere s caller = false)
    (tables : ∀ frame, s.Free frame → m.isRegisteredKernelPt (physOf frame) = false) :
    Serves s (· < s.allocCeilingFrames) (allocateFrameNode m caller s node) ↔
      NodeScannable s node := by
  simp only [allocateFrameNode, consumeInjection, quiet, Bool.false_eq_true, ↓reduceIte]
  constructor
  · intro serves lo hi nodeHint range i escapes inside
    by_contra past
    have hit := bitmapFindFreeInRange_escapes escapes inside (Nat.le_of_not_lt past)
    have free : s.Free i :=
      ⟨inside, escapes.elim (fun escapes => escapes.first.1.2.2) fun escapes => escapes.first.1.2.2⟩
    have high : kDirectMapBytes ≤ physOf i := by
      rw [allocCeilingFrames_eq] at past
      rw [physOf_eq, kDirectMapBytes]
      omega
    simp only [range, hit, if_pos inside] at serves
    simp only [processAndReturnFrame, tables i free, Bool.false_eq_true, ↓reduceIte, if_pos high]
      at serves
    exact serves
  · intro scannable
    refine iteInduction (motive := Serves s _) (fun hit => ?_) fun _ => ?_
    · cases range : numaNodeRange s node with
      | none =>
        rw [range] at hit
        exact absurd hit (Nat.lt_irrefl _)
      | some span =>
        obtain ⟨lo, hi, nodeHint⟩ := span
        rw [range] at hit
        dsimp only at hit
        obtain ⟨free, found⟩ := bitmapFindFreeInRange_cases hit
        have lt : bitmapFindFreeInRange s lo hi nodeHint < s.allocCeilingFrames :=
          found.elim id fun escapes => scannable lo hi nodeHint range _ escapes hit
        exact processAndReturnFrame_serves (tables _ free) lt free lt
    · have global := globalScan_picks hint
      cases scan : globalScan s with
      | none =>
        rw [scan] at global
        exact ⟨rfl, fun frame free lt => global frame ⟨free, lt⟩⟩
      | some frame =>
        rw [scan] at global
        exact processAndReturnFrame_serves (tables frame global.1) global.2 global.1 global.2

lemma frameLimit_of_ne_zero (ne : maxPhys ≠ 0) :
    frameLimit s maxPhys = min (maxPhys / 4096) s.allocCeilingFrames := by
  rw [frameLimit, if_pos ne, frameOf_eq]

/-- Every zone's limit is a multiple of 8 frames, or the ceiling stands before it. -/
lemma scannable_zone {zone : Zone} (limit : zone.maxPhys = some maxPhys) (lo : Nat) :
    Scannable s lo (frameLimit s maxPhys) := by
  have ceiling : s.allocCeilingFrames ≤ 262144 := Nat.min_le_right _ _
  cases zone with
  | dma =>
    cases limit
    rw [frameLimit_of_ne_zero (by decide)]
    obtain le | ge := Nat.le_total s.allocCeilingFrames 4096
    · rw [Nat.min_eq_right (by omega)]
      exact scannable_ceiling s lo
    · exact scannable_of_aligned_hi (by omega)
  | dma32 =>
    cases limit
    rw [frameLimit_of_ne_zero (by decide), Nat.min_eq_right (by omega)]
    exact scannable_ceiling s lo
  | normal =>
    cases limit
    rw [show frameLimit s 0 = s.allocCeilingFrames from Nat.min_eq_right (Nat.min_le_left _ _)]
    exact scannable_ceiling s lo
  | mmio => cases limit

/-- The limits of the zones end at bytes, so a zone request is always served. -/
lemma allocateZoneFrame_serves {zone : Zone} (limit : zone.maxPhys = some maxPhys)
    (null : ¬s.Free 0) :
    ∃ phys after, allocateZoneFrame s zone = .ok (phys, after) ∧ (phys ≠ kNullFrame ∧
          (∃ frame, phys = physOf frame ∧ s.Free frame ∧ frame < s.allocCeilingFrames ∧
            Below maxPhys frame) ∨
        phys = kNullFrame ∧ ∀ frame, s.Free frame → frame < s.allocCeilingFrames →
          ¬Below maxPhys frame) := by
  have serves := allocateFrameInRange_serves.mpr
    (scannable_zone (s := s) limit (scanStart s (frameLimit s maxPhys)))
  rw [allocateZoneFrame, limit]
  dsimp only
  generalize allocateFrameInRange s maxPhys = out at *
  rcases out with panic | ⟨code | phys, after⟩
  · exact absurd serves id
  · exact ⟨_, _, rfl, Or.inr ⟨rfl, fun frame free lt below => serves.2 frame free ⟨lt, below⟩⟩⟩
  obtain ⟨frame, rfl, free, lt, below⟩ := serves
  have ne : physOf frame ≠ kNullFrame := by
    rw [physOf_eq, kNullFrame]
    rintro zero
    obtain rfl : frame = 0 := by omega
    exact null free
  refine ⟨physOf frame, after, ?_, Or.inl ⟨ne, frame, rfl, free, lt, below⟩⟩
  change (if maxPhys = 0 ∨ physOf frame < maxPhys then Except.ok (physOf frame, after)
    else Except.error FramePanic.aboveZoneCeiling) = _
  refine if_pos ?_
  by_cases zero : maxPhys = 0
  · exact Or.inl zero
  · have := below zero
    rw [physOf_eq] at this ⊢
    omega

/-- The byte scan finds the least free frame of a range unless it leaves the range, and the
allocators of one frame hand out a free frame below their limit and the ceiling whenever there is
one, unless their scans leave the frames below it. The scans of the zones never do. -/
theorem scan_finds_least_free (s : FrameState) :
    (∀ lo hi, hi ≤ s.allocCeilingFrames →
      ((∃ o, First s.Free lo hi o ∧ bitmapFindFreeLinear s lo hi = o.getD s.bitmapFrames) ↔
        ∀ i, Escapes s lo hi i → i = s.bitmapFrames)) ∧
    (∀ maxPhys,
      Serves s (fun frame => frame < s.allocCeilingFrames ∧ Below maxPhys frame)
          (allocateFrameInRange s maxPhys) ↔
        Scannable s (scanStart s (frameLimit s maxPhys)) (frameLimit s maxPhys)) ∧
    (∀ m caller node,
      s.nextHint ≤ s.allocCeilingFrames →
      oomInjectionAppliesHere s caller = false →
      (∀ frame, s.Free frame → m.isRegisteredKernelPt (physOf frame) = false) →
      (Serves s (· < s.allocCeilingFrames) (allocateFrameNode m caller s node) ↔
        NodeScannable s node)) ∧
    (∀ (zone : Zone) maxPhys,
      zone.maxPhys = some maxPhys →
      ¬s.Free 0 →
      ∃ phys after, allocateZoneFrame s zone = .ok (phys, after) ∧
        (phys ≠ kNullFrame ∧
            (∃ frame, phys = physOf frame ∧ s.Free frame ∧ frame < s.allocCeilingFrames ∧
              Below maxPhys frame) ∨
          phys = kNullFrame ∧
            ∀ frame, s.Free frame → frame < s.allocCeilingFrames → ¬Below maxPhys frame)) := by
  refine ⟨fun lo hi le => ?_, fun maxPhys => allocateFrameInRange_serves,
    fun m caller node => allocateFrameNode_serves, fun zone maxPhys => allocateZoneFrame_serves⟩
  exact bitmapFindFreeLinear_iff (le.trans (Nat.min_le_left _ _))

/-- A memory of 272 frames in which the frames from 264 on are free, and frame 256 was the last to
be handed out. -/
def crowded : FrameState where
  bitmap := fun byte => if byte < 33 then 0xFF#8 else 0#8
  bitmapFrames := 272
  nextHint := 257
  freeCount := 8
  pools := fun _ => []
  numaNodeCount := 0
  nodeStartFrame := fun _ => 0
  nodeEndFrame := fun _ => 0
  nodeHint := fun _ => 0
  failAfter := 0

/-- The range from 257 to 272 goes over a byte, and no zone and no node is full. -/
theorem scan_finds_least_free_crowded :
    (∃ o, First crowded.Free 257 272 o ∧
      bitmapFindFreeLinear crowded 257 272 = o.getD crowded.bitmapFrames) ∧
    Serves crowded (fun frame => frame < crowded.allocCeilingFrames ∧ Below 0x110000 frame)
      (allocateFrameInRange crowded 0x110000) ∧
    Serves crowded (· < crowded.allocCeilingFrames)
      (allocateFrameNode ⟨0, 0, fun _ => false, fun _ => false⟩ ⟨0, kNoNode, false⟩ crowded
        kNoNode) ∧
    ∃ phys after, allocateZoneFrame crowded .dma = .ok (phys, after) ∧
      (phys ≠ kNullFrame ∧
          (∃ frame, phys = physOf frame ∧ crowded.Free frame ∧ frame < crowded.allocCeilingFrames ∧
            Below (16 * 1024 * 1024) frame) ∨
        phys = kNullFrame ∧ ∀ frame, crowded.Free frame → frame < crowded.allocCeilingFrames →
          ¬Below (16 * 1024 * 1024) frame) := by
  obtain ⟨linear, range, node, zone⟩ := scan_finds_least_free crowded
  refine ⟨(linear 257 272 (by decide)).mpr fun i escapes => ?_,
    (range 0x110000).mpr (scannable_of_aligned_hi (by decide)),
    (node _ _ kNoNode (by decide) (by decide) fun _ _ => rfl).mpr fun _ _ _ span => ?_,
    zone .dma (16 * 1024 * 1024) rfl (by decide)⟩
  · exact absurd escapes.confined.1.2.1 (by decide)
  · cases span

/-- The scan of frames 257 and 258 returns frame 264, and the request for a frame below `0x103000`
returns `0x108000`. -/
theorem scan_leaves_range : bitmapFindFreeLinear crowded 257 259 = 264 ∧ ¬crowded.Free 257 ∧
    ¬crowded.Free 258 ∧
      ∃ after, allocateFrameInRange crowded 0x103000 = .ok (.ok 0x108000, after) := by
  exact ⟨by decide, by decide, by decide, _, rfl⟩

end DuetOS.Frame
