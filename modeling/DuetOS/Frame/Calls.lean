import DuetOS.Frame.Stock

/-!
# What the calls take and give

Every allocation takes the frames it returns out of the stock, and nothing when it fails; every free
puts its frames back. Which search found a frame, and on which CPU, does not matter here.
-/

namespace DuetOS.Frame

variable {s : FrameState} {frame count : Nat}

/-- A call that takes `count` frames in a row, or nothing. -/
def Yields (s : FrameState) (count : Nat) : Allocation → Prop
  | .ok (.ok phys, t) =>
    ∃ first, phys = physOf first ∧ first + count ≤ s.allocCeilingFrames ∧
      Takes s t (List.range' first count : List Nat)
  | .ok (.error _, t) => Takes s t 0
  | .error _ => True

/-- What the search below a limit finds is free. -/
lemma free_bitmapFindFreeBelow (hit : bitmapFindFreeBelow s maxFrames < s.bitmapFrames) :
    s.Free (bitmapFindFreeBelow s maxFrames) := by
  have ceiling : s.allocCeilingFrames ≤ s.bitmapFrames := Nat.min_le_left _ _
  simp only [bitmapFindFreeBelow] at hit ⊢
  generalize limit :
    (if s.allocCeilingFrames < maxFrames then s.allocCeilingFrames else maxFrames) = max at *
  have inside : max ≤ s.bitmapFrames := by
    rw [← limit]
    split <;> omega
  generalize origin : (if s.nextHint < max then s.nextHint else 0) = start at *
  have before : start ≤ max := by
    rw [← origin]
    split <;> omega
  by_cases none : max = 0
  · rw [if_pos none] at hit
    exact absurd hit (Nat.lt_irrefl _)
  rw [if_neg none] at hit ⊢
  by_cases upper : bitmapFindFreeLinear s start max < s.bitmapFrames
  · rw [if_pos upper]
    exact free_bitmapFindFreeLinear inside upper
  rw [if_neg upper] at hit ⊢
  by_cases lower : 0 < start ∧ bitmapFindFreeLinear s 0 start < s.bitmapFrames
  · rw [if_pos lower]
    exact free_bitmapFindFreeLinear (before.trans inside) lower.2
  · rw [if_neg lower] at hit
    exact absurd hit (Nat.lt_irrefl _)

lemma frameLoop_free (hit : frameLoop s steps frame = some (some hi)) : s.Free hi := by
  induction steps generalizing frame with
  | zero => cases hit
  | succ steps ih =>
    rw [frameLoop] at hit
    split at hit
    · cases hit
    split at hit
    · rename_i unused
      cases hit
      exact bitmapIsUsed_eq_false.mp (by simpa using unused)
    · exact ih hit

lemma lt_allocCeilingFrames (free : s.Free frame) (mapped : ¬kDirectMapBytes ≤ physOf frame) :
    frame < s.allocCeilingFrames := by
  have inside := free.1
  rw [allocCeilingFrames_eq]
  rw [physOf_eq] at mapped
  simp only [kDirectMapBytes] at mapped
  omega

lemma consumeInjection_quiet (quiet : s.failAfter = 0) :
    consumeInjection s caller = (false, s) := by
  simp [consumeInjection, oomInjectionAppliesHere, quiet]

section

variable (sound : Sound s)

include sound

/-- Marking the frame that was found, and moving the hint behind it, is an allocation. -/
lemma mark_yields (free : s.Free frame) (mapped : ¬kDirectMapBytes ≤ physOf frame)
    (same : SameStock (bitmapMarkUsed s frame) t) (hint : t.nextHint = frame + 1) :
    Yields s 1 (.ok (.ok (physOf frame), t)) := by
  have lt := lt_allocCeilingFrames free mapped
  exact ⟨frame, rfl, lt, (bitmapMarkUsed_takes sound free).rehint same (by rw [hint]; exact lt)⟩

lemma allocateFrameInRange_yields (maxPhys : Nat) :
    Yields s 1 (allocateFrameInRange s maxPhys) := by
  simp only [allocateFrameInRange]
  generalize (if maxPhys ≠ 0 then frameOf maxPhys else s.bitmapFrames) = maxFrames
  by_cases miss : s.bitmapFrames ≤ bitmapFindFreeBelow s maxFrames
  · rw [if_pos miss]
    exact .refl sound
  have free := free_bitmapFindFreeBelow (Nat.lt_of_not_le miss)
  rw [if_neg miss, allocateFrameAtIndex]
  generalize bitmapFindFreeBelow s maxFrames = frame at *
  by_cases mapped : kDirectMapBytes ≤ physOf frame
  · rw [if_pos mapped]
    trivial
  · rw [if_neg mapped]
    exact mark_yields sound free mapped ⟨rfl, rfl, rfl, rfl, rfl⟩ rfl

lemma processAndReturnFrame_yields (free : s.Free frame) :
    Yields s 1 (processAndReturnFrame m s frame node) := by
  simp only [processAndReturnFrame]
  split
  · trivial
  by_cases mapped : kDirectMapBytes ≤ physOf frame
  · rw [if_pos mapped]
    trivial
  · rw [if_neg mapped]
    split <;> exact mark_yields sound free mapped ⟨rfl, rfl, rfl, rfl, rfl⟩ rfl

lemma allocateFrameNode_yields : Yields s 1 (allocateFrameNode m caller s node) := by
  simp only [allocateFrameNode, consumeInjection_quiet sound.quiet, Bool.false_eq_true, ↓reduceIte]
  refine iteInduction (motive := Yields s 1) (fun hit => ?_) fun _ => ?_
  · cases range : numaNodeRange s node with
    | none =>
      rw [range] at hit
      exact absurd hit (Nat.lt_irrefl _)
    | some span =>
      rw [range] at hit
      exact processAndReturnFrame_yields sound ((bitmapFindFreeInRange_cases hit).1)
  · have picks := globalScan_picks sound.hint
    cases scan : globalScan s with
    | none => exact .refl sound
    | some frame =>
      rw [scan] at picks
      exact processAndReturnFrame_yields sound picks.1

/-- A pop finds nothing, or takes the top of the pool of the running CPU. -/
lemma popPool_cases (caller : Caller) : popPool caller s = (kNullFrame, s) ∨
      ∃ frame t, popPool caller s = (physOf frame, t) ∧ 0 < frame ∧ frame < s.allocCeilingFrames ∧
        Takes s t {frame} := by
  have quiet : oomInjectionAppliesHere s caller = false := by
    simp [oomInjectionAppliesHere, sound.quiet]
  simp only [popPool, quiet, Bool.false_eq_true, ↓reduceIte]
  split
  · rename_i cpu
    cases pool : s.pools ⟨caller.cpu, cpu⟩ with
    | nil => exact Or.inl rfl
    | cons phys rest =>
      obtain ⟨frame, rfl, pos, lt⟩ :=
        sound.pooled ⟨caller.cpu, cpu⟩ phys (pool ▸ List.mem_cons_self)
      exact Or.inr ⟨frame, _, rfl, pos, lt, popPool_takes sound pool⟩
  · exact Or.inl rfl

end

lemma physOf_ne_null (pos : 0 < frame) : physOf frame ≠ kNullFrame := by
  rw [physOf_eq, kNullFrame]
  omega

/-- The body of `AllocateFrame` yields a frame if the call it may make does. -/
lemma allocateFrameFrom_yields (sound : Sound s) (inner : ∀ t, Sound t → Yields t 1 (again t)) :
    Yields s 1 (allocateFrameFrom m caller again s) := by
  rw [allocateFrameFrom]
  obtain empty | ⟨frame, t, pops, pos, lt, takes⟩ := popPool_cases sound caller
  · rw [empty]
    dsimp only
    rw [if_neg (not_not.mpr rfl)]
    split
    · exact allocateFrameNode_yields sound
    rw [consumeInjection_quiet sound.quiet]
    cases loop : frameLoop s s.allocCeilingFrames s.nextHint with
    | none => exact .refl sound
    | some hit =>
      cases hit with
      | none =>
        have same : SameStock s { s with nextHint := 0 } := ⟨rfl, rfl, rfl, rfl, rfl⟩
        have wrapped := inner _ (sound.rehint same (Nat.zero_le _))
        -- the wrap changes the hint only
        generalize again _ = out at wrapped
        rcases out with panic | ⟨code | phys, u⟩
        · trivial
        · exact ⟨wrapped.sound, wrapped.frames, wrapped.stock⟩
        · obtain ⟨first, rfl, below, takes⟩ := wrapped
          exact ⟨first, rfl, below, takes.sound, takes.frames, takes.stock⟩
      | some frame => exact processAndReturnFrame_yields sound (frameLoop_free loop)
  · rw [pops]
    dsimp only
    rw [if_pos (physOf_ne_null pos), if_neg (physOf_lt_directMap lt)]
    exact ⟨frame, rfl, lt, takes⟩

lemma allocateFrame_yields (sound : Sound s) : Yields s 1 (allocateFrame m caller s) :=
  allocateFrameFrom_yields sound fun _ sound =>
    allocateFrameFrom_yields sound fun _ sound => .refl sound

section Runs

variable {first : Nat}

/-- The scan for a run. The `len` frames before `frame` are free, the frame before them is not, and
no run ended before `frame`. -/
lemma scanRun_spec (steps) (pos : 0 < count) (short : len < count)
    (at_start : len ≠ 0 → start + len = frame)
    (fits : len ≤ frame) (free : ∀ i, frame - len ≤ i → i < frame → s.Free i)
    (bound : frame - len = 0 ∨ ¬s.Free (frame - len - 1))
    (none_yet : ∀ first, first + count ≤ frame → ∃ i < count, ¬s.Free (first + i)) :
    match scanRun s count steps frame start len with
    | some first => first + count ≤ frame + steps ∧ ∀ i < count, s.Free (first + i)
    | none => ∀ first, first + count ≤ frame + steps → ∃ i < count, ¬s.Free (first + i) := by
  induction steps generalizing frame start len with
  | zero => exact none_yet
  | succ steps ih =>
    rw [scanRun, show frame + (steps + 1) = frame + 1 + steps by omega]
    cases used : bitmapIsUsed s frame with
    | true =>
      have taken : ¬s.Free frame := fun free => by
        rw [bitmapIsUsed_eq_false.mpr free] at used
        cases used
      refine ih pos (fun ne => absurd rfl ne) (Nat.zero_le _)
        (fun i ge lt => absurd lt (Nat.not_lt.mpr ge))
        (Or.inr taken) fun first le => ?_
      -- a run that ends here would have this frame in it
      obtain lt | eq := Nat.lt_or_eq_of_le le
      · exact none_yet first (by omega)
      · exact ⟨count - 1, by omega, by rwa [show first + (count - 1) = frame by omega]⟩
    | false =>
      have clear := bitmapIsUsed_eq_false.mp used
      have longer : ∀ i, frame - len ≤ i → i < frame + 1 → s.Free i := fun i ge lt => by
        obtain before | rfl := Nat.lt_succ_iff_lt_or_eq.mp lt
        · exact free i ge before
        · exact clear
      have origin : (if len = 0 then frame else start) + len = frame := by
        split
        · omega
        · exact at_start ‹_›
      generalize (if len = 0 then frame else start) = begun at origin ⊢
      by_cases full : len + 1 = count
      · rw [if_pos full]
        exact ⟨by omega, fun i lt => longer _ (by omega) (by omega)⟩
      rw [if_neg full]
      refine ih (by omega) (fun _ => by omega) (by omega) (fun i ge lt => longer i (by omega) lt) ?_
        fun first le => ?_
      · rwa [show frame + 1 - (len + 1) = frame - len by omega]
      · obtain lt | eq := Nat.lt_or_eq_of_le le
        · exact none_yet first (by omega)
        · -- the run would reach over the frame before the free ones
          obtain zero | taken := bound
          · omega
          · exact ⟨frame - len - 1 - first, by omega,
              by rwa [show first + (frame - len - 1 - first) = frame - len - 1 by omega]⟩

lemma scanRun_first (s limit) (pos : 0 < count) : match scanRun s count limit 0 0 0 with
    | some first => first + count ≤ limit ∧ ∀ i < count, s.Free (first + i)
    | none => ∀ first, first + count ≤ limit → ∃ i < count, ¬s.Free (first + i) := by
  have spec := @scanRun_spec s 0 count 0 0 limit pos pos (fun ne => absurd rfl ne) (Nat.zero_le _)
    (fun i _ lt => absurd lt (Nat.not_lt_zero i)) (Or.inl rfl) fun first le => by omega
  simpa only [Nat.zero_add] using spec

lemma free_after_mark (free : s.Free frame) (clear : s.Free other) (ne : other ≠ frame) :
    (bitmapMarkUsed s frame).Free other := by
  rw [← mem_free, free_bitmapMarkUsed free]
  exact Finset.mem_erase.mpr ⟨ne, mem_free.mpr clear⟩

variable (sound : Sound s)

include sound

lemma markRunUsed_takes (free : ∀ i < count, s.Free (first + i)) :
    Takes s (markRunUsed s first count) (List.range' first count : List Nat) := by
  induction count generalizing s first with
  | zero => exact .refl sound
  | succ count ih =>
    have head : s.Free first := free 0 (Nat.succ_pos _)
    have takes := bitmapMarkUsed_takes sound head
    have rest := @ih _ (first + 1) takes.sound fun i lt =>
      free_after_mark head
        (by have := free (i + 1) (by omega); rwa [show first + 1 + i = first + (i + 1) by omega])
        (by omega)
    exact takes.trans rest

/-- A run that the scan found is taken as a whole. -/
lemma run_yields (pos : 0 < count) (le : limit ≤ s.allocCeilingFrames) : Yields s count
      (match scanRun s count limit 0 0 0 with
      | some start => .ok (.ok (physOf start), markRunUsed s start count)
      | none => .ok (.error .outOfMemory, s)) := by
  have scan := scanRun_first s limit pos
  split
  · rename_i start found
    rw [found] at scan
    exact ⟨start, rfl, scan.1.trans le, markRunUsed_takes sound scan.2⟩
  · exact .refl sound

lemma allocateContiguousFramesInRange_yields (count maxPhys) :
    Yields s count (allocateContiguousFramesInRange s count maxPhys) := by
  simp only [allocateContiguousFramesInRange]
  by_cases zero : count = 0
  · rw [if_pos zero]
    exact .refl sound
  rw [if_neg zero]
  by_cases large : s.allocCeilingFrames < count
  · rw [if_pos large]
    exact .refl sound
  rw [if_neg large]
  generalize limit : (if maxPhys ≠ 0 then
    if s.allocCeilingFrames < frameOf maxPhys then s.allocCeilingFrames else frameOf maxPhys
    else s.allocCeilingFrames) = max
  have le : max ≤ s.allocCeilingFrames := by
    rw [← limit]
    split
    · split <;> omega
    · exact Nat.le_refl _
  split
  · exact .refl sound
  · exact run_yields sound (Nat.pos_of_ne_zero zero) le

/-- Draining the pools first does not change what a call takes from the stock. -/
lemma Yields.drained {out} (yields : Yields (frameAllocatorDrainPools s) count out) :
    Yields s count out := by
  have drained := (frameAllocatorDrainPools_keeps sound).1
  rcases out with panic | ⟨code | phys, t⟩
  · trivial
  · have takes := drained.trans yields
    rwa [zero_add] at takes
  obtain ⟨first, eq, le, takes⟩ := yields
  rw [allocCeilingFrames_congr drained.frames] at le
  have all := drained.trans takes
  exact ⟨first, eq, le, all⟩

lemma allocateContiguousFrames_yields (count : Nat) :
    Yields s count (allocateContiguousFrames m caller s count) := by
  simp only [allocateContiguousFrames]
  by_cases zero : count = 0
  · rw [if_pos zero]
    exact .refl sound
  rw [if_neg zero]
  split
  · exact .refl sound
  split
  · rename_i one
    subst one
    exact allocateFrame_yields sound
  · have drained := (frameAllocatorDrainPools_keeps sound).1.sound
    rw [consumeInjection_quiet drained.quiet]
    exact (run_yields drained (Nat.pos_of_ne_zero zero) (Nat.le_refl _)).drained sound

end Runs

/-- `FreeFrame` of a frame that is not in the stock parks it or clears its bit. -/
lemma freeFrame_gives (sound : Sound s) (pos : 0 < frame) (inside : frame < s.bitmapFrames)
    (new : frame ∉ s.stock) (well : m.isFramePoisoned (physOf frame) = false)
    (returns : freeFrame m cpu s (physOf frame) = .ok t) : Gives s t {frame} := by
  have release := releaseFrame_gives sound inside new
  rw [freeFrame, if_neg (physOf_ne_null pos), well, if_neg Bool.false_ne_true] at returns
  dsimp only at returns
  split_ifs at returns with _ _ _ _ mapped <;> cases returns
  · have lt : frame < s.allocCeilingFrames := by
      rw [allocCeilingFrames_eq]
      rw [physOf_eq] at mapped
      simp only [kDirectMapBytes] at mapped
      omega
    exact pushPool_gives sound _ pos lt new
  all_goals
    rw [frameOf_physOf]
    exact release

/-- A frame that was reported is dropped: nothing changes. -/
lemma freeFrame_poisoned (pos : 0 < frame) (bad : m.isFramePoisoned (physOf frame))
    (returns : freeFrame m cpu s (physOf frame) = .ok t) : t = s := by
  rw [freeFrame, if_neg (physOf_ne_null pos), bad, if_pos rfl] at returns
  split_ifs at returns
  cases returns
  rfl

/-- The loop of `FreeContiguousFrames`, by induction on the frames that are left. -/
lemma freeRun_gives (sound : Sound s) (inside : first + count ≤ s.bitmapFrames)
    (new : ∀ i < count, first + i ∉ s.stock) (returns : freeRun count first s = .ok t) :
    Gives s t (List.range' first count : List Nat) := by
  induction count generalizing s first with
  | zero =>
    cases returns
    exact ⟨sound, rfl, (zero_add _).symm⟩
  | succ count ih =>
    rw [freeRun] at returns
    split_ifs at returns
    have head := bitmapMarkFree_gives sound (by omega : first < s.bitmapFrames)
      (new 0 (Nat.succ_pos _))
    have rest := ih head.sound (by rw [head.frames]; omega) ?_ returns
    · exact head.trans rest
    · intro i lt mem
      rw [head.stock, Multiset.singleton_add, Multiset.mem_cons] at mem
      obtain eq | old := mem
      · omega
      · exact new (i + 1) (by omega) (by rwa [show first + (i + 1) = first + 1 + i by omega])

/-- Freeing a run that nobody else has gives its frames back, one by one. -/
lemma freeContiguousFrames_gives (sound : Sound s) (pos : 0 < first)
    (inside : first + count ≤ s.bitmapFrames) (new : ∀ i < count, first + i ∉ s.stock)
    (returns : freeContiguousFrames s (physOf first) count = .ok t) :
    Gives s t (List.range' first count : List Nat) := by
  rw [freeContiguousFrames] at returns
  by_cases none : count = 0
  · rw [if_pos (Or.inr none)] at returns
    cases returns
    subst none
    exact ⟨sound, rfl, (zero_add _).symm⟩
  rw [if_neg (not_or.mpr ⟨physOf_ne_null pos, none⟩), frameOf_physOf] at returns
  cases loop : freeRun count first s with
  | error panic =>
    rw [loop] at returns
    cases returns
  | ok u =>
    rw [loop] at returns
    cases returns
    have gives := freeRun_gives sound inside new loop
    refine gives.rehint ⟨rfl, rfl, rfl, rfl, rfl⟩ ?_
    have hint := gives.sound.hint
    rw [allocCeilingFrames_congr gives.frames] at hint
    dsimp only
    split <;> omega

/-- A zone request as its caller sees it: `kNullFrame` says that there is no frame. -/
def allocateZone (s : FrameState) (zone : Zone) : Allocation := do
  let (frame, s) ← allocateZoneFrame s zone
  return (if frame = kNullFrame then .error .outOfMemory else .ok frame, s)

/-- Frame 0 is not in the stock, so the address that stands for a miss is not the address of a frame
that was taken. -/
lemma allocateZone_yields {s : FrameState} (sound : Sound s) (null : 0 ∉ s.stock) (zone : Zone) :
    Yields s 1 (allocateZone s zone) := by
  simp only [allocateZone, allocateZoneFrame]
  rcases zone.maxPhys with _ | maxPhys
  · exact .refl sound
  have yields := allocateFrameInRange_yields sound maxPhys
  dsimp only
  generalize allocateFrameInRange s maxPhys = out at yields ⊢
  rcases out with panic | ⟨code | phys, t⟩
  · trivial
  · exact yields
  · obtain ⟨first, rfl, below, takes⟩ := yields
    have stocked : first ∈ s.stock := by
      rw [takes.stock]
      exact Multiset.mem_add.mpr (.inl (List.mem_cons_self))
    have pos : 0 < first := Nat.pos_of_ne_zero fun zero => null (zero ▸ stocked)
    by_cases inside : maxPhys = 0 ∨ physOf first < maxPhys
    · simp only [bind, Except.bind, pure, Except.pure, if_pos inside, if_neg (physOf_ne_null pos)]
      exact ⟨first, rfl, below, takes⟩
    · simp only [bind, Except.bind, if_neg inside]
      trivial

end DuetOS.Frame
