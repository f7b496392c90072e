import DuetOS.Frame.Requests
import DuetOS.Lib.Slots

/-!
# What the allocator has

A frame that nobody holds is parked in a pool, with its bit set, or free in the bitmap. `stock`
counts both, so that an allocation takes its frames out of the stock and a free puts them back,
whatever way they go.
-/

namespace DuetOS.Frame

open Function Multiset Finset

open scoped BigOperators

def FrameState.free (s : FrameState) : Finset Nat := Bitmap.clearBits s.bitmap s.bitmapFrames

/-- The frames of the pools, once for every slot. -/
def FrameState.parked (s : FrameState) : Multiset Nat :=
  ∑ cpu, (((s.pools cpu).map frameOf : List Nat) : Multiset Nat)

/-- Every frame the allocator could hand out. -/
def FrameState.stock (s : FrameState) : Multiset Nat := s.parked + s.free.val

structure Sound (s : FrameState) : Prop where
  count : s.freeCount = s.free.card
  hint : s.nextHint ≤ s.allocCeilingFrames
  quiet : s.failAfter = 0
  pooled : ∀ cpu, ∀ phys ∈ s.pools cpu, ∃ frame, phys = physOf frame ∧ 0 < frame ∧
    frame < s.allocCeilingFrames
  nodup : s.stock.Nodup

/-- A state that differs only in its hints. -/
structure SameStock (s t : FrameState) : Prop where
  bitmap : t.bitmap = s.bitmap
  frames : t.bitmapFrames = s.bitmapFrames
  count : t.freeCount = s.freeCount
  pools : t.pools = s.pools
  quiet : t.failAfter = s.failAfter

/-- The frames moved from the stock of `s` to the caller, and `t` is what is left. -/
structure Takes (s t : FrameState) (taken : Multiset Nat) : Prop where
  sound : Sound t
  frames : t.bitmapFrames = s.bitmapFrames
  stock : s.stock = taken + t.stock

/-- The frames moved from the caller to the stock of `t`. -/
structure Gives (s t : FrameState) (given : Multiset Nat) : Prop where
  sound : Sound t
  frames : t.bitmapFrames = s.bitmapFrames
  stock : t.stock = given + s.stock

variable {s t u : FrameState} {frame : Nat}

@[simp] lemma mem_free : frame ∈ s.free ↔ s.Free frame := Bitmap.mem_clearBits

lemma SameStock.free (same : SameStock s t) : t.free = s.free := by
  rw [FrameState.free, FrameState.free, same.bitmap, same.frames]

lemma SameStock.stock (same : SameStock s t) : t.stock = s.stock := by
  rw [FrameState.stock, FrameState.stock, same.free, FrameState.parked, FrameState.parked,
    same.pools]

lemma allocCeilingFrames_congr (frames : t.bitmapFrames = s.bitmapFrames) :
    t.allocCeilingFrames = s.allocCeilingFrames := by
  rw [allocCeilingFrames_eq, allocCeilingFrames_eq, frames]

/-- Hints play no part in the books. -/
lemma Sound.rehint (sound : Sound s) (same : SameStock s t)
    (hint : t.nextHint ≤ s.allocCeilingFrames) : Sound t where
  count := by rw [same.count, same.free, sound.count]
  hint := by rwa [allocCeilingFrames_congr same.frames]
  quiet := same.quiet.trans sound.quiet
  pooled := by
    rw [same.pools, allocCeilingFrames_congr same.frames]
    exact sound.pooled
  nodup := by
    rw [same.stock]
    exact sound.nodup

lemma Takes.none (sound : Sound t) (same : SameStock s t) : Takes s t 0 :=
  ⟨sound, same.frames, by rw [same.stock, zero_add]⟩

lemma Takes.refl (sound : Sound s) : Takes s s 0 := .none sound ⟨rfl, rfl, rfl, rfl, rfl⟩

lemma Takes.rehint (takes : Takes s t taken) (same : SameStock t u)
    (hint : u.nextHint ≤ s.allocCeilingFrames) : Takes s u taken where
  sound := takes.sound.rehint same (by rwa [allocCeilingFrames_congr takes.frames])
  frames := same.frames.trans takes.frames
  stock := by rw [same.stock, takes.stock]

lemma Gives.rehint (gives : Gives s t given) (same : SameStock t u)
    (hint : u.nextHint ≤ s.allocCeilingFrames) : Gives s u given where
  sound := gives.sound.rehint same (by rwa [allocCeilingFrames_congr gives.frames])
  frames := same.frames.trans gives.frames
  stock := by rw [same.stock, gives.stock]

lemma Gives.trans {some more} (first : Gives s t some) (second : Gives t u more) :
    Gives s u (some + more) :=
  ⟨second.sound, second.frames.trans first.frames,
    by rw [second.stock, first.stock, add_left_comm, add_assoc]⟩

lemma Takes.trans {some more} (first : Takes s t some) (second : Takes t u more) :
    Takes s u (some + more) :=
  ⟨second.sound, second.frames.trans first.frames, by rw [first.stock, second.stock, add_assoc]⟩

lemma bitmapMarkUsed_of_free (free : s.Free frame) : bitmapMarkUsed s frame = { s with
        bitmap := update s.bitmap (frame / 8) (s.bitmap (frame / 8) ||| 1#8 <<< (frame % 8))
        freeCount := s.freeCount - 1 } := by
  rw [bitmapMarkUsed, if_neg (Nat.not_le.mpr free.1), if_pos (test_iff.mpr free.2),
    Bitmap.shiftRight_three,
    Bitmap.and_seven]
  rfl

lemma bitmapMarkFree_of_used (inside : frame < s.bitmapFrames) (used : ¬s.Free frame) :
    bitmapMarkFree s frame =
      { s with
        bitmap := update s.bitmap (frame / 8) (s.bitmap (frame / 8) &&& ~~~ (1#8 <<< (frame % 8)))
        freeCount := s.freeCount + 1 } := by
  have set : ¬s.bitmap (frame >>> 3) &&& bitMask (frame &&& 7) = 0#8 :=
    fun zero => used ⟨inside, test_iff.mp zero⟩
  rw [bitmapMarkFree, if_neg (Nat.not_le.mpr inside), if_pos set, Bitmap.shiftRight_three,
    Bitmap.and_seven]
  rfl

lemma free_bitmapMarkUsed (free : s.Free frame) :
    (bitmapMarkUsed s frame).free = s.free.erase frame := by
  rw [bitmapMarkUsed_of_free free]
  exact Bitmap.clearBits_set s.bitmap frame s.bitmapFrames

lemma free_bitmapMarkFree (inside : frame < s.bitmapFrames) (used : ¬s.Free frame) :
    (bitmapMarkFree s frame).free = insert frame s.free := by
  rw [bitmapMarkFree_of_used inside used]
  exact Bitmap.clearBits_clear s.bitmap inside

/-- Marking a free frame takes it out of the stock. -/
lemma bitmapMarkUsed_takes (sound : Sound s) (free : s.Free frame) :
    Takes s (bitmapMarkUsed s frame) {frame} := by
  have less := free_bitmapMarkUsed free
  have stock : s.stock = {frame} + (bitmapMarkUsed s frame).stock := by
    have parked : (bitmapMarkUsed s frame).parked = s.parked := by
      rw [bitmapMarkUsed_of_free free]
      rfl
    have values : s.free.val = frame ::ₘ (s.free.erase frame).val := by
      rw [← insert_val_of_notMem (notMem_erase _ _), insert_erase (mem_free.mpr free)]
    rw [FrameState.stock, FrameState.stock, parked, less, values, singleton_add, add_cons]
  have nodup := sound.nodup
  rw [stock] at nodup
  refine ⟨⟨?_, ?_, ?_, ?_, (nodup_add.mp nodup).2.1⟩, bitmapMarkUsed_bitmapFrames s frame, stock⟩
  · rw [less, card_erase_of_mem (mem_free.mpr free), ← sound.count, bitmapMarkUsed_of_free free]
  · rw [bitmapMarkUsed_of_free free]
    exact sound.hint
  · rw [bitmapMarkUsed_of_free free]
    exact sound.quiet
  · rw [bitmapMarkUsed_of_free free]
    exact sound.pooled

lemma not_free_of_notMem_stock (new : frame ∉ s.stock) : ¬s.Free frame := fun free =>
  new (mem_add.mpr (Or.inr (mem_free.mpr free)))

section

variable (sound : Sound s) (inside : frame < s.bitmapFrames) (new : frame ∉ s.stock)

include sound inside new

/-- Clearing the bit of a frame outside the stock puts it in. -/
lemma bitmapMarkFree_gives : Gives s (bitmapMarkFree s frame) {frame} := by
  have used := not_free_of_notMem_stock new
  have more := free_bitmapMarkFree inside used
  have absent : frame ∉ s.free := fun mem => used (mem_free.mp mem)
  have stock : (bitmapMarkFree s frame).stock = {frame} + s.stock := by
    have parked : (bitmapMarkFree s frame).parked = s.parked := by
      rw [bitmapMarkFree_of_used inside used]
      rfl
    rw [FrameState.stock, FrameState.stock, parked, more, insert_val_of_notMem absent,
      singleton_add, add_cons]
  refine ⟨⟨?_, ?_, ?_, ?_, ?_⟩, ?_, stock⟩
  · rw [more, card_insert_of_notMem absent, ← sound.count, bitmapMarkFree_of_used inside used]
  · rw [bitmapMarkFree_of_used inside used]
    exact sound.hint
  · rw [bitmapMarkFree_of_used inside used]
    exact sound.quiet
  · rw [bitmapMarkFree_of_used inside used]
    exact sound.pooled
  · rw [stock, singleton_add, nodup_cons]
    exact ⟨new, sound.nodup⟩
  · rw [bitmapMarkFree_of_used inside used]

lemma releaseFrame_gives : Gives s (releaseFrame s frame) {frame} := by
  have gives := bitmapMarkFree_gives sound inside new
  refine gives.rehint ⟨rfl, rfl, rfl, rfl, rfl⟩ ?_
  have hint := gives.sound.hint
  rw [allocCeilingFrames_congr gives.frames] at hint
  simp only [releaseFrame]
  split <;> omega

end

lemma parked_update (s : FrameState) (cpu pool) :
    { s with pools := update s.pools cpu pool }.parked + ((s.pools cpu).map frameOf : List Nat) =
      s.parked + (pool.map frameOf : List Nat) :=
  Slots.sum_update s.pools cpu pool fun pool => ((pool.map frameOf : List Nat) : Multiset Nat)

/-- A pop takes the frame out of the stock. -/
lemma popPool_takes (sound : Sound s) (pool : s.pools cpu = physOf frame :: rest) :
    Takes s { s with pools := update s.pools cpu rest } {frame} := by
  have parked := parked_update s cpu rest
  rw [pool, List.map_cons, frameOf_physOf, ← cons_coe, add_cons, ← cons_add] at parked
  have stock : s.stock = {frame} + { s with pools := update s.pools cpu rest }.stock := by
    rw [FrameState.stock, ← add_right_cancel parked, cons_add, singleton_add]
    rfl
  have nodup := sound.nodup
  rw [stock] at nodup
  refine ⟨⟨sound.count, sound.hint, sound.quiet, fun c phys mem => ?_, (nodup_add.mp nodup).2.1⟩,
    rfl, stock⟩
  obtain rfl | ne := eq_or_ne c cpu
  · simp only [update_self] at mem
    exact sound.pooled c phys (pool ▸ List.mem_cons_of_mem _ mem)
  · simp only [update_of_ne ne] at mem
    exact sound.pooled c phys mem

/-- A push puts the frame into the stock, although its bit stays set. -/
lemma pushPool_gives (sound : Sound s) (cpu : Fin kMaxCpus) (pos : 0 < frame)
    (lt : frame < s.allocCeilingFrames)
    (new : frame ∉ s.stock) :
    Gives s { s with pools := update s.pools cpu (physOf frame :: s.pools cpu) } {frame} := by
  have parked := parked_update s cpu (physOf frame :: s.pools cpu)
  rw [List.map_cons, frameOf_physOf, ← cons_coe, add_cons, ← cons_add] at parked
  have stock : { s with pools := update s.pools cpu (physOf frame :: s.pools cpu) }.stock =
      {frame} + s.stock := by
    rw [FrameState.stock, add_right_cancel parked, cons_add, singleton_add]
    rfl
  refine ⟨⟨sound.count, sound.hint, sound.quiet, fun c phys mem => ?_, ?_⟩, rfl, stock⟩
  · obtain rfl | ne := eq_or_ne c cpu
    · simp only [update_self, List.mem_cons] at mem
      obtain rfl | old := mem
      · exact ⟨frame, rfl, pos, lt⟩
      · exact sound.pooled c phys old
    · simp only [update_of_ne ne] at mem
      exact sound.pooled c phys mem
  · rw [stock, singleton_add, nodup_cons]
    exact ⟨new, sound.nodup⟩

lemma parked_eq (s : FrameState) :
    s.parked = ((((List.finRange kMaxCpus).flatMap s.pools).map frameOf : List Nat) :
      Multiset Nat) := by
  rw [FrameState.parked, Fin.sum_univ_def, Bag.sum_coe, List.map_flatMap]

/-- The loop of the drain, by induction on the frames that are left: they go from one place to the
other. -/
lemma drain_loop (order : List Nat) (s) (hint : s.nextHint ≤ s.allocCeilingFrames)
    (count : s.freeCount = s.free.card)
    (inside : ∀ phys ∈ order, frameOf phys < s.bitmapFrames)
    (nodup : ((order.map frameOf : List Nat) + s.free.val).Nodup) :
    let t := order.foldl (fun s phys => releaseFrame s (frameOf phys)) s
    t.free.val = (order.map frameOf : List Nat) + s.free.val ∧ t.freeCount = t.free.card ∧
      t.nextHint ≤ t.allocCeilingFrames ∧ t.bitmapFrames = s.bitmapFrames ∧
        t.failAfter = s.failAfter := by
  induction order generalizing s with
  | nil => exact ⟨(zero_add _).symm, count, hint, rfl, rfl⟩
  | cons phys order ih =>
    rw [List.map_cons, ← cons_coe, cons_add, nodup_cons, mem_add, not_or] at nodup
    obtain ⟨⟨apart, absent⟩, rest⟩ := nodup
    have used : ¬s.Free (frameOf phys) := fun free => absent (mem_free.mpr free)
    have first : frameOf phys < s.bitmapFrames := inside phys List.mem_cons_self
    have free : (releaseFrame s (frameOf phys)).free = insert (frameOf phys) s.free :=
      free_bitmapMarkFree first used
    have value : (releaseFrame s (frameOf phys)).free.val = frameOf phys ::ₘ s.free.val := by
      rw [free]
      exact insert_val_of_notMem absent
    have eq := bitmapMarkFree_of_used first used
    have frames : (releaseFrame s (frameOf phys)).bitmapFrames = s.bitmapFrames := by
      simp only [releaseFrame, eq]
    have step := ih (releaseFrame s (frameOf phys)) ?_ ?_ ?_ ?_
    · obtain ⟨sum, counted, hinted, same, quiet⟩ := step
      refine ⟨?_, counted, hinted, same.trans frames, quiet.trans ?_⟩
      · rw [List.foldl_cons, sum, value, List.map_cons, ← cons_coe, cons_add, add_cons]
      · simp only [releaseFrame, eq]
    · rw [allocCeilingFrames_congr frames]
      simp only [releaseFrame, eq]
      split <;> omega
    · rw [free, card_insert_of_notMem absent, ← count]
      simp only [releaseFrame, eq]
    · rw [frames]
      exact fun p mem => inside p (List.mem_cons_of_mem _ mem)
    · rw [value, add_cons, nodup_cons, mem_add, not_or]
      exact ⟨⟨apart, absent⟩, rest⟩

lemma parked_of_empty (empty : ∀ cpu, s.pools cpu = []) :
    s.parked = 0 := sum_eq_zero fun cpu _ => by
    rw [empty cpu]
    rfl

/-- What is parked is not frame 0, and lies below the ceiling. -/
lemma Sound.parked_lt (sound : Sound s) (mem : frame ∈ s.parked) :
    0 < frame ∧ frame < s.allocCeilingFrames := by
  obtain ⟨cpu, _, parked⟩ := mem_sum.mp mem
  obtain ⟨phys, pooled, rfl⟩ := List.mem_map.mp (mem_coe.mp parked)
  obtain ⟨frame, rfl, pos, lt⟩ := sound.pooled cpu phys pooled
  rw [frameOf_physOf]
  exact ⟨pos, lt⟩

/-- Draining leaves the stock as it is, with every frame of it free in the bitmap. -/
lemma frameAllocatorDrainPools_keeps (sound : Sound s) :
    Takes s (frameAllocatorDrainPools s) 0 ∧ (frameAllocatorDrainPools s).free.val = s.stock ∧
      (frameAllocatorDrainPools s).parked = 0 := by
  have inside : ∀ phys ∈ (List.finRange kMaxCpus).flatMap s.pools,
    frameOf phys < s.bitmapFrames := by
    intro phys mem
    have parked : frameOf phys ∈ s.parked := by
      rw [parked_eq]
      exact mem_coe.mpr (List.mem_map_of_mem mem)
    exact (sound.parked_lt parked).2.trans_le (Nat.min_le_left _ _)
  have nodup := sound.nodup
  rw [FrameState.stock, parked_eq] at nodup
  obtain ⟨sum, count, hint, frames, quiet⟩ := drain_loop _ s sound.hint sound.count inside nodup
  have free : (frameAllocatorDrainPools s).free.val = s.stock := by
    rw [FrameState.stock, parked_eq, ← sum]
    rfl
  have parked : (frameAllocatorDrainPools s).parked = 0 := parked_of_empty fun _ => rfl
  have stock : (frameAllocatorDrainPools s).stock = s.stock := by
    rw [FrameState.stock, parked, zero_add, free]
  refine ⟨⟨⟨count, hint, quiet.trans sound.quiet, fun _ _ mem => (nomatch mem), ?_⟩, frames, ?_⟩,
    free, parked⟩
  · rw [stock]
    exact sound.nodup
  · rw [stock, zero_add]

end DuetOS.Frame
