import DuetOS.Frame.Boot
import DuetOS.Lib.Lts

/-!
# Who has a frame

The allocator and its callers. A caller frees only what it holds; any number of CPUs call in any
order, each call as a whole. Every frame that was free at boot is then in one place: held, parked in
one slot of one pool, free in the bitmap, or dropped because the hardware reported it. What was free
at boot is usable memory, so no request returns any other.
-/

namespace DuetOS.Frame

open Multiset

inductive Request where
  | frame
  | node (node : Nat)
  | inRange (maxPhys : Nat)
  | zone (zone : Zone)
  | contiguous (count : Nat)
  | contiguousInRange (count maxPhys : Nat)

def Request.count : Request → Nat
  | .frame => 1
  | .node _ => 1
  | .inRange _ => 1
  | .zone _ => 1
  | .contiguous count => count
  | .contiguousInRange count _ => count

def Request.call (m : Machine) (caller : Caller) (s : FrameState) : Request → Allocation
  | .frame => allocateFrame m caller s
  | .node index => allocateFrameNode m caller s index
  | .inRange maxPhys => allocateFrameInRange s maxPhys
  | .zone kind => allocateZone s kind
  | .contiguous count => allocateContiguousFrames m caller s count
  | .contiguousInRange count maxPhys => allocateContiguousFramesInRange s count maxPhys

/-- The allocator, who holds which frame, and the frames that were dropped. -/
structure World (Owner : Type*) where
  state : FrameState
  held : Multiset (Owner × Nat)
  dropped : Multiset Nat

def holding {Owner : Type*} (owner : Owner) (first count : Nat) : Multiset (Owner × Nat) :=
  ((List.range' first count).map (Prod.mk owner) : List (Owner × Nat))

inductive FrameEvent (Owner : Type*) where
  | allocated (owner : Owner) (request : Request) (first : Nat)
  | refused (request : Request)
  | freed (owner : Owner) (frame : Nat)
  | freedRun (owner : Owner) (first count : Nat)
  | drained

/-- One call. What is registered as a kernel page table, or reported by the hardware, may change
from call to call. -/
inductive FrameStep {Owner : Type*} : World Owner → FrameEvent Owner → World Owner → Prop where
  | allocate {w : World Owner} {m caller owner request first t} :
    Request.call m caller w.state request = .ok (.ok (physOf first), t) →
    FrameStep w (.allocated owner request first)
      { w with state := t, held := holding owner first request.count + w.held }
  | refuse {w : World Owner} {m caller request code t} :
    Request.call m caller w.state request = .ok (.error code, t) →
    FrameStep w (.refused request) { w with state := t }
  | free {w : World Owner} {m : Machine} {cpu owner frame held t} :
    w.held = (owner, frame) ::ₘ held →
    m.isFramePoisoned (physOf frame) = false →
    freeFrame m cpu w.state (physOf frame) = .ok t →
    FrameStep w (.freed owner frame) { w with state := t, held }
  | drop {w : World Owner} {m : Machine} {cpu owner frame held t} :
    w.held = (owner, frame) ::ₘ held →
    m.isFramePoisoned (physOf frame) →
    freeFrame m cpu w.state (physOf frame) = .ok t →
    FrameStep w (.freed owner frame) { state := t, held, dropped := frame ::ₘ w.dropped }
  | freeRun {w : World Owner} {owner first count held t} :
    w.held = holding owner first count + held →
    freeContiguousFrames w.state (physOf first) count = .ok t →
    FrameStep w (.freedRun owner first count) { w with state := t, held }
  | drain {w : World Owner} :
    FrameStep w .drained { w with state := frameAllocatorDrainPools w.state }

variable {Owner : Type*} {m : Machine} {caller : Caller} {s t : FrameState} {w w' : World Owner}
  {e : FrameEvent Owner} {es : List (FrameEvent Owner)} {request : Request} {first : Nat}

/-- Every request takes the frames it returns out of the stock, and nothing if it is refused. -/
lemma Request.yields (m : Machine) (caller : Caller) (request : Request) (sound : Sound s)
    (null : 0 ∉ s.stock) :
    Yields s request.count (request.call m caller s) := by
  cases request with
  | frame => exact allocateFrame_yields sound
  | node node => exact allocateFrameNode_yields sound
  | inRange maxPhys => exact allocateFrameInRange_yields sound maxPhys
  | zone zone => exact allocateZone_yields sound null zone
  | contiguous count => exact allocateContiguousFrames_yields sound count
  | contiguousInRange count maxPhys =>
    exact allocateContiguousFramesInRange_yields sound count maxPhys

lemma physOf_injective : Function.Injective physOf := fun a b eq => by
  rw [← frameOf_physOf a, eq, frameOf_physOf]

/-- An answered request takes exactly the frames from its answer on. -/
lemma Request.takes (sound : Sound s) (null : 0 ∉ s.stock)
    (returns : request.call m caller s = .ok (.ok (physOf first), t)) :
    first + request.count ≤ s.allocCeilingFrames ∧
      Takes s t (List.range' first request.count : List Nat) := by
  have yields := request.yields m caller sound null
  rw [returns] at yields
  obtain ⟨start, eq, below, takes⟩ := yields
  obtain rfl := physOf_injective eq
  exact ⟨below, takes⟩

/-- The books of the system: nothing is lost and nothing is in two places. -/
structure Balanced (boot : FrameState) (w : World Owner) : Prop where
  sound : Sound w.state
  frames : w.state.bitmapFrames = boot.bitmapFrames
  ledger : w.held.map Prod.snd + w.dropped + w.state.stock = boot.free.val

@[simp] lemma holding_snd (owner : Owner) (first count) :
    (holding owner first count).map Prod.snd = (List.range' first count : List Nat) := by
  simp [holding]

namespace Balanced

variable {boot : FrameState}

/-- A frame that is held is not in stock, and was free at boot. -/
lemma held_frame (books : Balanced boot w) (held : frame ∈ w.held.map Prod.snd) :
    frame ∉ w.state.stock ∧ boot.Free frame := by
  have nodup := boot.free.nodup
  rw [← books.ledger] at nodup
  refine ⟨disjoint_left.mp (nodup_add.mp nodup).2.2 (mem_add.mpr (Or.inl held)), mem_free.mp ?_⟩
  rw [← Finset.mem_val, ← books.ledger]
  exact mem_add.mpr (Or.inl (mem_add.mpr (Or.inl held)))

/-- A frame that was in use at boot is never in the stock. -/
lemma null (books : Balanced boot w) (used : ¬boot.Free 0) : 0 ∉ w.state.stock := by
  intro stocked
  refine used (mem_free.mp ?_)
  rw [← Finset.mem_val, ← books.ledger]
  exact mem_add.mpr (.inr stocked)

/-- What leaves the stock is held from then on. -/
lemma takes (books : Balanced boot w) (moved : Takes w.state t taken) (held)
    (eq : held.map Prod.snd = taken)
    : Balanced boot { w with state := t, held := held + w.held } where
  sound := moved.sound
  frames := moved.frames.trans books.frames
  ledger := by
    rw [← books.ledger, moved.stock, map_add, eq]
    simp only [add_assoc, add_left_comm]

/-- What is given back is in stock again. -/
lemma gives (books : Balanced boot w) (split : w.held = given + held)
    (moved : Gives w.state t (given.map Prod.snd)) : Balanced boot { w with state := t, held } where
  sound := moved.sound
  frames := moved.frames.trans books.frames
  ledger := by
    rw [← books.ledger, moved.stock, split, map_add]
    simp only [add_assoc, add_left_comm]

/-- One call keeps the books; the cases are the calls. -/
lemma step (books : Balanced boot w) (null : ¬boot.Free 0) (step : FrameStep w e w') :
    Balanced boot w' := by
  cases step with
  | allocate returns =>
    exact books.takes (Request.takes books.sound (books.null null) returns).2 _ (holding_snd _ _ _)
  | @refuse m caller request code t returns =>
    have yields := request.yields m caller books.sound (books.null null)
    rw [returns] at yields
    have books' := books.takes yields 0 (map_zero _)
    rwa [zero_add] at books'
  | @free m cpu owner frame held t split well returns =>
    have mem : frame ∈ w.held.map Prod.snd := by
      rw [split, map_cons]
      exact mem_cons_self _ _
    obtain ⟨new, atBoot⟩ := books.held_frame mem
    have pos : 0 < frame := Nat.pos_of_ne_zero fun zero => null (zero ▸ atBoot)
    have inside : frame < w.state.bitmapFrames := by
      rw [books.frames]
      exact atBoot.1
    have single : w.held = {(owner, frame)} + held := by rw [split, singleton_add]
    refine books.gives single ?_
    exact freeFrame_gives books.sound pos inside new well returns
  | @drop m cpu owner frame held t split bad returns =>
    have mem : frame ∈ w.held.map Prod.snd := by
      rw [split, map_cons]
      exact mem_cons_self _ _
    have pos : 0 < frame := Nat.pos_of_ne_zero fun zero => null (zero ▸ (books.held_frame mem).2)
    obtain rfl := freeFrame_poisoned pos bad returns
    refine ⟨books.sound, books.frames, ?_⟩
    rw [← books.ledger, split, map_cons]
    simp only [cons_add, add_cons]
  | @freeRun owner first count held t split returns =>
    have mem : ∀ i < count, first + i ∈ w.held.map Prod.snd := fun i lt => by
      rw [split, map_add, holding_snd]
      exact mem_add.mpr (Or.inl (mem_coe.mpr (List.mem_range'_1.mpr ⟨by omega, by omega⟩)))
    have moved : Gives w.state t (List.range' first count : List Nat) := by
      by_cases none : count = 0
      · subst none
        rw [freeContiguousFrames, if_pos (Or.inr rfl)] at returns
        cases returns
        exact ⟨books.sound, rfl, (zero_add _).symm⟩
      have pos : 0 < first := Nat.pos_of_ne_zero fun zero => by
        have head := (books.held_frame (mem 0 (Nat.pos_of_ne_zero none))).2
        exact null (zero ▸ head)
      have inside : first + count ≤ w.state.bitmapFrames := by
        have last := (books.held_frame (mem (count - 1) (by omega))).2.1
        rw [books.frames]
        omega
      exact freeContiguousFrames_gives books.sound pos inside
        (fun i lt => (books.held_frame (mem i lt)).1) returns
    refine books.gives split ?_
    rwa [holding_snd]
  | drain =>
    have books' := books.takes (frameAllocatorDrainPools_keeps books.sound).1 0 (map_zero _)
    rwa [zero_add] at books'

/-- So does any run from a booted allocator. -/
lemma run {start stop} (booted : Booted start stop boot)
    (run : Lts.Run FrameStep ⟨boot, 0, 0⟩ es w) :
    Balanced boot w := by
  refine run.invariant (P := Balanced boot) ⟨booted.sound, rfl, ?_⟩ fun books st =>
    books.step booted.null st
  rw [FrameState.stock, parked_of_empty booted.pools, map_zero, zero_add, zero_add, zero_add]

/-- The books say that a frame is in one place. -/
lemma places (books : Balanced boot w) (frame) :
    (w.held.map Prod.snd).count frame + w.state.parked.count frame +
    (if w.state.Free frame then 1 else 0) +
      w.dropped.count frame = if boot.Free frame then 1 else 0 := by
  have counted := congrArg (count frame) books.ledger
  have bits (s : FrameState) : s.free.val.count frame = if s.Free frame then 1 else 0 := by
    rw [count_eq_of_nodup s.free.nodup]
    simp only [Finset.mem_val, mem_free]
  simp only [FrameState.stock, count_add, bits] at counted
  omega

/-- What a request returns was free at boot, and nobody holds it. -/
lemma fresh (books : Balanced boot w) (used : ¬boot.Free 0)
    (returns : request.call m caller w.state = .ok (.ok (physOf first), t)) {i : Nat}
    (lt : i < request.count) : boot.Free (first + i) ∧ first + i ∉ w.held.map Prod.snd := by
  have takes := (Request.takes books.sound (books.null used) returns).2
  have mem : first + i ∈ w.state.stock := by
    rw [takes.stock]
    exact mem_add.mpr (Or.inl (mem_coe.mpr (List.mem_range'_1.mpr ⟨by omega, by omega⟩)))
  refine ⟨mem_free.mp ?_, fun held => (books.held_frame held).1 mem⟩
  rw [← Finset.mem_val, ← books.ledger]
  exact mem_add.mpr (Or.inr mem)

/-- A refused run of two or more frames has a frame that is reserved, held or dropped. -/
lemma no_run (books : Balanced boot w) {count code} (two : 2 ≤ count)
    (returns : allocateContiguousFrames m caller w.state count = .ok (.error code, t))
    (below : first + count ≤ w.state.allocCeilingFrames) :
    ∃ i < count, boot.Free (first + i) →
      first + i ∈ w.held.map Prod.snd ∨ first + i ∈ w.dropped := by
  obtain ⟨drained, free, _⟩ := frameAllocatorDrainPools_keeps books.sound
  have ceiling := allocCeilingFrames_congr drained.frames
  have scan := scanRun_first (frameAllocatorDrainPools w.state) w.state.allocCeilingFrames
    (by omega : 0 < count)
  simp only [allocateContiguousFrames] at returns
  rw [if_neg (by omega), if_neg (by omega), if_neg (by omega),
    consumeInjection_quiet drained.sound.quiet] at returns
  rw [if_neg Bool.false_ne_true, ceiling] at returns
  split at returns
  · cases returns
  rename_i none
  rw [none] at scan
  obtain ⟨i, lt, used⟩ := scan first below
  refine ⟨i, lt, fun atBoot => ?_⟩
  -- it was free at boot and is not in the drained stock, so it left and did not come back
  have mem : first + i ∈ w.held.map Prod.snd + w.dropped + w.state.stock := by
    rw [books.ledger]
    exact mem_free.mpr atBoot
  rw [← free] at mem
  obtain out | back := mem_add.mp mem
  · exact mem_add.mp out
  · exact absurd (mem_free.mp back) used

end Balanced

/-- In every run of calls by any number of CPUs, every frame that was free at boot is held by one
owner, parked in one slot of one pool, free in the bitmap, or dropped as bad, and the other frames
are nowhere; the free count is the number of clear bits; a request returns only frames that were
free at boot, outside the kernel image, and that nobody held; and a run of two or more frames is
refused only if there is none below the ceiling. -/
theorem frames_have_one_place {boot : FrameState} {kernelStartPhys kernelEndPhys : Nat}
    (booted : Booted kernelStartPhys kernelEndPhys boot)
    (run : Lts.Run FrameStep ⟨boot, 0, 0⟩ es w) :
    (∀ frame, (w.held.map Prod.snd).count frame + w.state.parked.count frame +
      (if w.state.Free frame then 1 else 0) + w.dropped.count frame = if boot.Free frame
      then 1 else 0) ∧
    w.state.freeCount = w.state.free.card ∧
    (∀ m caller (request : Request) phys t, request.call m caller w.state = .ok (.ok phys, t) →
      ∃ first, phys = physOf first ∧ ∀ i < request.count, boot.Free (first + i) ∧
        (physOf (first + i + 1) ≤ kernelStartPhys ∨ kernelEndPhys ≤ physOf (first + i)) ∧
        first + i ∉ w.held.map Prod.snd) ∧
    (∀ m caller count code t, 2 ≤ count →
      allocateContiguousFrames m caller w.state count = .ok (.error code, t) →
      ∀ first, first + count ≤ w.state.allocCeilingFrames →
        ∃ i < count, boot.Free (first + i) →
          first + i ∈ w.held.map Prod.snd ∨ first + i ∈ w.dropped) := by
  have books := Balanced.run booted run
  refine ⟨books.places, books.sound.count, fun m caller request phys t returns => ?_,
    fun m caller count code t two returns first below => books.no_run two returns below⟩
  have yields := request.yields m caller books.sound (books.null booted.null)
  rw [returns] at yields
  obtain ⟨first, rfl, _, _⟩ := yields
  refine ⟨first, rfl, fun i lt => ?_⟩
  obtain ⟨atBoot, new⟩ := books.fresh booted.null returns lt
  exact ⟨atBoot, booted.image _ atBoot, new⟩

/-- A memory of 272 frames in which only frames of the last byte may be free. -/
def spareMemory (last : BitVec 8) (count : Nat) : FrameState where
  bitmap := fun byte => if byte = 33 then last else 0xFF#8
  bitmapFrames := 272
  nextHint := 0
  freeCount := count
  pools := fun _ => []
  numaNodeCount := 0
  nodeStartFrame := fun _ => 0
  nodeEndFrame := fun _ => 0
  nodeHint := fun _ => 0
  failAfter := 0

/-- A machine without page tables on record and without bad frames. -/
def plainMachine : Machine := ⟨0x100000, 0x101000, fun _ => false, fun _ => false⟩

lemma spareMemory_booted {last count} (counted : count = (spareMemory last count).free.card) :
    Booted 0x100000 0x101000 (spareMemory last count) := by
  have free : ∀ frame, (spareMemory last count).Free frame → 264 ≤ frame := by
    intro frame ⟨_, clear⟩
    by_contra low
    have byte : (spareMemory last count).bitmap (frame / 8) = 0xFF#8 := if_neg (by omega)
    rw [Bitmap.test_ones byte] at clear
    cases clear
  refine ⟨⟨counted, Nat.zero_le _, rfl, fun _ _ => (absurd · List.not_mem_nil), ?_⟩, fun _ => rfl,
    fun null => ?_,
    fun frame at_ => ?_⟩
  · rw [FrameState.stock, parked_of_empty fun _ => rfl, zero_add]
    exact Finset.nodup _
  · exact absurd (free 0 null) (by decide)
  · have := free frame at_
    rw [physOf_eq, physOf_eq]
    omega

lemma allocateFrameFrom_loop (pool : popPool caller s = (kNullFrame, s)) (uma : s.numaNodeCount = 0)
    (quiet : s.failAfter = 0) (loop : frameLoop s s.allocCeilingFrames s.nextHint = hit) :
    allocateFrameFrom m caller again s = match hit with
      | none => .ok (.error .outOfMemory, s)
      | some none => again { s with nextHint := 0 }
      | some (some frame) => processAndReturnFrame m s frame kNoNode := by
  rcases hit with _ | _ | frame <;>
    simp [allocateFrameFrom, pool, uma, consumeInjection_quiet quiet, loop]

/-- The memory with one free frame, after that frame was handed out. -/
def scarceTaken : FrameState := { bitmapMarkUsed (spareMemory 0xFE#8 1) 264 with nextHint := 265 }

/-- The memory with one free frame, after that frame was freed on CPU 0. -/
def scarceParked : FrameState :=
  { scarceTaken with pools := Function.update scarceTaken.pools ⟨0, by decide⟩ [physOf 264] }

lemma scarce_allocates :
    allocateFrame plainMachine ⟨0, kNoNode, false⟩ (spareMemory 0xFE#8 1) =
      .ok (.ok (physOf 264), scarceTaken) := by
  have loop : frameLoop (spareMemory 0xFE#8 1) (spareMemory 0xFE#8 1).allocCeilingFrames 0 =
    some (some 264) := by
    decide +kernel
  exact allocateFrameFrom_loop rfl rfl rfl loop

lemma scarce_parks : freeFrame plainMachine 0 scarceTaken (physOf 264) = .ok scarceParked := rfl

lemma scarce_booted :
    Booted 0x100000 0x101000 (spareMemory 0xFE#8 1) := spareMemory_booted (by decide +kernel)

lemma scarce_step_allocate :
    FrameStep (⟨spareMemory 0xFE#8 1, 0, 0⟩ : World Nat) (.allocated 7 .frame 264)
    ⟨scarceTaken, holding 7 264 1 + 0, 0⟩ :=
  .allocate scarce_allocates

lemma scarce_step_free :
    FrameStep (⟨scarceTaken, holding 7 264 1 + 0, 0⟩ : World Nat) (.freed 7 264)
    ⟨scarceParked, 0, 0⟩ :=
  .free rfl rfl scarce_parks

lemma scarce_run :
    Lts.Run FrameStep (⟨spareMemory 0xFE#8 1, 0, 0⟩ : World Nat)
    [.allocated 7 .frame 264, .freed 7 264]
    ⟨scarceParked, 0, 0⟩ :=
  (Lts.Run.single scarce_step_allocate).snoc scarce_step_free

theorem frames_have_one_place_scarce : Booted 0x100000 0x101000 (spareMemory 0xFE#8 1) ∧
      ((0 : Multiset (Nat × Nat)).map Prod.snd).count 264 + scarceParked.parked.count 264 +
        (if scarceParked.Free 264 then 1 else 0) + (0 : Multiset Nat).count 264 = 1 ∧
      scarceParked.freeCount = scarceParked.free.card := by
  have places := frames_have_one_place scarce_booted scarce_run
  exact ⟨scarce_booted, (places.1 264).trans (if_pos (by decide +kernel)), places.2.1⟩

lemma scarce_refuses : allocateFrame plainMachine ⟨1, kNoNode, false⟩ scarceParked =
    .ok (.error .outOfMemory, { scarceParked with nextHint := 0 }) := by
  have upper : frameLoop scarceParked scarceParked.allocCeilingFrames 265 = some none := by
    decide +kernel
  have lower : frameLoop { scarceParked with nextHint := 0 } scarceParked.allocCeilingFrames 0 =
    none := by decide +kernel
  exact (allocateFrameFrom_loop rfl rfl rfl upper).trans (allocateFrameFrom_loop rfl rfl rfl lower)

/-- The only frame is parked on CPU 0; a run of one frame is refused on CPU 1, although draining the
pools would free the frame below the ceiling. -/
theorem single_run_refused :
    (∃ es : List (FrameEvent Nat),
      Lts.Run FrameStep ⟨spareMemory 0xFE#8 1, 0, 0⟩ es ⟨scarceParked, 0, 0⟩) ∧
      (∃ t, allocateContiguousFrames plainMachine ⟨1, kNoNode, false⟩ scarceParked 1 =
        .ok (.error .outOfMemory, t)) ∧
      264 + 1 ≤ scarceParked.allocCeilingFrames ∧
        (frameAllocatorDrainPools scarceParked).Free 264 := by
  refine ⟨⟨_, scarce_run⟩, ⟨{ scarceParked with nextHint := 0 }, ?_⟩, by decide, by decide +kernel⟩
  rw [allocateContiguousFrames, if_neg (by decide), if_neg (by decide), if_pos rfl]
  exact scarce_refuses

variable {map : List MmapEntry}

/-- The frame lies in memory that the map calls available. -/
def Usable (map : List MmapEntry) (frame : Nat) : Prop :=
  ∃ entry ∈ map, entry.type = .available ∧ entry.baseAddr ≤ physOf frame ∧
    physOf (frame + 1) ≤ entry.baseAddr + entry.length

lemma free_of_bitmapMarkFree (free : (bitmapMarkFree s other).Free frame) :
    s.Free frame ∨ frame = other := by
  by_cases inside : other < s.bitmapFrames
  · by_cases used : s.Free other
    · have same : bitmapMarkFree s other = s := by
        rw [bitmapMarkFree, if_neg (Nat.not_le.mpr inside),
          if_neg (not_not.mpr (test_iff.mpr used.2))]
      exact .inl (same ▸ free)
    · have grown := mem_free.mpr free
      rw [free_bitmapMarkFree inside used, Finset.mem_insert, mem_free] at grown
      exact grown.symm
  · rw [bitmapMarkFree, if_pos (Nat.not_lt.mp inside)] at free
    exact .inl free

lemma free_of_marked (frames : List Nat) (free : (frames.foldl bitmapMarkFree s).Free frame) :
    s.Free frame ∨ frame ∈ frames := by
  induction frames generalizing s with
  | nil => exact .inl free
  | cons first frames ih =>
    rcases ih free with free | mem
    · exact (free_of_bitmapMarkFree free).imp_right fun eq => by rw [eq]; exact List.mem_cons_self
    · exact .inr (List.mem_cons_of_mem _ mem)

/-- Freeing an entry frees no frame outside the entry, unless the entry begins in the last page of
the address space: then the rounded start wraps to frame 0. -/
lemma free_of_freeEntry {entry : MmapEntry} (begins : entry.baseAddr + kPageSize ≤ Word.max64 + 1)
    (free : (freeEntry s entry).Free frame) : s.Free frame ∨ entry.type = .available ∧
      entry.baseAddr ≤ physOf frame ∧ physOf (frame + 1) ≤ entry.baseAddr + entry.length := by
  simp only [freeEntry] at free
  split at free
  · exact .inl free
  next available =>
  refine (free_of_marked _ free).imp_right fun mem => ⟨not_not.mp available, ?_⟩
  obtain ⟨ge, lt⟩ := List.mem_range'_1.mp mem
  have wraps : Word.add64 entry.baseAddr entry.length ≤ entry.baseAddr + entry.length :=
    Nat.mod_le _ _
  rw [kPageSize] at begins
  rw [kPageSize, Word.add64_eq (by omega)] at ge lt
  simp only [frameOf_eq, physOf_eq] at ge lt ⊢
  omega

/-- The induction is on the entries that are left: the first that frees the frame contains it. -/
lemma usable_of_free (begin : ∀ entry ∈ map, entry.baseAddr + kPageSize ≤ Word.max64 + 1)
    (free : (map.foldl freeEntry s).Free frame) (used : ¬s.Free frame) : Usable map frame := by
  induction map generalizing s with
  | nil => exact absurd free used
  | cons entry map ih =>
    by_cases before : (freeEntry s entry).Free frame
    · have inside := free_of_freeEntry (begin entry List.mem_cons_self) before
      exact ⟨entry, List.mem_cons_self, inside.resolve_left used⟩
    · obtain ⟨other, mem, inside⟩ :=
        ih (fun entry mem => begin entry (List.mem_cons_of_mem _ mem)) free before
      exact ⟨other, List.mem_cons_of_mem _ mem, inside⟩

/-- How many bytes of bitmap the memory of the map needs. -/
def bitmapBytes (map : List MmapEntry) : Nat :=
  (frameOf (Word.add64 (computeHighestUsableAddr map) (kPageSize - 1)) + 7) >>> 3

/-- No part of the frame is in the range. -/
def Outside (frame first last : Nat) : Prop := physOf (frame + 1) ≤ first ∨ last ≤ physOf frame

/-- What is free after `FrameAllocatorInit` is usable memory outside everything that is in use. -/
lemma frameAllocatorInit_free {layout : BootLayout} {boot : FrameState}
    (begin : ∀ entry ∈ map, entry.baseAddr + kPageSize ≤ Word.max64 + 1)
    (returns : frameAllocatorInit map layout = .ok boot) (free : boot.Free frame) :
    Usable map frame ∧ ∀ range ∈ reservedRanges layout (findBitmapHome map layout (bitmapBytes map))
      (bitmapBytes map), range.2 + kPageSize ≤ Word.max64 → Outside frame range.1 range.2 := by
  simp only [frameAllocatorInit] at returns
  split_ifs at returns
  rw [show (frameOf (Word.add64 (computeHighestUsableAddr map) (kPageSize - 1)) + 7) >>> 3 =
    bitmapBytes map from rfl] at returns
  generalize reservedRanges layout _ _ = ranges at returns ⊢
  generalize frameOf 0x8000 = trampoline at returns
  rw [← Except.ok.inj returns] at free
  have reserved := (free_bitmapMarkUsed_iff.mp (free_bitmapMarkUsed_iff.mp free).1).1
  obtain ⟨freed, outside⟩ := reserve_free _ reserved
  -- the bitmap starts as ones, so what is free was freed for an entry of the map
  refine ⟨usable_of_free begin freed fun free => ?_, outside⟩
  have clear := free.2
  rw [Bitmap.test_ones rfl] at clear
  cases clear

/-- An allocator that was set up has a home for its bitmap. -/
lemma frameAllocatorInit_home {layout : BootLayout} {boot : FrameState}
    (returns : frameAllocatorInit map layout = .ok boot) :
    findBitmapHome map layout (bitmapBytes map) ≠ 0 := by
  intro none
  simp only [frameAllocatorInit] at returns
  rw [bitmapBytes] at none
  rw [if_pos none] at returns
  split_ifs at returns

/-- The end of the bitmap and of the boot information do not wrap, so every range is kept whole. -/
lemma outside_reservedRanges {layout : BootLayout} {home bytes : Nat}
    (fits : home + bytes ≤ 1024 * 1024 * 1024)
    (outside : ∀ range ∈ reservedRanges layout home bytes, range.2 + kPageSize ≤ Word.max64 →
      Outside frame range.1 range.2) :
    Outside frame 0 0x100000 ∧
    Outside frame layout.kernelStartPhys layout.kernelEndPhys ∧
    Outside frame layout.kernelBlobStartPhys layout.kernelBlobEndPhys ∧
    Outside frame home (home + bytes) ∧
    Outside frame layout.infoPhys (layout.infoPhys + layout.infoSize) ∧
    ∀ window ∈ [0xFEC00000, 0xFED00000, 0xFEE00000], Outside frame window (window + 0x1000) := by
  have info := layout.infoEnd
  rw [reservedRanges, Word.add64_eq (by rw [Word.max64]; omega), Word.add64_eq (by omega)]
    at outside
  simp only [List.forall_mem_cons] at outside ⊢
  obtain ⟨low, image, blob, bitmap, boot, io, hpet, lapic, -⟩ := outside
  refine ⟨low (by decide), image layout.kernelEnd, blob layout.blobEnd,
    bitmap (by rw [Word.max64, kPageSize]; omega), boot info, io (by decide), hpet (by decide),
    lapic (by decide), fun _ mem => absurd mem List.not_mem_nil⟩

/-- Whatever calls are made once `FrameAllocatorInit` and `FrameAllocatorBuildNumaRanges` have run,
a request is answered with frames of available memory only, and never with the low megabyte, the
kernel image or its blob, the bitmap, the boot information or a firmware window. -/
theorem requests_return_usable_memory {map : List MmapEntry} {layout : BootLayout}
    {boot t : FrameState}
    {phys : Nat} {es : List (FrameEvent Owner)} {w : World Owner}
    (begin : ∀ entry ∈ map, entry.baseAddr + kPageSize ≤ Word.max64 + 1)
    (returns : frameAllocatorInit map layout = .ok boot)
    (records : List MemoryRange)
    (run : Lts.Run FrameStep
      (⟨frameAllocatorBuildNumaRanges boot records, 0, 0⟩ : World Owner) es w)
    (m : Machine) (caller : Caller) (request : Request)
    (answers : request.call m caller w.state = .ok (.ok phys, t)) :
    ∃ first, phys = physOf first ∧ ∀ i < request.count, Usable map (first + i) ∧
      Outside (first + i) 0 0x100000 ∧
      Outside (first + i) layout.kernelStartPhys layout.kernelEndPhys ∧
      Outside (first + i) layout.kernelBlobStartPhys layout.kernelBlobEndPhys ∧
      Outside (first + i) (findBitmapHome map layout (bitmapBytes map))
        (findBitmapHome map layout (bitmapBytes map) + bitmapBytes map) ∧
      Outside (first + i) layout.infoPhys (layout.infoPhys + layout.infoSize) ∧
      ∀ window ∈ [0xFEC00000, 0xFED00000, 0xFEE00000],
        Outside (first + i) window (window + 0x1000) := by
  have set := frameAllocatorInit_booted returns
  have booted := set.buildNumaRanges records
  have books := Balanced.run booted run
  have yields := request.yields m caller books.sound (books.null booted.null)
  rw [answers] at yields
  obtain ⟨first, rfl, _, _⟩ := yields
  refine ⟨first, rfl, fun i lt => ?_⟩
  have atBoot := (books.fresh booted.null answers lt).1
  obtain ⟨_, _, _, _, eq⟩ := frameAllocatorBuildNumaRanges_same boot records
  rw [eq] at atBoot
  obtain ⟨usable, outside⟩ := frameAllocatorInit_free begin returns atBoot
  have home := (findBitmapHome_end map layout (bitmapBytes map)).resolve_left
    (frameAllocatorInit_home returns)
  exact ⟨usable, outside_reservedRanges home outside⟩

/-- Eight frames behind the low megabyte, with the kernel in the first, on two nodes. -/
def smallMap : List MmapEntry := [⟨0x100000, 0x8000, .available⟩]

def smallLayout : BootLayout :=
  ⟨0x500, 0x100, 0x100000, 0x101000, 0x100000, 0x101000, by decide, by decide, by decide⟩

def smallNodes : List MemoryRange := [⟨0, 0x104000, 0, true⟩, ⟨0x104000, 0x4000, 1, true⟩]

/-- The second node answers with its first frame. -/
theorem small_memory_request : ∃ boot t, frameAllocatorInit smallMap smallLayout = .ok boot ∧
    (Request.node 1).call plainMachine ⟨0, kNoNode, false⟩
      (frameAllocatorBuildNumaRanges boot smallNodes) = .ok (.ok (physOf 260), t) ∧
    Usable smallMap 260 ∧ Outside 260 0x100000 0x101000 := by
  have runs : (match frameAllocatorInit smallMap smallLayout with
      | .ok boot =>
        match (Request.node 1).call plainMachine ⟨0, kNoNode, false⟩
            (frameAllocatorBuildNumaRanges boot smallNodes) with
        | .ok (.ok phys, _) => decide (phys = physOf 260)
        | _ => false
      | .error _ => false) = true := by decide +kernel
  split at runs
  next boot returns =>
    -- the state is opaque from here on
    obtain ⟨placed, eq⟩ : ∃ placed,
      placed = frameAllocatorBuildNumaRanges boot smallNodes := ⟨_, rfl⟩
    refine ⟨boot, ?_⟩
    rw [← eq] at runs ⊢
    split at runs
    next phys t answers =>
      obtain rfl := of_decide_eq_true runs
      have idle : Lts.Run FrameStep
          (⟨frameAllocatorBuildNumaRanges boot smallNodes, 0, 0⟩ : World Nat) []
            ⟨placed, 0, 0⟩ := by
        rw [eq]
        exact .nil
      obtain ⟨first, eq, usable⟩ :=
        requests_return_usable_memory (by decide) returns smallNodes idle
        plainMachine ⟨0, kNoNode, false⟩ (.node 1) answers
      obtain rfl := physOf_injective eq
      have inside := usable 0 Nat.one_pos
      exact ⟨t, returns, answers, inside.1, inside.2.2.1⟩
    · cases runs
  · cases runs

end DuetOS.Frame
