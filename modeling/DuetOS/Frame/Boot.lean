import DuetOS.Frame.Calls
import DuetOS.Lib.Word

/-!
# Setting up the bitmap

`FrameAllocatorInit` starts from a bitmap with every frame in use, frees what the memory map calls
available, and then reserves the low megabyte, the kernel image, the bitmap itself and the firmware
windows. `FrameAllocatorBuildNumaRanges` adds the frames of each NUMA node later. Addresses are
`u64`, so sums of them wrap.
-/

namespace DuetOS.Frame

open Function Word

inductive MmapType where
  | available | reserved | acpiReclaimable | acpiNvs | badRam | unknown
  deriving DecidableEq, Repr

structure MmapEntry where
  (baseAddr length : Nat)
  type : MmapType

/-- Where the boot information and the kernel are. The linker and the boot loader put nothing into
the last page of the address space, so that an end can be rounded up to a page. -/
structure BootLayout where
  (infoPhys infoSize kernelStartPhys kernelEndPhys kernelBlobStartPhys kernelBlobEndPhys : Nat)
  infoEnd : infoPhys + infoSize + kPageSize ≤ max64
  kernelEnd : kernelEndPhys + kPageSize ≤ max64
  blobEnd : kernelBlobEndPhys + kPageSize ≤ max64

inductive BootPanic where
  | nullInfo | noMemoryMap | noHome
  deriving DecidableEq, Repr

def computeHighestUsableAddr (map : List MmapEntry) : Nat :=
  map.foldl (fun highest entry =>
      if entry.type ≠ .available ∧ entry.type ≠ .acpiReclaimable then highest
      else
        let top := add64 entry.baseAddr entry.length
        if highest < top then top else highest)
    0

def findBitmapHome (map : List MmapEntry) (layout : BootLayout) (bitmapBytes : Nat) : Nat :=
  let infoEndPhys := add64 layout.infoPhys layout.infoSize
  let floor := if infoEndPhys < layout.kernelEndPhys then layout.kernelEndPhys else infoEndPhys
  let identityLimit := 1024 * 1024 * 1024
  map.foldl (fun chosen entry =>
      if chosen ≠ 0 ∨ entry.type ≠ .available then chosen
      else
        let start := if entry.baseAddr < floor then floor else entry.baseAddr
        let start := add64 start (kPageSize - 1) / kPageSize * kPageSize
        let last := add64 entry.baseAddr entry.length
        let last := if identityLimit < last then identityLimit else last
        if start < last ∧ bitmapBytes ≤ last - start then start else chosen)
    0

def reserveRange (s : FrameState) (startPhys endPhys : Nat) : FrameState :=
  let first := frameOf startPhys
  let last := frameOf (add64 endPhys (kPageSize - 1))
  markRunUsed s first (last - first)

/-- Free the frames that lie wholly in an available entry. -/
def freeEntry (s : FrameState) (entry : MmapEntry) : FrameState :=
  if entry.type ≠ .available then s
  else
    let first := frameOf (add64 entry.baseAddr (kPageSize - 1))
    let last := frameOf (add64 entry.baseAddr entry.length)
    (List.range' first (last - first)).foldl bitmapMarkFree s

/-- The ranges that `FrameAllocatorInit` reserves, in its order. -/
def reservedRanges (layout : BootLayout) (home bitmapBytes : Nat) : List (Nat × Nat) :=
  [(0, 0x100000), (layout.kernelStartPhys, layout.kernelEndPhys),
    (layout.kernelBlobStartPhys, layout.kernelBlobEndPhys),
    (home, add64 home bitmapBytes),
    (layout.infoPhys, add64 layout.infoPhys layout.infoSize),
    (0xFEC00000, 0xFEC00000 + 0x1000),
    (0xFED00000, 0xFED00000 + 0x1000),
    (0xFEE00000, 0xFEE00000 + 0x1000)]

def frameAllocatorInit (map : List MmapEntry) (layout : BootLayout) : Except BootPanic FrameState :=
  if layout.infoPhys = 0 then .error .nullInfo
  else
    let highest := computeHighestUsableAddr map
    if highest = 0 then .error .noMemoryMap
    else
      let bitmapFrames := frameOf (add64 highest (kPageSize - 1))
      let bitmapBytes := (bitmapFrames + 7) >>> 3
      let home := findBitmapHome map layout bitmapBytes
      if home = 0 then .error .noHome
      else
        let s : FrameState :=
          { bitmap := fun _ => 0xFF#8, bitmapFrames, nextHint := 0, freeCount := 0
            pools := fun _ => []
            numaNodeCount := 0, nodeStartFrame := fun _ => 0, nodeEndFrame := fun _ => 0
            nodeHint := fun _ => 0, failAfter := 0 }
        let s := map.foldl freeEntry s
        let s := (reservedRanges layout home bitmapBytes).foldl
          (fun s range => reserveRange s range.1 range.2) s
        let s := bitmapMarkUsed s (frameOf 0x8000)
        .ok { bitmapMarkUsed s 0 with nextHint := 0 }

/-- A memory record of the SRAT table. -/
structure MemoryRange where
  (base length node : Nat)
  enabled : Bool

/-- One record: the node's range is set by its first record and widened by the others. -/
def addMemoryRange (s : FrameState) (record : MemoryRange) : FrameState :=
  if h : record.enabled = false ∨ record.length = 0 ∨ kMaxNumaNodes ≤ record.node then s
  else
    let node : Fin kMaxNumaNodes := ⟨record.node, by omega⟩
    let lo := frameOf record.base
    let hi := frameOf (add64 (add64 record.base record.length) (kPageSize - 1))
    let s :=
      if s.nodeEndFrame node = 0 then
        { s with
          nodeStartFrame := update s.nodeStartFrame node lo
          nodeEndFrame := update s.nodeEndFrame node hi
          nodeHint := update s.nodeHint node lo }
      else
        { s with
          nodeStartFrame := update s.nodeStartFrame node (min lo (s.nodeStartFrame node))
          nodeEndFrame := update s.nodeEndFrame node (max hi (s.nodeEndFrame node)) }
    { s with numaNodeCount := max s.numaNodeCount (record.node + 1) }

/-- Cut a node's range to the bitmap, and put its hint into the range. -/
def clipNode (s : FrameState) (node : Fin kMaxNumaNodes) : FrameState :=
  if s.numaNodeCount ≤ node then s
  else
    let last := min (s.nodeEndFrame node) s.bitmapFrames
    let empty := s.bitmapFrames ≤ s.nodeStartFrame node
    let start := if empty then 0 else s.nodeStartFrame node
    let last := if empty then 0 else last
    let hint := s.nodeHint node
    { s with
      nodeStartFrame := update s.nodeStartFrame node start
      nodeEndFrame := update s.nodeEndFrame node last
      nodeHint := update s.nodeHint node (if hint < start ∨ last ≤ hint then start else hint) }

def frameAllocatorBuildNumaRanges (s : FrameState) (records : List MemoryRange) : FrameState :=
  let s :=
    { s with
      numaNodeCount := 0, nodeStartFrame := fun _ => 0, nodeEndFrame := fun _ => 0
      nodeHint := fun _ => 0 }
  (List.finRange kMaxNumaNodes).foldl clipNode (records.foldl addMemoryRange s)

/-- What the allocator starts from: nothing is parked, and neither frame 0 nor a frame of the kernel
image is free. -/
structure Booted (kernelStartPhys kernelEndPhys : Nat) (s : FrameState) : Prop where
  sound : Sound s
  pools : ∀ cpu, s.pools cpu = []
  null : ¬s.Free 0
  image : ∀ frame, s.Free frame → physOf (frame + 1) ≤ kernelStartPhys ∨
    kernelEndPhys ≤ physOf frame

structure Bare (s : FrameState) : Prop where
  sound : Sound s
  pools : ∀ cpu, s.pools cpu = []

/-- Without pools, the stock is what is free in the bitmap. -/
lemma Bare.stock (bare : Bare s) : s.stock = s.free.val := by
  rw [FrameState.stock, parked_of_empty bare.pools, zero_add]

lemma bitmapMarkUsed_of_not_free (used : ¬s.Free frame) : bitmapMarkUsed s frame = s := by
  rw [bitmapMarkUsed]
  split
  · rfl
  · rename_i inside
    exact if_neg fun zero => used ⟨Nat.lt_of_not_le inside, test_iff.mp zero⟩

/-- Marking a frame, free or not, keeps the books. -/
lemma Bare.markUsed (bare : Bare s) (frame) : Bare (bitmapMarkUsed s frame) := by
  by_cases free : s.Free frame
  · refine ⟨(bitmapMarkUsed_takes bare.sound free).sound, ?_⟩
    rw [bitmapMarkUsed_of_free free]
    exact bare.pools
  · rwa [bitmapMarkUsed_of_not_free free]

/-- So does freeing one, also a second time or outside of the bitmap. -/
lemma Bare.markFree (bare : Bare s) (frame) : Bare (bitmapMarkFree s frame) := by
  by_cases inside : frame < s.bitmapFrames
  · by_cases free : s.Free frame
    · have same : bitmapMarkFree s frame = s := by
        rw [bitmapMarkFree, if_neg (Nat.not_le.mpr inside)]
        exact if_neg (not_not.mpr (test_iff.mpr free.2))
      rwa [same]
    · refine ⟨(bitmapMarkFree_gives bare.sound inside ?_).sound, ?_⟩
      · rw [bare.stock]
        exact fun mem => free (mem_free.mp mem)
      · rw [bitmapMarkFree_of_used inside free]
        exact bare.pools
  · rw [bitmapMarkFree, if_pos (Nat.le_of_not_lt inside)]
    exact bare

lemma free_bitmapMarkUsed_iff : (bitmapMarkUsed s frame).Free other ↔ s.Free other ∧
    other ≠ frame := by
  by_cases free : s.Free frame
  · rw [← mem_free, free_bitmapMarkUsed free, Finset.mem_erase, mem_free, and_comm]
  · rw [bitmapMarkUsed_of_not_free free]
    exact ⟨fun clear => ⟨clear, fun eq => free (eq ▸ clear)⟩, And.left⟩

/-- A frame that is free after a run was marked was free before, and is not in the run. -/
lemma markRunUsed_free {first count} :
    (markRunUsed s first count).Free other → s.Free other ∧
    ¬(first ≤ other ∧ other < first + count) := by
  induction count generalizing s first with
  | zero => exact fun free => ⟨free, by omega⟩
  | succ count ih =>
    intro free
    have rest := @ih (bitmapMarkUsed s first) (first + 1) free
    obtain ⟨clear, ne⟩ := free_bitmapMarkUsed_iff.mp rest.1
    exact ⟨clear, fun ⟨ge, lt⟩ => rest.2 ⟨by omega, by omega⟩⟩

lemma Bare.markRun (bare : Bare s) (first count) : Bare (markRunUsed s first count) := by
  exact List.foldlRecOn (motive := Bare) _ _ bare fun _ bare frame _ => bare.markUsed frame

lemma Bare.freeEntry (bare : Bare s) (entry) : Bare (freeEntry s entry) := by
  simp only [Frame.freeEntry]
  split
  · exact bare
  exact List.foldlRecOn (motive := Bare) _ _ bare fun _ bare frame _ => bare.markFree frame

lemma Bare.freeEntries (bare : Bare s) (map : List MmapEntry) :
    Bare (map.foldl Frame.freeEntry s) := by
  exact map.foldlRecOn (motive := Bare) _ bare fun _ bare entry _ => bare.freeEntry entry

/-- A frame that is free after the reservations was free before, and lies outside every range whose
end can be rounded up. -/
lemma reserve_free (ranges : List (Nat × Nat))
    (free : (ranges.foldl (fun s range => reserveRange s range.1 range.2) s).Free frame) :
    s.Free frame ∧ ∀ range ∈ ranges, range.2 + kPageSize ≤ max64 →
      physOf (frame + 1) ≤ range.1 ∨ range.2 ≤ physOf frame := by
  induction ranges generalizing s with
  | nil => exact ⟨free, fun _ mem => (nomatch mem)⟩
  | cons range ranges ih =>
    obtain ⟨later, outside⟩ := ih free
    obtain ⟨clear, apart⟩ := markRunUsed_free later
    refine ⟨clear, fun other mem fits => ?_⟩
    obtain rfl | rest := List.mem_cons.mp mem
    · rw [kPageSize] at fits
      rw [kPageSize, add64_eq (by omega)] at apart
      simp only [frameOf_eq] at apart
      simp only [physOf_eq]
      omega
    · exact outside other rest fits

lemma Bare.reserve (bare : Bare s) (ranges : List (Nat × Nat)) :
    Bare (ranges.foldl (fun s range => reserveRange s range.1 range.2) s) := by
  exact ranges.foldlRecOn (motive := Bare) _ bare fun _ bare _ _ => bare.markRun _ _

/-- A bitmap of ones has nothing in stock. -/
lemma bare_allUsed {s} (bitmap : s.bitmap = fun _ => 0xFF#8) (count : s.freeCount = 0)
    (hint : s.nextHint = 0)
    (quiet : s.failAfter = 0) (pools : ∀ cpu, s.pools cpu = []) : Bare s := by
  have none : s.free = ∅ := by
    refine Finset.eq_empty_of_forall_notMem fun frame mem => ?_
    obtain ⟨_, clear⟩ := mem_free.mp mem
    rw [Bitmap.test_ones (congrFun bitmap _)] at clear
    cases clear
  refine ⟨⟨by rw [count, none]; rfl, by rw [hint]; exact Nat.zero_le _, quiet,
    fun cpu phys mem => ?_, ?_⟩, pools⟩
  · rw [pools cpu] at mem
    cases mem
  · rw [FrameState.stock, none, parked_of_empty pools]
    exact Multiset.nodup_zero

/-- The last two reservations, the trampoline and frame 0, leave the allocator set up. -/
lemma booted_of_bare {kernelStartPhys kernelEndPhys} (bare : Bare s)
    (image : ∀ frame, s.Free frame → physOf (frame + 1) ≤ kernelStartPhys ∨
      kernelEndPhys ≤ physOf frame) (trampoline)
    : Booted kernelStartPhys kernelEndPhys
      { bitmapMarkUsed (bitmapMarkUsed s trampoline) 0 with nextHint := 0 } := by
  have marked := (bare.markUsed trampoline).markUsed 0
  refine ⟨marked.sound.rehint ⟨rfl, rfl, rfl, rfl, rfl⟩ (Nat.zero_le _), marked.pools,
    fun free => ?_,
    fun frame free => ?_⟩
  · exact (free_bitmapMarkUsed_iff.mp free).2 rfl
  · exact image frame (free_bitmapMarkUsed_iff.mp (free_bitmapMarkUsed_iff.mp free).1).1

/-- `FrameAllocatorInit` sets the allocator up. -/
theorem frameAllocatorInit_booted {map : List MmapEntry} {layout : BootLayout}
    (returns : frameAllocatorInit map layout = .ok s) :
    Booted layout.kernelStartPhys layout.kernelEndPhys s := by
  simp only [frameAllocatorInit] at returns
  split_ifs at returns
  generalize findBitmapHome map layout _ = home at returns
  generalize (frameOf (add64 (computeHighestUsableAddr map) (kPageSize - 1)) + 7) >>> 3 = bytes
    at returns
  generalize frameOf _ = frames at returns
  generalize frameOf 0x8000 = trampoline at returns
  have image : (layout.kernelStartPhys, layout.kernelEndPhys) ∈
    reservedRanges layout home bytes := by
    simp [reservedRanges]
  generalize reservedRanges _ _ _ = ranges at returns image
  have used := @bare_allUsed
    ⟨fun _ => 0xFF#8, frames, 0, 0, fun _ => [], 0, fun _ => 0, fun _ => 0, fun _ => 0, 0⟩ rfl rfl
      rfl rfl fun _ => rfl
  have bare := (used.freeEntries map).reserve ranges
  rw [← Except.ok.inj returns]
  exact booted_of_bare bare
    (fun frame free => (reserve_free ranges free).2 _ image layout.kernelEnd) trampoline

/-- A state that differs only in what is known of the NUMA nodes. -/
def SameFrames (s t : FrameState) : Prop :=
  ∃ count start last hint, t = { s with
    numaNodeCount := count, nodeStartFrame := start, nodeEndFrame := last, nodeHint := hint }

lemma SameFrames.trans {s t u : FrameState} (same : SameFrames s t) (next : SameFrames t u) :
    SameFrames s u := by
  obtain ⟨_, _, _, _, rfl⟩ := same
  obtain ⟨count, start, last, hint, rfl⟩ := next
  exact ⟨count, start, last, hint, rfl⟩

lemma addMemoryRange_same (s : FrameState) (record : MemoryRange) :
    SameFrames s (addMemoryRange s record) := by
  rw [addMemoryRange]
  split
  · exact ⟨_, _, _, _, rfl⟩
  · dsimp only
    split <;> exact ⟨_, _, _, _, rfl⟩

lemma clipNode_same (s : FrameState) (node : Fin kMaxNumaNodes) :
    SameFrames s (clipNode s node) := by
  rw [clipNode]
  split <;> exact ⟨_, _, _, _, rfl⟩

/-- `FrameAllocatorBuildNumaRanges` touches neither the bitmap nor a pool. -/
lemma frameAllocatorBuildNumaRanges_same (s : FrameState) (records : List MemoryRange) :
    SameFrames s (frameAllocatorBuildNumaRanges s records) := by
  have grown := records.foldlRecOn (motive := SameFrames s) addMemoryRange
    (b := { s with
      numaNodeCount := 0, nodeStartFrame := fun _ => 0, nodeEndFrame := fun _ => 0
      nodeHint := fun _ => 0 })
    ⟨_, _, _, _, rfl⟩ fun t same record _ => same.trans (addMemoryRange_same t record)
  exact List.foldlRecOn (motive := SameFrames s) _ clipNode grown fun t same node _ =>
    same.trans (clipNode_same t node)

/-- The allocator stays set up. -/
lemma Booted.buildNumaRanges {kernelStartPhys kernelEndPhys : Nat} {s : FrameState}
    (booted : Booted kernelStartPhys kernelEndPhys s) (records : List MemoryRange) :
    Booted kernelStartPhys kernelEndPhys (frameAllocatorBuildNumaRanges s records) := by
  obtain ⟨_, _, _, _, eq⟩ := frameAllocatorBuildNumaRanges_same s records
  rw [eq]
  exact ⟨booted.sound.rehint ⟨rfl, rfl, rfl, rfl, rfl⟩ booted.sound.hint, booted.pools, booted.null,
    booted.image⟩

/-- The bitmap ends below the identity limit. -/
lemma findBitmapHome_end (map : List MmapEntry) (layout : BootLayout) (bytes : Nat) :
    findBitmapHome map layout bytes = 0 ∨
      findBitmapHome map layout bytes + bytes ≤ 1024 * 1024 * 1024 := by
  refine map.foldlRecOn (motive := fun home => home = 0 ∨ home + bytes ≤ 1024 * 1024 * 1024) _
    (.inl rfl) fun chosen fits entry _ => ?_
  dsimp only
  generalize add64 _ (kPageSize - 1) / kPageSize * kPageSize = start
  generalize add64 entry.baseAddr entry.length = last
  split
  · exact fits
  -- the region is cut at the limit, or ends below it
  · split <;> split <;> omega

end DuetOS.Frame
