import Mathlib.Data.BitVec

/-!
# The physical frame allocator

One bit for every 4 KiB frame of physical memory, set while the frame is in use, and a small pool of
freed frames for every CPU. A frame in a pool keeps its bit set. Every call here runs under
`g_frame_lock`.
-/

namespace DuetOS.Frame

open Function

def kPageSizeLog2 : Nat := 12
def kPageSize : Nat := 4096
def kDirectMapBytes : Nat := 1024 * 1024 * 1024
def kMaxCpus : Nat := 32
def kMaxNumaNodes : Nat := 16
def kNoNode : Nat := 0xFF
def kFramePoolDepth : Nat := 8
def kNullFrame : Nat := 0

def physOf (frame : Nat) : Nat := frame <<< kPageSizeLog2

def frameOf (phys : Nat) : Nat := phys >>> kPageSizeLog2

/-- The globals of `frame_allocator.cpp`. A pool lists its frames from the top. -/
structure FrameState where
  bitmap : Nat → BitVec 8
  (bitmapFrames nextHint freeCount : Nat)
  pools : Fin kMaxCpus → List Nat
  numaNodeCount : Nat
  nodeStartFrame : Fin kMaxNumaNodes → Nat
  nodeEndFrame : Fin kMaxNumaNodes → Nat
  nodeHint : Fin kMaxNumaNodes → Nat
  failAfter : Nat

/-- C++ `g_alloc_ceiling_frames`, as `FrameAllocatorInit` sets it: no frame past the direct map is
handed out. -/
def FrameState.allocCeilingFrames (s : FrameState) :
    Nat := min s.bitmapFrames (kDirectMapBytes >>> kPageSizeLog2)

/-- What the allocator is told by other parts of the kernel: where the kernel image is, which frames
hold kernel page tables, and which frames the hardware reported as bad. -/
structure Machine where
  (kernelStartPhys kernelEndPhys : Nat)
  isRegisteredKernelPt : Nat → Bool
  isFramePoisoned : Nat → Bool

/-- Who calls: the CPU, its NUMA node, and whether an injected failure is meant for this task. -/
structure Caller where
  (cpu node : Nat)
  armed : Bool

inductive FramePanic where
  | unaligned | kernelImage | kernelPageTable | alreadyFree | alreadyPooled | freeInRun
  | returnsKernelPageTable | pastDirectMap | aboveZoneCeiling
  deriving DecidableEq, Repr

inductive ErrorCode where
  | invalidArgument | outOfMemory
  deriving DecidableEq, Repr

/-- A call ends with a physical address or an error, or it stops the kernel. -/
abbrev Allocation := Except FramePanic (Except ErrorCode Nat × FrameState)

section

variable (m : Machine) (caller : Caller) (s : FrameState) (frame : Nat)

def bitMask (bit : Nat) : BitVec 8 := 1#8 <<< bit

def bitmapIsUsed : Bool :=
  if s.bitmapFrames ≤ frame then true else s.bitmap (frame >>> 3) &&& bitMask (frame &&& 7) ≠ 0#8

def bitmapMarkUsed : FrameState :=
  if s.bitmapFrames ≤ frame then s
  else if s.bitmap (frame >>> 3) &&& bitMask (frame &&& 7) = 0#8 then
    { s with
      bitmap := update s.bitmap (frame >>> 3) (s.bitmap (frame >>> 3) ||| bitMask (frame &&& 7))
      freeCount := s.freeCount - 1 }
  else s

def bitmapMarkFree : FrameState :=
  if s.bitmapFrames ≤ frame then s
  else if s.bitmap (frame >>> 3) &&& bitMask (frame &&& 7) ≠ 0#8 then
    { s with
      bitmap := update s.bitmap (frame >>> 3) (s.bitmap (frame >>> 3) &&& ~~~ bitMask (frame &&& 7))
      freeCount := s.freeCount + 1 }
  else s

/-- The bulk loop of `BitmapFindFreeLinear`, over a number of bytes. -/
def bitmapScanBytes (s : FrameState) : Nat → Nat → Option Nat
  | 0, _ => none
  | bytes + 1, byteIdx =>
    if s.bitmap byteIdx ≠ 0xFF#8 then some ((byteIdx <<< 3) + (~~~ s.bitmap byteIdx).ctz.toNat)
    else bitmapScanBytes s bytes (byteIdx + 1)

def bitmapScanTail (byteIdx hi : Nat) : Nat :=
  let tailBit := hi &&& 7
  let cand := ~~~ s.bitmap byteIdx &&& (bitMask tailBit - 1#8)
  if tailBit ≠ 0 ∧ cand ≠ 0#8 then (byteIdx <<< 3) + cand.ctz.toNat else s.bitmapFrames

/-- The bytes of `BitmapFindFreeLinear` from `byteIdx` on. -/
def bitmapScanFrom (byteIdx hi : Nat) : Nat :=
  match bitmapScanBytes s ((hi >>> 3) - byteIdx) byteIdx with
  | some frame => frame
  | none => bitmapScanTail s (max byteIdx (hi >>> 3)) hi

/-- C++ `BitmapFindFreeLinear`. The sentinel `bitmapFrames` stands for a miss. -/
def bitmapFindFreeLinear (lo hi : Nat) : Nat :=
  if hi ≤ lo then s.bitmapFrames
  else
    let byteIdx := lo >>> 3
    let headBit := lo &&& 7
    if headBit ≠ 0 then
      let cand := ~~~ s.bitmap byteIdx &&& ~~~ (bitMask headBit - 1#8)
      if cand ≠ 0#8 then
        let frame := (byteIdx <<< 3) + cand.ctz.toNat
        if frame < hi then frame else s.bitmapFrames
      else bitmapScanFrom s (byteIdx + 1) hi
    else bitmapScanFrom s byteIdx hi

def bitmapFindFreeBelow (maxFrames : Nat) : Nat :=
  let maxFrames := if s.allocCeilingFrames < maxFrames then s.allocCeilingFrames else maxFrames
  if maxFrames = 0 then s.bitmapFrames
  else
    let start := if s.nextHint < maxFrames then s.nextHint else 0
    let first := bitmapFindFreeLinear s start maxFrames
    if first < s.bitmapFrames then first
    else if 0 < start ∧
      bitmapFindFreeLinear s 0 start < s.bitmapFrames then bitmapFindFreeLinear s 0 start
    else s.bitmapFrames

def bitmapFindFreeInRange (lo hi hint : Nat) : Nat :=
  if s.allocCeilingFrames ≤ lo then s.bitmapFrames
  else
    let hi := if s.allocCeilingFrames < hi then s.allocCeilingFrames else hi
    if hi ≤ lo then s.bitmapFrames
    else
      let hint := if hint < lo ∨ hi ≤ hint then lo else hint
      let first := bitmapFindFreeLinear s hint hi
      if first < s.bitmapFrames then first
      else if lo < hint ∧
        bitmapFindFreeLinear s lo hint < s.bitmapFrames then bitmapFindFreeLinear s lo hint
      else s.bitmapFrames

def numaNodeRange (node : Nat) : Option (Nat × Nat × Nat) :=
  if h : s.numaNodeCount = 0 ∨ kMaxNumaNodes ≤ node then none
  else
    let node : Fin kMaxNumaNodes := ⟨node, by omega⟩
    if s.nodeEndFrame node ≤ s.nodeStartFrame node then none
    else some (s.nodeStartFrame node, s.nodeEndFrame node, s.nodeHint node)

/-- The first free frame from the hint on, around the ceiling. -/
def globalScan : Option Nat :=
  ((List.range s.allocCeilingFrames).map fun i =>
    if s.allocCeilingFrames ≤ s.nextHint + i then s.nextHint + i - s.allocCeilingFrames
      else s.nextHint + i).find?
    fun frame => ¬bitmapIsUsed s frame

def allocateFrameAtIndex : Allocation :=
  let s := { bitmapMarkUsed s frame with nextHint := frame + 1 }
  if kDirectMapBytes ≤ physOf frame then .error .pastDirectMap else .ok (.ok (physOf frame), s)

def allocateFrameInRange (maxPhys : Nat) : Allocation :=
  let maxFrames := if maxPhys ≠ 0 then frameOf maxPhys else s.bitmapFrames
  let frame := bitmapFindFreeBelow s maxFrames
  if s.bitmapFrames ≤ frame then .ok (.error .outOfMemory, s) else allocateFrameAtIndex s frame

def oomInjectionAppliesHere (caller : Caller) : Bool := s.failAfter ≠ 0 ∧ caller.armed

/-- The injected failure: whether this call fails, and the state with the counter moved on. -/
def consumeInjection (caller : Caller) : Bool × FrameState :=
  if oomInjectionAppliesHere s caller then
    if s.failAfter = 1 then (true, { s with failAfter := 0 })
      else (false, { s with failAfter := s.failAfter - 1 })
  else (false, s)

def processAndReturnFrame (frame node : Nat) : Allocation :=
  if m.isRegisteredKernelPt (physOf frame) then .error .returnsKernelPageTable
  else
    let s := { bitmapMarkUsed s frame with nextHint := frame + 1 }
    let s :=
      if h : node ≠ kNoNode ∧ node < kMaxNumaNodes then
        { s with nodeHint := update s.nodeHint ⟨node, h.2⟩ (frame + 1) }
      else s
    if kDirectMapBytes ≤ physOf frame then .error .pastDirectMap else .ok (.ok (physOf frame), s)

def allocateFrameNode (node : Nat) : Allocation :=
  let (fails, s) := consumeInjection s caller
  if fails then .ok (.error .outOfMemory, s)
  else
    let nearby :=
      match numaNodeRange s node with
      | none => s.bitmapFrames
      | some (lo, hi, hint) => bitmapFindFreeInRange s lo hi hint
    if nearby < s.bitmapFrames then processAndReturnFrame m s nearby node
    else
      match globalScan s with
      | some frame => processAndReturnFrame m s frame kNoNode
      | none => .ok (.error .outOfMemory, s)

def frameLoop (s : FrameState) : Nat → Nat → Option (Option Nat)
  | 0, _ => none
  | steps + 1, frame =>
    if s.allocCeilingFrames ≤ frame then some none
    else if ¬bitmapIsUsed s frame then some (some frame)
    else frameLoop s steps (frame + 1)

/-- Pop the running CPU's pool; `kNullFrame` if there is nothing to pop. -/
def popPool : Nat × FrameState :=
  if oomInjectionAppliesHere s caller then (kNullFrame, s)
  else if h : caller.cpu < kMaxCpus then
    match s.pools ⟨caller.cpu, h⟩ with
    | [] => (kNullFrame, s)
    | frame :: rest => (frame, { s with pools := update s.pools ⟨caller.cpu, h⟩ rest })
  else (kNullFrame, s)

/-- The body of `AllocateFrame`; `again` is the call it makes when the hint has to wrap. -/
def allocateFrameFrom (again : FrameState → Allocation) (s : FrameState) : Allocation :=
  let (fromPool, s) := popPool caller s
  if fromPool ≠ kNullFrame then
    if kDirectMapBytes ≤ fromPool then .error .pastDirectMap else .ok (.ok fromPool, s)
  else
    if 0 < s.numaNodeCount then allocateFrameNode m caller s caller.node
    else
      let (fails, s) := consumeInjection s caller
      if fails then .ok (.error .outOfMemory, s)
      else
        match frameLoop s s.allocCeilingFrames s.nextHint with
        | none => .ok (.error .outOfMemory, s)
        | some none => again { s with nextHint := 0 }
        | some (some frame) => processAndReturnFrame m s frame kNoNode

/-- C++ `AllocateFrame`. The call made after a wrap starts at frame 0 and does not wrap again. -/
def allocateFrame : Allocation :=
  allocateFrameFrom m caller (allocateFrameFrom m caller fun s => .ok (.error .outOfMemory, s)) s

/-- Free a frame in the bitmap, and search from it if it is the lowest. -/
def releaseFrame (index : Nat) : FrameState :=
  let s := bitmapMarkFree s index
  { s with nextHint := if index < s.nextHint then index else s.nextHint }

def freeFrame (cpu : Nat) (s : FrameState) (frame : Nat) : Except FramePanic FrameState :=
  if frame = kNullFrame then .ok s
  else if frame &&& (kPageSize - 1) ≠ 0 then .error .unaligned
  else if m.kernelStartPhys ≤ frame ∧ frame < m.kernelEndPhys then .error .kernelImage
  else if m.isRegisteredKernelPt frame then .error .kernelPageTable
  else if frameOf frame < s.bitmapFrames ∧ ¬bitmapIsUsed s (frameOf frame) then .error .alreadyFree
  else if m.isFramePoisoned frame then .ok s
  else if kDirectMapBytes ≤ frame then .error .pastDirectMap
  else if h : cpu < kMaxCpus then
    let pool := s.pools ⟨cpu, h⟩
    if frame ∈ pool then .error .alreadyPooled
    else if pool.length < kFramePoolDepth then
      .ok { s with pools := update s.pools ⟨cpu, h⟩ (frame :: pool) }
    else .ok (releaseFrame s (frameOf frame))
  else .ok (releaseFrame s (frameOf frame))

def frameAllocatorDrainPools : FrameState :=
  let parked := (List.finRange kMaxCpus).flatMap s.pools
  { parked.foldl (fun s frame => releaseFrame s (frameOf frame)) s with pools := fun _ => [] }

/-- The scan for `count` free frames in a row below `limit`; `len` frames before `frame` are
free. -/
def scanRun (s : FrameState) (count : Nat) : Nat → Nat → Nat → Nat → Option Nat
  | 0, _, _, _ => none
  | steps + 1, frame, start, len =>
    if bitmapIsUsed s frame then scanRun s count steps (frame + 1) start 0
    else
      let start := if len = 0 then frame else start
      if len + 1 = count then some start else scanRun s count steps (frame + 1) start (len + 1)

def markRunUsed (start count : Nat) : FrameState :=
  (List.range' start count).foldl bitmapMarkUsed s

def allocateContiguousFrames (count : Nat) : Allocation :=
  if count = 0 then .ok (.error .invalidArgument, s)
  else if s.allocCeilingFrames < count then .ok (.error .outOfMemory, s)
  else if count = 1 then allocateFrame m caller s
  else
    let (fails, s) := consumeInjection (frameAllocatorDrainPools s) caller
    if fails then .ok (.error .outOfMemory, s)
    else
      match scanRun s count s.allocCeilingFrames 0 0 0 with
      | some start => .ok (.ok (physOf start), markRunUsed s start count)
      | none => .ok (.error .outOfMemory, s)

def allocateContiguousFramesInRange (count maxPhys : Nat) : Allocation :=
  if count = 0 then .ok (.error .invalidArgument, s)
  else if s.allocCeilingFrames < count then .ok (.error .outOfMemory, s)
  else
    let maxFrames :=
      if maxPhys ≠ 0 then
        if s.allocCeilingFrames < frameOf maxPhys then s.allocCeilingFrames else frameOf maxPhys
      else s.allocCeilingFrames
    if maxFrames < count then .ok (.error .outOfMemory, s)
    else
      match scanRun s count maxFrames 0 0 0 with
      | some start => .ok (.ok (physOf start), markRunUsed s start count)
      | none => .ok (.error .outOfMemory, s)

def freeRun : Nat → Nat → FrameState → Except FramePanic FrameState
  | 0, _, s => .ok s
  | count + 1, index, s =>
    if index < s.bitmapFrames ∧ ¬bitmapIsUsed s index then .error .freeInRun
    else if kDirectMapBytes ≤ physOf index then .error .pastDirectMap
    else freeRun count (index + 1) (bitmapMarkFree s index)

def freeContiguousFrames (base count : Nat) : Except FramePanic FrameState :=
  if base = kNullFrame ∨ count = 0 then .ok s
  else do
    let s ← freeRun count (frameOf base) s
    return { s with nextHint := if frameOf base < s.nextHint then frameOf base else s.nextHint }

inductive Zone where
  | dma | dma32 | normal | mmio
  deriving DecidableEq, Repr

/-- The exclusive limit of a zone; none for the zone without memory, 0 for no limit. -/
def Zone.maxPhys : Zone → Option Nat
  | .dma => some (16 * 1024 * 1024)
  | .dma32 => some (4 * 1024 * 1024 * 1024)
  | .normal => some 0
  | .mmio => none

def allocateZoneFrame (zone : Zone) : Except FramePanic (Nat × FrameState) :=
  match zone.maxPhys with
  | none => .ok (kNullFrame, s)
  | some maxPhys => do
    match ← allocateFrameInRange s maxPhys with
    | (.error _, s) => return (kNullFrame, s)
    | (.ok frame, s) =>
      if maxPhys = 0 ∨ frame < maxPhys then return (frame, s) else .error .aboveZoneCeiling

end

end DuetOS.Frame
