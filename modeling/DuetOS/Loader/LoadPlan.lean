import Mathlib.Data.UInt
import DuetOS.Lib.LittleEndian

/-!
# Load plans

The validator of load plans (`load_plan.cpp`): one header, then one record per region, little
endian. Two structural passes decide whether the plan is well formed; only then the authority pass
asks the backing authority about every slice. Sums of addresses and lengths wrap as in the code.
-/

namespace DuetOS.Loader

open LittleEndian

def kLoadPlanVersion1 : Nat := 1
def kLoadPlanV1HeaderBytes : Nat := 64
def kLoadRegionV1Bytes : Nat := 72
def kLoadPlanMaxRegions : Nat := 256
def kLoadPlanPageSize : UInt64 := 4096
def kLoadPlanMaxMappedPages : UInt64 := 262144
def kLoadPlanMaxMappedBytes : UInt64 := 1073741824
def kLoadPlanUserMin : UInt64 := 4096
def kLoadPlanUserMax : UInt64 := 0x00007FFFFFFFFFFF
def kLoadPlanPe32UserMax : UInt64 := 0xFFFFFFFF

abbrev Hash256 := Fin 32 → UInt8

/-- The image formats, and the values that name none. -/
inductive ImageFormat where
  | pe32Plus | pe32 | elf64
  | unsupported (value : Nat)
  deriving DecidableEq

def ImageFormat.ofNat : Nat → ImageFormat
  | 1 => .pe32Plus
  | 2 => .pe32
  | 3 => .elf64
  | value => .unsupported value

def isSupportedFormat : ImageFormat → Bool
  | .unsupported _ => false
  | _ => true

def kVmProtectionWrite : UInt32 := 2
def kVmProtectionExecute : UInt32 := 4
def kVmProtectionMask : UInt32 := 7

structure LoadPlanV1 where
  (size version : Nat)
  format : ImageFormat
  (entryPoint preferredBase : UInt64)
  (regionCount dependencyCount : Nat)
  sourceHash : Hash256

structure LoadRegionV1 where
  (virtualAddress length memoryObject objectOffset : UInt64)
  protection : UInt32
  contentHash : Hash256
  reserved : UInt32

structure LoadBackingInfoV1 where
  objectSize : UInt64
  sealed : UInt8
  reserved : Fin 7 → UInt8
  sliceHash : Hash256

/-- A question to the backing authority. No question is asked twice (`authorityPass_nodup`), so its
answers are a function. -/
structure BackingRequest where
  (memoryObject objectOffset length : UInt64)
  deriving DecidableEq

abbrev LoadBackingQueryV1 := BackingRequest → Option LoadBackingInfoV1

inductive LoadPlanValidationError where
  | nullBuffer | headerTruncated | sizeOverflow | sizeMismatch | unsupportedVersion
  | unsupportedFormat
  | dependenciesUnsupported | noRegions | tooManyRegions | missingSourceHash
  | sourceHashAuthorityRequired
  | sourceHashMismatch | invalidPreferredBase | reservedNonZero | invalidProtection | emptyRegion
  | unalignedRegion
  | mappedBytesOverflow | tooManyMappedBytes | addressOverflow | addressOutOfRange
  | nullMemoryObject
  | backingOffsetOverflow | missingContentHash | writableExecutable | regionOverlap
  | backingQueryRequired
  | backingNotFound | backingRangeOutOfBounds | contentHashMismatch | mutableExecutableBacking
  | entryOutsideExecutableRegion | multipleMemoryObjects | backingRegionOverlap
  | invalidBackingAuthority
  deriving DecidableEq

structure LoadPlanViewV1 where
  bytes : List UInt8
  size : Nat
  header : LoadPlanV1

section

variable (region : LoadRegionV1) (bytes : List UInt8) (expectedSourceHash : Option Hash256)

def readHash (offset : Nat) : Hash256 := fun i => bytes.getD (offset + i) 0

def hashIsZero (hash : Hash256) :
    Bool := (List.finRange 32).foldl (fun aggregate i => aggregate ||| hash i) 0 = 0

/-- Every byte is compared, whatever the others are. -/
def hashEqual (lhs rhs : Hash256) : Bool :=
  (List.finRange 32).foldl (fun difference i => difference ||| (lhs i ^^^ rhs i)) 0 = 0

def checkedAdd (lhs rhs : UInt64) : Option UInt64 :=
  if rhs > 0xFFFFFFFFFFFFFFFF - lhs then none else some (lhs + rhs)

def isPageAligned (value : UInt64) : Bool := value &&& (kLoadPlanPageSize - 1) = 0

def decodeHeader : LoadPlanV1 where
  size := readLe32 bytes 0
  version := readLe16 bytes 4
  format := .ofNat (readLe16 bytes 6)
  entryPoint := .ofNat (readLe64 bytes 8)
  preferredBase := .ofNat (readLe64 bytes 16)
  regionCount := readLe32 bytes 24
  dependencyCount := readLe32 bytes 28
  sourceHash := readHash bytes 32

def decodeRegion (offset : Nat) : LoadRegionV1 where
  virtualAddress := .ofNat (readLe64 bytes offset)
  length := .ofNat (readLe64 bytes (offset + 8))
  memoryObject := .ofNat (readLe64 bytes (offset + 16))
  objectOffset := .ofNat (readLe64 bytes (offset + 24))
  protection := .ofNat (readLe32 bytes (offset + 32))
  contentHash := readHash bytes (offset + 36)
  reserved := .ofNat (readLe32 bytes (offset + 68))

/-- The records behind the header, in order. -/
def decodeRegions : List LoadRegionV1 :=
  (List.range (decodeHeader bytes).regionCount).map fun index =>
    decodeRegion bytes (kLoadPlanV1HeaderBytes + index * kLoadRegionV1Bytes)

def LoadRegionV1.writable : Bool := region.protection &&& kVmProtectionWrite ≠ 0

def LoadRegionV1.executable : Bool := region.protection &&& kVmProtectionExecute ≠ 0

def formatUserMax (format : ImageFormat) : UInt64 := if format = .pe32 then kLoadPlanPe32UserMax
    else kLoadPlanUserMax

def validateHeader : Except LoadPlanValidationError LoadPlanV1 :=
  if bytes.length < kLoadPlanV1HeaderBytes then .error .headerTruncated else
  if bytes.length > 0xFFFFFFFF then .error .sizeOverflow else
  let header := decodeHeader bytes
  if header.version ≠ kLoadPlanVersion1 then .error .unsupportedVersion else
  if ¬isSupportedFormat header.format then .error .unsupportedFormat else
  if header.dependencyCount ≠ 0 then .error .dependenciesUnsupported else
  if header.regionCount = 0 then .error .noRegions else
  if header.regionCount > (0xFFFFFFFF - kLoadPlanV1HeaderBytes) / kLoadRegionV1Bytes
    then .error .sizeOverflow else
  let expectedSize := kLoadPlanV1HeaderBytes + header.regionCount * kLoadRegionV1Bytes
  if header.size ≠ expectedSize ∨ bytes.length ≠ expectedSize then .error .sizeMismatch else
  if header.regionCount > kLoadPlanMaxRegions then .error .tooManyRegions else
  if hashIsZero header.sourceHash then .error .missingSourceHash else
  match expectedSourceHash with
  | none => .error .sourceHashAuthorityRequired
  | some expected =>
    if ¬hashEqual header.sourceHash expected then .error .sourceHashMismatch else
    if header.preferredBase ≠ 0 ∧
      (¬isPageAligned header.preferredBase ∨ header.preferredBase < kLoadPlanUserMin ∨
        header.preferredBase > kLoadPlanUserMax ∨
        header.format = .pe32 ∧ header.preferredBase > kLoadPlanPe32UserMax)
          then .error .invalidPreferredBase
    else .ok header

/-- The first structural pass: the shape of every record, and the bytes they map together. The
object of the first record is that of all others. -/
def shapePass (primary : Option UInt64) (total : UInt64) :
    List LoadRegionV1 → Except LoadPlanValidationError UInt64
  | [] => .ok total
  | region :: rest =>
    if region.reserved ≠ 0 then .error .reservedNonZero else
    if region.protection = 0 ∨
      region.protection &&& ~~~ kVmProtectionMask ≠ 0 then .error .invalidProtection else
    if region.length = 0 then .error .emptyRegion else
    if ¬isPageAligned region.virtualAddress ∨ ¬isPageAligned region.length ∨
      ¬isPageAligned region.objectOffset then
      .error .unalignedRegion else
    if region.memoryObject = 0 then .error .nullMemoryObject else
    if primary.any (region.memoryObject ≠ ·) then .error .multipleMemoryObjects else
    (checkedAdd region.objectOffset region.length).elim (.error .backingOffsetOverflow) fun _ =>
    if hashIsZero region.contentHash then .error .missingContentHash else
    if region.writable ∧ region.executable then .error .writableExecutable else
    (checkedAdd total region.length).elim (.error .mappedBytesOverflow) fun nextTotal =>
    shapePass (primary.or (some region.memoryObject)) nextTotal rest

/-- The comparison of a record with those before it. -/
def overlapPass (region : LoadRegionV1) (virtualEnd objectEnd : UInt64) :
    List LoadRegionV1 → Except LoadPlanValidationError Unit
  | [] => .ok ()
  | previous :: rest =>
    let previousEnd := previous.virtualAddress + previous.length
    if region.virtualAddress < previousEnd ∧
      previous.virtualAddress < virtualEnd then .error .regionOverlap else
    let previousObjectEnd := previous.objectOffset + previous.length
    if region.objectOffset < previousObjectEnd ∧ previous.objectOffset < objectEnd then
      .error .backingRegionOverlap else
    overlapPass region virtualEnd objectEnd rest

/-- The second structural pass: the addresses of every record, its overlap with those before it
(`done`), and whether an executable region holds the entry point. -/
def addressPass (header : LoadPlanV1) (done : List LoadRegionV1) (entryIsExecutable : Bool) :
    List LoadRegionV1 → Except LoadPlanValidationError Bool
  | [] => .ok entryIsExecutable
  | region :: rest =>
    (checkedAdd region.virtualAddress region.length).elim (.error .addressOverflow)
      fun virtualEnd =>
    if region.virtualAddress < kLoadPlanUserMin ∨ virtualEnd = 0 ∨
      virtualEnd - 1 > formatUserMax header.format then
      .error .addressOutOfRange else
    (overlapPass region virtualEnd (region.objectOffset + region.length) done).bind fun _ =>
    let entered := region.executable && header.entryPoint ≥ region.virtualAddress &&
      header.entryPoint < virtualEnd
    addressPass header (done ++ [region]) (entered || entryIsExecutable) rest

def LoadRegionV1.request : BackingRequest :=
  ⟨region.memoryObject, region.objectOffset, region.length⟩

/-- What the authority pass asks of one record. -/
def checkBacking (query : LoadBackingQueryV1) (region : LoadRegionV1) :
    Except LoadPlanValidationError Unit :=
  match query region.request with
  | none => .error .backingNotFound
  | some backing =>
    if backing.sealed > 1 ∨
      (List.finRange 7).foldl (fun aggregate i => aggregate ||| backing.reserved i) 0 ≠ 0 then
      .error .invalidBackingAuthority else
    if region.objectOffset + region.length > backing.objectSize
      then .error .backingRangeOutOfBounds else
    if region.executable ∧ backing.sealed = 0 then .error .mutableExecutableBacking else
    if ¬hashEqual region.contentHash backing.sliceHash then .error .contentHashMismatch else .ok ()

/-- The authority pass, with the questions it asked. -/
def authorityPass (query : LoadBackingQueryV1) :
    List LoadRegionV1 → Except LoadPlanValidationError Unit × List BackingRequest
  | [] => (.ok (), [])
  | region :: rest =>
    match checkBacking query region with
    | .error error => (.error error, [region.request])
    | .ok _ => ((authorityPass query rest).1, region.request :: (authorityPass query rest).2)

def validateStructure : Except LoadPlanValidationError LoadPlanV1 :=
  (validateHeader bytes expectedSourceHash).bind fun header =>
  (shapePass none 0 (decodeRegions bytes)).bind fun total =>
  if total > kLoadPlanMaxMappedBytes ∨ total / kLoadPlanPageSize > kLoadPlanMaxMappedPages then
    .error .tooManyMappedBytes else
  (addressPass header [] false (decodeRegions bytes)).bind fun entryIsExecutable =>
  if ¬entryIsExecutable then .error .entryOutsideExecutableRegion else .ok header

end

/-- What `LoadPlanValidateV1` returns: the status, the view it leaves, and the questions it
asked. -/
structure Validation where
  result : Except LoadPlanValidationError Unit
  view : Option LoadPlanViewV1
  asked : List BackingRequest

def loadPlanValidateV1 (bytes : Option (List UInt8)) (expectedSourceHash : Option Hash256)
    (queryBacking : Option LoadBackingQueryV1) : Validation :=
  match bytes with
  | none => ⟨.error .nullBuffer, none, []⟩
  | some bytes =>
    match validateStructure bytes expectedSourceHash with
    | .error error => ⟨.error error, none, []⟩
    | .ok header =>
      match queryBacking with
      | none => ⟨.error .backingQueryRequired, none, []⟩
      | some query =>
        match authorityPass query (decodeRegions bytes) with
        | (.error error, asked) => ⟨.error error, none, asked⟩
        | (.ok _, asked) => ⟨.ok (), some ⟨bytes, header.size, header⟩, asked⟩

end DuetOS.Loader
