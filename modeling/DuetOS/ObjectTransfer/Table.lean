import DuetOS.HandleTable.Table

/-!
# The object-transfer table

`object_transfer.{h,cpp}`: references, rows and, for each operation, the checks it makes before it
takes `table->lock` and the sections it runs under it. `ObjectTransferExport` checks, calls
`HandleTableLookupRef` on the source and claims a row; `ObjectTransferImport` checks, calls
`HandleTableReserve` on the destination, pins the row, acquires the object, unpins the row and calls
`HandleTablePublish`; the others have one section each. A section returns its result, the table, and
the references it detached, which are released afterwards.
-/

namespace DuetOS.ObjectTransfer

open Word

/-- A transfer reference as it travels in a message (C++ `ObjectTransferRef`, a `u32`). -/
abbrev ObjectTransferRef := Nat

def kObjectTransferRefInvalid : Nat := 0
def kObjectTransferSlotBits : Nat := 6
def kObjectTransferSlotMask : Nat := 2 ^ kObjectTransferSlotBits - 1
def kObjectTransferGenerationBits : Nat := 31 - kObjectTransferSlotBits
def kObjectTransferGenerationMax : Nat := 2 ^ kObjectTransferGenerationBits - 1
def kObjectTransferPositiveMax : Nat := 0x7FFFFFFF
def kObjectTransferTableCapacity : Nat := 32

def objectTransferRefEncode (slot generation : Nat) : Nat :=
  if slot > 0 ∧ slot < kObjectTransferTableCapacity ∧ generation > 0 ∧
    generation ≤ kObjectTransferGenerationMax then
    (generation <<< kObjectTransferSlotBits) ||| slot
  else kObjectTransferRefInvalid

def objectTransferRefDecode (reference : Nat) : Option (Nat × Nat) :=
  if reference = kObjectTransferRefInvalid ∨ reference > kObjectTransferPositiveMax then none
  else
    let slot := reference &&& kObjectTransferSlotMask
    let generation := reference >>> kObjectTransferSlotBits
    if slot = 0 ∨ slot ≥ kObjectTransferTableCapacity ∨ generation = 0 ∨
        generation > kObjectTransferGenerationMax then none
    else some (slot, generation)

structure ObjectTransferDecodedRef where
  slot : Fin kObjectTransferTableCapacity
  generation : Nat
  deriving DecidableEq, Repr

def decodeTransferRefNospec (reference : ObjectTransferRef) : Option ObjectTransferDecodedRef :=
  match objectTransferRefDecode reference with
  | none => none
  | some (slot, generation) =>
    if maskedIndex32 slot kObjectTransferTableCapacity ≠ slot then none
    else some ⟨⟨maskedIndex32 slot kObjectTransferTableCapacity, maskedIndex32_lt slot (by decide)⟩,
      generation⟩

lemma objectTransferRefEncode_eq (slot_pos : 0 < slot)
    (slot_lt : slot < kObjectTransferTableCapacity) (gen_pos : 0 < generation)
    (gen_le : generation ≤ kObjectTransferGenerationMax) :
    objectTransferRefEncode slot generation = generation * 64 + slot := by
  rw [objectTransferRefEncode, if_pos ⟨slot_pos, slot_lt, gen_pos, gen_le⟩]
  exact Pack.shift_or (Nat.lt_trans slot_lt (by decide))

lemma decodeTransferRefNospec_encode {slot : Fin kObjectTransferTableCapacity} {generation}
    (slot_pos : 0 < slot.val)
    (gen_pos : 0 < generation) (gen_le : generation ≤ kObjectTransferGenerationMax) :
    decodeTransferRefNospec (objectTransferRefEncode slot generation) =
      some ⟨slot, generation⟩ := by
  have fits : slot.val < 2 ^ kObjectTransferSlotBits := Nat.lt_trans slot.isLt (by decide)
  have low : (generation * 64 + slot.val) &&& kObjectTransferSlotMask = slot.val := Pack.low fits
  have high : (generation * 64 + slot.val) >>> kObjectTransferSlotBits = generation :=
    Pack.high fits
  have le : generation ≤ 33554431 := gen_le
  have lt : slot.val < 32 := slot.isLt
  have valid : ¬(generation * 64 + slot.val = kObjectTransferRefInvalid ∨
      generation * 64 + slot.val > kObjectTransferPositiveMax) := by
    unfold kObjectTransferRefInvalid kObjectTransferPositiveMax
    omega
  have fields : ¬(slot.val = 0 ∨ slot.val ≥ kObjectTransferTableCapacity ∨ generation = 0 ∨
      generation > kObjectTransferGenerationMax) := by
    omega
  have decode : objectTransferRefDecode (objectTransferRefEncode slot generation) =
    some (slot.val, generation) := by
    rw [objectTransferRefEncode_eq slot_pos slot.isLt gen_pos gen_le]
    unfold objectTransferRefDecode
    rw [if_neg valid, low, high, if_neg fields]
  have same := maskedIndex32_eq slot.isLt (by decide : kObjectTransferTableCapacity ≤ 4294967296)
  unfold decodeTransferRefNospec
  rw [decode]
  simp [same]

lemma decodeTransferRefNospec_some (decodes : decodeTransferRefNospec reference = some decoded) :
    reference = objectTransferRefEncode decoded.slot decoded.generation := by
  unfold decodeTransferRefNospec at decodes
  split at decodes
  · cases decodes
  rename_i slot generation eq
  split at decodes
  · cases decodes
  rename_i same
  cases decodes
  unfold objectTransferRefDecode at eq
  split at eq
  · cases eq
  dsimp only at eq
  split at eq
  · cases eq
  rename_i fields
  simp only [Option.some.injEq, Prod.mk.injEq] at eq
  obtain ⟨low, high⟩ := eq
  rw [low, high] at fields
  simp only [not_or, not_le, ge_iff_le, gt_iff_lt, not_lt] at fields
  obtain ⟨slot_ne, slot_lt, gen_ne, gen_le⟩ := fields
  simp only [not_not.mp same]
  rw [objectTransferRefEncode_eq (Nat.pos_of_ne_zero slot_ne) slot_lt
    (Nat.pos_of_ne_zero gen_ne) gen_le,
    ← low, ← high]
  exact (Pack.rebuild reference kObjectTransferSlotBits).symm

lemma objectTransferRefEncode_ne_invalid {slot : Fin kObjectTransferTableCapacity} {generation}
    (slot_pos : 0 < slot.val) (gen_pos : 0 < generation)
    (gen_le : generation ≤ kObjectTransferGenerationMax) :
    objectTransferRefEncode slot generation ≠ kObjectTransferRefInvalid := by
  rw [objectTransferRefEncode_eq slot_pos slot.isLt gen_pos gen_le]
  unfold kObjectTransferRefInvalid
  omega

def kObjectTransferMetadataSealed : BitVec 32 := 1#32 <<< 0
def kObjectTransferMetadataKnownFlags : BitVec 32 := kObjectTransferMetadataSealed

structure ObjectTransferImmutableMetadata where
  (identity objectSize : Nat)
  contentHash : Vector UInt8 32
  flags : BitVec 32
  reserved : Nat
  deriving DecidableEq

/-- C++ `ObjectTransferImmutableMetadata{}`. -/
def ObjectTransferImmutableMetadata.zero : ObjectTransferImmutableMetadata where
  identity := 0
  objectSize := 0
  contentHash := Vector.replicate 32 0
  flags := 0
  reserved := 0

structure ObjectTransferAuthority where
  type : KObjectType
  rights : Rights
  metadata : ObjectTransferImmutableMetadata
  deriving DecidableEq

inductive ObjectTransferStatus where
  | ok | invalidArgument | notInitialized | alreadyInitialized | closed | full | identityExhausted
  | sourceRejected | invalidReference | staleReference | referenceReplayed | rightsDenied
  | typeMismatch
  | retainFailed | destinationRejected | operationOverflow | busy | corruptState
  deriving DecidableEq, Repr

inductive ObjectTransferSlotState where
  | free | live | closing | retired
  deriving DecidableEq, Repr

inductive ObjectTransferTableState where
  | uninitialized | open | draining | closed
  deriving DecidableEq, Repr

structure ObjectTransferSlot where
  object : Option KObject
  metadata : ObjectTransferImmutableMetadata
  rights : Rights
  (generation acquisitionPins : Nat)
  type : KObjectType
  state : ObjectTransferSlotState
  deriving DecidableEq

structure ObjectTransferTable where
  slots : Fin kObjectTransferTableCapacity → ObjectTransferSlot
  (nextFreeHint activeOperations initialized : Nat)
  state : ObjectTransferTableState

def ObjectTransferTable.setSlot (table : ObjectTransferTable)
    (index : Fin kObjectTransferTableCapacity) (slot : ObjectTransferSlot) : ObjectTransferTable :=
  { table with slots := Function.update table.slots index slot }

@[simp]
lemma ObjectTransferTable.setSlot_slots_self (table : ObjectTransferTable) (index slot) :
    (table.setSlot index slot).slots index = slot :=
  Function.update_self ..

lemma ObjectTransferTable.setSlot_slots_of_ne (table : ObjectTransferTable) (ne : j ≠ index) (slot)
    : (table.setSlot index slot).slots j = table.slots j :=
  Function.update_of_ne ne ..

def metadataIsZero (metadata : ObjectTransferImmutableMetadata) : Bool :=
  metadata.identity = 0 ∧ metadata.objectSize = 0 ∧ metadata.flags = 0 ∧ metadata.reserved = 0 ∧
    ∀ index : Fin 32, metadata.contentHash.get index = 0

section

variable (slot : ObjectTransferSlot) (table : ObjectTransferTable) (reference : ObjectTransferRef)
  (expectedType : KObjectType) (requestedRights : Rights) (authority : ObjectTransferAuthority)

def tableIsCanonicalUninitialized : Bool :=
  table.initialized = 0 ∧ table.state = .uninitialized ∧ table.nextFreeHint = 0 ∧
    table.activeOperations = 0 ∧ ∀ index : Fin kObjectTransferTableCapacity,
      (table.slots index).object = none ∧ metadataIsZero (table.slots index).metadata ∧
        (table.slots index).rights = 0 ∧ (table.slots index).generation = 0 ∧
        (table.slots index).acquisitionPins = 0 ∧ (table.slots index).type = .invalid ∧
        (table.slots index).state = .free

def metadataValid (metadata : ObjectTransferImmutableMetadata) : Bool :=
  metadata.identity ≠ 0 ∧ Mask.Sub metadata.flags kObjectTransferMetadataKnownFlags ∧
    metadata.flags &&& kObjectTransferMetadataSealed ≠ 0 ∧ metadata.reserved = 0

def authorityValid : Bool :=
  authority.type ≠ .invalid ∧ authority.rights ≠ 0 ∧ Mask.Sub authority.rights kHandleRightAll ∧
    Mask.Sub authority.rights (typeAllowedRights authority.type) ∧ metadataValid authority.metadata

def requestedRightsValid : Bool :=
  expectedType ≠ .invalid ∧ requestedRights ≠ 0 ∧ Mask.Sub requestedRights kHandleRightAll ∧
    Mask.Sub requestedRights (typeAllowedRights expectedType)

def slotMatches (generation : Nat) : Bool :=
  slot.state = .live ∧ slot.object ≠ none ∧ slot.generation = generation

def referenceFailure (generation : Nat) : ObjectTransferStatus :=
  if slot.generation ≠ 0 ∧ generation ≤ slot.generation then .referenceReplayed else .staleReference

def closedStateFor : ObjectTransferSlotState :=
  if slot.generation = kObjectTransferGenerationMax then .retired else .free

def clearSlot : ObjectTransferSlot :=
  { slot with
    object := none, metadata := .zero, rights := 0, acquisitionPins := 0, type := .invalid,
    state := closedStateFor slot }

def stateFailure : ObjectTransferTableState → ObjectTransferStatus
  | .uninitialized => .notInitialized
  | .draining => .closed
  | .closed => .closed
  | .open => .corruptState

def objectTransferTableInitialize (firstGeneration : Nat) :
    ObjectTransferStatus × ObjectTransferTable :=
  if firstGeneration = 0 ∨ firstGeneration > kObjectTransferGenerationMax then
    (.invalidArgument, table)
  else if table.initialized = 1 then (.alreadyInitialized, table)
  else if ¬tableIsCanonicalUninitialized table then (.corruptState, table)
  else
    (.ok, {
      slots := fun index =>
        { object := none
          metadata := .zero
          rights := 0
          generation := sub32 firstGeneration 1
          acquisitionPins := 0
          type := .invalid
          state := if index.val = 0 then .retired else .free }
      nextFreeHint := 0
      activeOperations := 0
      state := .open
      initialized := 1 })

def requiredSourceRights : Rights :=
  kHandleRightTransfer ||| kHandleRightDuplicate ||| authority.rights

/-- The checks `ObjectTransferExport` makes before it looks the source handle up. -/
def objectTransferExportCheck (sourceHandle : Handle) (authority : ObjectTransferAuthority) :
    ObjectTransferStatus :=
  if sourceHandle = kHandleInvalid then .invalidArgument
  else if table.initialized ≠ 1 then .notInitialized
  else if ¬authorityValid authority then .invalidArgument
  else .ok

/-- The circular search of `ObjectTransferExport`: what the export returns and the table it
leaves. -/
def exportSearch (authority : ObjectTransferAuthority) (retained : KObject) :
    List (Fin kObjectTransferTableCapacity) → Bool → ObjectTransferTable →
      Except ObjectTransferStatus ObjectTransferRef × ObjectTransferTable
  | [], futureCapacity, table =>
    (.error (if futureCapacity then .full else .identityExhausted), table)
  | index :: rest, futureCapacity, table =>
    let slot := table.slots index
    if index.val = 0 then exportSearch authority retained rest futureCapacity table
    else if slot.state = .retired then exportSearch authority retained rest futureCapacity table
    else if slot.state = .free ∧ slot.generation = kObjectTransferGenerationMax then
      exportSearch authority retained rest futureCapacity
        (table.setSlot index { slot with state := .retired })
    else if slot.state ≠ .free then exportSearch authority retained rest true table
    else if slot.object ≠ none ∨ slot.rights ≠ 0 ∨ slot.acquisitionPins ≠ 0 ∨
        slot.type ≠ .invalid then (.error .corruptState, table)
    else
      let generation := add32 slot.generation 1
      let reference := objectTransferRefEncode index generation
      if reference = kObjectTransferRefInvalid then
        (.error .corruptState, table.setSlot index { slot with generation })
      else
        (.ok reference, { table.setSlot index { slot with
              generation, object := some retained, metadata := authority.metadata,
              rights := authority.rights, type := authority.type, state := .live }
                with nextFreeHint := index })

def searchStart : Fin kObjectTransferTableCapacity :=
  ⟨add32 table.nextFreeHint 1 % kObjectTransferTableCapacity, Nat.mod_lt _ (by decide)⟩

/-- The section of `ObjectTransferExport`. On error the caller still owns `retained`. -/
def objectTransferExportClaim (retained : KObject)
    : Except ObjectTransferStatus ObjectTransferRef × ObjectTransferTable :=
  if table.state ≠ .open then (.error (stateFailure table.state), table)
  else exportSearch authority retained (Slots.probeOrder (searchStart table)) false table

/-- The checks `ObjectTransferImport` makes before it reserves the destination. -/
def objectTransferImportCheck : Except ObjectTransferStatus ObjectTransferDecodedRef :=
  if ¬requestedRightsValid expectedType requestedRights then .error .invalidArgument
  else if table.initialized ≠ 1 then .error .notInitialized
  else
    match decodeTransferRefNospec reference with
    | none => .error .invalidReference
    | some decoded => .ok decoded

def objectTransferImportPin (decoded : ObjectTransferDecodedRef) (expectedType : KObjectType)
    (requestedRights : Rights) :
    Except ObjectTransferStatus (KObject × ObjectTransferImmutableMetadata) × ObjectTransferTable :=
  if table.state ≠ .open then (.error (stateFailure table.state), table)
  else
    let slot := table.slots decoded.slot
    match slot.object with
    | none =>
      (.error (if slot.state = .closing ∧ slot.generation = decoded.generation then .busy
        else referenceFailure slot decoded.generation), table)
    | some object =>
      if ¬slotMatches slot decoded.generation then
        (.error (if slot.state = .closing ∧ slot.generation = decoded.generation then .busy
          else referenceFailure slot decoded.generation), table)
      else if slot.type ≠ expectedType ∨
        object.type ≠ expectedType then (.error .typeMismatch, table)
      else if ¬Mask.Sub requestedRights slot.rights then (.error .rightsDenied, table)
      else if slot.acquisitionPins = max32 ∨ table.activeOperations = max32 then
        (.error .operationOverflow, table)
      else
        (.ok (object, slot.metadata), { table.setSlot decoded.slot
              { slot with acquisitionPins := add32 slot.acquisitionPins 1 } with
            activeOperations := add32 table.activeOperations 1 })

/-- Second section of `ObjectTransferImport`: re-validate the row and drop the pin. The result is
`identity_intact`. -/
def objectTransferImportUnpin (decoded : ObjectTransferDecodedRef) (object : KObject) :
    Bool × ObjectTransferTable :=
  let slot := table.slots decoded.slot
  (slot.generation = decoded.generation ∧ slot.object = some object ∧
      (slot.state = .live ∨ slot.state = .closing) ∧ slot.acquisitionPins > 0 ∧
      table.activeOperations > 0,
    { table.setSlot decoded.slot { slot with
          acquisitionPins := if slot.acquisitionPins > 0 then sub32 slot.acquisitionPins 1
            else slot.acquisitionPins } with
      activeOperations := if table.activeOperations > 0 then sub32 table.activeOperations 1
        else table.activeOperations })

def objectTransferRevoke : ObjectTransferStatus × Option KObject × ObjectTransferTable :=
  if table.initialized ≠ 1 then (.notInitialized, none, table)
  else
    match decodeTransferRefNospec reference with
    | none => (.invalidReference, none, table)
    | some decoded =>
      if table.state ≠ .open then (stateFailure table.state, none, table)
      else
        let slot := table.slots decoded.slot
        let marked := { slot with state := .closing }
        if slot.state = .closing ∧ slot.generation = decoded.generation ∧ slot.object = none then
          (.corruptState, none, table)
        else if ¬(slot.state = .closing ∧ slot.generation = decoded.generation) ∧
            ¬slotMatches slot decoded.generation then
          (referenceFailure slot decoded.generation, none, table)
        else if slot.acquisitionPins ≠ 0 then (.busy, none, table.setSlot decoded.slot marked)
        else (.ok, slot.object, table.setSlot decoded.slot (clearSlot marked))

def closeIndices : List (Fin kObjectTransferTableCapacity) :=
  (List.finRange kObjectTransferTableCapacity).tail

/-- The loop of `ObjectTransferTableClose` that totals the pins; `none` is the overflow guard. -/
def observedPins (table : ObjectTransferTable) :
    List (Fin kObjectTransferTableCapacity) → Nat → Option Nat
  | [], observed => some observed
  | index :: rest, observed =>
    let pins := (table.slots index).acquisitionPins
    if pins > sub32 max32 observed then none
    else observedPins table rest (add32 observed pins)

/-- The body of the detaching loop of `ObjectTransferTableClose`: the row left behind, the reference
detached and whether the row was corrupt. -/
def closeSlot : ObjectTransferSlot × Option KObject × Bool :=
  match slot.object with
  | some object => (clearSlot slot, some object, slot.state ≠ .closing)
  | none =>
    if slot.state = .closing ∨ slot.state = .live then (clearSlot slot, none, true)
    else (slot, none, false)

def closeRows : List (Fin kObjectTransferTableCapacity) → ObjectTransferStatus → List KObject →
    ObjectTransferTable → ObjectTransferStatus × List KObject × ObjectTransferTable
  | [], result, detached, table => (result, detached, table)
  | index :: rest, result, detached, table =>
    let (slot, object, corrupt) := closeSlot (table.slots index)
    closeRows rest (if corrupt then .corruptState else result) (detached ++ object.toList)
      (table.setSlot index slot)

/-- The first close publishes `Draining` and marks every live row closing. -/
def closeBegin : ObjectTransferTable :=
  if table.state = .open then
    { table with
      state := .draining
      slots := fun index =>
        if index.val ≠ 0 ∧ (table.slots index).state = .live then
          { table.slots index with state := .closing }
        else table.slots index }
  else table

def objectTransferTableClose : ObjectTransferStatus × List KObject × ObjectTransferTable :=
  if table.initialized ≠ 1 then (.notInitialized, [], table)
  else if table.state = .uninitialized then (.notInitialized, [], table)
  else if table.state = .closed then (.ok, [], table)
  else
    let table := closeBegin table
    if table.state ≠ .draining then (.corruptState, [], table)
    else
      match observedPins table (List.finRange kObjectTransferTableCapacity) 0 with
      | none => (.corruptState, [], table)
      | some observed =>
        if observed ≠ table.activeOperations then (.corruptState, [], table)
        else if observed ≠ 0 then (.busy, [], table)
        else
          let (result, detached, table) := closeRows closeIndices .ok [] table
          (result, detached, { table with state := .closed })

end

end DuetOS.ObjectTransfer
