import DuetOS.HandleTable.Handle
import DuetOS.Lib.Slots
import DuetOS.Lib.Word

/-!
# The handle table

`handle_table.cpp`: the table's data and, for each operation, the sections it runs with `table.lock`
held. `RetainSnapshot` has two, with the checked `KObjectAcquire` in between, `HandleTableDetach`
and `HandleTableAdoptReplace` mark the row and finish it, and `HandleTableDrain` has four.

A section returns the table it leaves behind with its result, or the `KASSERT` it trips. Checks made
before the lock is taken are part of the first section. `refcount` is what `KObjectRefcount(obj)`
returned to the caller, `lastNonce` the boot-global `g_last_handle_reservation_nonce`, and
`claimFreeSlot` the search that `HandleTableInsert` and `HandleTableReserve` share.
-/

namespace DuetOS

open Word

/-- The assertions of `handle_table.cpp` that depend on the table. -/
inductive Kassert where
  | freeSlotRetainedLiveMetadata | failedToEncodeAllocatedSlot | freeSlotRetainedReservationMetadata
  | failedToEncodeReservedSlot | pinnedSlotObjectChanged | lookupPinUnderflow
  | activeOperationUnderflow
  | closingSlotIdentityChanged | closeActiveOperationUnderflow | failedToEncodeReplacement
  | adoptReplaceSlotIdentityChanged | failedToEncodeAdoptedReplacement
  | adoptReplaceOperationUnderflow
  | drainOwnerLostTableState | drainReachedNonQuiescentSlot | drainReachedCorruptReservedSlot
  | drainLiveSlotInvariantFailed | drainCompletionLostTableState
  deriving DecidableEq, Repr

inductive HandleSlotState where
  | free | live | closing | retired | reserved
  deriving DecidableEq, Repr

inductive HandleTableState where
  | open | draining | closed
  deriving DecidableEq, Repr

structure HandleSlot where
  obj : Option KObject
  rights : Rights
  (reservationNonce generation acquisitionPins : Nat)
  reservedType : KObjectType
  state : HandleSlotState
  deriving DecidableEq

structure HandleTable where
  slots : Fin kHandleTableCapacity → HandleSlot
  (nextFreeHint activeOperations : Nat)
  state : HandleTableState

def HandleSlot.zero : HandleSlot where
  obj := none
  rights := 0
  reservationNonce := 0
  generation := 0
  acquisitionPins := 0
  reservedType := .invalid
  state := .free

def HandleTable.zero : HandleTable where
  slots := fun _ => .zero
  nextFreeHint := 0
  activeOperations := 0
  state := .open

def HandleTable.setSlot (table : HandleTable) (index : Fin kHandleTableCapacity)
    (slot : HandleSlot) : HandleTable :=
  { table with slots := Function.update table.slots index slot }

@[simp]
lemma HandleTable.setSlot_slots_self (table : HandleTable) (index slot)
    : (table.setSlot index slot).slots index = slot :=
  Function.update_self ..

lemma HandleTable.setSlot_slots_of_ne (table : HandleTable) (ne : j ≠ index) (slot)
    : (table.setSlot index slot).slots j = table.slots j :=
  Function.update_of_ne ne ..

structure HandleTableReservation where
  handle : Handle
  nonce : Nat
  deriving DecidableEq, Repr

structure RetainedSnapshot where
  obj : KObject
  rights : Rights
  deriving DecidableEq

structure HandleAdoptReplaceResult where
  handle : Handle
  displaced : KObject
  deriving DecidableEq, Repr

/-- What a lock-held section returns: a result and the table, or a failed assertion. -/
abbrev Section (α : Type) := Except Kassert (α × HandleTable)

section

variable (slot : HandleSlot) (table : HandleTable) (handle : Handle) (expectedType : KObjectType)
  (requiredRights : Rights) (decoded : DecodedHandle) (reservation : HandleTableReservation)

def slotMatches (generation : Nat) : Bool :=
  slot.state = .live ∧ slot.obj ≠ none ∧ slot.generation = generation ∧
    slot.reservationNonce = 0 ∧ slot.reservedType = .invalid

def closedStateFor : HandleSlotState :=
  if slot.generation = kHandleGenerationMax then .retired else .free

/-- Issue the next boot-global nonce; zero means exhausted (C++ `MintHandleReservationNonce`). -/
def mintHandleReservationNonce (lastNonce : Nat) : Nat × Nat :=
  if lastNonce = max64 then (0, lastNonce)
  else (add64 lastNonce 1, add64 lastNonce 1)

def handleTableReservationIsValid : Bool :=
  reservation.handle ≠ kHandleInvalid ∧ reservation.nonce ≠ 0

def reservationMatches : Bool :=
  slot.state = .reserved ∧ slot.obj = none ∧ slot.generation = decoded.generation ∧
    slot.reservationNonce = reservation.nonce ∧ slot.reservedType ≠ .invalid ∧ slot.rights ≠ 0

/-- The metadata a free row must not retain. -/
def freeSlotIsClear : Bool :=
  slot.obj = none ∧ slot.rights = 0 ∧ slot.reservationNonce = 0 ∧ slot.acquisitionPins = 0 ∧
    slot.reservedType = .invalid

/-- The circular search of `HandleTableInsert` and `HandleTableReserve`: the first free row with a
generation left, retiring the exhausted free rows it passes. -/
def claimFreeSlot (retained : Kassert) :
    List (Fin kHandleTableCapacity) → HandleTable → Section (Option (Fin kHandleTableCapacity))
  | [], table => .ok (none, table)
  | index :: rest, table =>
    let slot := table.slots index
    if index.val = 0 then claimFreeSlot retained rest table
    else if slot.state ≠ .free then claimFreeSlot retained rest table
    else if ¬freeSlotIsClear slot then .error retained
    else if slot.generation = kHandleGenerationMax then
      claimFreeSlot retained rest (table.setSlot index { slot with state := .retired })
    else .ok (some index, table)

def searchStart : Fin kHandleTableCapacity :=
  ⟨add32 table.nextFreeHint 1 % kHandleTableCapacity, Nat.mod_lt _ (by decide)⟩

def handleTableInsert (obj : Option KObject) (refcount : Nat) (requestedRights : Rights)
    : Section (Except ErrorCode Handle) :=
  match obj with
  | none => .ok (.error .invalidArgument, table)
  | some obj =>
    if obj.type = .invalid ∨ requestedRights = 0 ∨ ¬Mask.Sub requestedRights kHandleRightAll then
      .ok (.error .invalidArgument, table)
    else if ¬Mask.Sub requestedRights (typeAllowedRights obj.type) then
      .ok (.error .permissionDenied, table)
    else if refcount = 0 then .ok (.error .badState, table)
    else if table.state ≠ .open then .ok (.error .badState, table)
    else if table.nextFreeHint ≥ kHandleTableCapacity then .ok (.error .badState, table)
    else
      match claimFreeSlot .freeSlotRetainedLiveMetadata (Slots.probeOrder (searchStart table))
        table with
      | .error failed => .error failed
      | .ok (none, table) => .ok (.error .outOfMemory, table)
      | .ok (some index, table) =>
        let generation := add32 (table.slots index).generation 1
        let handle := handleEncode index generation
        if handle = kHandleInvalid then .error .failedToEncodeAllocatedSlot
        else
          let slot := { table.slots index with
            generation, obj := some obj, rights := requestedRights, reservationNonce := 0,
            reservedType := .invalid, state := .live }
          .ok (.ok handle, { table.setSlot index slot with nextFreeHint := index })

/-- C++ `HandleTableReserve`. The second component of the result is the updated
`g_last_handle_reservation_nonce`. -/
def handleTableReserve (objectType : KObjectType) (requestedRights : Rights) (lastNonce : Nat)
    : Section (Except ErrorCode HandleTableReservation × Nat) :=
  if objectType = .invalid ∨ requestedRights = 0 ∨ ¬Mask.Sub requestedRights kHandleRightAll then
    .ok ((.error .invalidArgument, lastNonce), table)
  else if ¬Mask.Sub requestedRights (typeAllowedRights objectType) then
    .ok ((.error .permissionDenied, lastNonce), table)
  else if table.state ≠ .open then .ok ((.error .badState, lastNonce), table)
  else if table.nextFreeHint ≥ kHandleTableCapacity then .ok ((.error .badState, lastNonce), table)
  else
    match claimFreeSlot .freeSlotRetainedReservationMetadata (Slots.probeOrder (searchStart table))
      table with
    | .error failed => .error failed
    | .ok (none, table) => .ok ((.error .outOfMemory, lastNonce), table)
    | .ok (some index, table) =>
      let (nonce, lastNonce) := mintHandleReservationNonce lastNonce
      if nonce = 0 then .ok ((.error .overflow, lastNonce), table)
      else
        let generation := add32 (table.slots index).generation 1
        let handle := handleEncode index generation
        if handle = kHandleInvalid then .error .failedToEncodeReservedSlot
        else
          let slot := { table.slots index with
            generation, rights := requestedRights, reservationNonce := nonce,
            reservedType := objectType, state := .reserved }
          .ok ((.ok ⟨handle, nonce⟩, lastNonce),
            { table.setSlot index slot with nextFreeHint := index })

def handleTablePublish (obj : Option KObject) (refcount : Nat) :
    Section (Except ErrorCode Handle) :=
  if ¬handleTableReservationIsValid reservation then .ok (.error .invalidArgument, table)
  else
    match decodeHandleNospec reservation.handle, obj with
    | none, _ => .ok (.error .invalidArgument, table)
    | some _, none => .ok (.error .invalidArgument, table)
    | some decoded, some obj =>
      if obj.type = .invalid then .ok (.error .invalidArgument, table)
      else if refcount = 0 then .ok (.error .badState, table)
      else if table.state ≠ .open then .ok (.error .badState, table)
      else
        let slot := table.slots decoded.slot
        if ¬reservationMatches slot decoded reservation then .ok (.error .invalidArgument, table)
        else if slot.reservedType ≠ obj.type then .ok (.error .invalidArgument, table)
        else if ¬Mask.Sub slot.rights (typeAllowedRights obj.type) then
          .ok (.error .permissionDenied, table)
        else
          let slot := { slot with
            obj := some obj, reservationNonce := 0, reservedType := .invalid, state := .live }
          .ok (.ok reservation.handle, table.setSlot decoded.slot slot)

def handleTableAbort : Section (Except ErrorCode Unit) :=
  if ¬handleTableReservationIsValid reservation then .ok (.error .invalidArgument, table)
  else
    match decodeHandleNospec reservation.handle with
    | none => .ok (.error .invalidArgument, table)
    | some decoded =>
      if table.state ≠ .open then .ok (.error .badState, table)
      else
        let slot := table.slots decoded.slot
        if ¬reservationMatches slot decoded reservation then .ok (.error .invalidArgument, table)
        else
          let slot := { slot with
            rights := 0, reservationNonce := 0, reservedType := .invalid,
            state := closedStateFor slot }
          .ok (.ok (), table.setSlot decoded.slot slot)

/-- The row-level checks shared by a retained lookup and a detach: exact generation, type,
rights. -/
def checkSlot (generation : Nat) (expectedType : KObjectType) (requiredRights : Rights) :
    Except ErrorCode KObject :=
  match slot.obj with
  | none => .error .invalidArgument
  | some obj =>
    if ¬slotMatches slot generation then .error .invalidArgument
    else if expectedType ≠ .invalid ∧ obj.type ≠ expectedType then .error .invalidArgument
    else if slot.rights &&& requiredRights ≠ requiredRights then .error .permissionDenied
    else .ok obj

/-- First section of `RetainSnapshot`: validate and pin. -/
def retainSnapshotPin : Section (Except ErrorCode (DecodedHandle × RetainedSnapshot)) :=
  match decodeHandleNospec handle with
  | none => .ok (.error .invalidArgument, table)
  | some decoded =>
    if ¬Mask.Sub requiredRights kHandleRightAll then .ok (.error .invalidArgument, table)
    else if table.state ≠ .open then .ok (.error .badState, table)
    else
      let slot := table.slots decoded.slot
      match checkSlot slot decoded.generation expectedType requiredRights with
      | .error code => .ok (.error code, table)
      | .ok obj =>
        if slot.acquisitionPins = max32 ∨ table.activeOperations = max32 then
          .ok (.error .overflow, table)
        else
          let slot := { slot with acquisitionPins := add32 slot.acquisitionPins 1 }
          .ok (.ok (decoded, ⟨obj, slot.rights⟩), { table.setSlot decoded.slot slot with
              activeOperations := add32 table.activeOperations 1 })

/-- Second section of `RetainSnapshot`: drop the pin. `retained` is what `KObjectAcquire`
returned. -/
def retainSnapshotUnpin (snapshot : RetainedSnapshot) (retained : Bool) :
    Section (Except ErrorCode RetainedSnapshot) :=
  let slot := table.slots decoded.slot
  if slot.obj ≠ some snapshot.obj then .error .pinnedSlotObjectChanged
  else if ¬slot.acquisitionPins > 0 then .error .lookupPinUnderflow
  else if ¬table.activeOperations > 0 then .error .activeOperationUnderflow
  else
    let slot := { slot with acquisitionPins := sub32 slot.acquisitionPins 1 }
    .ok (if ¬retained then .error .overflow else .ok snapshot,
      { table.setSlot decoded.slot slot with
        activeOperations := sub32 table.activeOperations 1 })

def handleTableRights : Rights :=
  match decodeHandleNospec handle with
  | none => 0
  | some decoded =>
    if table.state ≠ .open then 0
    else
      let slot := table.slots decoded.slot
      if slotMatches slot decoded.generation then slot.rights else 0

def handleCheckRight : Bool :=
  if requiredRights = 0 ∨ ¬Mask.Sub requiredRights kHandleRightAll then false
  else
    match decodeHandleNospec handle with
    | none => false
    | some decoded =>
      if table.state ≠ .open then false
      else
        let slot := table.slots decoded.slot
        slotMatches slot decoded.generation && slot.rights &&& requiredRights = requiredRights

/-- First section of `HandleTableDetach`: the close linearization point. -/
def handleTableDetachMark : Section (Except ErrorCode DecodedHandle) :=
  match decodeHandleNospec handle with
  | none => .ok (.error .invalidArgument, table)
  | some decoded =>
    if ¬Mask.Sub requiredRights kHandleRightAll then .ok (.error .invalidArgument, table)
    else if table.state ≠ .open then .ok (.error .badState, table)
    else
      let slot := table.slots decoded.slot
      match checkSlot slot decoded.generation expectedType requiredRights with
      | .error code => .ok (.error code, table)
      | .ok _ =>
        if table.activeOperations = max32 then .ok (.error .overflow, table)
        else
          .ok (.ok decoded, { table.setSlot decoded.slot { slot with state := .closing } with
              activeOperations := add32 table.activeOperations 1 })

/-- One turn of the second section of `HandleTableDetach`. `none` means pins remain and the caller
spins. -/
def handleTableDetachFinish : Section (Option KObject) :=
  let slot := table.slots decoded.slot
  if ¬(slot.state = .closing ∧ slot.generation = decoded.generation) then
    .error .closingSlotIdentityChanged
  else if slot.acquisitionPins = 0 then
    let cleared := { slot with
      obj := none, rights := 0, reservationNonce := 0, reservedType := .invalid,
      state := closedStateFor slot }
    if ¬table.activeOperations > 0 then .error .closeActiveOperationUnderflow
    else
      .ok (slot.obj, { table.setSlot decoded.slot cleared with
        activeOperations := sub32 table.activeOperations 1 })
  else .ok (none, table)

def handleReplace (srcHandle : Handle) (requestedRights : Rights) :
    Section (Except ErrorCode Handle) :=
  match decodeHandleNospec srcHandle with
  | none => .ok (.error .invalidArgument, table)
  | some decoded =>
    if requestedRights = 0 ∨ ¬Mask.Sub requestedRights kHandleRightAll then
      .ok (.error .invalidArgument, table)
    else if table.state ≠ .open then .ok (.error .badState, table)
    else
      let slot := table.slots decoded.slot
      if ¬slotMatches slot decoded.generation then .ok (.error .invalidArgument, table)
      else if slot.rights &&& kHandleRightDuplicate = 0 ∨ ¬Mask.Sub requestedRights slot.rights then
        .ok (.error .permissionDenied, table)
      else if slot.generation = kHandleGenerationMax then .ok (.error .overflow, table)
      else
        let generation := add32 slot.generation 1
        let replacement := handleEncode decoded.slot generation
        if replacement = kHandleInvalid then .error .failedToEncodeReplacement
        else
          .ok (.ok replacement, table.setSlot decoded.slot
            { slot with generation, rights := requestedRights })

/-- First section of `HandleTableAdoptReplace`. -/
def handleTableAdoptReplaceMark (existing : Handle) (replacement : Option KObject) (refcount : Nat)
    (requestedRights : Rights) (expectedType : KObjectType) :
    Section (Except ErrorCode (DecodedHandle × KObject)) :=
  match decodeHandleNospec existing, replacement with
  | none, _ => .ok (.error .invalidArgument, table)
  | some _, none => .ok (.error .invalidArgument, table)
  | some decoded, some replacement =>
    if replacement.type = .invalid ∨ requestedRights = 0 ∨
        ¬Mask.Sub requestedRights kHandleRightAll then .ok (.error .invalidArgument, table)
    else if expectedType ≠ .invalid ∧ replacement.type ≠ expectedType then
      .ok (.error .invalidArgument, table)
    else if ¬Mask.Sub requestedRights (typeAllowedRights replacement.type) then
      .ok (.error .permissionDenied, table)
    else if refcount = 0 then .ok (.error .badState, table)
    else if table.state ≠ .open then .ok (.error .badState, table)
    else
      let slot := table.slots decoded.slot
      -- the type check alone: replacement requires no right on the displaced handle
      match checkSlot slot decoded.generation expectedType 0 with
      | .error code => .ok (.error code, table)
      | .ok _ =>
        if slot.generation = kHandleGenerationMax ∨ table.activeOperations = max32 then
          .ok (.error .overflow, table)
        else
          .ok (.ok (decoded, replacement),
            { table.setSlot decoded.slot { slot with state := .closing } with
              activeOperations := add32 table.activeOperations 1 })

/-- One turn of the second section of `HandleTableAdoptReplace`. `none` means pins remain and the
caller spins. -/
def handleTableAdoptReplaceFinish (replacement : KObject) (requestedRights : Rights)
    : Section (Option HandleAdoptReplaceResult) :=
  let slot := table.slots decoded.slot
  if ¬(slot.state = .closing ∧ slot.generation = decoded.generation) then
    .error .adoptReplaceSlotIdentityChanged
  else if slot.acquisitionPins = 0 then
    let generation := add32 slot.generation 1
    let handle := handleEncode decoded.slot generation
    if handle = kHandleInvalid then .error .failedToEncodeAdoptedReplacement
    else
      let adopted := { slot with
        generation, obj := some replacement, rights := requestedRights, state := .live }
      if ¬table.activeOperations > 0 then .error .adoptReplaceOperationUnderflow
      else
        .ok (slot.obj.map fun displaced => ⟨handle, displaced⟩,
          { table.setSlot decoded.slot adopted with
            activeOperations := sub32 table.activeOperations 1 })
  else .ok (none, table)

/-- What the first section of `HandleTableDrain` tells its caller to do next. -/
inductive DrainRole where
  | done | owner | waiter
  deriving DecidableEq, Repr

def handleTableDrainBegin : Section DrainRole :=
  match table.state with
  | .closed => .ok (.done, table)
  | .open => .ok (.owner, { table with state := .draining })
  | .draining => .ok (.waiter, table)

def handleTableDrainPoll : Bool := table.activeOperations = 0

def handleTableDrainWait : Bool := table.state = .closed

/-- The body of the row loop of `HandleTableDrain`: the reference it detaches and the row it leaves
behind. -/
def handleTableDrainSlot (victimCount : Nat) (slot : HandleSlot) :
    Except Kassert (Option KObject × HandleSlot) :=
  if ¬(slot.state ≠ .closing ∧ slot.acquisitionPins = 0) then .error .drainReachedNonQuiescentSlot
  else if slot.state = .reserved then
    if ¬(slot.obj = none ∧ slot.rights ≠ 0 ∧ slot.reservationNonce ≠ 0 ∧
        slot.reservedType ≠ .invalid) then .error .drainReachedCorruptReservedSlot
    else
      .ok (none, { slot with
        rights := 0, reservationNonce := 0, reservedType := .invalid,
        state := closedStateFor slot })
  else if slot.state ≠ .live then .ok (none, slot)
  else if ¬(slot.obj ≠ none ∧ slot.reservationNonce = 0 ∧ slot.reservedType = .invalid ∧
      victimCount < kHandleTableCapacity) then .error .drainLiveSlotInvariantFailed
  else
    .ok (slot.obj, { slot with
      obj := none, rights := 0, reservationNonce := 0, reservedType := .invalid,
      state := closedStateFor slot })

/-- The row loop of `HandleTableDrain`, collecting the detached references. -/
def handleTableDrainRows : List (Fin kHandleTableCapacity) → List KObject → HandleTable →
    Section (List KObject)
  | [], victims, table => .ok (victims, table)
  | index :: rest, victims, table =>
    match handleTableDrainSlot victims.length (table.slots index) with
    | .error failed => .error failed
    | .ok (victim, slot) =>
      handleTableDrainRows rest (victims ++ victim.toList) (table.setSlot index slot)

/-- The rows the drain loop visits: every row but the sentinel row zero. -/
def drainIndices : List (Fin kHandleTableCapacity) :=
  (List.finRange kHandleTableCapacity).tail

def handleTableDrainDetach : Section (List KObject) :=
  if table.state ≠ .draining then .error .drainOwnerLostTableState
  else handleTableDrainRows drainIndices [] table

def handleTableDrainComplete : Section Unit :=
  if table.state ≠ .draining then .error .drainCompletionLostTableState
  else .ok ((), { table with state := .closed })

end

end DuetOS
