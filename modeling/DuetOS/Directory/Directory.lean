import DuetOS.Directory.Row

/-!
# The locked sections of the service directory

Each function is one section under the directory lock, with what the call has learned before it as
arguments. A call that is done returns its result; one that goes on returns what it carries to its
next section.
-/

namespace DuetOS.Directory

open Word DuetOS.Lifecycle Function

inductive ServiceEndpointStatus where
  | ok | invalidArgument | notInitialized | alreadyInitialized | corruptState | capacityExhausted
  | generationExhausted | channelCreateFailed | notPublished | alreadyPublished | closing | drained
  | staleIdentity | staleActivation | staleOwner | busy | invalidCleanup | resourceReleaseFailed
  | requestRejected
  deriving DecidableEq

inductive ServiceDirectoryState where
  | uninitialized | open
  deriving DecidableEq

def kDirectoryInitializeReady : Nat := 2

structure ServiceDirectory where
  initialized : Nat
  state : ServiceDirectoryState
  (endpointOwner deferredScanHint : Nat)
  rows : Fin kServiceDirectoryCapacity → ServiceDirectoryRow

section

variable (row : ServiceDirectoryRow) (directory : ServiceDirectory) (name : ServiceDirectoryName)
  (key : ServiceDirectoryAcceptedChannelKey) (service : ServiceKey) (owner : ServiceInstanceToken)
  (serverProcess : ProcessKey) (credential : ServiceEndpointCredentialSnapshot)

def ServiceDirectory.setRow (index : Fin kServiceDirectoryCapacity) (row : ServiceDirectoryRow) :
    ServiceDirectory :=
  { directory with rows := update directory.rows index row }

def directoryIsCanonicalLocked : Bool :=
  directory.state = .open ∧ directory.endpointOwner ≠ 0 ∧
    directory.deferredScanHint < kServiceDirectoryDeferredAcceptedCapacity ∧
    ∀ index, rowIsCanonical (directory.rows index) ∧
      ((directory.rows index).occupied → (directory.rows index).key.slot = index)

def readyStatus : ServiceDirectoryStatus :=
  if directory.initialized = kDirectoryInitializeReady then .ok else .notInitialized

/-- What a call finds when it first takes the lock: whether the directory is initialised and
canonical. -/
def enterStatus : ServiceDirectoryStatus :=
  if readyStatus directory ≠ .ok then readyStatus directory
  else if ¬directoryIsCanonicalLocked directory then .corruptState
  else .ok

def resolveExactLocked (key : ServiceKey) : Option (Fin kServiceDirectoryCapacity) :=
  if serviceKeyIsValid key then
    if h : key.slot < kServiceDirectoryCapacity then
      if (directory.rows ⟨key.slot, h⟩).occupied ∧ (directory.rows ⟨key.slot, h⟩).key = key then
        some ⟨key.slot, h⟩
      else none
    else none
  else none

abbrev LastServiceGenerations := Fin kServiceDirectoryCapacity → Nat

/-- C++ `AllocateServiceGeneration`, `none` for 0. -/
def allocateServiceGeneration (last : LastServiceGenerations)
    (slot : Fin kServiceDirectoryCapacity) : Option Nat :=
  if last slot < kServiceKeyGenerationMaximum then some (last slot + 1) else none

structure ServiceDirectoryReserveResult where
  status : ServiceDirectoryStatus
  reservation : ServiceRegistrationReservation
  deriving DecidableEq

def reserveFailure (status : ServiceDirectoryStatus) : ServiceDirectoryReserveResult :=
  ⟨status, kInvalidServiceRegistrationReservation⟩

/-- What conflicts with a new registration, in the order of the rows. -/
def registrationConflict : Option ServiceDirectoryStatus :=
  (List.finRange kServiceDirectoryCapacity).findSome? fun index =>
    let row := directory.rows index
    if ¬row.occupied then none
    else if nameEquals row.name name then some .nameConflict
    else if row.owner.start.serviceIdentity = owner.start.serviceIdentity then some .serviceConflict
    else none

/-- The second loop of `ServiceDirectoryReserveRegistration`. -/
def reserveRow (name : ServiceDirectoryName) (manifestSlot : Nat) (owner : ServiceInstanceToken)
    (credential : ServiceEndpointCredentialSnapshot) :
    List (Fin kServiceDirectoryCapacity) → Bool → ServiceDirectory → LastServiceGenerations →
      ServiceDirectoryReserveResult × ServiceDirectory × LastServiceGenerations
  | [], generationExhausted, directory, last =>
    (reserveFailure (if generationExhausted then .generationExhausted else .capacityExhausted),
      directory, last)
  | slot :: slots, generationExhausted, directory, last =>
    let row := directory.rows slot
    if row.state ≠ .empty then
      reserveRow name manifestSlot owner credential slots generationExhausted directory last
    else
      match allocateServiceGeneration last slot with
      | none =>
        reserveRow name manifestSlot owner credential slots true
          (directory.setRow slot (.zero .retired)) last
      | some generation =>
        (⟨.ok, ⟨⟨slot, generation⟩, generation⟩⟩, directory.setRow slot { row with
              name, owner, ownerCredential := credential, key := ⟨slot, generation⟩,
              reservationAuthority := generation, manifestSlot, state := .reserved },
          update last slot generation)

def serviceDirectoryReserveRegistration (last : LastServiceGenerations)
    (name : ServiceDirectoryName)
    (manifestSlot : Nat) (owner : ServiceInstanceToken)
    (credential : ServiceEndpointCredentialSnapshot) :
    ServiceDirectoryReserveResult × ServiceDirectory × LastServiceGenerations :=
  if ¬serviceDirectoryNameIsCanonical name ∨ manifestSlot ≥ kServiceDirectoryCapacity ∨
      ¬serviceInstanceTokenIsValid owner ∨
      ¬serviceEndpointCredentialSnapshotIsCanonical credential then
    (reserveFailure .invalidArgument, directory, last)
  else if enterStatus directory ≠ .ok then (reserveFailure (enterStatus directory), directory, last)
  else
    match registrationConflict directory name owner with
    | some status => (reserveFailure status, directory, last)
    | none =>
      reserveRow name manifestSlot owner credential (List.finRange kServiceDirectoryCapacity) false
        directory last

/-- The row of `service`, when `owner` owns it. -/
def resolveOwned : Except ServiceDirectoryStatus (Fin kServiceDirectoryCapacity) :=
  match resolveExactLocked directory service with
  | none => .error .staleKey
  | some index =>
    if (directory.rows index).owner ≠ owner then .error .ownerMismatch else .ok index

def serviceDirectoryPublishRegistration (reservation : ServiceRegistrationReservation)
    (owner : ServiceInstanceToken)
    : ServiceDirectoryStatus × ServiceDirectory :=
  if ¬serviceRegistrationReservationIsValid reservation ∨ ¬serviceInstanceTokenIsValid owner then
    (.invalidArgument, directory)
  else if enterStatus directory ≠ .ok then (enterStatus directory, directory)
  else
    match resolveOwned directory reservation.service owner with
    | .error status => (status, directory)
    | .ok index =>
      let row := directory.rows index
      if row.state = .closing then (.closing, directory)
      else if row.state ≠ .reserved ∨
        row.reservationAuthority ≠ reservation.authorityGeneration then
        (.reservationConsumed, directory)
      else
        (.ok, directory.setRow index
          { row with reservationAuthority := 0, ready := false, state := .active })

def serviceDirectoryCommitJointReady : ServiceDirectoryStatus × ServiceDirectory :=
  if ¬serviceKeyIsValid service ∨
    ¬serviceInstanceTokenIsValid owner then (.invalidArgument, directory)
  else if enterStatus directory ≠ .ok then (enterStatus directory, directory)
  else
    match resolveOwned directory service owner with
    | .error status => (status, directory)
    | .ok index =>
      let row := directory.rows index
      if row.state = .closing then (.closing, directory)
      else if row.state ≠ .active then (.notReady, directory)
      else (.ok, directory.setRow index { row with ready := true })

def serviceDirectoryAbortRegistration (reservation : ServiceRegistrationReservation)
    (owner : ServiceInstanceToken) :
    ServiceDirectoryStatus × ServiceDirectory :=
  if ¬serviceRegistrationReservationIsValid reservation ∨ ¬serviceInstanceTokenIsValid owner then
    (.invalidArgument, directory)
  else if enterStatus directory ≠ .ok then (enterStatus directory, directory)
  else
    match resolveOwned directory reservation.service owner with
    | .error status => (status, directory)
    | .ok index =>
      let row := directory.rows index
      if (row.state ≠ .reserved ∧ row.state ≠ .closing) ∨
          row.reservationAuthority ≠ reservation.authorityGeneration then
        (.reservationConsumed, directory)
      else
        let consumed := { row with reservationAuthority := 0 }
        let aborted :=
          if row.state = .reserved then
            { consumed with ready := false, state := .closing, closeReason := .registrationAbort }
          else consumed
        (.ok, directory.setRow index (tryRecycleLocked aborted).2)

structure ServiceDirectoryLookupResult where
  status : ServiceDirectoryStatus
  pin : ServiceDirectoryOperationPin
  deriving DecidableEq

def lookupFailure (status : ServiceDirectoryStatus) : ServiceDirectoryLookupResult :=
  ⟨status, kInvalidServiceDirectoryOperationPin⟩

/-- The operation slots in the order in which a search from `hint` visits them. -/
def operationOrder (hint : Nat) : List (Fin kServiceDirectoryOperationCapacity) :=
  (List.range kServiceDirectoryOperationCapacity).map fun offset =>
    ⟨(hint + offset) % kServiceDirectoryOperationCapacity, Nat.mod_lt _ (by decide)⟩

def serviceDirectoryLookup : ServiceDirectoryLookupResult × ServiceDirectory :=
  if ¬serviceDirectoryNameIsCanonical name then (lookupFailure .invalidArgument, directory)
  else if enterStatus directory ≠ .ok then (lookupFailure (enterStatus directory), directory)
  else
    match (List.finRange kServiceDirectoryCapacity).find? fun index =>
        (directory.rows index).occupied ∧ nameEquals (directory.rows index).name name with
    | none => (lookupFailure .notFound, directory)
    | some index =>
      let row := directory.rows index
      if row.state = .reserved then (lookupFailure .notReady, directory)
      else if row.state = .closing then (lookupFailure .closing, directory)
      else if row.state ≠ .active then (lookupFailure .corruptState, directory)
      else
        match (operationOrder row.nextOperationHint).find? fun slot =>
            (row.operationSlots slot).state = .free ∧
              (row.operationSlots slot).generation ≠
                kServiceDirectoryOperationGenerationMaximum with
        | none => (lookupFailure .operationIdentityExhausted, directory)
        | some slot =>
          let generation := add32 (row.operationSlots slot).generation 1
          (⟨.ok, ⟨row.key, slot, generation⟩⟩, directory.setRow index { row with
              operationSlots := update row.operationSlots slot ⟨generation, .live⟩
              activeOperations := row.activeOperations + 1
              nextOperationHint := (slot + 1) % kServiceDirectoryOperationCapacity })

def serviceDirectoryReleaseOperation (pin : ServiceDirectoryOperationPin) :
    ServiceDirectoryStatus × ServiceDirectory :=
  if ¬serviceDirectoryOperationPinIsValid pin then (.invalidArgument, directory)
  else if enterStatus directory ≠ .ok then (enterStatus directory, directory)
  else
    match resolveExactLocked directory pin.service with
    | none => (.staleKey, directory)
    | some index =>
      let row := directory.rows index
      if validateOperationLocked row pin ≠ .ok then (validateOperationLocked row pin, directory)
      else if h : pin.slot < kServiceDirectoryOperationCapacity then
        let generation := (row.operationSlots ⟨pin.slot, h⟩).generation
        let released := { row with
          operationSlots := update row.operationSlots ⟨pin.slot, h⟩ ⟨generation,
              if generation = kServiceDirectoryOperationGenerationMaximum then .retired else .free⟩
          activeOperations := row.activeOperations - 1 }
        (.ok, directory.setRow index (tryRecycleLocked released).2)
      else (.invalidArgument, directory)

def connectCheck (pin : ServiceDirectoryOperationPin) (protocolServiceIdentity : Nat) :
    ServiceDirectoryStatus :=
  if ¬serviceDirectoryOperationPinIsValid pin then .invalidArgument
  else if enterStatus directory ≠ .ok then enterStatus directory
  else
    match resolveExactLocked directory pin.service with
    | none => .staleKey
    | some index =>
      let row := directory.rows index
      if row.state = .closing then .closing
      else if row.state ≠ .active then .notReady
      else if ¬row.ready then .notReady
      else if validateOperationLocked row pin ≠ .ok then validateOperationLocked row pin
      else if protocolServiceIdentity ≠ row.owner.start.serviceIdentity then .protocolMismatch
      else .ok

def connectEnqueue (pin : ServiceDirectoryOperationPin) (receipt : ServiceEndpointOwnerReceipt)
    (acceptor : KObject) :
    ServiceDirectoryStatus × ServiceDirectory :=
  if ¬directoryIsCanonicalLocked directory then (.corruptState, directory)
  else
    match resolveExactLocked directory pin.service with
    | none => (.staleKey, directory)
    | some index =>
      let row := directory.rows index
      if row.state = .closing then (.closing, directory)
      else if row.state ≠ .active then (.notReady, directory)
      else if ¬row.ready then (.notReady, directory)
      else if validateOperationLocked row pin ≠
        .ok then (validateOperationLocked row pin, directory)
      else if row.acceptCount = kServiceDirectoryAcceptCapacity then (.queueFull, directory)
      else
        let enqueued := enqueueTailLocked row
          ⟨⟨receipt, some acceptor, false⟩, receipt.channel, .pendingClientPublish⟩
        (.ok, directory.setRow index
          { enqueued with externalPublishers := row.externalPublishers + 1 })

/-- A publisher is done with the row: `none` when the row counts no publisher. -/
def leavePublisher (index : Fin kServiceDirectoryCapacity) (row : ServiceDirectoryRow) :
    Option ServiceDirectory :=
  if row.externalPublishers = 0 then none
  else
    some (directory.setRow index
      (tryRecycleLocked { row with externalPublishers := row.externalPublishers - 1 }).2)

/-- The section of `ServiceDirectoryConnect` after the client handle was not published: whether the
row was corrupt, and the queue entry that was taken back. -/
def connectUnpublish (channel : ServiceEndpointChannelKey) :
    Bool × Option ServiceDirectoryQueuedChannel × ServiceDirectory :=
  match resolveExactLocked directory service with
  | none => (false, none, directory)
  | some index =>
    let row := directory.rows index
    let removed := removeQueuedLocked row channel
    let rest := removed.elim row Prod.snd
    match leavePublisher directory index rest with
    | none => (true, removed.map Prod.fst, directory.setRow index rest)
    | some directory' => (false, removed.map Prod.fst, directory')

/-- The queue with entry `offset` marked Ready. -/
def ServiceDirectoryRow.markReady (offset : Nat) : ServiceDirectoryRow :=
  { row with
    acceptQueue := update row.acceptQueue ((row.acceptHead + offset) %
      kServiceDirectoryAcceptCapacity)
      { row.queuedAt offset with state := .ready } }

structure ConnectCommit where
  (corrupt readyCommitted closingObserved : Bool)
  removed : Option ServiceDirectoryQueuedChannel
  deriving DecidableEq

/-- The section of `ServiceDirectoryConnect` after the client handle was published and the pair was
activated or not. -/
def connectCommit (channel : ServiceEndpointChannelKey) (activated : Bool) :
    ConnectCommit × ServiceDirectory :=
  match resolveExactLocked directory service with
  | none => (⟨false, false, false, none⟩, directory)
  | some index =>
    let row := directory.rows index
    let pending := if activated ∧ row.state = .active then
        (List.range row.acceptCount).find? fun offset =>
          (row.queuedAt offset).channel = channel ∧
            (row.queuedAt offset).state = .pendingClientPublish
      else none
    let removed := if pending = none ∧
      row.state = .active then removeQueuedLocked row channel else none
    let committed := pending.elim row row.markReady
    let rest := removed.elim committed Prod.snd
    match leavePublisher directory index rest with
    | none =>
      (⟨true, pending.isSome, row.state = .closing, removed.map Prod.fst⟩,
        directory.setRow index rest)
    | some directory' =>
      (⟨false, pending.isSome, row.state = .closing, removed.map Prod.fst⟩, directory')

/-- The checks `ServiceDirectoryAccept` makes on the row before it looks at the queue. -/
def acceptResolve : Except ServiceDirectoryStatus (Fin kServiceDirectoryCapacity) :=
  match resolveOwned directory service owner with
  | .error status => .error status
  | .ok index =>
    let row := directory.rows index
    if processKeyFromInstance row.owner.process ≠ serverProcess then .error .ownerMismatch
    else if row.ownerCredential ≠ credential then .error .credentialMismatch
    else if row.state = .closing then .error .closing
    else if row.state ≠ .active then .error .notReady
    else .ok index

def acceptCheck : ServiceDirectoryStatus :=
  if ¬serviceKeyIsValid service ∨ ¬serviceInstanceTokenIsValid owner ∨
    ¬processKeyIsValid serverProcess ∨
      ¬serviceEndpointCredentialSnapshotIsCanonical credential then .invalidArgument
  else if enterStatus directory ≠ .ok then enterStatus directory
  else
    match acceptResolve directory service owner serverProcess credential with
    | .error status => status
    | .ok index =>
      let row := directory.rows index
      if row.acceptCount = 0 then .queueEmpty
      else if (row.acceptQueue row.acceptHead).state ≠ .ready then .notReady
      else if ¬∃ slot, (row.acceptedChannels slot).state = .free then .acceptedCapacityExhausted
      else .ok

def acceptClaim :
    Except ServiceDirectoryStatus (ServiceDirectoryAcceptedChannelKey × Option KObject) ×
      ServiceDirectory :=
  if ¬directoryIsCanonicalLocked directory then (.error .corruptState, directory)
  else
    match acceptResolve directory service owner serverProcess credential with
    | .error status => (.error status, directory)
    | .ok index =>
      let row := directory.rows index
      if row.acceptCount = 0 ∨ (row.acceptQueue row.acceptHead).state ≠ .ready then
        (.error .notReady, directory)
      else
        let (queued, dequeued) := dequeueLocked row
        match allocateAcceptedLocked dequeued queued.channel serverProcess with
        | none =>
          (.error .acceptedCapacityExhausted,
            directory.setRow index (enqueueFrontLocked dequeued queued))
        | some (slot, allocated) =>
          let accepted := { allocated.acceptedChannels slot with owner := queued.owned.owner }
          (.ok (accepted.key, queued.owned.unpublishedAcceptor), directory.setRow index
            { allocated.setAccepted slot accepted allocated.acceptedCount with
              externalPublishers := row.externalPublishers + 1 })

structure AcceptCommit where
  (corrupt committed restored : Bool)

/-- The section of `ServiceDirectoryAccept` after the server handle was published, or was not. -/
def acceptCommit (published : Option Nat) (acceptor : Option KObject) :
    AcceptCommit × ServiceDirectory :=
  match resolveExactLocked directory key.service with
  | none => (⟨false, false, false⟩, directory)
  | some index =>
    let row := directory.rows index
    let (committed, restored, rest) :=
      match resolveAcceptedLocked row key with
      | none => (false, false, row)
      | some slot =>
        let accepted := row.acceptedChannels slot
        match published with
        | some handle =>
          -- a row that went Closing meanwhile keeps a canonical tracker for the close retry
          (row.state = .active ∧ accepted.state = .publishing, false,
            row.setAccepted slot { accepted with serverHandle := handle, state := .published }
              row.acceptedCount)
        | none =>
          if row.state = .active ∧ accepted.state = .publishing then
            let restored := enqueueFrontLocked row
              ⟨⟨accepted.owner, acceptor, false⟩, accepted.key.channel, .ready⟩
            (false, true, restored.setAccepted slot (clearAcceptedLocked accepted)
              (row.acceptedCount - 1))
          else (false, false, row)
    match leavePublisher directory index rest with
    | none => (⟨true, committed, restored⟩, directory.setRow index rest)
    | some directory' => (⟨false, committed, restored⟩, directory')

structure ServiceDirectoryReleaseAcceptedResult where
  status : ServiceDirectoryStatus
  endpointStatus : ServiceEndpointStatus
  deriving DecidableEq

def releaseBegin :
    Except ServiceDirectoryReleaseAcceptedResult ServiceEndpointOwnerReceipt × ServiceDirectory :=
  if ¬serviceDirectoryAcceptedChannelKeyIsValid key then (.error ⟨.invalidArgument, .ok⟩, directory)
  else if enterStatus directory ≠ .ok then (.error ⟨enterStatus directory, .ok⟩, directory)
  else
    match resolveExactLocked directory key.service with
    | none => (.error ⟨.staleKey, .ok⟩, directory)
    | some index =>
      let row := directory.rows index
      match resolveAcceptedLocked row key with
      | none => (.error ⟨.staleAcceptedChannel, .ok⟩, directory)
      | some slot =>
        let accepted := row.acceptedChannels slot
        if accepted.state = .publishing ∨ accepted.releaseDriverActive then
          (.error ⟨.busy, .busy⟩, directory)
        else if accepted.state ≠ .published ∧ accepted.state ≠ .releasing then
          (.error ⟨.staleAcceptedChannel, .ok⟩, directory)
        else
          (.ok accepted.owner, directory.setRow index
            (row.setAccepted slot { accepted with state := .releasing, releaseDriverActive := true }
              row.acceptedCount))

/-- The second section of `ServiceDirectoryReleaseAcceptedChannel`, with what the endpoint owner
returned. -/
def releaseEnd (endpointStatus : ServiceEndpointStatus) :
    ServiceDirectoryReleaseAcceptedResult × ServiceDirectory :=
  if ¬directoryIsCanonicalLocked directory then (⟨.corruptState, endpointStatus⟩, directory)
  else
    match resolveExactLocked directory key.service with
    | none => (⟨.corruptState, endpointStatus⟩, directory)
    | some index =>
      let row := directory.rows index
      match resolveAcceptedLocked row key with
      | none => (⟨.corruptState, endpointStatus⟩, directory)
      | some slot =>
        let accepted := row.acceptedChannels slot
        if accepted.state ≠ .releasing ∨ ¬accepted.releaseDriverActive then
          (⟨.corruptState, endpointStatus⟩, directory)
        else if endpointStatus = .ok then
          (⟨.ok, .ok⟩, directory.setRow index (tryRecycleLocked
              (row.setAccepted slot (clearAcceptedLocked accepted) (row.acceptedCount - 1))).2)
        else
          (⟨if endpointStatus = .busy then .busy else .endpointReleaseFailed, endpointStatus⟩,
            directory.setRow index
              (row.setAccepted slot { accepted with releaseDriverActive := false }
                row.acceptedCount))

def acceptedSlots : List (Fin kServiceDirectoryCapacity × Fin kServiceDirectoryAcceptedCapacity) :=
  (List.finRange kServiceDirectoryCapacity).flatMap fun index =>
    (List.finRange kServiceDirectoryAcceptedCapacity).map fun slot => (index, slot)

/-- The accepted channels that were published to `serverProcess` under `serverHandle`. -/
def publishedAs (serverHandle : Nat) : List ServiceDirectoryAcceptedChannelKey :=
  acceptedSlots.filterMap fun (index, slot) =>
    let accepted := (directory.rows index).acceptedChannels slot
    if (directory.rows index).occupied ∧
      (accepted.state = .published ∨ accepted.state = .releasing) ∧
        accepted.serverProcess = serverProcess ∧ accepted.serverHandle = serverHandle then
      some accepted.key
    else none

def releaseHandleResolve (serverHandle : Nat) :
    Except ServiceDirectoryReleaseAcceptedResult ServiceDirectoryAcceptedChannelKey :=
  if ¬processKeyIsValid serverProcess ∨ handleDecode serverHandle = none then
    .error ⟨.invalidArgument, .ok⟩
  else if enterStatus directory ≠ .ok then .error ⟨enterStatus directory, .ok⟩
  else
    match publishedAs directory serverProcess serverHandle with
    | [] => .error ⟨.notFound, .ok⟩
    | [key] => .ok key
    | _ => .error ⟨.corruptState, .ok⟩

structure ServiceDirectoryDeferAcceptedProcessResult where
  status : ServiceDirectoryStatus
  (newlyDeferredChannels deferredChannels : Nat)
  deriving DecidableEq

/-- The tracker belongs to `serverProcess`. -/
def ServiceDirectoryAcceptedChannel.servedBy (accepted : ServiceDirectoryAcceptedChannel)
    (serverProcess : ProcessKey) : Bool :=
  accepted.occupied ∧ accepted.serverProcess = serverProcess

/-- The row with every tracker of `serverProcess` deferred. -/
def ServiceDirectoryRow.deferProcess : ServiceDirectoryRow :=
  { row with
    acceptedChannels := fun slot =>
      if row.occupied ∧ (row.acceptedChannels slot).servedBy serverProcess then
        { row.acceptedChannels slot with processTeardownDeferred := true }
      else row.acceptedChannels slot }

def serviceDirectoryDeferAcceptedProcess :
    ServiceDirectoryDeferAcceptedProcessResult × ServiceDirectory :=
  if ¬processKeyIsValid serverProcess then (⟨.invalidArgument, 0, 0⟩, directory)
  else if enterStatus directory ≠ .ok then (⟨enterStatus directory, 0, 0⟩, directory)
  else
    let mine := acceptedSlots.filter fun (index, slot) =>
      (directory.rows index).occupied ∧
        ((directory.rows index).acceptedChannels slot).servedBy serverProcess
    let fresh := mine.filter fun (index, slot) =>
      ¬((directory.rows index).acceptedChannels slot).processTeardownDeferred
    (⟨.ok, fresh.length, mine.length⟩,
      { directory with rows := fun index => (directory.rows index).deferProcess serverProcess })

/-- The tracker number `flattened` over all rows. -/
def ServiceDirectory.acceptedAt (flattened : Fin kServiceDirectoryDeferredAcceptedCapacity) :
    ServiceDirectoryRow × ServiceDirectoryAcceptedChannel :=
  let row := directory.rows ⟨flattened / kServiceDirectoryAcceptedCapacity,
    Nat.div_lt_of_lt_mul (Nat.lt_of_lt_of_eq flattened.isLt (Nat.mul_comm ..))⟩
  (row, row.acceptedChannels
    ⟨flattened % kServiceDirectoryAcceptedCapacity, Nat.mod_lt _ (by decide)⟩)

/-- Is tracker number `flattened` deferred? -/
def ServiceDirectory.deferredAt
    (flattened : Fin kServiceDirectoryDeferredAcceptedCapacity) : Bool :=
  (directory.acceptedAt flattened).1.occupied ∧ (directory.acceptedAt flattened).2.occupied ∧
    (directory.acceptedAt flattened).2.processTeardownDeferred

/-- The scan of `ServiceDirectoryDriveDeferredAccepted`: from tracker `position` on, while it has
not seen all of the `left` trackers and has room in its batch. It returns the batch and where it
stopped. -/
def scanDeferred (directory : ServiceDirectory) :
    Nat → Nat → List ServiceDirectoryAcceptedChannelKey →
    List ServiceDirectoryAcceptedChannelKey × Nat
  | 0, position, batch => (batch, position % kServiceDirectoryDeferredAcceptedCapacity)
  | left + 1, position, batch =>
    if batch.length < kServiceDirectoryProcessTeardownBatchCapacity then
      let flattened : Fin kServiceDirectoryDeferredAcceptedCapacity :=
        ⟨position % kServiceDirectoryDeferredAcceptedCapacity, Nat.mod_lt _ (by decide)⟩
      scanDeferred directory left (position + 1)
        (if directory.deferredAt flattened then batch ++ [(directory.acceptedAt flattened).2.key]
        else batch)
    else (batch, position % kServiceDirectoryDeferredAcceptedCapacity)

def driveBegin : Except ServiceDirectoryStatus (List ServiceDirectoryAcceptedChannelKey) ×
    ServiceDirectory :=
  if enterStatus directory ≠ .ok then (.error (enterStatus directory), directory)
  else
    let (batch, hint) := scanDeferred directory kServiceDirectoryDeferredAcceptedCapacity
      directory.deferredScanHint []
    (.ok batch, { directory with deferredScanHint := hint })

def drivePending : Option Nat :=
  if ¬directoryIsCanonicalLocked directory then none
  else
    some (acceptedSlots.countP fun (index, slot) =>
      (directory.rows index).occupied ∧ ((directory.rows index).acceptedChannels slot).occupied ∧
        ((directory.rows index).acceptedChannels slot).processTeardownDeferred)

structure ServiceDirectoryCloseResult where
  status : ServiceDirectoryStatus
  endpointStatus : ServiceEndpointStatus
  drainedChannels : Nat
  deriving DecidableEq

def drainQueue : Nat → ServiceDirectoryRow → List ServiceDirectoryOwnedChannel →
    List ServiceDirectoryOwnedChannel × ServiceDirectoryRow
  | 0, row, batch => (batch, row)
  | count + 1, row, batch =>
    let (queued, rest) := dequeueLocked row
    drainQueue count rest (batch ++ [queued.owned])

/-- The loop of `CloseEntry` over the trackers `slots`: those that process teardown deferred
stay. -/
def drainAccepted : List (Fin kServiceDirectoryAcceptedCapacity) → ServiceDirectoryRow →
    List ServiceDirectoryOwnedChannel → List ServiceDirectoryOwnedChannel × ServiceDirectoryRow
  | [], row, batch => (batch, row)
  | slot :: slots, row, batch =>
    let accepted := row.acceptedChannels slot
    if ¬accepted.occupied ∨ accepted.processTeardownDeferred then drainAccepted slots row batch
    else
      drainAccepted slots
        (row.setAccepted slot (clearAcceptedLocked accepted) (row.acceptedCount - 1))
        (batch ++ [⟨accepted.owner, none, false⟩])

/-- The channels `CloseEntry` takes out of the row to drain them, and the row without them. -/
def closeBatch : List ServiceDirectoryOwnedChannel × ServiceDirectoryRow :=
  if row.closingChannels.length ≠ 0 then (row.closingChannels, { row with closingChannels := [] })
  else
    let (queued, rest) := drainQueue row.acceptCount row []
    drainAccepted (List.finRange kServiceDirectoryAcceptedCapacity) rest queued

/-- The row when `CloseEntry` has found it: a Reserved or Active one starts to close. -/
def startClosing (reason : ServiceDirectoryCloseReason) : ServiceDirectoryRow :=
  if row.state = .reserved ∨ row.state = .active then
    { row with ready := false, state := .closing, closeReason := reason }
  else row

/-- The first section of `CloseEntry`: the batch to drain, or the result when there is none. -/
def closeBegin (reason : ServiceDirectoryCloseReason) :
    Except ServiceDirectoryCloseResult (List ServiceDirectoryOwnedChannel) × ServiceDirectory :=
  if ¬serviceKeyIsValid service ∨ ¬serviceInstanceTokenIsValid owner ∨ reason = .none ∨
      reason = .registrationAbort then (.error ⟨.invalidArgument, .ok, 0⟩, directory)
  else if enterStatus directory ≠ .ok then (.error ⟨enterStatus directory, .ok, 0⟩, directory)
  else
    match resolveOwned directory service owner with
    | .error status => (.error ⟨status, .ok, 0⟩, directory)
    | .ok index =>
      let row := startClosing (directory.rows index) reason
      if row.state ≠ .closing then (.error ⟨.staleKey, .ok, 0⟩, directory)
      else if row.closeDriverActive ≠ 0 ∨ hasAcceptedReleaseDriverLocked row then
        (.error ⟨.busy, .ok, 0⟩, directory.setRow index row)
      else
        let (batch, rest) := closeBatch row
        if batch.length = 0 then
          let (recycled, rest) := tryRecycleLocked rest
          (.error ⟨if recycled then .ok else .busy, .ok, 0⟩, directory.setRow index rest)
        else
          (.ok batch, directory.setRow index
            { rest with closeBatchOutstanding := batch.length, closeDriverActive := 1 })

/-- The second section of `CloseEntry`, with the channels that could not be drained. -/
def closeEnd (count : Nat) (failed : List ServiceDirectoryOwnedChannel)
    (firstFailure : ServiceEndpointStatus)
    (drained : Nat) : ServiceDirectoryCloseResult × ServiceDirectory :=
  if ¬directoryIsCanonicalLocked directory then (⟨.corruptState, firstFailure, drained⟩, directory)
  else
    match resolveOwned directory service owner with
    | .error _ => (⟨.corruptState, firstFailure, drained⟩, directory)
    | .ok index =>
      let row := directory.rows index
      if row.state ≠ .closing ∨ row.closeDriverActive ≠ 1 ∨ row.closeBatchOutstanding ≠ count then
        (⟨.corruptState, firstFailure, drained⟩, directory)
      else
        let (recycled, rest) := tryRecycleLocked
          { row with closeDriverActive := 0, closeBatchOutstanding := 0, closingChannels := failed }
        (if failed.length ≠ 0 then ⟨.endpointReleaseFailed, firstFailure, drained⟩
          else ⟨if recycled then .ok else .busy, .ok, drained⟩, directory.setRow index rest)

end

/-- C++ `ServiceDirectoryDrainOwnedChannel`, when the endpoint owner returns `endpointStatus`. -/
def serviceDirectoryDrainOwnedChannel (channel : ServiceDirectoryOwnedChannel)
    (endpointStatus : ServiceEndpointStatus) :
    ServiceEndpointStatus × ServiceDirectoryOwnedChannel :=
  if serviceDirectoryOwnedChannelIsEmpty channel ∨
    ¬serviceEndpointOwnerReceiptIsValid channel.owner then
    (.invalidArgument, channel)
  else if channel.releaseDriverActive then (.busy, channel)
  else if endpointStatus = .ok then (.ok, .zero)
  else (endpointStatus, { channel with unpublishedAcceptor := none, releaseDriverActive := false })

end DuetOS.Directory
