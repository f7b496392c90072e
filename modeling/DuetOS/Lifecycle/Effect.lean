import DuetOS.Lifecycle.Canonical

/-!
# What an operation does

An operation either changes nothing, or moves one row, or starts or finishes the drain. `Move` lists
what can happen to a row; it is indexed by the `Outcome`, which is what the caller learns. Every
invariant and every history below is read off this relation.
-/

namespace DuetOS.Lifecycle

open Word DuetOS.Directory Function List

/-- What the caller of an operation learns about the services. -/
inductive Outcome where
  | quiet
  | exhausted
  | reserved (ticket : ServiceLifecycleStartTicket)
  | failed (ticket : ServiceLifecycleStartTicket)
  | acknowledged (ticket : ServiceLifecycleStartTicket)
  | published (token : ServiceLifecycleInstanceToken)
  | readied (token : ServiceLifecycleInstanceToken)
  | cancelled (ticket : ServiceLifecycleStartTicket)
  | killed (token : ServiceLifecycleInstanceToken)
  | exited (token : ServiceLifecycleInstanceToken)
  | drained (plan : ServiceLifecycleDrainPlan)
  | closed

def Event.outcome : Event → Outcome
  | .reserveStart _ _ _ result =>
    match result.status with
    | .ok => .reserved result.ticket
    | .generationExhausted => .exhausted
    | _ => .quiet
  | .recordSpawnFailure ticket _ status => if status = .ok then .failed ticket else .quiet
  | .acknowledgeCancelledStart ticket _ status =>
    if status = .ok then .acknowledged ticket else .quiet
  | .commitPublication _ _ _ result =>
    if result.status = .ok then .published result.token else .quiet
  | .commitDirectoryPublication _ _ _ result =>
    if result.lifecycleStatus = .ok ∧ result.directoryStatus = .ok then .published result.token
    else .quiet
  | .markReady token result =>
    if result.lifecycleStatus = .ok ∧ result.directoryStatus = .ok then .readied token else .quiet
  | .requestStop _ _ _ result =>
    match result.status with
    | .killRequired => .killed result.instanceToKill
    | .startCancelled => .cancelled result.startToCancel
    | _ => .quiet
  | .observeExit token _ _ status => if status = .ok then .exited token else .quiet
  | .beginDrain _ status plan => if status = .ok then .drained plan else .quiet
  | .finishDrain status => if status = .ok then .closed else .quiet

def Event.ticket : Event → Option ServiceLifecycleStartTicket
  | .recordSpawnFailure ticket _ _ => some ticket
  | .acknowledgeCancelledStart ticket _ _ => some ticket
  | .commitPublication ticket _ _ _ => some ticket
  | .commitDirectoryPublication ticket _ _ _ => some ticket
  | _ => none

def Event.token : Event → Option ServiceLifecycleInstanceToken
  | .markReady token _ => some token
  | .observeExit token _ _ _ => some token
  | _ => none

/-- The start whose builder is done: it failed, was cancelled, or was published. -/
def Outcome.retired : Outcome → Option ServiceLifecycleStartTicket
  | .failed ticket => some ticket
  | .acknowledged ticket => some ticket
  | .published token => some token.start
  | _ => none

def Event.status : Event → ServiceLifecycleStatus
  | .reserveStart _ _ _ result => result.status
  | .recordSpawnFailure _ _ status => status
  | .acknowledgeCancelledStart _ _ status => status
  | .commitPublication _ _ _ result => result.status
  | .commitDirectoryPublication _ _ _ result => result.lifecycleStatus
  | .markReady _ result => result.lifecycleStatus
  | .requestStop _ _ _ result => result.status
  | .observeExit _ _ _ status => status
  | .beginDrain _ status _ => status
  | .finishDrain status => status

def ServiceLifecycleRow.ticket (epoch : Nat) (row : ServiceLifecycleRow) :
    ServiceLifecycleStartTicket :=
  ⟨epoch, ⟨row.transition.serviceIdentity, row.transition.generation⟩⟩

def ServiceLifecycleRow.token (epoch : Nat) (row : ServiceLifecycleRow) :
    ServiceLifecycleInstanceToken :=
  ⟨row.ticket epoch, row.transition.instance⟩

/-- The transition of a running service that was told to stop. -/
def ServiceTransitionState.stopping (state : ServiceTransitionState) : ServiceTransitionState :=
  ⟨state.serviceIdentity, .stopping, state.generation, state.instance, false, false⟩

inductive Move (epoch : Nat) (row : ServiceLifecycleRow) :
    Outcome → ServiceLifecycleRow → Prop where
  | reserve {nowNs : Nat} : row.transition.idle → row.transition.phase ≠ .generationExhausted →
    row.transition.generation ≠ max64 → row.builderState = .none →
    Move epoch row (.reserved
      ⟨epoch, ⟨row.transition.serviceIdentity, add64 row.transition.generation 1⟩⟩) { row with
        transition := ⟨row.transition.serviceIdentity, .starting, add64 row.transition.generation 1,
          kInvalidServiceInstanceKey, true, true⟩
        builderState := .constructing
        ready := false
        lastTransitionNs := nowNs }
  | exhaust {lastTransitionNs : Nat} :
    row.transition.idle → row.transition.generation = max64 → row.builderState = .none →
    Move epoch row .exhausted { row with
        transition := row.transition.settled .generationExhausted
        lastTransitionNs }
  | fail {nowNs : Nat} : row.transition.phase = .starting → row.builderState = .constructing →
    Move epoch row (.failed (row.ticket epoch)) { row with
        transition := row.transition.settled .failed, builderState := .none, ready := false,
        lastTransitionNs := nowNs, spawnFailures := incrementSaturating row.spawnFailures }
  | acknowledge {nowNs : Nat} : row.builderState = .cancelledAwaitingRetirement →
    Move epoch row (.acknowledged (row.ticket epoch))
      { row with builderState := .none, ready := false, lastTransitionNs := nowNs }
  | publish {process : ServiceInstanceKey} {nowNs : Nat} :
    row.transition.phase = .starting → row.builderState = .constructing →
    serviceInstanceKeyIsValid process →
    Move epoch row (.published ⟨row.ticket epoch, process⟩)
      (row.published ⟨row.transition.serviceIdentity, .running, row.transition.generation, process,
        true, false⟩ nowNs)
  | ready : row.transition.phase = .running → row.builderState = .none →
    Move epoch row (.readied (row.token epoch)) { row with ready := true }
  | cancel {nowNs : Nat} : row.transition.phase = .starting →
    Move epoch row (.cancelled (row.ticket epoch))
      (row.stopped (row.transition.settled (stoppedPhase row.transition.generation))
        .cancelledAwaitingRetirement nowNs)
  | kill {nowNs : Nat} : row.transition.phase = .running →
    Move epoch row (.killed (row.token epoch))
      (row.stopped row.transition.stopping row.builderState nowNs)
  | exit {nowNs : Nat} {failed : Bool} : row.transition.live →
    Move epoch row (.exited (row.token epoch)) { row with
        transition := row.transition.settled (if row.transition.phase = .stopping then
          stoppedPhase row.transition.generation else .exited)
        ready := false
        lastTransitionNs := nowNs
        observedExits := incrementSaturating row.observedExits
        failedExits := if failed then incrementSaturating row.failedExits else row.failedExits }

def ServiceLifecycleRow.drained (row : ServiceLifecycleRow) (nowNs : Nat) : ServiceLifecycleRow :=
  if row.transition.phase = .starting then
    row.stopped (row.transition.settled (stoppedPhase row.transition.generation))
      .cancelledAwaitingRetirement nowNs
  else if row.transition.phase = .running then
    row.stopped row.transition.stopping row.builderState nowNs
  else row

def ServiceLifecycleRow.toKill (epoch : Nat) (row : ServiceLifecycleRow) :
    Option ServiceLifecycleInstanceToken :=
  if row.transition.phase = .running then some (row.token epoch) else none

def ServiceLifecycleRow.toCancel (epoch : Nat) (row : ServiceLifecycleRow) :
    Option ServiceLifecycleStartTicket :=
  if row.transition.phase = .starting then some (row.ticket epoch) else none

/-- The rows `indices` after the drain reached them. -/
def ServiceLifecycleBroker.drainedAt (broker : ServiceLifecycleBroker)
    (indices : List (Fin kServiceLifecycleCapacity)) (nowNs : Nat) : ServiceLifecycleBroker :=
  { broker with
    rows := fun index =>
      if indices.contains index then (broker.rows index).drained nowNs else broker.rows index }

/-- What the drain of the rows `indices` asks of the caller. -/
def ServiceLifecycleBroker.planAt (broker : ServiceLifecycleBroker)
    (indices : List (Fin kServiceLifecycleCapacity)) : ServiceLifecycleDrainPlan :=
  ⟨indices.filterMap fun index => (broker.rows index).toKill broker.brokerEpoch,
    indices.filterMap fun index => (broker.rows index).toCancel broker.brokerEpoch⟩

inductive Effect (b : ServiceLifecycleBroker) : Outcome → ServiceLifecycleBroker → Prop where
  | refused : Effect b .quiet b
  | moved {outcome row index} : index.val < b.serviceCount → b.state ≠ .closed →
    (b.state ≠ .open → row.transition.phase ≠ .starting ∧ row.transition.phase ≠ .running) →
    Move b.brokerEpoch (b.rows index) outcome row →
    Effect b outcome (b.setRow index row)
  | drained : b.state = .open → Effect b (.drained (b.planAt b.indices))
      ({ b with state := .draining }.drainedAt b.indices nowNs)
  | closed : b.state = .draining →
    (∀ index ∈ b.indices, (b.rows index).builderState = .none ∧ (b.rows index).transition.idle) →
    Effect b .closed { b with state := .closed }

/-- A status that says the operation changed nothing and hands out nothing. -/
def Refusal (status : ServiceLifecycleStatus) : Prop :=
  status ≠ .ok ∧ status ≠ .corruptState ∧ status ≠ .generationExhausted ∧
    status ≠ .killRequired ∧ status ≠ .startCancelled

instance (status : ServiceLifecycleStatus) : Decidable (Refusal status) :=
  inferInstanceAs (Decidable (_ ∧ _))

lemma epoch_cases {valid : Prop} [Decidable valid] {epoch current : Nat} {status}
    (checked : status =
      if ¬valid then .transitionRejected else if epoch = current then .ok else .staleBrokerEpoch) :
    status = .ok ∧ epoch = current ∨ Refusal status := by
  rw [checked]
  split
  · exact .inr (by decide)
  · split
    next same => exact .inl ⟨rfl, same⟩
    · exact .inr (by decide)

lemma validateTicketEpoch_cases (b ticket) :
    validateTicketEpoch b ticket = .ok ∧ ticket.brokerEpoch = b.brokerEpoch ∨
      Refusal (validateTicketEpoch b ticket) := epoch_cases rfl

lemma validateTokenEpoch_cases (b token) :
    validateTokenEpoch b token = .ok ∧ token.start.brokerEpoch = b.brokerEpoch ∨
      Refusal (validateTokenEpoch b token) := epoch_cases rfl

section Admit

variable {b : ServiceLifecycleBroker}

lemma admit_error (sound : Sound b) (grants : authority = .ok ∨ Refusal authority)
    (refused : admitCaller b authority identity generation refuseDraining = .error status) :
    Refusal status := by
  unfold admitCaller at refused
  rw [if_neg (not_not.mpr sound.ready), if_neg (not_not.mpr sound.isCanonical)] at refused
  split at refused
  next denied =>
    cases refused
    exact grants.resolve_left denied
  split at refused
  · cases refused; decide
  split at refused
  · cases refused; decide
  split at refused
  · cases refused; decide
  split at refused
  · cases refused; decide
  · cases refused

lemma admit_ok (admitted : admitCaller b authority identity generation refuseDraining = .ok index) :
    authority = .ok ∧ b.state ≠ .closed ∧ (refuseDraining → b.state = .open) ∧
      index.val < b.serviceCount ∧ (b.rows index).transition.serviceIdentity = identity ∧
      (b.rows index).transition.generation = generation ∧ brokerIsCanonical b := by
  unfold admitCaller at admitted
  split_ifs at admitted with _ canonical granted notClosed notDraining
  split at admitted
  · cases admitted
  next index' found =>
  split_ifs at admitted with current
  cases admitted
  obtain ⟨used, same⟩ := findBrokerIndex_some found
  refine ⟨not_not.mp granted, notClosed, fun strict => ?_, used, same, not_not.mp current,
    canonical⟩
  rcases state_cases (of_decide_eq_true canonical).1 with isOpen | isDraining | isClosed
  · exact isOpen
  · exact absurd ⟨strict, isDraining⟩ notDraining
  · exact absurd isClosed notClosed

/-- What an admitted ticket establishes: it is the ticket of the row. -/
lemma admit_ticket
    (admitted : admitCaller b authority ticket.transition.serviceIdentity
    ticket.transition.generation
      refuseDraining = .ok index)
        (grants : authority = .ok ∧ ticket.brokerEpoch = b.brokerEpoch ∨ Refusal authority) :
    b.state ≠ .closed ∧ (refuseDraining → b.state = .open) ∧ index.val < b.serviceCount ∧
      ticket = (b.rows index).ticket b.brokerEpoch ∧ brokerIsCanonical b := by
  obtain ⟨granted, notClosed, opens, used, identity, generation, canonical⟩ := admit_ok admitted
  have epoch : ticket.brokerEpoch = b.brokerEpoch :=
    (grants.resolve_right fun refusal => refusal.1 granted).2
  refine ⟨notClosed, opens, used, ?_, canonical⟩
  obtain ⟨ticketEpoch, ticketIdentity, ticketGeneration⟩ := ticket
  cases epoch
  cases identity
  cases generation
  rfl

end Admit

lemma admitTicket_ok (admitted : admitTicket b ticket refuseDraining = .ok index) :
    b.state ≠ .closed ∧ (refuseDraining → b.state = .open) ∧ index.val < b.serviceCount ∧
      ticket = (b.rows index).ticket b.brokerEpoch ∧ brokerIsCanonical b :=
  admit_ticket admitted (validateTicketEpoch_cases b ticket)

lemma admitToken_ok (admitted : admitToken b token refuseDraining = .ok index) :
    b.state ≠ .closed ∧ (refuseDraining → b.state = .open) ∧ index.val < b.serviceCount ∧
      token.start = (b.rows index).ticket b.brokerEpoch ∧ brokerIsCanonical b :=
  admit_ticket admitted (validateTokenEpoch_cases b token)

lemma admitTicket_refuses (refused : admitTicket b ticket refuseDraining = .error status) :
    status ≠ .ok := by
  unfold admitTicket admitCaller at refused
  grind

lemma admitTicket_error (sound : Sound b)
    (refused : admitTicket b ticket refuseDraining = .error status) : Refusal status :=
  admit_error sound ((validateTicketEpoch_cases b ticket).imp_left And.left) refused

lemma admitToken_error (sound : Sound b)
    (refused : admitToken b token refuseDraining = .error status) : Refusal status :=
  admit_error sound ((validateTokenEpoch_cases b token).imp_left And.left) refused

/-- The status is not `CorruptState`, the outcome describes the change, and a ticket that was
presented is the one that was used. -/
structure Explained (b : ServiceLifecycleBroker) (event : Event) (b' : ServiceLifecycleBroker) :
    Prop where
  status : event.status ≠ .corruptState
  effect : Effect b event.outcome b'
  ticket : ∀ {ticket}, event.ticket = some ticket → event.outcome = .quiet ∨
    event.outcome.retired = some ticket

lemma Explained.refused (status : event.status ≠ .corruptState) (quiet : event.outcome = .quiet) :
    Explained b event b := by
  refine ⟨status, ?_, fun _ => .inl quiet⟩
  rw [quiet]
  exact .refused

lemma setRow_self (b : ServiceLifecycleBroker) (index) : b.setRow index (b.rows index) = b := by
  unfold ServiceLifecycleBroker.setRow
  rw [update_eq_self]

lemma builder_none (canonical : builderStateIsCanonical row)
    (notStarting : row.transition.phase ≠ .starting)
    (notCancelled : row.builderState ≠ .cancelledAwaitingRetirement) :
    row.builderState = .none := by
  unfold builderStateIsCanonical at canonical
  split at canonical
  next none => exact none
  · exact absurd (of_decide_eq_true canonical) notStarting
  next cancelled => exact absurd cancelled notCancelled

lemma startFailure_explained (refusal : Refusal status) :
    Explained b (.reserveStart identity generation nowNs (startFailure status)) b := by
  refine .refused refusal.2.1 ?_
  cases status <;> first | rfl | contradiction

lemma stopFailure_explained (refusal : Refusal status) :
    Explained b (.requestStop identity generation nowNs (stopFailure status)) b := by
  refine .refused refusal.2.1 ?_
  cases status <;> first | rfl | contradiction

section Operations

variable {b b' : ServiceLifecycleBroker}

lemma rollback_published (isCanonical : brokerIsCanonical b) (used : index.val < b.serviceCount)
    (phase : (b.rows index).transition.phase = .starting)
    (constructing : (b.rows index).builderState = .constructing)
    (valid : serviceInstanceKeyIsValid process) :
    rollbackUnpublishedPublicationLocked (b.setRow index ((b.rows index).published
        ⟨(b.rows index).transition.serviceIdentity, .running, (b.rows index).transition.generation,
          process, true, false⟩ nowNs))
      ⟨b.brokerEpoch, index, (b.rows index).ticket b.brokerEpoch, process, b.rows index⟩ =
        (.ok, b) := by
  have canonical := transition_canonical isCanonical used
  have identity := identity_ne_zero canonical
  obtain ⟨generation, desired, inFlight⟩ := starting_inFlight canonical phase
  have epoch : b.brokerEpoch ≠ kServiceLifecycleInvalidBrokerEpoch := by
    intro zero
    have header := (of_decide_eq_true isCanonical).1
    rw [brokerHeaderIsCanonical, if_pos (by simp [zero])] at header
    cases header
  have ticket : serviceStartTicketIsValid ((b.rows index).ticket b.brokerEpoch).transition :=
    decide_eq_true ⟨identity, generation⟩
  have current : serviceTransitionIsCurrentStart (b.rows index).transition
      ((b.rows index).ticket b.brokerEpoch).transition :=
    decide_eq_true ⟨canonical, phase, desired, inFlight, decide_eq_true ⟨ticket, rfl, rfl⟩⟩
  have running : serviceTransitionIsCurrentRunning
      ⟨(b.rows index).transition.serviceIdentity, .running, (b.rows index).transition.generation,
        process, true, false⟩ ⟨((b.rows index).ticket b.brokerEpoch).transition, process⟩ :=
    decide_eq_true ⟨rfl, rfl, decide_eq_true ⟨decide_eq_true ⟨ticket, valid⟩,
      running_canonical identity generation valid, .inl rfl, rfl,
      decide_eq_true ⟨ticket, rfl, rfl⟩⟩⟩
  have counted : incrementSaturating (b.rows index).successfulPublications
      = if (b.rows index).successfulPublications = max32 then max32
        else add32 (b.rows index).successfulPublications 1 := by
    by_cases saturated : (b.rows index).successfulPublications = max32
    · rw [incrementSaturating, if_neg (not_not.mpr saturated), if_pos saturated, saturated]
    · rw [incrementSaturating, if_pos saturated, if_neg saturated]
  unfold rollbackUnpublishedPublicationLocked
  rw [if_neg]
  · rw [if_neg]
    · simp [ServiceLifecycleBroker.setRow]
    · simp only [ServiceLifecycleBroker.setRow, update_self, ServiceLifecycleRow.published,
        running, current,
        constructing, counted, ne_eq, not_true_eq_false, or_self]
      simp [ServiceLifecycleRow.ticket]
  · simp only [serviceLifecycleStartTicketIsValid, ServiceLifecycleBroker.setRow, ticket, valid,
      decide_eq_true_eq,
      not_or, not_not, ge_iff_le, not_le]
    exact ⟨trivial, used, ⟨epoch, trivial⟩, trivial⟩

/-- The broker refuses whatever the directory says, or it publishes the instance exactly if the
directory accepts it. -/
lemma commitDirectoryPublication_cases (b ticket process nowNs valid) :
    (∃ status, status ≠ .ok ∧ (Sound b → status ≠ .corruptState) ∧ ∀ directoryStatus,
      serviceLifecycleBrokerCommitDirectoryPublication b ticket process nowNs valid
        directoryStatus =
        (directoryPublicationFailure status .ok, b)) ∨
    ∃ index row, row = (b.rows index).published ⟨ticket.transition.serviceIdentity, .running,
        ticket.transition.generation, process, true, false⟩ nowNs ∧
      ticket = (b.rows index).ticket b.brokerEpoch ∧ index.val < b.serviceCount ∧ b.state = .open ∧
      Move b.brokerEpoch (b.rows index) (.published ⟨ticket, process⟩) row ∧
      ∀ directoryStatus,
        serviceLifecycleBrokerCommitDirectoryPublication b ticket process nowNs valid
        directoryStatus = if directoryStatus ≠
          .ok then (directoryPublicationFailure .ok directoryStatus, b)
          else (⟨.ok, .ok, ⟨ticket, process⟩⟩, b.setRow index row) := by
  unfold serviceLifecycleBrokerCommitDirectoryPublication
  split
  · exact .inl ⟨.nullArgument, nofun, nofun, fun _ => rfl⟩
  cases admitted : admitTicket b ticket true with
  | error status =>
    exact .inl ⟨status, admitTicket_refuses admitted,
      fun sound => (admitTicket_error sound admitted).2.1, fun _ => rfl⟩
  | ok index =>
    obtain ⟨_, opens, used, ticket_eq, canonical⟩ := admitTicket_ok admitted
    dsimp only
    split
    · exact .inl ⟨.invalidTimestamp, nofun, nofun, fun _ => rfl⟩
    split
    · exact .inl ⟨.transitionRejected, nofun, nofun, fun _ => rfl⟩
    next checks =>
    split
    · exact .inl ⟨.transitionRejected, nofun, nofun, fun _ => rfl⟩
    next published =>
    obtain ⟨phase, _, process_valid, state_eq⟩ :=
      serviceTransitionCommit_published (not_not.mp published)
    have constructing := not_not.mp (not_or.mp checks).1
    rw [state_eq, ticket_eq]
    refine .inr ⟨index, _, rfl, rfl, used, opens rfl, .publish phase constructing process_valid,
      fun _ => ?_⟩
    split
    -- the checks of the rollback hold of the row that was just published
    · rw [rollback_published canonical used phase constructing process_valid]
    · rfl

section

variable (sound : Sound b)

include sound

lemma reserveStartLocked_explained
    (call : reserveStartLocked b identity generation nowNs requireDependencies = (result, b')) :
    Explained b (.reserveStart identity generation nowNs result) b' := by
  unfold reserveStartLocked at call
  split at call
  next refused =>
    cases call
    exact startFailure_explained (admit_error sound (.inl rfl) refused)
  next index admitted =>
  obtain ⟨_, notClosed, opens, used, _, _⟩ := admit_ok admitted
  have ok := sound.row index used
  dsimp only at call
  split at call
  · cases call; exact startFailure_explained (by decide)
  split at call
  · cases call; exact startFailure_explained (by decide)
  next notCancelled =>
  split at call
  · cases call; exact startFailure_explained (by decide)
  have builder := builder_none ok.builder
  split at call <;> rename_i reserve <;> cases call <;>
    rcases serviceTransitionReserveStart_cases ok.canonical reserve with
      ⟨eq, idle, notExhausted, room, ticket_eq, state_eq⟩ | ⟨eq, idle, spent, state_eq⟩ |
      ⟨eq | eq, state_eq⟩ <;> cases eq <;> subst state_eq
  · subst ticket_eq
    exact ⟨nofun, .moved used notClosed (fun draining => absurd (opens rfl) draining)
      (.reserve idle notExhausted room (builder idle.1 notCancelled)), nofun⟩
  · rw [setRow_self]
    exact startFailure_explained (by decide)
  · rw [setRow_self]
    exact startFailure_explained (by decide)
  · refine ⟨nofun, .moved used notClosed (fun _ => ⟨nofun, nofun⟩)
      (.exhaust idle (spent.elim (fun phase => ?_) id) (builder idle.1 notCancelled)), nofun⟩
    have canonical := ok.canonical
    rw [serviceTransitionIsCanonical, if_neg (identity_ne_zero canonical), phase] at canonical
    exact (of_decide_eq_true canonical).1

lemma recordSpawnFailure_explained
    (call : serviceLifecycleBrokerRecordSpawnFailure b ticket nowNs = (status, b')) :
    Explained b (.recordSpawnFailure ticket nowNs status) b' := by
  unfold serviceLifecycleBrokerRecordSpawnFailure at call
  split at call
  next refused =>
    cases call
    have refusal := admitTicket_error sound refused
    exact .refused refusal.2.1 (if_neg refusal.1)
  next index admitted =>
  obtain ⟨notClosed, _, used, ticket_eq, _⟩ := admitTicket_ok admitted
  dsimp only at call
  split_ifs at call with _ _ checks
  iterate 3
    cases call
    exact .refused nofun rfl
  cases call
  obtain ⟨constructing, applied⟩ := not_or.mp checks
  obtain ⟨phase, _, state_eq⟩ := serviceTransitionRecordSpawnFailure_applied (not_not.mp applied)
  rw [state_eq]
  refine ⟨nofun, ?_, .inr⟩
  rw [ticket_eq]
  exact .moved used notClosed (fun _ => ⟨nofun, nofun⟩) (.fail phase (not_not.mp constructing))

lemma acknowledgeCancelledStart_explained
    (call : serviceLifecycleBrokerAcknowledgeCancelledStart b ticket nowNs = (status, b')) :
    Explained b (.acknowledgeCancelledStart ticket nowNs status) b' := by
  unfold serviceLifecycleBrokerAcknowledgeCancelledStart at call
  split at call
  next refused =>
    cases call
    have refusal := admitTicket_error sound refused
    exact .refused refusal.2.1 (if_neg refusal.1)
  next index admitted =>
  obtain ⟨notClosed, _, used, ticket_eq, _⟩ := admitTicket_ok admitted
  dsimp only at call
  split_ifs at call with _ cancelled
  iterate 2
    cases call
    exact .refused nofun rfl
  cases call
  refine ⟨nofun, ?_, .inr⟩
  rw [ticket_eq]
  exact .moved used notClosed (fun draining => sound.draining draining index used)
    (.acknowledge (not_not.mp cancelled))

lemma commitPublication_explained
    (call : serviceLifecycleBrokerCommitPublication b ticket process nowNs = (result, b')) :
    Explained b (.commitPublication ticket process nowNs result) b' := by
  unfold serviceLifecycleBrokerCommitPublication at call
  split at call
  next refused =>
    cases call
    have refusal := admitTicket_error sound refused
    exact .refused refusal.2.1 (if_neg refusal.1)
  next index admitted =>
  obtain ⟨notClosed, opens, used, ticket_eq, _⟩ := admitTicket_ok admitted
  dsimp only at call
  split_ifs at call with _ checks
  iterate 2
    cases call
    exact .refused nofun rfl
  cases call
  obtain ⟨constructing, published⟩ := not_or.mp checks
  obtain ⟨phase, _, valid, state_eq⟩ := serviceTransitionCommit_published (not_not.mp published)
  rw [state_eq]
  refine ⟨nofun, ?_, .inr⟩
  rw [ticket_eq]
  exact .moved used notClosed (fun draining => absurd (opens rfl) draining)
    (.publish phase (not_not.mp constructing) valid)

lemma commitDirectoryPublication_explained
    (call : serviceLifecycleBrokerCommitDirectoryPublication b ticket process nowNs
      reservationIsValid
      directoryStatus = (result, b')) :
        Explained b (.commitDirectoryPublication ticket process nowNs result) b' := by
  rcases commitDirectoryPublication_cases b ticket process nowNs reservationIsValid with
    ⟨status, refuses, corrupt, commit⟩ | ⟨index, row, _, _, used, opens, move, commit⟩
  · rw [commit] at call
    cases call
    exact .refused (corrupt sound) (if_neg fun both => refuses both.1)
  · rw [commit] at call
    split at call
    next failed =>
      cases call
      exact .refused nofun (if_neg fun both => failed both.2)
    · cases call
      exact ⟨nofun, .moved used (opens ▸ nofun) (fun draining => absurd opens draining) move, .inr⟩

lemma markReady_explained
    (call : serviceLifecycleBrokerMarkReady b token directoryStatus = (result, b')) :
    Explained b (.markReady token result) b' := by
  unfold serviceLifecycleBrokerMarkReady at call
  split at call
  next refused =>
    cases call
    have refusal := admitToken_error sound refused
    exact .refused refusal.2.1 (if_neg fun both => refusal.1 both.1)
  next index admitted =>
  obtain ⟨notClosed, opens, used, start_eq, _⟩ := admitToken_ok admitted
  dsimp only at call
  split at call
  · cases call; exact .refused nofun rfl
  next checks =>
  split at call
  next failed => cases call; exact .refused nofun (if_neg fun both => failed both.2)
  cases call
  obtain ⟨builder, running⟩ := not_or.mp checks
  obtain ⟨phase, _, current⟩ := of_decide_eq_true (not_not.mp running)
  obtain ⟨_, token_eq⟩ := eq_of_isCurrentInstance current
  cases token with | mk start process =>
  cases start_eq
  cases congrArg ServiceInstanceToken.process token_eq
  exact ⟨nofun, .moved used notClosed (fun draining => absurd (opens rfl) draining)
    (.ready phase (not_not.mp builder)), nofun⟩

lemma requestStop_explained
    (call : serviceLifecycleBrokerRequestStop b identity generation nowNs = (result, b')) :
    Explained b (.requestStop identity generation nowNs result) b' := by
  unfold serviceLifecycleBrokerRequestStop at call
  split at call
  next refused =>
    cases call
    exact stopFailure_explained (admit_error sound (.inl rfl) refused)
  next index admitted =>
  obtain ⟨_, notClosed, _, used, _, _⟩ := admit_ok admitted
  have ok := sound.row index used
  dsimp only at call
  split_ifs at call
  iterate 2
    cases call
    exact stopFailure_explained (by decide)
  split at call <;> rename_i stop <;> cases call <;>
    rcases serviceTransitionStop_cases ok.canonical stop with
      ⟨eq, phase, state_eq⟩ | ⟨eq, phase, token_eq, state_eq⟩ | ⟨eq | eq, _, _, state_eq⟩ <;>
    cases eq <;> subst state_eq
  · rw [setRow_self]
    exact stopFailure_explained (by decide)
  · refine ⟨nofun, .moved used notClosed (fun draining => ?_) (.cancel phase), nofun⟩
    exact absurd phase (sound.draining draining index used).1
  · subst token_eq
    exact ⟨nofun, .moved used notClosed (fun _ => ⟨nofun, nofun⟩) (.kill phase), nofun⟩
  · rw [setRow_self]
    exact stopFailure_explained (by decide)

end

lemma stoppedPhase_idle (generation) :
    stoppedPhase generation ≠ .starting ∧ stoppedPhase generation ≠ .running ∧
      stoppedPhase generation ≠ .stopping := by
  unfold stoppedPhase
  split <;> decide

lemma exitedPhase_idle (phase : ServiceTransitionPhase) (generation) :
    (if phase = .stopping then stoppedPhase generation else .exited) ≠ .starting ∧
      (if phase = .stopping then stoppedPhase generation else .exited) ≠ .running ∧
      (if phase = .stopping then stoppedPhase generation else .exited) ≠ .stopping := by
  split
  · exact stoppedPhase_idle generation
  · decide

lemma observeExit_explained (sound : Sound b)
    (call : serviceLifecycleBrokerObserveExit b token nowNs failed = (status, b')) :
    Explained b (.observeExit token nowNs failed status) b' := by
  unfold serviceLifecycleBrokerObserveExit at call
  split at call
  next refused =>
    cases call
    have refusal := admitToken_error sound refused
    exact .refused refusal.2.1 (if_neg refusal.1)
  next index admitted =>
  obtain ⟨notClosed, _, used, start_eq, _⟩ := admitToken_ok admitted
  dsimp only at call
  split at call
  · cases call; exact .refused nofun rfl
  split at call
  · cases call; exact .refused nofun rfl
  next applied =>
  cases call
  obtain ⟨live, token_eq, state_eq⟩ := serviceTransitionObserveExit_applied (not_not.mp applied)
  rw [state_eq]
  cases token with | mk start process =>
  cases start_eq
  cases congrArg ServiceInstanceToken.process token_eq
  have idle := exitedPhase_idle (b.rows index).transition.phase (b.rows index).transition.generation
  exact ⟨nofun, .moved used notClosed (fun _ => ⟨idle.1, idle.2.1⟩) (.exit live), nofun⟩

lemma drainedAt_cons (fresh : index ∉ indices) (nowNs) : b.drainedAt (index :: indices) nowNs
      = (b.setRow index ((b.rows index).drained nowNs)).drainedAt indices nowNs := by
  unfold ServiceLifecycleBroker.drainedAt ServiceLifecycleBroker.setRow
  congr 1
  funext other
  by_cases same : other = index
  · subst same
    dsimp only
    rw [if_pos (contains_iff_mem.mpr mem_cons_self), if_neg (fresh ∘ contains_iff_mem.mp),
      update_self]
  · dsimp only
    rw [update_of_ne same]
    simp only [contains_iff_mem, mem_cons, same, false_or]

lemma planAt_setRow (fresh : index ∉ indices) (row) :
    (b.setRow index row).planAt indices = b.planAt indices := by
  have same : ∀ other ∈ indices, (b.setRow index row).rows other = b.rows other := by
    intro other mem
    exact update_of_ne (ne_of_mem_of_not_mem mem fresh) ..
  unfold ServiceLifecycleBroker.planAt
  congr 1
  all_goals exact filterMap_congr fun other mem => by rw [same other mem]; rfl

lemma drainRows_cons (canonical : serviceTransitionIsCanonical (b.rows index).transition) :
    drainRows nowNs (index :: indices) b plan =
      drainRows nowNs indices (b.setRow index ((b.rows index).drained nowNs))
        ⟨plan.instances ++ ((b.rows index).toKill b.brokerEpoch).toList,
          plan.cancelledStarts ++ ((b.rows index).toCancel b.brokerEpoch).toList⟩ := by
  simp only [drainRows]
  obtain ⟨result, token, state, stop⟩ :
      ∃ result token state, serviceTransitionStop (b.rows index).transition =
        (result, token, state) :=
    ⟨_, _, _, rfl⟩
  rw [stop]
  rcases serviceTransitionStop_cases canonical stop with
    ⟨rfl, phase, rfl⟩ | ⟨rfl, phase, rfl, rfl⟩ | ⟨_, notStarting, notRunning, _⟩
  · simp only [phase, ServiceLifecycleRow.drained, ServiceLifecycleRow.toKill,
      ServiceLifecycleRow.toCancel,
      ne_eq, not_true_eq_false, false_and, if_false, if_true, reduceCtorEq, Option.toList_none,
      Option.toList_some, append_nil]
    rfl
  · simp only [phase, ServiceLifecycleRow.drained, ServiceLifecycleRow.toKill,
      ServiceLifecycleRow.toCancel,
      ne_eq, not_true_eq_false, and_false, if_false, if_true, reduceCtorEq, Option.toList_none,
      Option.toList_some, append_nil]
    rfl
  · rw [if_pos ⟨notStarting, notRunning⟩]
    simp only [notStarting, notRunning, ServiceLifecycleRow.drained, ServiceLifecycleRow.toKill,
      ServiceLifecycleRow.toCancel, if_false, Option.toList_none, append_nil, setRow_self]

lemma drainRows_eq {indices nowNs plan} (nodup : indices.Nodup)
    (canonical : ∀ index ∈ indices, serviceTransitionIsCanonical (b.rows index).transition) :
    drainRows nowNs indices b plan = (.ok, ⟨plan.instances ++ (b.planAt indices).instances,
          plan.cancelledStarts ++ (b.planAt indices).cancelledStarts⟩,
            b.drainedAt indices nowNs) := by
  induction indices generalizing b plan with
  | nil =>
    simp only [drainRows, ServiceLifecycleBroker.planAt, ServiceLifecycleBroker.drainedAt,
      filterMap_nil, append_nil, contains_nil, Bool.false_eq_true, if_false]
  | cons index indices ih =>
    obtain ⟨fresh, nodup⟩ := nodup_cons.mp nodup
    rw [drainRows_cons (canonical index mem_cons_self), ih nodup, planAt_setRow fresh,
      ← drainedAt_cons fresh]
    · unfold ServiceLifecycleBroker.planAt
      simp only [filterMap_cons, append_assoc]
      cases (b.rows index).toKill b.brokerEpoch <;>
        cases (b.rows index).toCancel b.brokerEpoch <;> rfl
    · intro other mem
      have same : (b.setRow index ((b.rows index).drained nowNs)).rows other = b.rows other :=
        update_of_ne (ne_of_mem_of_not_mem mem fresh) ..
      rw [same]
      exact canonical other (mem_cons_of_mem _ mem)

lemma indices_nodup (b : ServiceLifecycleBroker) : b.indices.Nodup := (nodup_finRange _).filter _

lemma mem_indices : index ∈ b.indices ↔ index.val < b.serviceCount := by
  simp [ServiceLifecycleBroker.indices]

lemma beginDrain_explained (sound : Sound b)
    (call : serviceLifecycleBrokerBeginDrain b nowNs = (status, plan, b')) :
    Explained b (.beginDrain nowNs status plan) b' := by
  unfold serviceLifecycleBrokerBeginDrain at call
  rw [if_neg (not_not.mpr sound.ready), if_neg (not_not.mpr sound.isCanonical)] at call
  split_ifs at call with notClosed notDraining
  iterate 3
    cases call
    exact .refused nofun rfl
  have canonical : ∀ index ∈ b.indices,
      serviceTransitionIsCanonical (b.rows index).transition := fun index mem =>
    (sound.row index (mem_indices.mp mem)).canonical
  rw [@drainRows_eq { b with state := .draining } _ _ _ (indices_nodup b) canonical] at call
  cases call
  have isOpen := (state_cases sound.header).resolve_right (not_or.mpr ⟨notDraining, notClosed⟩)
  exact ⟨nofun, .drained isOpen, nofun⟩

lemma finishDrain_explained (sound : Sound b)
    (call : serviceLifecycleBrokerFinishDrain b = (status, b')) :
    Explained b (.finishDrain status) b' := by
  unfold serviceLifecycleBrokerFinishDrain at call
  rw [if_neg (not_not.mpr sound.ready), if_neg (not_not.mpr sound.isCanonical)] at call
  split_ifs at call with _ draining quiet
  iterate 3
    cases call
    exact .refused nofun rfl
  cases call
  refine ⟨nofun, .closed (not_not.mp draining) fun index mem => ?_, nofun⟩
  have calm := fun busy => quiet ⟨index, mem, busy⟩
  exact ⟨not_not.mp fun builder => calm (.inl builder), fun phase => calm (.inr (.inl phase)),
    fun phase => calm (.inr (.inr (.inl phase))), fun phase => calm (.inr (.inr (.inr phase)))⟩

/-- Every operation on a sound broker is explained. -/
theorem Step.explained (sound : Sound b) (st : Step b event b') : Explained b event b' := by
  cases st with
  | reserveStart call | reserveStartWithDependencies call =>
    exact reserveStartLocked_explained sound call
  | recordSpawnFailure call => exact recordSpawnFailure_explained sound call
  | acknowledgeCancelledStart call => exact acknowledgeCancelledStart_explained sound call
  | commitPublication call => exact commitPublication_explained sound call
  | commitDirectoryPublication call => exact commitDirectoryPublication_explained sound call
  | markReady call => exact markReady_explained sound call
  | requestStop call => exact requestStop_explained sound call
  | observeExit call => exact observeExit_explained sound call
  | beginDrain call => exact beginDrain_explained sound call
  | finishDrain call => exact finishDrain_explained sound call

end Operations

end DuetOS.Lifecycle
