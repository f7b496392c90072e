import DuetOS.Lib.Word

/-!
# Service transitions

`ServiceTransitionState` is the publication state machine of one service: a start is reserved under
a fresh generation, published with the identity of its process, stopped, and seen to exit. A
mutation returns its result and the state after it; a rejected one returns the state it was given.
-/

namespace DuetOS.Lifecycle

open Word

def kInvalidServiceTransitionIdentity : Nat := 0

def kServiceTransitionGenerationMaximum : Nat := max64

structure ServiceStartTicket where
  (serviceIdentity generation : Nat)
  deriving DecidableEq

def kInvalidServiceStartTicket : ServiceStartTicket := ⟨kInvalidServiceTransitionIdentity, 0⟩

def serviceStartTicketIsValid (ticket : ServiceStartTicket) : Bool :=
  ticket.serviceIdentity ≠ kInvalidServiceTransitionIdentity ∧ ticket.generation ≠ 0

structure ServiceInstanceKey where
  (processIdentity pid : Nat)
  deriving DecidableEq

def kInvalidServiceInstanceKey : ServiceInstanceKey := ⟨0, 0⟩

def serviceInstanceKeyIsValid (key : ServiceInstanceKey) : Bool :=
  key.processIdentity ≠ 0 ∧ key.pid ≠ 0

structure ServiceInstanceToken where
  start : ServiceStartTicket
  process : ServiceInstanceKey
  deriving DecidableEq

def kInvalidServiceInstanceToken : ServiceInstanceToken :=
  ⟨kInvalidServiceStartTicket, kInvalidServiceInstanceKey⟩

def serviceInstanceTokenIsValid (token : ServiceInstanceToken) : Bool :=
  serviceStartTicketIsValid token.start ∧ serviceInstanceKeyIsValid token.process

inductive ServiceTransitionPhase where
  | stopped | starting | running | exited | failed | generationExhausted | stopping
  deriving DecidableEq

structure ServiceTransitionState where
  serviceIdentity : Nat
  phase : ServiceTransitionPhase
  generation : Nat
  «instance» : ServiceInstanceKey
  (desiredRunning startInFlight : Bool)
  deriving DecidableEq

inductive ServiceStartReserveResult where
  | rejected | reserved | alreadyRequested | stopInProgress | generationExhausted
  deriving DecidableEq

inductive ServicePublicationResult where
  | rejected | published
  deriving DecidableEq

inductive ServiceSpawnFailureResult where
  | rejected | applied
  deriving DecidableEq

inductive ServiceStopResult where
  | rejected | alreadyStopped | startCancelled | killRequired | alreadyStopping
  deriving DecidableEq

inductive ServiceExitResult where
  | rejected | applied
  deriving DecidableEq

section

variable (state : ServiceTransitionState) (token : ServiceInstanceToken)
  (ticket : ServiceStartTicket)

def ticketMatches : Bool :=
  serviceStartTicketIsValid ticket ∧ ticket.serviceIdentity = state.serviceIdentity ∧
    ticket.generation = state.generation

def serviceTransitionInitialize (serviceIdentity : Nat) : ServiceTransitionState :=
  ⟨serviceIdentity, .stopped, 0, kInvalidServiceInstanceKey, false, false⟩

def serviceTransitionIsCanonical : Bool :=
  if state.serviceIdentity = kInvalidServiceTransitionIdentity then false
  else
    match state.phase with
    | .stopped =>
      state.instance = kInvalidServiceInstanceKey ∧ ¬state.desiredRunning ∧ ¬state.startInFlight
    | .starting => state.generation ≠ 0 ∧ state.instance = kInvalidServiceInstanceKey ∧
        state.desiredRunning ∧ state.startInFlight
    | .running => state.generation ≠ 0 ∧ serviceInstanceKeyIsValid state.instance ∧
        state.desiredRunning ∧ ¬state.startInFlight
    | .stopping => state.generation ≠ 0 ∧ serviceInstanceKeyIsValid state.instance ∧
        ¬state.desiredRunning ∧ ¬state.startInFlight
    | .exited | .failed => state.generation ≠ 0 ∧ state.instance = kInvalidServiceInstanceKey ∧
        ¬state.desiredRunning ∧ ¬state.startInFlight
    | .generationExhausted => state.generation = kServiceTransitionGenerationMaximum ∧
        state.instance = kInvalidServiceInstanceKey ∧ ¬state.desiredRunning ∧ ¬state.startInFlight

/-- The state without an instance, neither desired nor in flight, in phase `phase`. -/
def ServiceTransitionState.settled (phase : ServiceTransitionPhase) : ServiceTransitionState :=
  { state with
    phase
    «instance» := kInvalidServiceInstanceKey
    desiredRunning := false
    startInFlight := false }

def serviceTransitionReserveStart :
    ServiceStartReserveResult × ServiceStartTicket × ServiceTransitionState :=
  if ¬serviceTransitionIsCanonical state then (.rejected, kInvalidServiceStartTicket, state)
  else if state.phase = .starting ∧ state.startInFlight ∨ state.phase = .running ∧
    state.desiredRunning then
    (.alreadyRequested, kInvalidServiceStartTicket, state)
  else if state.phase = .stopping then (.stopInProgress, kInvalidServiceStartTicket, state)
  else if state.phase = .generationExhausted ∨
    state.generation = kServiceTransitionGenerationMaximum then
    (.generationExhausted, kInvalidServiceStartTicket, state.settled .generationExhausted)
  else
    let generation := add64 state.generation 1
    (.reserved, ⟨state.serviceIdentity, generation⟩, { state with
        generation
        phase := .starting
        «instance» := kInvalidServiceInstanceKey
        desiredRunning := true
        startInFlight := true })

def serviceTransitionIsCurrentStart : Bool :=
  serviceTransitionIsCanonical state ∧ state.phase = .starting ∧ state.desiredRunning ∧
    state.startInFlight ∧ ticketMatches state ticket

def serviceTransitionRecordSpawnFailure : ServiceSpawnFailureResult × ServiceTransitionState :=
  if ¬serviceTransitionIsCurrentStart state ticket then (.rejected, state)
  else (.applied, state.settled .failed)

def serviceTransitionCommitAtSchedulerPublication («instance» : ServiceInstanceKey) :
    ServicePublicationResult × ServiceTransitionState :=
  if ¬serviceInstanceKeyIsValid «instance» ∨ ¬serviceTransitionIsCurrentStart state ticket then
    (.rejected, state)
  else
    (.published, { state with
        phase := .running
        «instance» := «instance»
        desiredRunning := true
        startInFlight := false })

/-- The phase of a service that was asked to stop and has nothing left to stop. -/
def stoppedPhase (generation : Nat) : ServiceTransitionPhase :=
  if generation = kServiceTransitionGenerationMaximum then .generationExhausted else .stopped

def serviceTransitionStop : ServiceStopResult × ServiceInstanceToken × ServiceTransitionState :=
  if ¬serviceTransitionIsCanonical state then (.rejected, kInvalidServiceInstanceToken, state)
  else if state.phase = .stopped ∨ state.phase = .exited ∨ state.phase = .failed ∨
      state.phase = .generationExhausted then (.alreadyStopped, kInvalidServiceInstanceToken, state)
  else if state.phase = .stopping then (.alreadyStopping, kInvalidServiceInstanceToken, state)
  else if state.phase = .running then
    (.killRequired, ⟨⟨state.serviceIdentity, state.generation⟩, state.instance⟩,
      { state with phase := .stopping, desiredRunning := false, startInFlight := false })
  else
    (.startCancelled, kInvalidServiceInstanceToken, state.settled (stoppedPhase state.generation))

def serviceTransitionIsCurrentInstance : Bool :=
  serviceInstanceTokenIsValid token ∧ serviceTransitionIsCanonical state ∧
    (state.phase = .running ∨ state.phase = .stopping) ∧ state.instance = token.process ∧
    ticketMatches state token.start

def serviceTransitionIsCurrentRunning : Bool :=
  state.phase = .running ∧ state.desiredRunning ∧ serviceTransitionIsCurrentInstance state token

def serviceTransitionObserveExit : ServiceExitResult × ServiceTransitionState :=
  if ¬serviceTransitionIsCurrentInstance state token then (.rejected, state)
  else
    (.applied, state.settled
      (if state.phase = .stopping then stoppedPhase state.generation else .exited))

/-- Whether a process of this service is known: it was published and has not been seen to exit. -/
def ServiceTransitionState.live : Prop :=
  state.phase = .running ∨ state.phase = .stopping

end

instance (state : ServiceTransitionState) : Decidable state.live :=
  inferInstanceAs (Decidable (_ ∨ _))

/-- Whether the service neither is being started nor has a process. -/
def ServiceTransitionState.idle (state : ServiceTransitionState) : Prop :=
  state.phase ≠ .starting ∧ state.phase ≠ .running ∧ state.phase ≠ .stopping

section

variable (canonical : serviceTransitionIsCanonical state)

include canonical

lemma identity_ne_zero : state.serviceIdentity ≠ kInvalidServiceTransitionIdentity := by
  intro zero
  rw [serviceTransitionIsCanonical, if_pos zero] at canonical
  exact Bool.false_ne_true canonical

lemma starting_inFlight (phase : state.phase = .starting) :
    state.generation ≠ 0 ∧ state.desiredRunning ∧ state.startInFlight := by
  rw [serviceTransitionIsCanonical, if_neg (identity_ne_zero canonical), phase] at canonical
  obtain ⟨generation, _, desired, inFlight⟩ := of_decide_eq_true canonical
  exact ⟨generation, desired, inFlight⟩

lemma running_desired (phase : state.phase = .running) :
    state.generation ≠ 0 ∧ serviceInstanceKeyIsValid state.instance ∧ state.desiredRunning := by
  rw [serviceTransitionIsCanonical, if_neg (identity_ne_zero canonical), phase] at canonical
  obtain ⟨generation, valid, desired, _⟩ := of_decide_eq_true canonical
  exact ⟨generation, valid, desired⟩

lemma stopping_instance (phase : state.phase = .stopping) :
    state.generation ≠ 0 ∧ serviceInstanceKeyIsValid state.instance := by
  rw [serviceTransitionIsCanonical, if_neg (identity_ne_zero canonical), phase] at canonical
  obtain ⟨generation, valid, _, _⟩ := of_decide_eq_true canonical
  exact ⟨generation, valid⟩

end

section

variable (valid : identity ≠ kInvalidServiceTransitionIdentity)

include valid

lemma starting_canonical (later : generation ≠ 0) : serviceTransitionIsCanonical
      ⟨identity, .starting, generation, kInvalidServiceInstanceKey, true, true⟩ := by
  simp [serviceTransitionIsCanonical, valid, later]

section

variable (later : generation ≠ 0) (known : serviceInstanceKeyIsValid process)

include later known

lemma running_canonical :
    serviceTransitionIsCanonical ⟨identity, .running, generation, process, true, false⟩ := by
  simp [serviceTransitionIsCanonical, valid, later, known]

lemma stopping_canonical :
    serviceTransitionIsCanonical ⟨identity, .stopping, generation, process, false, false⟩ := by
  simp [serviceTransitionIsCanonical, valid, later, known]

end

end

lemma eq_of_ticketMatches (matching : ticketMatches state ticket) :
    ticket = ⟨state.serviceIdentity, state.generation⟩ := by
  obtain ⟨_, identity, generation⟩ := of_decide_eq_true matching
  cases ticket
  cases identity
  cases generation
  rfl

lemma serviceTransitionReserveStart_cases (canonical : serviceTransitionIsCanonical state)
    (reserve : serviceTransitionReserveStart state = (result, ticket, state')) :
    (result = .reserved ∧ state.idle ∧ state.phase ≠ .generationExhausted ∧
        state.generation ≠ max64 ∧ ticket = ⟨state.serviceIdentity, add64 state.generation 1⟩ ∧
        state' = ⟨state.serviceIdentity, .starting, add64 state.generation 1,
          kInvalidServiceInstanceKey, true, true⟩) ∨
      (result = .generationExhausted ∧ state.idle ∧
        (state.phase = .generationExhausted ∨ state.generation = max64) ∧
        state' = state.settled .generationExhausted) ∨
      ((result = .alreadyRequested ∨ result = .stopInProgress) ∧ state' = state) := by
  rw [serviceTransitionReserveStart, if_neg (not_not.mpr canonical)] at reserve
  split at reserve
  · cases reserve; exact .inr (.inr ⟨.inl rfl, rfl⟩)
  next unrequested =>
  have notStarting : state.phase ≠ .starting := fun phase =>
    unrequested (.inl ⟨phase, (starting_inFlight canonical phase).2.2⟩)
  have notRunning : state.phase ≠ .running := fun phase =>
    unrequested (.inr ⟨phase, (running_desired canonical phase).2.2⟩)
  split at reserve
  · cases reserve; exact .inr (.inr ⟨.inr rfl, rfl⟩)
  next notStopping =>
  have idle : state.idle := ⟨notStarting, notRunning, notStopping⟩
  split at reserve
  next spent => cases reserve; exact .inr (.inl ⟨rfl, idle, spent, rfl⟩)
  next room =>
    cases reserve
    exact .inl ⟨rfl, idle, fun phase => room (.inl phase), fun last => room (.inr last), rfl, rfl⟩

lemma serviceTransitionRecordSpawnFailure_applied
    (applied : (serviceTransitionRecordSpawnFailure state ticket).1 = .applied) :
    state.phase = .starting ∧ ticket = ⟨state.serviceIdentity, state.generation⟩ ∧
      (serviceTransitionRecordSpawnFailure state ticket).2 = state.settled .failed := by
  rw [serviceTransitionRecordSpawnFailure] at applied ⊢
  split at applied
  · cases applied
  next current =>
  obtain ⟨_, phase, _, _, matching⟩ := of_decide_eq_true (not_not.mp current)
  rw [if_neg current]
  exact ⟨phase, eq_of_ticketMatches matching, rfl⟩

/-- A start is published by the ticket of its generation only. -/
lemma serviceTransitionCommit_published (published :
      (serviceTransitionCommitAtSchedulerPublication state ticket process).1 = .published) :
    state.phase = .starting ∧ ticket = ⟨state.serviceIdentity, state.generation⟩ ∧
      serviceInstanceKeyIsValid process ∧
      (serviceTransitionCommitAtSchedulerPublication state ticket process).2
        = ⟨state.serviceIdentity, .running, state.generation, process, true, false⟩ := by
  rw [serviceTransitionCommitAtSchedulerPublication] at published ⊢
  split at published
  · cases published
  next current =>
  obtain ⟨valid, current'⟩ := not_or.mp current
  obtain ⟨_, phase, _, _, matching⟩ := of_decide_eq_true (not_not.mp current')
  rw [if_neg current]
  exact ⟨phase, eq_of_ticketMatches matching, not_not.mp valid, rfl⟩

lemma serviceTransitionStop_cases (canonical : serviceTransitionIsCanonical state)
    (stop : serviceTransitionStop state = (result, token, state')) :
    (result = .startCancelled ∧ state.phase = .starting ∧
      state' = state.settled (stoppedPhase state.generation)) ∨
      (result = .killRequired ∧ state.phase = .running ∧
        token = ⟨⟨state.serviceIdentity, state.generation⟩, state.instance⟩ ∧
        state' = ⟨state.serviceIdentity, .stopping, state.generation, state.instance,
          false, false⟩) ∨
      ((result = .alreadyStopped ∨ result = .alreadyStopping) ∧ state.phase ≠ .starting ∧
        state.phase ≠ .running ∧ state' = state) := by
  rw [serviceTransitionStop, if_neg (not_not.mpr canonical)] at stop
  cases phase : state.phase <;> simp only [phase, reduceCtorEq, or_true, if_true, or_false,
    or_self, if_false] at stop <;> cases stop
  case starting => exact .inl ⟨rfl, rfl, rfl⟩
  case running => exact .inr (.inl ⟨rfl, rfl, rfl, rfl⟩)
  case stopping => exact .inr (.inr ⟨.inr rfl, by decide, by decide, rfl⟩)
  all_goals exact .inr (.inr ⟨.inl rfl, by decide, by decide, rfl⟩)

lemma eq_of_isCurrentInstance (current : serviceTransitionIsCurrentInstance state token) :
    state.live ∧ token = ⟨⟨state.serviceIdentity, state.generation⟩, state.instance⟩ := by
  obtain ⟨_, _, live, process, matching⟩ := of_decide_eq_true current
  refine ⟨live, ?_⟩
  have start := eq_of_ticketMatches matching
  cases token
  cases start
  cases process
  rfl

lemma serviceTransitionObserveExit_applied
    (applied : (serviceTransitionObserveExit state token).1 = .applied) :
    state.live ∧ token = ⟨⟨state.serviceIdentity, state.generation⟩, state.instance⟩ ∧
      (serviceTransitionObserveExit state token).2 = state.settled
        (if state.phase = .stopping then stoppedPhase state.generation else .exited) := by
  rw [serviceTransitionObserveExit] at applied ⊢
  split at applied
  · cases applied
  next current =>
  obtain ⟨live, eq⟩ := eq_of_isCurrentInstance (not_not.mp current)
  rw [if_neg current]
  exact ⟨live, eq, rfl⟩

end DuetOS.Lifecycle
