import DuetOS.Channel.Effect

/-!
# The invariant over steps

The transitions keep a core canonical, and the callers outside the lock keep in step with it.
-/

namespace DuetOS.Channel

open Word DuetOS.Ledger DuetOS.Resource Function Multiset

section pins

variable {core : ChannelCore} {index : Fin kChannelCoreOperationCapacity}

lemma rows_update (slots : Fin kChannelCoreOperationCapacity → ChannelCoreOperationSlot)
    (index slot) :
    (fun i => (i, update slots index slot i)) = update (fun i => (i, slots i)) index
    (index, slot) := by
  funext i
  by_cases same : i = index
  · rw [same, update_self, update_self]
  · rw [update_of_ne same, update_of_ne same]

lemma pinOf_live (live : row.2.state = .live) :
    pinOf epoch row = some ⟨epoch, row.1, row.2.generation, row.2.binding⟩ :=
  if_pos live

lemma pinOf_idle (idle : row.2.state ≠ .live) : pinOf epoch row = none := if_neg idle

lemma livePins_pinned {binding} (free : (core.operationSlots index).state = .free) :
    (core.pinned index binding).livePins
      = ⟨core.channelEpoch, index, add32 (core.operationSlots index).generation 1, binding⟩ ::ₘ
        core.livePins := by
  have balance := @Slots.gather_update _ _ _ (pinOf core.channelEpoch)
    (fun i => (i, core.operationSlots i)) index
    (index, ⟨add32 (core.operationSlots index).generation 1, .live, binding⟩)
    {⟨core.channelEpoch, index, add32 (core.operationSlots index).generation 1, binding⟩} 0
    (by rw [pinOf_live rfl, pinOf_idle (by rw [free]; nofun)]; rfl)
  rw [add_zero, add_comm, singleton_add, ← rows_update] at balance
  exact balance

lemma livePins_unpinned (live : (core.operationSlots index).state = .live) :
    (⟨core.channelEpoch, index, (core.operationSlots index).generation,
      (core.operationSlots index).binding⟩ : ChannelCoreOperationPin) ::ₘ
        (core.unpinned index).livePins
      = core.livePins := by
  have idle : (if (core.operationSlots index).generation =
    kChannelCoreOperationGenerationMaximum then
      ChannelCoreOperationSlotState.retired else .free) ≠ .live := by
    split_ifs <;> nofun
  have balance := @Slots.gather_update _ _ _ (pinOf core.channelEpoch)
    (fun i => (i, core.operationSlots i)) index
    (index, ⟨(core.operationSlots index).generation,
      if (core.operationSlots index).generation = kChannelCoreOperationGenerationMaximum
        then .retired
      else .free, kInvalidChannelCoreOperationBinding⟩) 0
    {⟨core.channelEpoch, index, (core.operationSlots index).generation,
      (core.operationSlots index).binding⟩}
    (by rw [pinOf_idle idle, pinOf_live live]; rfl)
  rw [add_zero, add_comm, singleton_add, ← rows_update] at balance
  exact balance

lemma mem_livePins (live : (core.operationSlots index).state = .live) :
    ⟨core.channelEpoch, index, (core.operationSlots index).generation,
      (core.operationSlots index).binding⟩ ∈ core.livePins :=
  Slots.mem_gather.mpr ⟨index, pinOf_live live⟩

lemma CoreOk.livePins_eq_zero (ok : CoreOk core) (quiet : core.activeOperations = 0) :
    core.livePins = 0 := by
  rw [ok.active] at quiet
  exact card_eq_zero.mp quiet

end pins

section transitions

variable {core core' : ChannelCore} {index : Fin kChannelCoreOperationCapacity}

lemma kChannelCoreOperationCapacity_le_max32 : kChannelCoreOperationCapacity ≤ max32 := by
  unfold kChannelCoreOperationCapacity max32
  omega

variable (ok : CoreOk core)

include ok

lemma CoreOk.pinned (opened : core.state = .open)
    (free : (core.operationSlots index).state = .free)
    (room : (core.operationSlots index).generation < max32)
    (valid : channelCoreOperationBindingIsValid binding) : CoreOk (core.pinned index binding) := by
  have next : add32 (core.operationSlots index).generation 1 =
    (core.operationSlots index).generation + 1 :=
    add32_eq room
  have pins := @livePins_pinned _ _ binding free
  have bound := card_livePins_le (core.pinned index binding)
  rw [pins, card_cons] at bound
  refine { ok with
    hint := Nat.mod_lt _ (by decide), slots := ?_, generations := ?_, active := ?_, phase := ?_ }
  · intro i
    show operationSlotIsCanonical (update core.operationSlots _ _ i)
    by_cases same : i = index
    · rw [same, update_self]
      exact decide_eq_true ⟨by rw [next]; exact Nat.succ_ne_zero _, valid⟩
    · rw [update_of_ne same]
      exact ok.slots i
  · intro i
    show (update core.operationSlots _ _ i).generation ≤ max32
    by_cases same : i = index
    · rw [same, update_self, next]
      exact room
    · rw [update_of_ne same]
      exact ok.generations i
  · rw [pins, card_cons, ← ok.active]
    rw [← ok.active] at bound
    exact add32_eq (bound.trans kChannelCoreOperationCapacity_le_max32)
  · have phase := ok.phase
    rw [opened] at phase
    show Phase _ core.state
    rw [opened]
    exact phase

lemma CoreOk.not_drained (live : (core.operationSlots index).state = .live) :
    core.state ≠ .drained := by
  intro drained
  have quiet := (drained ▸ ok.phase : Phase core .drained).2.1
  have none := mem_livePins live
  rw [ok.livePins_eq_zero quiet] at none
  exact notMem_zero _ none

lemma CoreOk.unpinned (live : (core.operationSlots index).state = .live) :
    CoreOk (core.unpinned index) := by
  have pins := livePins_unpinned live
  have active := ok.active
  have bound := card_livePins_le core
  rw [← active] at bound
  rw [← pins, card_cons] at active
  refine { ok with hint := index.isLt, slots := ?_, generations := ?_, active := ?_, phase := ?_ }
  · intro i
    show operationSlotIsCanonical (update core.operationSlots _ _ i)
    by_cases same : i = index
    · rw [same, update_self]
      split_ifs with last
      all_goals exact decide_eq_true ⟨last, rfl⟩
    · rw [update_of_ne same]
      exact ok.slots i
  · intro i
    show (update core.operationSlots _ _ i).generation ≤ max32
    by_cases same : i = index
    · rw [same, update_self]
      exact ok.generations index
    · rw [update_of_ne same]
      exact ok.generations i
  · show sub32 core.activeOperations 1 = _
    rw [sub32_eq (by omega) (bound.trans kChannelCoreOperationCapacity_le_max32), active]
    exact Nat.add_sub_cancel _ _
  · show Phase _ core.state
    rcases ok.open_or_draining (ok.not_drained live) with ⟨state, _⟩ | state
    all_goals
      have phase := ok.phase
      rw [state] at phase ⊢
      exact phase

lemma CoreOk.setLedger {direction ledger} (state : core.state = .open ∨ core.state = .draining)
    (canonical : Ledger.Canonical ledger)
    (named : ledger.identity = (core.requestLedgers direction).identity)
    (accepting : Accepting ledger) : CoreOk (core.setLedger direction ledger) := by
  have all : ∀ {P : ChannelCoreDirection → EndpointRequestLedger → Prop}, P direction ledger →
      (∀ d, P d (core.requestLedgers d)) →
        ∀ d, P d ((core.setLedger direction ledger).requestLedgers d) := by
    intro P new old d
    show P d (update core.requestLedgers direction ledger d)
    by_cases same : d = direction
    · rw [same, update_self]
      exact new
    · rw [update_of_ne same]
      exact old d
  refine { ok with ledger := ?_, identity := ?_, phase := ?_ }
  · exact all (P := fun _ l => Ledger.Canonical l) canonical ok.ledger
  · exact all (P := fun d l => l.identity = ⟨core.channelEpoch, channelCoreLedgerDirection d⟩)
      (named.trans (ok.identity direction)) ok.identity
  · have accepts := all (P := fun _ l => Accepting l) accepting (ok.accepting state)
    have phase := ok.phase
    show Phase _ core.state
    rcases state with state | state
    all_goals
      rw [state] at phase ⊢
      exact ⟨phase.1, phase.2.1, phase.2.2.1, phase.2.2.2.1, accepts⟩

lemma CoreOk.livePins_reopened (drained : core.state = .drained) (nextEpoch resources) :
    (core.reopened nextEpoch resources).livePins = 0 :=
  Slots.gather_eq_zero fun _ => pinOf_idle fun live => ok.not_drained live drained

lemma Effect.coreOk (effect : Effect core e core') : CoreOk core' := by
  cases effect with
  | quiet => exact ok
  | acquire opened free room valid => exact ok.pinned opened free room valid
  | release live => exact ok.unpinned live
  | request _ state canonical named accepting => exact ok.setLedger state canonical named accepting
  | begun state idle =>
    refine { ok with phase := ?_ }
    have phase := ok.phase
    rcases state with state | state
    · rw [state] at phase
      exact ⟨phase.1, Nat.le_refl 1, phase.2.2.1.trans_le (Nat.zero_le 1), phase.2.2.2⟩
    · rw [state] at phase
      exact ⟨phase.1, Nat.le_refl 1, phase.2.2⟩
  | notified state =>
    refine { ok with phase := ?_ }
    have phase := ok.phase
    rw [state] at phase
    rw [state]
    exact ⟨phase.1, Nat.zero_le 1, Nat.le_refl 1, phase.2.2.2⟩
  | detached state quiet =>
    refine { ok with ledger := ?_, identity := ok.identity, phase := ?_ }
    · intro direction
      exact (Ledger.Effect.drain (ok.accepting (.inr state) direction)).canonical
        (ok.ledger direction)
    · exact ⟨rfl, quiet, rfl, rfl, rfl, fun _ => rfl⟩
  | @reopened nextEpoch resources state newer attached =>
    have draining := (state ▸ ok.phase : Phase core .drained).2.2.2.2.2
    have quiet := (state ▸ ok.phase : Phase core .drained).2.1
    have pos : nextEpoch ≠ 0 := Nat.ne_of_gt (Nat.zero_lt_of_lt newer)
    refine { ok with
      epoch_ne := pos, active := ?_, ledger := ?_, identity := fun _ => rfl, phase := ?_ }
    · rw [ok.livePins_reopened state]
      exact quiet
    · intro direction
      have valid := identityIsValid_of_epoch pos direction
      have older : (core.requestLedgers direction).identity.endpointEpoch < nextEpoch := by
        rw [ok.identity direction]
        exact newer
      exact (Ledger.Effect.reset (draining direction) valid Nat.one_pos (Nat.le_add_left 1 _)
        older).canonical
        (ok.ledger direction)
    · exact ⟨attached, rfl, rfl, rfl, fun _ => .inl rfl⟩

end transitions

section callers

/-- A drain outside the lock: it drives the core, which stays Draining under its epoch with its
ports attached, and it attempts to finalize only when there is no pin left. -/
structure DrainOk (core : ChannelCore) (expected : Option Nat) (window : DrainWindow) : Prop where
  state : core.state = .draining
  driver : core.drainDriverActive = 1
  epoch : window.channelEpoch = core.channelEpoch
  ports : window.ports = core.resources.ports
  quiet : window.attemptFinalize → core.activeOperations = 0
  expects : Expects expected core.channelEpoch

def CallOk (core : ChannelCore) : Call → Prop
  | .idle => True
  | .closingPorts expected window => DrainOk core expected window
  | .closingTables expected window => DrainOk core expected window
  | .closed expected window _ => DrainOk core expected window
  | .preparing _ => True
  | .prepared _ resources => attachedResourcesAreCanonical resources
  | .allocated previousEpoch nextEpoch resources =>
    attachedResourcesAreCanonical resources ∧ previousEpoch < nextEpoch ∧ nextEpoch ≤ max64

def Call.drains : Call → Bool
  | .closingPorts _ _ => true
  | .closingTables _ _ => true
  | .closed _ _ _ => true
  | _ => false

structure Ok (s : State) : Prop where
  core : CoreOk s.core
  next_le : s.nextChannelEpoch ≤ max64
  call : ∀ i, CallOk s.core (s.calls i)
  driver : ∀ i j, (s.calls i).drains → (s.calls j).drains → i = j

variable {s : State} {core' : ChannelCore} {e : Event} {i : Nat} {call : Call}

/-- What other callers do keeps a drain in step with the core. -/
lemma DrainOk.effect (drain : DrainOk core expected window) (ok : CoreOk core)
    (effect : Effect core e core') (others : ∀ x result, e ≠ .drain x result) :
    DrainOk core' expected window := by
  cases effect with
  | quiet => exact drain
  | acquire opened => exact nomatch drain.state.symm.trans opened
  | release live =>
    refine ⟨drain.state, drain.driver, drain.epoch, drain.ports, fun attempt => ?_, drain.expects⟩
    have none := mem_livePins live
    rw [ok.livePins_eq_zero (drain.quiet attempt)] at none
    exact absurd none (notMem_zero _)
  | request =>
    exact ⟨drain.state, drain.driver, drain.epoch, drain.ports, drain.quiet, drain.expects⟩
  | begun _ idle => exact absurd (drain.driver.symm.trans idle) Nat.one_ne_zero
  | notified | detached => exact absurd rfl (others _ _)
  | reopened drained => exact nomatch drain.state.symm.trans drained

lemma CallOk.effect (held : CallOk core call) (ok : CoreOk core) (effect : Effect core e core')
    (others : call.drains → ∀ x result, e ≠ .drain x result) : CallOk core' call := by
  cases call with
  | idle | preparing => exact trivial
  | prepared | allocated => exact held
  | _ => exact DrainOk.effect held ok effect (others rfl)

lemma Ok.setCore (ok : Ok s) (effect : Effect s.core e core')
    (others : ∀ j, (s.calls j).drains → ∀ x result, e ≠ .drain x result) :
    Ok { s with core := core' } :=
  ⟨effect.coreOk ok.core, ok.next_le, fun j => (ok.call j).effect ok.core effect (others j),
    ok.driver⟩

/-- Caller `i` moves on; it becomes a drain only when it was one or there is none. -/
lemma Ok.setCall (ok : Ok s) (held : CallOk s.core call)
    (alone : call.drains → ∀ j, j ≠ i → (s.calls j).drains = false) : Ok (s.setCall i call) := by
  refine ⟨ok.core, ok.next_le, fun j => ?_, fun j k drains_j drains_k => ?_⟩
  · show CallOk s.core (update s.calls i call j)
    by_cases same : j = i
    · rw [same, update_self]
      exact held
    · rw [update_of_ne same]
      exact ok.call j
  · change (update s.calls i call j).drains at drains_j
    change (update s.calls i call k).drains at drains_k
    by_cases same_j : j = i
    · by_cases same_k : k = i
      · rw [same_j, same_k]
      · rw [same_j, update_self] at drains_j
        rw [update_of_ne same_k, alone drains_j k same_k] at drains_k
        exact nomatch drains_k
    · rw [update_of_ne same_j] at drains_j
      by_cases same_k : k = i
      · rw [same_k, update_self] at drains_k
        rw [alone drains_k j same_j] at drains_j
        exact nomatch drains_j
      · rw [update_of_ne same_k] at drains_k
        exact ok.driver j k drains_j drains_k

lemma Ok.alone (ok : Ok s) (drains : (s.calls i).drains) (j : Nat) (other : j ≠ i) :
    (s.calls j).drains = false := by
  by_contra also
  exact other (ok.driver j i (by simpa using also) drains)

lemma Ok.no_drain (ok : Ok s) (idle : s.core.drainDriverActive = 0) (j : Nat) :
    (s.calls j).drains = false := by
  have held := ok.call j
  cases call : s.calls j with
  | closingPorts | closingTables | closed =>
    rw [call] at held
    exact absurd (DrainOk.driver held) (by rw [idle]; nofun)
  | _ => rfl

lemma allocateChannelEpoch_le {next epoch next'} (word : next ≤ max64)
    (call : allocateChannelEpoch next = (epoch, next')) : epoch ≤ max64 ∧ next' ≤ max64 := by
  unfold allocateChannelEpoch at call
  split at call
  · cases call
    exact ⟨Nat.zero_le _, word⟩
  cases call
  refine ⟨word, ?_⟩
  split
  · exact Nat.zero_le _
  · next more =>
    have below : next < max64 := Nat.lt_of_le_of_ne word more
    rw [add64_eq below]
    exact below

lemma quiet_internal : Event.internal.Quiet := ⟨rfl, rfl, rfl, rfl, rfl, rfl⟩

lemma Step.effect (ok : Ok s) (st : Step s e s') : Effect s.core e s'.core := by
  cases st with
  | acquire call => exact acquire_effect ok.core call
  | release call => exact release_effect ok.core call
  | borrow => exact .quiet ⟨rfl, rfl, rfl, rfl, rfl, rfl⟩
  | reserve call => exact reserve_effect ok.core call
  | commit call => exact commit_effect ok.core call
  | cancel call => exact cancel_effect ok.core call
  | complete call => exact complete_effect ok.core call
  | drainReturn call =>
    obtain ⟨same, kept, clean, _⟩ := drainCall_return ok.core call
    cases same
    exact .quiet (quiet_drain kept clean)
  | drainBegin _ call =>
    obtain ⟨same, state, idle, _⟩ := drainCall_begun ok.core call
    cases same
    exact .begun state idle
  | @drainEnd _ _ i _ _ _ _ at_i call =>
    have held := ok.call i
    rw [at_i] at held
    exact drainEnd_effect ok.core (DrainOk.state held) call
  | resetReturn call => exact .quiet (quiet_reset (resetBegin_error call))
  | prepareFailed _ no => exact .quiet (quiet_reset no)
  | allocateFailed =>
    refine .quiet (quiet_reset ?_)
    split_ifs <;> nofun
  | @resetEnd _ _ i _ _ _ _ at_i call =>
    have held := ok.call i
    rw [at_i] at held
    exact resetEnd_effect ok.core held.2.1 held.2.2 held.1 call
  | _ => exact .quiet quiet_internal

lemma Step.ok (ok : Ok s) (st : Step s e s') : Ok s' := by
  have effect := st.effect ok
  cases st with
  | borrow | resetReturn => exact ok
  | drainReturn call =>
    obtain ⟨same, _⟩ := drainCall_return ok.core call
    cases same
    exact ok
  | @drainBegin _ _ i expected window _ call =>
    obtain ⟨same, _, idle, epoch, ports, quiet, expects⟩ := drainCall_begun ok.core call
    cases same
    refine (ok.setCore effect nofun).setCall ⟨rfl, rfl, epoch, ports, quiet, expects⟩
      fun _ j _ => ?_
    exact ok.no_drain idle j
  | @closePorts _ i _ _ at_i | @closeTables _ i _ _ _ at_i =>
    have held := ok.call i
    rw [at_i] at held
    exact ok.setCall held fun _ => ok.alone (by rw [at_i]; rfl)
  | @drainEnd _ core' i _ _ _ _ at_i call =>
    -- The driver leaves before its effect on the core is looked at by the others.
    have left : Ok (s.setCall i .idle) := ok.setCall trivial nofun
    refine @Ok.setCore _ core' _ left effect fun j drains => ?_
    change (update s.calls i .idle j).drains at drains
    by_cases same : j = i
    · rw [same, update_self] at drains
      exact nomatch drains
    · rw [update_of_ne same, ok.alone (by rw [at_i]; rfl) j same] at drains
      exact nomatch drains
  | resetBegin | prepareFailed => exact ok.setCall trivial nofun
  | prepare _ attached => exact ok.setCall attached nofun
  | @allocateFailed _ i _ _ _ _ _ call =>
    have word := (allocateChannelEpoch_le ok.next_le call).2
    exact Ok.setCall ⟨ok.core, word, ok.call, ok.driver⟩ trivial nofun
  | @allocate _ i _ _ _ _ at_i call _ newer =>
    have words := allocateChannelEpoch_le ok.next_le call
    have held := ok.call i
    rw [at_i] at held
    exact Ok.setCall ⟨ok.core, words.2, ok.call, ok.driver⟩ ⟨held, newer, words.1⟩ nofun
  | @resetEnd _ core' i _ _ _ _ at_i call =>
    have left : Ok (s.setCall i .idle) := ok.setCall trivial nofun
    exact @Ok.setCore _ core' _ left effect nofun
  | elsewhere call =>
    exact ⟨ok.core, (allocateChannelEpoch_le ok.next_le call).2, ok.call, ok.driver⟩
  | _ => exact ok.setCore effect nofun

lemma initialize_zero (valid : endpointRequestLedgerIdentityIsValid identity) :
    endpointRequestLedgerInitialize .zero identity 1
      = (.ok, { EndpointRequestLedger.zero with
        identity, nextRequestId := 1, state := .open }) := by
  unfold endpointRequestLedgerInitialize
  have fresh : ¬EndpointRequestLedger.zero.state ≠ .uninitialized := not_not.mpr rfl
  rw [if_neg (not_not.mpr Canonical.zero.isCanonical), if_neg fresh, if_neg]
  rw [not_or, not_not]
  exact ⟨valid, nofun⟩

def ChannelCore.first (epoch : Nat) (resources : ChannelResources) : ChannelCore where
  requestLedgers direction :=
    { EndpointRequestLedger.zero with
      identity := ⟨epoch, channelCoreLedgerDirection direction⟩, nextRequestId := 1,
      state := .open }
  resources
  operationSlots _ := ⟨0, .free, kInvalidChannelCoreOperationBinding⟩
  channelEpoch := epoch
  activeOperations := 0
  nextOperationHint := 0
  initialized := kChannelCoreInitializeReady
  drainDriverActive := 0
  portsCloseNotified := 0
  requestLedgersDrained := 0
  state := .open

lemma channelCoreInitialize_eq {next resources}
    (valid : (allocateChannelEpoch next).1 ≠ kChannelEpochInvalid) :
    channelCoreInitialize next (.ok resources) = (⟨.ok, (allocateChannelEpoch next).1⟩,
      some (.first (allocateChannelEpoch next).1 resources)) := by
  unfold channelCoreInitialize
  dsimp only
  rw [if_neg valid]
  simp only [initialize_zero (identityIsValid_of_epoch valid _), ne_eq, not_true_eq_false,
    or_self, if_false]
  rfl

lemma Opened.core_eq (opened : Opened s) :
    ∃ epoch resources, s.core = .first epoch resources ∧ epoch ≠ kChannelEpochInvalid ∧
      attachedResourcesAreCanonical resources := by
  obtain @⟨next, resources, result, core, _, attached, call⟩ := opened
  by_cases valid : (allocateChannelEpoch next).1 = kChannelEpochInvalid
  · unfold channelCoreInitialize at call
    dsimp only at call
    rw [if_pos valid] at call
    cases call
  · rw [channelCoreInitialize_eq valid] at call
    cases call
    exact ⟨_, _, rfl, valid, attached⟩

lemma CoreOk.first (valid : epoch ≠ kChannelEpochInvalid)
    (attached : attachedResourcesAreCanonical resources) : CoreOk (.first epoch resources) := by
  refine ⟨rfl, valid, Nat.zero_lt_succ _, fun _ => rfl, fun _ => Nat.zero_le _, ?_,
    fun direction => ?_,
    fun _ => rfl, ⟨attached, rfl, rfl, rfl, fun _ => .inl rfl⟩⟩
  · exact (congrArg card (Slots.gather_eq_zero fun _ => rfl)).symm
  · have fresh := initialize_zero (identityIsValid_of_epoch valid direction)
    exact (initialized_effect (Nat.le_add_left 1 _) fresh).canonical Canonical.zero

lemma Opened.ok (opened : Opened s) : Ok s := by
  obtain ⟨epoch, resources, first, valid, attached⟩ := opened.core_eq
  obtain ⟨word, _, _⟩ := opened
  exact ⟨first ▸ CoreOk.first valid attached, (allocateChannelEpoch_le word rfl).2,
    fun _ => trivial, nofun⟩

lemma Run.ok (opened : Opened s₀) (run : Run s₀ es s) : Ok s := run.invariant opened.ok Step.ok

end callers

end DuetOS.Channel
