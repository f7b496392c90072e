import DuetOS.Channel.Invariant

/-!
# The epochs of a channel

Over whole runs: the pins, requests and drains of an epoch stay within it, and each epoch that ends
gives up its resources once.
-/

namespace DuetOS.Channel

open Word DuetOS.Ledger DuetOS.Resource Function List Prod

/-- The epochs of the pins, keys and expected epochs that a call was given and accepted. -/
def Event.epochs : Event → List Nat
  | .acquire expectedEpoch _ result => if result.status = .ok then [expectedEpoch] else []
  | .release pin status => if status = .ok then [pin.channelEpoch] else []
  | .borrow pin _ lease => if lease.status = .ok then [pin.channelEpoch] else []
  | .reserve pin _ _ result => if result.status = .ok then [pin.channelEpoch] else []
  | .commit pin _ key result =>
    if result.status = .ok then [pin.channelEpoch, key.ledgerIdentity.endpointEpoch] else []
  | .cancel pin _ key result =>
    if result.status = .ok then [pin.channelEpoch, key.ledgerIdentity.endpointEpoch] else []
  | .complete pin _ authority result =>
    if result.status =
      .ok then [pin.channelEpoch, authority.requestKey.ledgerIdentity.endpointEpoch] else []
  | .drainBegun expected => expected.toList
  | .drain expected result =>
    if result.status = .ok ∨ result.status = .busy ∨ result.status = .transferCloseFailed then
      expected.toList
    else []
  | _ => []

section accepted

variable (ok : CoreOk core)

include ok

lemma CoreOk.key_epoch (live : ((core.requestLedgers direction).slots index).state ≠ .free) :
    ((core.requestLedgers direction).slots index).key.ledgerIdentity.endpointEpoch =
    core.channelEpoch := by
  rw [((ok.ledger direction).keys _ (mem_liveKeys live)).identity_eq, ok.identity direction]

lemma acquire_epoch
    (granted : (channelCoreAcquireOperation core expectedEpoch binding).1.status = .ok) :
    expectedEpoch = core.channelEpoch := by
  have effect := acquire_effect ok
    (mk.eta (p := channelCoreAcquireOperation core expectedEpoch binding)).symm
  generalize channelCoreAcquireOperation _ _ _ = called at effect granted
  obtain ⟨result, core'⟩ := called
  cases effect with
  | quiet quiet => exact nomatch (if_pos granted).symm.trans quiet.pinIssued
  | acquire => rfl
  | request silent => exact nomatch (if_pos granted).symm.trans silent.1

lemma release_epoch (granted : (channelCoreReleaseOperation core pin).1 = .ok) :
    pin.channelEpoch = core.channelEpoch := by
  have effect := release_effect ok (mk.eta (p := channelCoreReleaseOperation core pin)).symm
  generalize channelCoreReleaseOperation core pin = called at effect granted
  obtain ⟨status, core'⟩ := called
  cases effect with
  | quiet quiet => exact nomatch (if_pos granted).symm.trans quiet.pinReleased
  | release => rfl
  | request silent => exact nomatch (if_pos granted).symm.trans silent.2.1

lemma borrow_epoch (granted : (channelCoreBorrowDirection core pin direction).status = .ok) :
    pin.channelEpoch = core.channelEpoch := by
  unfold channelCoreBorrowDirection at granted
  rw [if_neg (not_not.mpr ok.readyStatus), if_neg (not_not.mpr ok.coreIsCanonical)] at granted
  split at granted
  next invalid => exact absurd granted invalid
  next valid => exact (validatePinLocked_ok (not_not.mp valid)).1

lemma reserve_epoch
    (call : channelCoreReserveRequest core pin direction requestId = (result, core'))
    (granted : result.status = .ok) :
    pin.channelEpoch = core.channelEpoch := by
  rcases request_checked ok call with done | ⟨invalid, done⟩ | ⟨valid, done⟩ <;> cases done
  · exact nomatch granted
  · exact absurd granted invalid
  · exact (validatePinLocked_ok valid).1

/-- The key of a live slot that a call on a ledger was given. -/
def usedKey : Ledger.Event → Option EndpointRequestKey
  | .commit key _ | .cancel key _ => some key
  | .complete authority _ => some authority.requestKey
  | _ => none

lemma CoreOk.used_epoch {event ledger key}
    (effect : Ledger.Effect (core.requestLedgers direction) event ledger)
    (accepted : event.status = .ok)
    (used : usedKey event = some key) : key.ledgerIdentity.endpointEpoch = core.channelEpoch := by
  cases effect with
  | refused no => exact absurd accepted no
  | commit reserved => cases used; exact ok.key_epoch (by rw [reserved]; nofun)
  | cancel live => cases used; exact ok.key_epoch live
  | complete committed => cases used; exact ok.key_epoch (by rw [committed]; nofun)
  | _ => exact nomatch used

lemma commit_epoch
    (call : channelCoreCommitRequest core pin direction key = (result, core'))
    (granted : result.status = .ok) :
    pin.channelEpoch = core.channelEpoch ∧
      key.ledgerIdentity.endpointEpoch = core.channelEpoch := by
  rcases request_checked ok call with done | ⟨invalid, done⟩ | ⟨valid, done⟩ <;> cases done
  · exact nomatch granted
  · exact absurd granted invalid
  refine ⟨(validatePinLocked_ok valid).1,
    ok.used_epoch (@Ledger.commit_effect (core.requestLedgers direction) _ _ _ mk.eta.symm) ?_ rfl⟩
  split at granted
  next accepted => exact accepted
  · exact nomatch granted

lemma cancel_epoch
    (call : channelCoreCancelRequest core pin direction key = (result, core'))
    (granted : result.status = .ok) :
    pin.channelEpoch = core.channelEpoch ∧
      key.ledgerIdentity.endpointEpoch = core.channelEpoch := by
  rcases request_checked ok call with done | ⟨invalid, done⟩ | ⟨valid, done⟩ <;> cases done
  · exact nomatch granted
  · exact absurd granted invalid
  refine ⟨(validatePinLocked_ok valid).1,
    ok.used_epoch (@Ledger.cancel_effect (core.requestLedgers direction) _ _ _ mk.eta.symm) ?_ rfl⟩
  split at granted
  next accepted => exact accepted
  · exact nomatch granted

lemma complete_epoch
    (call : channelCoreCompleteRequest core pin direction authority = (result, core'))
    (granted : result.status = .ok) :
    pin.channelEpoch = core.channelEpoch ∧
      authority.requestKey.ledgerIdentity.endpointEpoch = core.channelEpoch := by
  rcases request_checked ok call with done | ⟨invalid, done⟩ | ⟨valid, done⟩ <;> cases done
  · exact nomatch granted
  · exact absurd granted invalid
  refine ⟨(validatePinLocked_ok valid).1,
    ok.used_epoch (@Ledger.complete_effect (core.requestLedgers direction) _ _ _ mk.eta.symm) ?_
      rfl⟩
  split at granted
  next accepted => exact accepted
  · exact nomatch granted

end accepted

lemma Step.epochs (ok : Ok s) (st : Step s e s') :
    ∀ epoch ∈ e.epochs, epoch = s.core.channelEpoch := by
  have accepted : ∀ {p : Prop} [Decidable p] {given : List Nat},
    (p → ∀ epoch ∈ given, epoch = s.core.channelEpoch) →
      ∀ epoch ∈ (if p then given else []), epoch = s.core.channelEpoch := by
    intro p _ given holds epoch mem
    split_ifs at mem with granted
    · exact holds granted epoch mem
    · exact absurd mem not_mem_nil
  have one : ∀ {a : Nat}, a = s.core.channelEpoch → ∀ epoch ∈ [a], epoch = s.core.channelEpoch :=
    fun same => forall_mem_singleton.mpr same
  have two : ∀ {a b : Nat}, a = s.core.channelEpoch ∧ b = s.core.channelEpoch →
      ∀ epoch ∈ [a, b], epoch = s.core.channelEpoch :=
    fun same => forall_mem_cons.mpr ⟨same.1, forall_mem_singleton.mpr same.2⟩
  have expects : ∀ {expected : Option Nat}, Expects expected s.core.channelEpoch →
      ∀ epoch ∈ expected.toList, epoch = s.core.channelEpoch := by
    intro expected named epoch mem
    exact named epoch (Option.mem_toList.mp mem)
  cases st with
  | acquire call =>
    exact accepted fun granted => one (acquire_epoch ok.core (by rw [call]; exact granted))
  | release call =>
    exact accepted fun granted => one (release_epoch ok.core (by rw [call]; exact granted))
  | borrow => exact accepted fun granted => one (borrow_epoch ok.core granted)
  | reserve call => exact accepted fun granted => one (reserve_epoch ok.core call granted)
  | commit call => exact accepted fun granted => two (commit_epoch ok.core call granted)
  | cancel call => exact accepted fun granted => two (cancel_epoch ok.core call granted)
  | complete call => exact accepted fun granted => two (complete_epoch ok.core call granted)
  | drainReturn call =>
    exact accepted fun admitted => expects ((drainCall_return ok.core call).2.2.2 admitted)
  | drainBegin _ call => exact expects (drainCall_begun ok.core call).2.2.2.2.2.2
  | @drainEnd _ _ i _ _ _ _ at_i _ =>
    have held := ok.call i
    rw [at_i] at held
    exact accepted fun _ => expects (DrainOk.expects held)
  | _ => exact nofun

lemma Effect.epoch_mono (effect : Effect core e core') :
    core.channelEpoch ≤ core'.channelEpoch := by
  cases effect with
  | reopened _ newer => exact newer.le
  | _ => exact Nat.le_refl _

lemma Run.epoch_mono (ok : Ok s) (run : Run s es s') : s.core.channelEpoch ≤ s'.core.channelEpoch :=
  run.stable (P := fun t => s.core.channelEpoch ≤ t.core.channelEpoch) ok (Nat.le_refl _) Step.ok
    fun ok le st => le.trans (st.effect ok).epoch_mono

def Ended (epoch : Nat) (core : ChannelCore) : Prop :=
  epoch < core.channelEpoch ∨ epoch = core.channelEpoch ∧ core.state ≠ .open

lemma Effect.ended (effect : Effect core e core') (ended : Ended epoch core) :
    Ended epoch core' := by
  cases effect with
  | begun | detached => exact ended.imp_right fun h => ⟨h.1, nofun⟩
  | reopened _ newer =>
    rcases ended with past | now
    · exact .inl (past.trans newer)
    · exact .inl (now.1.trans_lt newer)
  | _ => exact ended

lemma Effect.none_issued (ok : CoreOk core) (effect : Effect core e core')
    (ended : Ended epoch core) :
    (∀ pin, e.pinIssued = some pin → pin.channelEpoch ≠ epoch) ∧
      ∀ key, e.requestReserved = some key → key.ledgerIdentity.endpointEpoch ≠ epoch := by
  have past : core.state = .open → core.channelEpoch ≠ epoch := by
    intro opened same
    rcases ended with less | now
    · exact Nat.ne_of_gt less same
    · exact now.2 opened
  cases effect with
  | quiet quiet =>
    rw [quiet.pinIssued, quiet.requestReserved]
    exact ⟨nofun, nofun⟩
  | acquire opened =>
    refine ⟨fun pin issued => ?_, nofun⟩
    cases issued
    exact past opened
  | @request _ direction _ silent _ _ _ _ reserved =>
    rw [silent.1]
    refine ⟨nofun, fun key granted => ?_⟩
    obtain ⟨opened, named⟩ := reserved key granted
    rw [named, ok.identity direction]
    exact past opened
  | _ => exact ⟨nofun, nofun⟩

/-- The operation slot has had the generation of the pin. -/
def PinPast (s : State) (pin : ChannelCoreOperationPin) : Prop :=
  ∃ index : Fin kChannelCoreOperationCapacity,
    pin.slot = index ∧ pin.generation ≤ (s.core.operationSlots index).generation

lemma Effect.generation_mono (effect : Effect core e core') (index) :
    (core.operationSlots index).generation ≤ (core'.operationSlots index).generation := by
  have write : ∀ {slots : Fin kChannelCoreOperationCapacity → ChannelCoreOperationSlot} {i slot},
      (slots i).generation ≤ slot.generation →
      (slots index).generation ≤ (update slots i slot index).generation := by
    intro slots i slot le
    by_cases same : index = i
    · rw [same, update_self]
      exact le
    · rw [update_of_ne same]
  cases effect with
  | acquire _ _ room =>
    refine write ?_
    rw [add32_eq room]
    exact Nat.le_succ _
  | release => exact write (Nat.le_refl _)
  | _ => exact Nat.le_refl _

lemma Step.pin_recorded (ok : Ok s) (st : Step s e s') (issued : e.pinIssued = some pin) :
    ¬PinPast s pin ∧ PinPast s' pin := by
  have effect := st.effect ok
  generalize eq : s'.core = core' at effect
  cases effect with
  | quiet quiet => exact nomatch issued.symm.trans quiet.pinIssued
  | @acquire index binding _ _ room =>
    cases issued
    refine ⟨?_, index, rfl, ?_⟩
    · rintro ⟨other, same, le⟩
      have at_index : index = other := Fin.ext same
      subst at_index
      exact Nat.not_succ_le_self _ le
    · rw [eq]
      show _ ≤ (update s.core.operationSlots index _ index).generation
      rw [update_self, add32_eq room]
  | request silent => exact nomatch issued.symm.trans silent.1
  | _ => exact nomatch issued

lemma Step.pin_stays (ok : Ok s) (st : Step s e s') (past : PinPast s pin) : PinPast s' pin := by
  obtain ⟨index, same, le⟩ := past
  exact ⟨index, same, le.trans ((st.effect ok).generation_mono index)⟩

lemma Opened.initial (opened : Opened s) : s.core.activeOperations = 0 ∧ s.core.state = .open := by
  obtain ⟨epoch, resources, first, _⟩ := opened.core_eq
  rw [first]
  exact ⟨rfl, rfl⟩

lemma Run.pins_conserved (opened : Opened s₀) (run : Run s₀ es s) :
    (es.filterMap Event.pinIssued : Multiset ChannelCoreOperationPin)
      = s.core.livePins + (es.filterMap Event.pinReleased : Multiset ChannelCoreOperationPin) := by
  have start := opened.ok.core.livePins_eq_zero opened.initial.1
  induction run with
  | nil =>
    rw [start]
    rfl
  | @snoc t u es e run st balance =>
  have ok := Run.ok opened run
  rw [filterMap_append, filterMap_append, ← Multiset.coe_add, ← Multiset.coe_add, balance]
  have effect := st.effect ok
  have silent : ∀ {f : Event → Option ChannelCoreOperationPin}, f e = none →
      ([e].filterMap f : Multiset ChannelCoreOperationPin) = 0 := by
    simp
  have spoken : ∀ {f : Event → Option ChannelCoreOperationPin} {pin}, f e = some pin →
      ([e].filterMap f : Multiset ChannelCoreOperationPin) = {pin} := by
    intro f pin some
    simp [some]
  generalize u.core = core' at effect
  cases effect with
  | quiet quiet => rw [silent quiet.pinIssued, silent quiet.pinReleased, add_zero, add_zero]
  | acquire _ free room =>
    rw [@spoken Event.pinIssued _ rfl, @silent Event.pinReleased rfl, livePins_pinned free,
      add32_eq room,
      add_zero, Multiset.cons_add, ← Multiset.singleton_add, add_comm]
  | release live =>
    rw [@silent Event.pinIssued rfl, @spoken Event.pinReleased _ rfl,
      ← livePins_unpinned live, add_zero,
      ← Multiset.singleton_add, add_assoc, add_comm, add_assoc]
  | request nothing =>
    rw [silent nothing.1, silent nothing.2.1, add_zero, add_zero]
    rfl
  | begun | notified | detached =>
    rw [silent rfl, silent rfl, add_zero, add_zero]
    rfl
  | reopened drained =>
    have quiet := (drained ▸ ok.core.phase : Phase t.core .drained).2.1
    rw [silent rfl, silent rfl, add_zero, add_zero, ok.core.livePins_reopened drained,
      ok.core.livePins_eq_zero quiet]

def ChannelCore.attached (core : ChannelCore) : List Nat :=
  if core.state = .drained then [] else [core.channelEpoch]

def Event.detachedEpoch (e : Event) : Option Nat :=
  e.detached.map fst

/-- The epochs opened since `s₀`, with the one it had. -/
def epochsOpened (s₀ : State) (es : List Event) : List Nat :=
  s₀.core.channelEpoch :: es.filterMap Event.opened

lemma Effect.attached (effect : Effect core e core') :
    core.attached ++ e.opened.toList = e.detachedEpoch.toList ++ core'.attached := by
  have kept : e.opened = none → e.detached = none → core'.attached = core.attached →
      core.attached ++ e.opened.toList = e.detachedEpoch.toList ++ core'.attached := by
    intro h1 h2 h3
    rw [Event.detachedEpoch, h1, h2, h3]
    exact append_nil _
  cases effect with
  | quiet quiet => exact kept quiet.opened quiet.detached rfl
  | acquire | release => exact kept rfl rfl rfl
  | request silent => exact kept silent.2.2.2.2 silent.2.2.1 rfl
  | begun state =>
    refine kept rfl rfl ?_
    have undrained : core.state ≠ .drained := by
      rcases state with h | h
      · rw [h]
        nofun
      · rw [h]
        nofun
    rw [ChannelCore.attached, ChannelCore.attached, if_neg undrained]
    rfl
  | notified _ none => exact kept rfl none rfl
  | detached state =>
    have undrained : core.state ≠ .drained := by
      rw [state]
      nofun
    rw [ChannelCore.attached, if_neg undrained]
    rfl
  | reopened drained =>
    rw [ChannelCore.attached, if_pos drained]
    rfl

lemma filterMap_single {β : Type} (f : Event → Option β) (e) : [e].filterMap f = (f e).toList := by
  cases h : f e with
  | none | some b => simp [h]

lemma Run.epochs_detached (opened : Opened s₀) (run : Run s₀ es s) :
    epochsOpened s₀ es = es.filterMap Event.detachedEpoch ++ s.core.attached := by
  induction run with
  | nil =>
    rw [ChannelCore.attached, opened.initial.2]
    rfl
  | snoc run st split =>
    unfold epochsOpened at split ⊢
    rw [filterMap_append, filterMap_append, filterMap_single, filterMap_single,
      ← cons_append, split,
      append_assoc, append_assoc, (st.effect (Run.ok opened run)).attached]

lemma Run.epochs_increase (opened : Opened s₀) (run : Run s₀ es s) :
    (epochsOpened s₀ es).Pairwise (· < ·) ∧ ∀ epoch ∈ epochsOpened s₀ es,
    epoch ≤ s.core.channelEpoch := by
  induction run with
  | nil => exact ⟨pairwise_singleton _ _, forall_mem_singleton.mpr (Nat.le_refl _)⟩
  | @snoc t u es e run st ih =>
  obtain ⟨sorted, below⟩ := ih
  have effect := st.effect (Run.ok opened run)
  have more : epochsOpened s₀ (es ++ [e]) = epochsOpened s₀ es ++ e.opened.toList := by
    rw [epochsOpened, filterMap_append, filterMap_single]
    rfl
  rw [more]
  have later := fun epoch mem => (below epoch mem).trans effect.epoch_mono
  cases news : e.opened with
  | none =>
    rw [Option.toList_none, append_nil]
    exact ⟨sorted, later⟩
  | some next =>
    have newer : t.core.channelEpoch < next ∧ u.core.channelEpoch = next := by
      generalize eq : u.core = core' at effect
      cases effect with
      | quiet quiet => exact nomatch quiet.opened.symm.trans news
      | request silent => exact nomatch silent.2.2.2.2.symm.trans news
      | reopened _ newer =>
        cases news
        exact ⟨newer, rfl⟩
      | _ => exact nomatch news
    refine ⟨pairwise_append.mpr ⟨sorted, pairwise_singleton _ _, fun a mem b single => ?_⟩, ?_⟩
    · rw [mem_singleton.mp single]
      exact (below a mem).trans_lt newer.1
    · intro epoch mem
      rcases mem_append.mp mem with old | new
      · exact later epoch old
      · rw [mem_singleton.mp new, newer.2]

/-- For every interleaving of the callers of a core: `CoreIsCanonical` holds whenever the lock is
taken; `active_operations` is the number of pins issued and not released; once the core drains, no
pin is issued and no request reserved in that epoch; every epoch that was opened, in increasing
order, gives up its resources and its request cleanup in exactly one drain except for the one still
attached, and it does so when no pin is in use; the drain that finds no pin and closed both tables
does return them; and after a reset every call that accepts a pin, a key or an expected epoch was
given one of a later epoch. -/
theorem channel_epochs_end_once {s s₀ : State} {es : List Event}
    (opened : Opened s₀)
    (run : Run s₀ es s) :
    coreIsCanonical s.core ∧
    ((es.filterMap Event.pinIssued).Nodup ∧
      (es.filterMap Event.pinReleased : Multiset ChannelCoreOperationPin) ≤
        es.filterMap Event.pinIssued ∧
      s.core.activeOperations = ((es.filterMap Event.pinIssued : Multiset ChannelCoreOperationPin) -
        es.filterMap Event.pinReleased).card) ∧
    (s.core.state ≠ .open → ∀ fs t, Run s fs t → ∀ e ∈ fs,
      (∀ pin, e.pinIssued = some pin → pin.channelEpoch ≠ s.core.channelEpoch) ∧
      ∀ key, e.requestReserved = some key →
        key.ledgerIdentity.endpointEpoch ≠ s.core.channelEpoch) ∧
    ((epochsOpened s₀ es).Pairwise (· < ·) ∧
      epochsOpened s₀ es = es.filterMap Event.detachedEpoch ++ s.core.attached) ∧
    (∀ e t, Step s e t → e.cleanup.isSome = e.detached.isSome ∧
      ∀ bundle, e.detached = some bundle →
        bundle = (s.core.channelEpoch, s.core.resources) ∧ s.core.activeOperations = 0) ∧
    (∀ i expected window transferStatus,
      s.calls i = .closed expected window transferStatus →
      s.core.activeOperations = 0 →
      window.attemptFinalize = true →
      (∀ direction, transferStatus direction = .ok) →
      (drainEnd s.core window transferStatus).1 = s.core.ended) ∧
    (∀ next t fs u, Step s (.reset ⟨.ok, next⟩) t → Run t fs u → ∀ e ∈ fs, ∀ epoch ∈ e.epochs,
      s.core.channelEpoch < epoch) := by
  have ok := Run.ok opened run
  have pins := Run.pins_conserved opened run
  refine ⟨ok.core.coreIsCanonical, ⟨?_, ?_, ?_⟩, ?_, ⟨?_, ?_⟩, ?_, ?_, ?_⟩
  · exact (run.issued_nodup opened.ok Step.ok Step.pin_recorded Step.pin_stays).1
  · rw [pins]
    exact Multiset.le_add_left _ _
  · rw [pins, Multiset.add_sub_cancel_right]
    exact ok.core.active
  · intro ending fs t rest e mem
    obtain ⟨before, after, rfl⟩ := append_of_mem mem
    obtain ⟨v, w, run1, st, _⟩ := rest.split_at
    have ok_v := run1.invariant ok Step.ok
    have ended : Ended s.core.channelEpoch v.core :=
      run1.stable (P := fun v => Ended s.core.channelEpoch v.core) ok (.inr ⟨rfl, ending⟩) Step.ok
        fun ok ended st => (st.effect ok).ended ended
    exact (st.effect ok_v).none_issued ok_v.core ended
  · exact (Run.epochs_increase opened run).1
  · exact Run.epochs_detached opened run
  · intro e t st
    have effect := st.effect ok
    generalize t.core = core' at effect
    cases effect with
    | quiet quiet =>
      rw [quiet.cleanup, quiet.detached]
      exact ⟨rfl, nofun⟩
    | request silent =>
      rw [silent.2.2.1, silent.2.2.2.1]
      exact ⟨rfl, nofun⟩
    | notified _ kept clean =>
      rw [Event.cleanup, Event.detached, kept, clean]
      exact ⟨rfl, nofun⟩
    | detached _ quiet =>
      refine ⟨rfl, fun bundle eq => ?_⟩
      cases eq
      exact ⟨rfl, quiet⟩
    | _ => exact ⟨rfl, nofun⟩
  · intro i expected window transferStatus at_i quiet finalize closed
    have held := ok.call i
    rw [at_i] at held
    exact drainEnd_ended ok.core (DrainOk.state held) (DrainOk.epoch held) quiet finalize closed
  · intro next t fs u reset rest e mem epoch accepted
    obtain ⟨before, after, rfl⟩ := append_of_mem mem
    obtain ⟨v, w, run1, st, _⟩ := rest.split_at
    have ok_t := reset.ok ok
    have ok_v := run1.invariant ok_t Step.ok
    have newer : s.core.channelEpoch < t.core.channelEpoch := by
      have effect := reset.effect ok
      generalize eq : t.core = core' at effect
      cases effect with
      | quiet quiet => exact nomatch quiet.opened
      | request silent => exact nomatch silent.2.2.2.2
      | reopened _ newer => exact newer
    rw [st.epochs ok_v epoch accepted]
    exact newer.trans_le (Run.epoch_mono ok_t run1)

/-- A core that drains without a pin and is opened again under epoch 2: epoch 1 ended in its one
drain. -/
theorem channel_epochs_end_once_sample :
    ∃ s₀ es s, Opened s₀ ∧ Run s₀ es s ∧ s.core.channelEpoch = 2 ∧
      es.filterMap Event.detachedEpoch = [1] ∧ epochsOpened s₀ es = [1] ++ s.core.attached := by
  let resources : ChannelResources :=
    ⟨fun direction => if direction = .initiatorToAcceptor then 1 else 2,
      fun direction => if direction = .initiatorToAcceptor then 3 else 4, ⟨0, 1⟩⟩
  let s₀ : State := ⟨.first 1 resources, 2, fun _ => .idle⟩
  have opened : Opened s₀ :=
    .intro (Nat.le_add_left 1 _) rfl (@channelCoreInitialize_eq 1 _ Nat.one_ne_zero)
  have begun := @drainBegin_eq _ opened.ok.core kChannelEpochInvalid false (by decide) nofun
  let window : DrainWindow := ⟨1, true, resources.ports, resources.transferTables⟩
  have draining := Lts.Run.single (@Step.drainBegin s₀ _ 0 none window rfl begun)
  have closing := (draining.snoc (@Step.closePorts _ 0 none window rfl)).snoc
    (@Step.closeTables _ 0 none window (fun _ => .ok) rfl nofun)
  have ended := (channel_epochs_end_once opened closing).2.2.2.2.2.1 0 none window
    (fun _ => .ok) rfl
    rfl rfl fun _ => rfl
  have drained := closing.snoc
    (@Step.drainEnd _ _ 0 none window (fun _ => .ok) _ rfl (fst_eq_iff.mp ended))
  have prepared := (drained.snoc (@Step.resetBegin _ 0 ⟨0, 1⟩ 1 rfl (by decide +kernel))).snoc
    (@Step.prepare _ 0 1 resources rfl rfl)
  have allocated := prepared.snoc
    (@Step.allocate _ 0 1 resources 2 3 rfl rfl (by decide) (by decide))
  have reset := allocated.snoc (@Step.resetEnd _ _ 0 1 2 resources ⟨.ok, 2⟩ rfl
    (fst_eq_iff.mp (by decide +kernel)))
  refine ⟨s₀, _, _, opened, reset, by decide +kernel, rfl, ?_⟩
  exact (channel_epochs_end_once opened reset).2.2.2.1.2

end DuetOS.Channel
