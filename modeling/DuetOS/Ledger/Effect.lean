import DuetOS.Ledger.RequestLedger

/-!
# What a ledger operation does

Every operation refuses and leaves the ledger alone, or makes one of the transitions of `Effect`.
The invariants below are proved about these transitions.
-/

namespace DuetOS.Ledger

open Word

def Event.status : Event → EndpointRequestLedgerStatus
  | .initialized _ _ status => status
  | .reset _ _ status => status
  | .reserve _ status => status
  | .commit _ result => result.status
  | .cancel _ status => status
  | .complete _ status => status
  | .drain result => result.status

def EndpointRequestLedger.opened (ledger : EndpointRequestLedger)
    (identity : EndpointRequestLedgerIdentity) (firstRequestId : Nat) : EndpointRequestLedger :=
  { ledger with
    identity, nextRequestId := firstRequestId, activeCount := 0, nextFreeHint := 0, state := .open }

/-- Row `index` is reserved for `key`, the next identifier. -/
def EndpointRequestLedger.reserved (ledger : EndpointRequestLedger)
    (index : Fin kEndpointRequestLedgerCapacity) (key : EndpointRequestKey) :
    EndpointRequestLedger :=
  { ledger with
    slots := Function.update ledger.slots index ⟨key, .reserved⟩
    activeCount := add32 ledger.activeCount 1
    nextFreeHint := (index.val + 1) % kEndpointRequestLedgerCapacity
    nextRequestId := if key.requestId = kEndpointRequestIdMaximum then kEndpointRequestIdInvalid
      else add64 key.requestId 1
    state := if key.requestId = kEndpointRequestIdMaximum then .sequenceRetired else ledger.state }

def EndpointRequestLedger.committed (ledger : EndpointRequestLedger)
    (index : Fin kEndpointRequestLedgerCapacity) : EndpointRequestLedger :=
  { ledger with
    slots := Function.update ledger.slots index { ledger.slots index with state := .committed } }

def EndpointRequestLedger.drained (ledger : EndpointRequestLedger) : EndpointRequestLedger :=
  { ledger with
    slots := fun _ => clearSlot
    nextRequestId := kEndpointRequestIdInvalid
    activeCount := 0
    nextFreeHint := 0
    state := .draining }

/-- The keys in use, in row order. -/
def EndpointRequestLedger.keys (ledger : EndpointRequestLedger) : List EndpointRequestKey :=
  (List.finRange kEndpointRequestLedgerCapacity).filterMap fun index => liveKey (ledger.slots index)

inductive Effect (ledger : EndpointRequestLedger) : Event → EndpointRequestLedger → Prop where
  | refused : e.status ≠ .ok → Effect ledger e ledger
  | initialized : ledger.state = .uninitialized →
    endpointRequestLedgerIdentityIsValid identity →
    0 < firstRequestId →
    firstRequestId ≤ max64 →
    Effect ledger (.initialized identity firstRequestId .ok)
      { ledger with identity, nextRequestId := firstRequestId, state := .open }
  | reset : ledger.state = .draining →
    endpointRequestLedgerIdentityIsValid nextIdentity →
    0 < firstRequestId →
    firstRequestId ≤ max64 →
    ledger.identity.endpointEpoch < nextIdentity.endpointEpoch →
    Effect ledger (.reset nextIdentity firstRequestId .ok)
      (ledger.opened nextIdentity firstRequestId)
  | reserve {key index} : ledger.state = .open → key.ledgerIdentity = ledger.identity →
    key.requestId = ledger.nextRequestId →
    (ledger.slots index).state = .free →
    Effect ledger (.reserve key .ok) (ledger.reserved index key)
  | commit : (ledger.slots index).state = .reserved →
    Effect ledger (.commit (ledger.slots index).key ⟨.ok, ⟨(ledger.slots index).key⟩⟩)
      (ledger.committed index)
  | cancel : (ledger.slots index).state ≠ .free →
    Effect ledger (.cancel (ledger.slots index).key .ok) (consumeSlot ledger index)
  | complete : (ledger.slots index).state = .committed →
    Effect ledger (.complete ⟨(ledger.slots index).key⟩ .ok) (consumeSlot ledger index)
  | drained : ledger.state = .draining → Effect ledger (.drain ⟨.ok, []⟩) ledger
  | drain : ledger.state = .open ∨ ledger.state = .sequenceRetired →
    Effect ledger (.drain ⟨.ok, ledger.keys⟩) ledger.drained

lemma findLiveSlot_spec (found : findLiveSlot ledger key = some index) :
    (ledger.slots index).state ≠ .free ∧ (ledger.slots index).key = key := by
  have holds := List.find?_some found
  exact of_decide_eq_true holds

lemma findFreeSlot_spec (found : findFreeSlot ledger = some index) :
    (ledger.slots index).state = .free := by
  have holds := List.find?_some found
  exact of_decide_eq_true holds

lemma identity_of_validateKey (valid : ¬validateKeyForLedger ledger key ≠ .ok) :
    key.ledgerIdentity = ledger.identity := by
  unfold validateKeyForLedger at valid
  split at valid
  · exact absurd nofun valid
  split at valid
  · exact absurd nofun valid
  · rename_i same
    exact not_not.mp same

lemma ne_uninitialized_of_validate (valid : ¬validateLedger ledger ≠ .ok) :
    ledger.state ≠ .uninitialized := by
  intro uninitialized
  unfold validateLedger at valid
  split at valid <;> exact valid nofun

lemma classifyMissingKey_ne_ok : classifyMissingKey ledger key ≠ .ok := by
  unfold classifyMissingKey
  split_ifs <;> nofun

lemma initialized_effect (word : firstRequestId ≤ max64)
    (eq : endpointRequestLedgerInitialize ledger identity firstRequestId = (status, ledger')) :
    Effect ledger (.initialized identity firstRequestId status) ledger' := by
  unfold endpointRequestLedgerInitialize at eq
  split_ifs at eq with _ fresh valid <;> cases eq
  case neg =>
    obtain ⟨identity_ok, first⟩ := not_or.mp valid
    exact .initialized (not_not.mp fresh) (not_not.mp identity_ok) (Nat.pos_of_ne_zero first) word
  all_goals exact .refused nofun

lemma reset_effect (word : firstRequestId ≤ max64)
    (eq : endpointRequestLedgerReset ledger nextIdentity firstRequestId = (status, ledger')) :
    Effect ledger (.reset nextIdentity firstRequestId status) ledger' := by
  unfold endpointRequestLedgerReset at eq
  split_ifs at eq with _ _ draining valid _ newer <;> cases eq
  case neg =>
    obtain ⟨identity_ok, first, _⟩ := not_or.mp valid |>.imp_right not_or.mp
    exact .reset (not_not.mp draining) (not_not.mp identity_ok) (Nat.pos_of_ne_zero first) word
      (Nat.lt_of_not_le newer)
  all_goals exact .refused nofun

lemma reserve_effect (eq : endpointRequestLedgerReserve ledger key = (status, ledger')) :
    Effect ledger (.reserve key status) ledger' := by
  unfold endpointRequestLedgerReserve at eq
  split_ifs at eq with valid key_ok not_draining not_retired not_below not_above
  case neg =>
    split at eq <;> cases eq
    · exact .refused nofun
    next index found =>
    have opened : ledger.state = .open := by
      have initialized := ne_uninitialized_of_validate valid
      cases state : ledger.state with
      | uninitialized => exact absurd state initialized
      | «open» => rfl
      | sequenceRetired => exact absurd state not_retired
      | draining => exact absurd state not_draining
    exact .reserve opened (identity_of_validateKey key_ok)
      (Nat.le_antisymm (Nat.le_of_not_lt not_above) (Nat.le_of_not_lt not_below))
      (findFreeSlot_spec found)
  all_goals
    cases eq
    refine .refused ?_
  any_goals assumption
  all_goals nofun

lemma commit_effect {result} (eq : endpointRequestLedgerCommit ledger key = (result, ledger')) :
    Effect ledger (.commit key result) ledger' := by
  unfold endpointRequestLedgerCommit at eq
  split_ifs at eq
  case neg =>
    split at eq
    · cases eq
      exact .refused classifyMissingKey_ne_ok
    next index found =>
    obtain ⟨_, rfl⟩ := findLiveSlot_spec found
    split at eq <;> cases eq
    · exact .refused nofun
    next reserved => exact .commit (not_not.mp reserved)
  all_goals
    cases eq
    refine .refused ?_
  any_goals assumption
  all_goals nofun

lemma cancel_effect {status} (eq : endpointRequestLedgerCancel ledger key = (status, ledger')) :
    Effect ledger (.cancel key status) ledger' := by
  unfold endpointRequestLedgerCancel at eq
  split_ifs at eq
  case neg =>
    split at eq <;> cases eq
    · exact .refused classifyMissingKey_ne_ok
    next index found =>
    obtain ⟨live, rfl⟩ := findLiveSlot_spec found
    exact .cancel live
  all_goals
    cases eq
    refine .refused ?_
  any_goals assumption
  all_goals nofun

lemma complete_effect {authority status}
    (eq : endpointRequestLedgerComplete ledger authority = (status, ledger')) :
    Effect ledger (.complete authority status) ledger' := by
  obtain ⟨key⟩ := authority
  unfold endpointRequestLedgerComplete at eq
  dsimp only at eq
  split_ifs at eq
  case neg =>
    split at eq
    · cases eq
      exact .refused classifyMissingKey_ne_ok
    next index found =>
    obtain ⟨_, rfl⟩ := findLiveSlot_spec found
    split at eq <;> cases eq
    · exact .refused nofun
    next committed => exact .complete (not_not.mp committed)
  all_goals
    cases eq
    refine .refused ?_
  any_goals assumption
  all_goals nofun

lemma drain_effect (eq : endpointRequestLedgerDrain ledger = (result, ledger')) :
    Effect ledger (.drain result) ledger' := by
  unfold endpointRequestLedgerDrain at eq
  split at eq
  · rename_i invalid
    cases eq
    exact .refused invalid
  rename_i valid
  split at eq
  · rename_i draining
    cases eq
    exact .drained draining
  rename_i not_draining
  cases eq
  refine .drain ?_
  have initialized := ne_uninitialized_of_validate valid
  cases state : ledger.state with
  | uninitialized => exact absurd state initialized
  | «open» => exact .inl rfl
  | sequenceRetired => exact .inr rfl
  | draining => exact absurd state not_draining

lemma Step.effect (st : Step ledger e ledger') : Effect ledger e ledger' := by
  cases st with
  | initialized word eq => exact initialized_effect word eq
  | reset word eq => exact reset_effect word eq
  | reserve eq => exact reserve_effect eq
  | commit eq => exact commit_effect eq
  | cancel eq => exact cancel_effect eq
  | complete eq => exact complete_effect eq
  | drain eq => exact drain_effect eq

end DuetOS.Ledger
