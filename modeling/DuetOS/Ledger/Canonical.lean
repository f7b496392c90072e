import DuetOS.Ledger.Effect

/-!
# Canonical ledgers

`Canonical` is what `EndpointRequestLedgerIsCanonical` checks, stated over the collection of live
keys, with the bounds of the identifiers. It holds of a zeroed ledger and every transition keeps it,
so the source's own check never fails (`Canonical.isCanonical`).
-/

namespace DuetOS.Ledger

open Word Function Multiset Slots

def EndpointRequestLedger.liveKeys (ledger : EndpointRequestLedger) : Multiset EndpointRequestKey :=
  gather liveKey ledger.slots

/-- The identity and the next identifier fit the state. -/
def Header (identity : EndpointRequestLedgerIdentity) (nextRequestId nextFreeHint : Nat) :
    EndpointRequestLedgerState → Prop
  | .uninitialized => identity = kInvalidEndpointRequestLedgerIdentity ∧
      nextRequestId = kEndpointRequestIdInvalid ∧ nextFreeHint = 0
  | .open =>
    endpointRequestLedgerIdentityIsValid identity ∧ 0 < nextRequestId ∧ nextRequestId ≤ max64
  | _ => endpointRequestLedgerIdentityIsValid identity ∧ nextRequestId = kEndpointRequestIdInvalid

/-- A live key belongs to the identity and was given out before the next one. -/
structure KeyOk (identity : EndpointRequestLedgerIdentity) (nextRequestId : Nat)
    (state : EndpointRequestLedgerState) (key : EndpointRequestKey) : Prop where
  accepting : state = .open ∨ state = .sequenceRetired
  identity_eq : key.ledgerIdentity = identity
  id_pos : 0 < key.requestId
  id_lt : state = .open → key.requestId < nextRequestId

lemma KeyOk.accepts (ok : KeyOk identity nextRequestId state key) :
    state ≠ .uninitialized ∧ state ≠ .draining := by
  rcases ok.accepting with rfl | rfl
  · exact ⟨nofun, nofun⟩
  · exact ⟨nofun, nofun⟩

structure Canonical (ledger : EndpointRequestLedger) : Prop where
  hint : ledger.nextFreeHint < kEndpointRequestLedgerCapacity
  header : Header ledger.identity ledger.nextRequestId ledger.nextFreeHint ledger.state
  clear : ∀ index, (ledger.slots index).state = .free → ledger.slots index = clearSlot
  keys : ∀ key ∈ ledger.liveKeys, KeyOk ledger.identity ledger.nextRequestId ledger.state key
  distinct : ledger.liveKeys.Nodup
  active : ledger.activeCount = ledger.liveKeys.card

variable {ledger : EndpointRequestLedger} {key : EndpointRequestKey}

lemma liveKey_of_live (live : slot.state ≠ .free) : liveKey slot = some slot.key := if_pos live

lemma liveKey_of_free (free : slot.state = .free) : liveKey slot = none := if_neg (not_not.mpr free)

lemma isSome_liveKey (slot) : (liveKey slot).isSome = decide (slot.state ≠ .free) := by
  by_cases free : slot.state = .free
  · rw [liveKey_of_free free, free]
    rfl
  · rw [liveKey_of_live free, decide_eq_true free]
    rfl

lemma mem_liveKeys (live : (ledger.slots index).state ≠ .free) :
    (ledger.slots index).key ∈ ledger.liveKeys :=
  mem_gather.mpr ⟨index, liveKey_of_live live⟩

lemma keys_eq : (ledger.keys : Multiset EndpointRequestKey) = ledger.liveKeys :=
    (gather_eq_filterMap _ _).symm

lemma card_liveKeys_le : ledger.liveKeys.card ≤ kEndpointRequestLedgerCapacity := by
  unfold EndpointRequestLedger.liveKeys
  rw [card_gather]
  exact List.countP_le_length.trans (Nat.le_of_eq (List.length_finRange))

lemma Canonical.zero : Canonical .zero where
  hint := by decide
  header := ⟨rfl, rfl, rfl⟩
  clear _ _ := rfl
  keys key mem := by
    exact absurd mem (notMem_zero key)
  distinct := by
    exact nodup_zero
  active := by
    rfl

section

variable (canonical : Canonical ledger)

include canonical

lemma Canonical.identity_valid (ready : ledger.state ≠ .uninitialized) :
    endpointRequestLedgerIdentityIsValid ledger.identity := by
  have header := canonical.header
  cases state : ledger.state with
  | uninitialized => exact absurd state ready
  | _ =>
    rw [state] at header
    exact header.1

lemma Canonical.liveKeys_eq_zero
    (idle : ledger.state = .uninitialized ∨ ledger.state = .draining) : ledger.liveKeys = 0 := by
  refine eq_zero_of_forall_notMem fun key mem => ?_
  obtain ⟨ready, accepts⟩ := (canonical.keys key mem).accepts
  rcases idle with state | state
  · exact ready state
  · exact accepts state

lemma Canonical.rowIsCanonical (index) : rowIsCanonical ledger index := by
  unfold Ledger.rowIsCanonical
  by_cases free : (ledger.slots index).state = .free
  · rw [canonical.clear index free]
    rfl
  have row := canonical.keys _ (mem_liveKeys free)
  obtain ⟨ready, not_draining⟩ := row.accepts
  have valid : endpointRequestKeyIsValid (ledger.slots index).key :=
    decide_eq_true ⟨row.identity_eq ▸ canonical.identity_valid ready, Nat.ne_of_gt row.id_pos⟩
  rw [if_neg free, if_neg, if_neg]
  · refine decide_eq_true fun previous lt used => ?_
    have same := row_unique canonical.distinct (liveKey_of_live used.1)
      (used.2 ▸ liveKey_of_live free)
    exact absurd same (Fin.ne_of_lt lt)
  · rintro ⟨opened, above⟩
    exact absurd (row.id_lt opened) (Nat.not_lt.mpr above)
  · rintro (draining | ⟨not_reserved, not_committed⟩ | invalid | other)
    · exact not_draining draining
    · cases state : (ledger.slots index).state with
      | free => exact free state
      | reserved => exact not_reserved state
      | committed => exact not_committed state
    · exact invalid valid
    · exact other row.identity_eq

lemma Canonical.isCanonical : endpointRequestLedgerIsCanonical ledger := by
  have active := canonical.active
  have bound := @card_liveKeys_le ledger
  have header := canonical.header
  unfold endpointRequestLedgerIsCanonical
  rw [if_neg (not_or.mpr ⟨Nat.not_le.mpr canonical.hint, Nat.not_lt.mpr (active ▸ bound)⟩)]
  split
  · rename_i uninitialized
    rw [uninitialized] at header
    obtain ⟨identity, next, hint⟩ := header
    have empty := canonical.liveKeys_eq_zero (.inl uninitialized)
    rw [empty] at active
    refine decide_eq_true ⟨identity, next, active, hint, fun index => ?_⟩
    by_cases free : (ledger.slots index).state = .free
    · rw [canonical.clear index free]
      rfl
    · have live := mem_liveKeys free
      rw [empty] at live
      exact absurd live (notMem_zero _)
  rename_i ready
  rw [if_neg (not_not.mpr (canonical.identity_valid ready)), if_neg, if_neg, if_neg]
  · refine decide_eq_true ⟨canonical.rowIsCanonical, ?_⟩
    rw [active]
    unfold EndpointRequestLedger.liveKeys
    rw [card_gather]
    exact List.countP_congr fun index _ => by rw [isSome_liveKey]
  · rintro ⟨draining, dirty⟩
    rw [draining] at header
    have empty := canonical.liveKeys_eq_zero (.inr draining)
    rw [empty] at active
    rcases dirty with next | count
    · exact next header.2
    · exact count active
  · rintro ⟨retired, next⟩
    rw [retired] at header
    exact next header.2
  · rintro ⟨opened, next⟩
    rw [opened] at header
    exact Nat.ne_of_gt header.2.1 next

lemma Canonical.validate (ready : ledger.state ≠ .uninitialized) : validateLedger ledger = .ok := by
  unfold validateLedger
  rw [if_neg (not_not.mpr canonical.isCanonical), if_neg ready]

end

section Transitions

variable {index : Fin kEndpointRequestLedgerCapacity}

lemma liveKeys_reserved (free : (ledger.slots index).state = .free) :
    (ledger.reserved index key).liveKeys = key ::ₘ ledger.liveKeys := by
  have balance := @Slots.gather_update _ _ _ liveKey ledger.slots index ⟨key, .reserved⟩ {key} 0
    (by rw [liveKey_of_free free]; rfl)
  rw [add_zero, add_comm, singleton_add] at balance
  exact balance

lemma liveKeys_committed (reserved : (ledger.slots index).state = .reserved) :
    (ledger.committed index).liveKeys = ledger.liveKeys := by
  have live : (ledger.slots index).state ≠ .free := by
    rw [reserved]
    nofun
  have balance := @Slots.gather_update _ _ _ liveKey ledger.slots index
    { ledger.slots index with state := .committed } 0 0 (by rw [liveKey_of_live live]; rfl)
  rw [add_zero, add_zero] at balance
  exact balance

lemma liveKeys_consumeSlot (live : (ledger.slots index).state ≠ .free) :
    (ledger.slots index).key ::ₘ (consumeSlot ledger index).liveKeys = ledger.liveKeys := by
  have balance := @Slots.gather_update _ _ _ liveKey ledger.slots index clearSlot 0
    {(ledger.slots index).key} (by rw [liveKey_of_live live]; rfl)
  rw [add_zero, add_comm, singleton_add] at balance
  exact balance

lemma liveKeys_drained : ledger.drained.liveKeys = 0 := gather_eq_zero fun _ => rfl

lemma Canonical.fresh (canonical : Canonical ledger) (opened : ledger.state = .open)
    (next : key.requestId = ledger.nextRequestId) : key ∉ ledger.liveKeys := by
  intro mem
  have below := (canonical.keys key mem).id_lt opened
  rw [next] at below
  exact Nat.lt_irrefl _ below

lemma lt_next_reserved {id} (word : key.requestId ≤ max64) (le : id ≤ key.requestId)
    (still : (ledger.reserved index key).state = .open) :
    id < (ledger.reserved index key).nextRequestId := by
  change (if _ then _ else _) = _ at still
  show id < if _ then _ else _
  split at still
  · cases still
  rename_i more
  have below : key.requestId ≠ max64 := more
  rw [if_neg more, add64_eq (by omega)]
  omega

lemma Canonical.reserved (canonical : Canonical ledger) (opened : ledger.state = .open)
    (identity : key.ledgerIdentity = ledger.identity) (next : key.requestId = ledger.nextRequestId)
    (free : (ledger.slots index).state = .free) : Canonical (ledger.reserved index key) := by
  have header := canonical.header
  rw [opened] at header
  obtain ⟨valid, pos, word⟩ := header
  have bound := @card_liveKeys_le ledger
  have active := canonical.active
  have keys := @liveKeys_reserved _ key _ free
  have count : add32 ledger.activeCount 1 = ledger.liveKeys.card + 1 := by
    rw [active]
    refine add32_eq ?_
    unfold kEndpointRequestLedgerCapacity at bound
    unfold max32
    omega
  have fresh := canonical.fresh opened next
  refine ⟨Nat.mod_lt _ (by decide), ?_, fun other rest => ?_, fun other mem => ?_, ?_, ?_⟩
  · show Header ledger.identity (if _ then _ else _) _ (if _ then _ else _)
    split
    · exact ⟨valid, rfl⟩
    rename_i more
    have more : key.requestId ≠ max64 := more
    rw [opened, add64_eq (by omega)]
    exact ⟨valid, Nat.succ_pos _, by omega⟩
  · by_cases same : other = index
    · subst same
      cases (congrArg EndpointRequestSlot.state (update_self ..)).symm.trans rest
    · have slot := update_of_ne same (⟨key, .reserved⟩ : EndpointRequestSlot) ledger.slots
      exact slot.trans (canonical.clear other ((congrArg _ slot).symm.trans rest))
  · rw [keys] at mem
    -- the new key and the old ones all lie below the identifier that is next now
    have old : other.ledgerIdentity = ledger.identity ∧ 0 < other.requestId ∧
      other.requestId ≤ key.requestId := by
      rcases mem_cons.mp mem with rfl | mem
      · exact ⟨identity, next ▸ pos, Nat.le_refl _⟩
      · have ok := canonical.keys other mem
        exact ⟨ok.identity_eq, ok.id_pos, Nat.le_of_lt (next ▸ ok.id_lt opened)⟩
    refine ⟨?_, old.1, old.2.1, fun still => ?_⟩
    · show (if _ then _ else _) = _ ∨ (if _ then _ else _) = _
      split
      · exact .inr rfl
      · exact .inl opened
    · exact lt_next_reserved (next ▸ word) old.2.2 still
  · rw [keys]
    exact nodup_cons.mpr ⟨fresh, canonical.distinct⟩
  · rw [keys, card_cons]
    exact count

lemma Canonical.committed (canonical : Canonical ledger)
    (reserved : (ledger.slots index).state = .reserved) : Canonical (ledger.committed index) := by
  have keys := liveKeys_committed reserved
  refine ⟨canonical.hint, canonical.header, fun other free => ?_, fun other mem => ?_, ?_, ?_⟩
  · by_cases same : other = index
    · subst same
      cases (congrArg EndpointRequestSlot.state (update_self ..)).symm.trans free
    · have slot := update_of_ne same
        ({ ledger.slots index with state := .committed } : EndpointRequestSlot) ledger.slots
      exact slot.trans (canonical.clear other ((congrArg _ slot).symm.trans free))
  · rw [keys] at mem
    exact canonical.keys other mem
  · rw [keys]
    exact canonical.distinct
  · rw [keys]
    exact canonical.active

lemma Canonical.consumed (canonical : Canonical ledger)
    (live : (ledger.slots index).state ≠ .free) : Canonical (consumeSlot ledger index) := by
  have keys := liveKeys_consumeSlot live
  have active := canonical.active
  have bound := @card_liveKeys_le ledger
  have distinct := canonical.distinct
  rw [← keys] at distinct active bound
  rw [card_cons] at active bound
  have accepts := (canonical.keys _ (mem_liveKeys live)).accepts.1
  refine ⟨index.isLt, ?_, fun other free => ?_, fun other mem => ?_, ?_, ?_⟩
  · have header := canonical.header
    show Header ledger.identity ledger.nextRequestId index.val ledger.state
    cases state : ledger.state with
    | uninitialized => exact absurd state accepts
    | «open» | sequenceRetired | draining => rwa [state] at header
  · by_cases same : other = index
    · subst same
      exact update_self ..
    · have slot := update_of_ne same clearSlot ledger.slots
      exact slot.trans (canonical.clear other ((congrArg _ slot).symm.trans free))
  · exact canonical.keys other (keys ▸ mem_cons_of_mem mem)
  · exact (nodup_cons.mp distinct).2
  · show sub32 ledger.activeCount 1 = _
    unfold kEndpointRequestLedgerCapacity at bound
    rw [active, sub32_eq (by omega) (by unfold max32; omega)]
    rfl

lemma Effect.canonical {e} (canonical : Canonical ledger) (effect : Effect ledger e ledger') :
    Canonical ledger' := by
  cases effect with
  | refused | drained => exact canonical
  | initialized fresh valid pos word =>
    have empty := canonical.liveKeys_eq_zero (.inl fresh)
    refine ⟨canonical.hint, ⟨valid, pos, word⟩, canonical.clear, fun other mem => ?_,
      canonical.distinct, canonical.active⟩
    exact absurd (empty ▸ mem : other ∈ (0 : Multiset EndpointRequestKey)) (notMem_zero _)
  | reset draining valid pos word newer =>
    have empty := canonical.liveKeys_eq_zero (.inr draining)
    refine ⟨Nat.zero_lt_succ _, ⟨valid, pos, word⟩, canonical.clear, fun other mem => ?_,
      canonical.distinct, ?_⟩
    · exact absurd (empty ▸ mem : other ∈ (0 : Multiset EndpointRequestKey)) (notMem_zero _)
    · exact (congrArg card empty).symm
  | reserve opened identity next free => exact canonical.reserved opened identity next free
  | commit reserved => exact canonical.committed reserved
  | cancel live => exact canonical.consumed live
  | complete committed => exact canonical.consumed (by rw [committed]; nofun)
  | drain accepting =>
    have valid := canonical.identity_valid (by rcases accepting with h | h <;> rw [h] <;> nofun)
    refine ⟨Nat.zero_lt_succ _, ⟨valid, rfl⟩, fun _ _ => rfl, fun other mem => ?_, ?_, ?_⟩
    · exact absurd (liveKeys_drained ▸ mem : other ∈ (0 : Multiset EndpointRequestKey))
        (notMem_zero _)
    · exact nodup_zero
    · rfl

end Transitions

lemma Run.canonical {es} (run : Run .zero es ledger) : Canonical ledger :=
  Lts.Run.invariant run Canonical.zero fun canonical st => st.effect.canonical canonical

end DuetOS.Ledger
