import DuetOS.Ledger.Canonical
import DuetOS.Lib.Fifo

/-!
# Requests are settled once

What was reserved is what was settled together with what is live, and an identifier that was used is
never reserved again: a request is reserved, committed and settled at most once, although the ledger
keeps no record of the settled ones.
-/

namespace DuetOS.Ledger

open Word Function

def Event.reservedKey : Event → Option EndpointRequestKey
  | .reserve key .ok => some key
  | _ => none

def Event.committedKey : Event → Option EndpointRequestKey
  | .commit key ⟨.ok, _⟩ => some key
  | _ => none

def Event.settledKeys : Event → List EndpointRequestKey
  | .cancel key .ok => [key]
  | .complete authority .ok => [authority.requestKey]
  | .drain ⟨.ok, keys⟩ => keys
  | _ => []

def reservedKeys (es : List Event) : List EndpointRequestKey := es.filterMap Event.reservedKey

def committedKeys (es : List Event) : List EndpointRequestKey := es.filterMap Event.committedKey

def settledKeys (es : List Event) : List EndpointRequestKey := es.flatMap Event.settledKeys

/-- The identifiers reserved under one identity. -/
def reservedIds (identity : EndpointRequestLedgerIdentity) (es : List Event) : List Nat :=
  (reservedKeys es).filterMap fun key =>
    if key.ledgerIdentity = identity then some key.requestId else none

/-- The key was given out, or its identity is over. -/
def Used (ledger : EndpointRequestLedger) (key : EndpointRequestKey) : Prop :=
  ledger.state ≠ .uninitialized ∧
    (key.ledgerIdentity.endpointEpoch < ledger.identity.endpointEpoch ∨
      key.ledgerIdentity = ledger.identity ∧
        (ledger.state = .open → key.requestId < ledger.nextRequestId))

/-- The key was given out and is no longer waiting for its commit. -/
def Passed (ledger : EndpointRequestLedger) (key : EndpointRequestKey) : Prop :=
  Used ledger key ∧ ∀ index, (ledger.slots index).key = key → (ledger.slots index).state ≠ .reserved

open Multiset List

variable {ledger ledger' : EndpointRequestLedger} {key : EndpointRequestKey} {e : Event}

lemma Event.reservedKey_eq_some (reserves : e.reservedKey = some key) : e = .reserve key .ok := by
  unfold Event.reservedKey at reserves
  split at reserves <;> cases reserves
  rfl

lemma Event.committedKey_eq_some (commits : e.committedKey = some key) :
    ∃ authority, e = .commit key ⟨.ok, authority⟩ := by
  unfold Event.committedKey at commits
  split at commits <;> cases commits
  exact ⟨_, rfl⟩

lemma Event.refused_keys (refused : e.status ≠ .ok) :
    e.reservedKey = none ∧ e.settledKeys = [] := by
  refine ⟨?_, ?_⟩
  · unfold Event.reservedKey
    split
    · exact absurd rfl refused
    · rfl
  · unfold Event.settledKeys
    split
    · exact absurd rfl refused
    · exact absurd rfl refused
    · exact absurd rfl refused
    · rfl

lemma Effect.used (canonical : Canonical ledger) (effect : Effect ledger e ledger')
    (used : Used ledger key) : Used ledger' key := by
  obtain ⟨ready, past⟩ := used
  cases effect with
  | initialized fresh => exact absurd fresh ready
  | reset _ _ _ _ newer =>
    refine ⟨nofun, .inl ?_⟩
    rcases past with older | ⟨same, _⟩
    · exact Nat.lt_trans older newer
    · exact same ▸ newer
  | @reserve newKey index opened _ next =>
    have header := canonical.header
    rw [opened] at header
    refine ⟨?_, past.imp id fun ⟨same, below⟩ => ⟨same, fun still => ?_⟩⟩
    · show (if _ then _ else _) ≠ _
      split
      · nofun
      · exact ready
    · exact lt_next_reserved (next ▸ header.2.2) (next ▸ Nat.le_of_lt (below opened)) still
  | drain => exact ⟨nofun, past.imp id fun ⟨same, _⟩ => ⟨same, nofun⟩⟩
  | _ => exact ⟨ready, past⟩

lemma Effect.reserves_fresh (canonical : Canonical ledger) (effect : Effect ledger e ledger')
    (reserves : e.reservedKey = some key) : ¬Used ledger key ∧ Used ledger' key := by
  cases Event.reservedKey_eq_some reserves
  cases effect with
  | refused bad => exact absurd rfl bad
  | reserve opened identity next =>
    have header := canonical.header
    rw [opened] at header
    refine ⟨?_, ?_, .inr ⟨identity, fun still => ?_⟩⟩
    · rintro ⟨_, older | ⟨_, below⟩⟩
      · exact absurd (identity ▸ older) (Nat.lt_irrefl _)
      · exact absurd (next ▸ below opened) (Nat.lt_irrefl _)
    · show (if _ then _ else _) ≠ _
      split
      · nofun
      · rw [opened]
        nofun
    · exact lt_next_reserved (next ▸ header.2.2) (Nat.le_refl _) still

lemma Canonical.used (canonical : Canonical ledger) (mem : key ∈ ledger.liveKeys) :
    Used ledger key :=
  have ok := canonical.keys key mem
  ⟨ok.accepts.1, .inr ⟨ok.identity_eq, ok.id_lt⟩⟩

lemma passed_update (state : slot.state ≠ .reserved)
    (passed : ∀ i, (ledger.slots i).key = key → (ledger.slots i).state ≠ .reserved) (i)
    (same : (update ledger.slots index slot i).key = key) :
    (update ledger.slots index slot i).state ≠ .reserved := by
  by_cases at_index : i = index
  · subst at_index
    rw [update_self]
    exact state
  · rw [update_of_ne at_index] at same ⊢
    exact passed i same

lemma Effect.passed (canonical : Canonical ledger) (effect : Effect ledger e ledger')
    (passed : Passed ledger key) : Passed ledger' key := by
  have used := effect.used canonical passed.1
  refine ⟨used, ?_⟩
  cases effect with
  | @reserve newKey index opened identity next free =>
    have fresh := ((Effect.reserve opened identity next free).reserves_fresh canonical rfl).1
    intro i same
    by_cases at_index : i = index
    · subst at_index
      have new : newKey = key := (congrArg EndpointRequestSlot.key (update_self ..)).symm.trans same
      exact absurd (new ▸ passed.1) fresh
    · have slot := update_of_ne at_index (⟨newKey, .reserved⟩ : EndpointRequestSlot) ledger.slots
      rw [show (ledger.reserved index newKey).slots i = ledger.slots i from slot] at same ⊢
      exact passed.2 i same
  | commit | cancel | complete => exact passed_update nofun passed.2
  | drain => exact fun _ _ => nofun
  | _ => exact passed.2

lemma Effect.commits_once (canonical : Canonical ledger) (effect : Effect ledger e ledger')
    (commits : e.committedKey = some key) : ¬Passed ledger key ∧ Passed ledger' key := by
  obtain ⟨authority, rfl⟩ := Event.committedKey_eq_some commits
  cases effect with
  | refused bad => exact absurd rfl bad
  | @commit index reserved =>
    have live : (ledger.slots index).state ≠ .free := by
      rw [reserved]
      nofun
    have used := canonical.used (mem_liveKeys live)
    refine ⟨fun passed => passed.2 index rfl reserved,
      Effect.used canonical (.commit reserved) used, fun i same => ?_⟩
    by_cases at_index : i = index
    · subst at_index
      rw [show (ledger.committed i).slots i = _ from update_self ..]
      nofun
    have slot := update_of_ne at_index
      ({ ledger.slots index with state := .committed } : EndpointRequestSlot) ledger.slots
    rw [show (ledger.committed index).slots i = ledger.slots i from slot] at same ⊢
    -- another row with this key would be reserved twice
    intro waiting
    have other : (ledger.slots i).state ≠ .free := by
      rw [waiting]
      nofun
    exact at_index (Slots.row_unique canonical.distinct (liveKey_of_live other)
      (same ▸ liveKey_of_live live))

section Runs

variable {es : List Event}

lemma Effect.conserves (effect : Effect ledger e ledger') :
    ledger'.liveKeys + (e.settledKeys : Multiset EndpointRequestKey) =
      ledger.liveKeys + (e.reservedKey.toList : Multiset EndpointRequestKey) := by
  cases effect with
  | refused bad =>
    obtain ⟨reserves, settles⟩ := Event.refused_keys bad
    rw [reserves, settles]
    rfl
  | initialized | reset | drained => rfl
  | reserve _ _ _ free =>
    rw [liveKeys_reserved free, ← singleton_add]
    exact (add_zero _).trans (add_comm _ _)
  | commit reserved =>
    rw [liveKeys_committed reserved]
    rfl
  | cancel live =>
    rw [← liveKeys_consumeSlot live, ← singleton_add]
    exact (add_comm _ _).trans (add_zero _).symm
  | @complete index committed =>
    have live : (ledger.slots index).state ≠ .free := by
      rw [committed]
      nofun
    rw [← liveKeys_consumeSlot live, ← singleton_add]
    exact (add_comm _ _).trans (add_zero _).symm
  | drain =>
    rw [liveKeys_drained, ← keys_eq]
    exact (zero_add _).trans (add_zero _).symm

section

variable (run : Run .zero es ledger)

include run

lemma Run.conserves :
    (reservedKeys es : Multiset EndpointRequestKey) = settledKeys es + ledger.liveKeys := by
  induction run with
  | nil =>
    rfl
  | @snoc t u es e run st ih =>
    have balance := st.effect.conserves
    have reserved : reservedKeys (es ++ [e]) = reservedKeys es ++ e.reservedKey.toList := by
      unfold reservedKeys
      cases eq : e.reservedKey with
      | none | some key => simp [eq]
    have settled : settledKeys (es ++ [e]) = settledKeys es ++ e.settledKeys := by
      unfold settledKeys
      rw [flatMap_append, flatMap_singleton]
    rw [reserved, settled, ← coe_add, ← coe_add, ih, add_assoc, ← balance, add_assoc,
      add_comm u.liveKeys]

lemma Run.reserved_nodup : (reservedKeys es).Nodup :=
  (Lts.Run.issued_nodup (I := Canonical) (P := Used) run Canonical.zero
    (fun canonical st => st.effect.canonical canonical)
    (fun canonical st reserves => st.effect.reserves_fresh canonical reserves)
    fun canonical st used => st.effect.used canonical used).1

lemma Run.committed_nodup : (committedKeys es).Nodup :=
  (Lts.Run.issued_nodup (I := Canonical) (P := Passed) run Canonical.zero
    (fun canonical st => st.effect.canonical canonical)
    (fun canonical st commits => st.effect.commits_once canonical commits)
    fun canonical st passed => st.effect.passed canonical passed).1

lemma Run.reserved_of_live (mem : key ∈ ledger.liveKeys) : key ∈ reservedKeys es := by
  rw [← mem_coe, run.conserves]
  exact mem_add.mpr (.inr mem)

end

lemma committed_update (state : slot.state ≠ .committed)
    (committed : (update ledger.slots index slot i).state = .committed) :
    update ledger.slots index slot i = ledger.slots i := by
  by_cases at_index : i = index
  · subst at_index
    rw [update_self] at committed
    exact absurd committed state
  · exact update_of_ne at_index ..

lemma Effect.committed_row (effect : Effect ledger e ledger')
    (committed : (ledger'.slots index).state = .committed) :
    ledger'.slots index = ledger.slots index ∨ e.committedKey = some (ledger'.slots index).key := by
  cases effect with
  | reserve | cancel | complete => exact .inl (committed_update nofun committed)
  | @commit i reserved =>
    by_cases at_index : index = i
    · subst at_index
      have slot : (ledger.committed index).slots index =
        { ledger.slots index with state := .committed } := update_self ..
      rw [slot]
      exact .inr rfl
    · exact .inl (update_of_ne at_index ..)
  | drain => cases committed
  | _ => exact .inl rfl

lemma Run.committed_of_row (run : Run .zero es ledger)
    (committed : (ledger.slots index).state = .committed) :
    (ledger.slots index).key ∈ committedKeys es := by
  induction run generalizing index with
  | nil => cases committed
  | snoc run st ih =>
    unfold committedKeys
    rw [filterMap_append]
    rcases st.effect.committed_row committed with same | now
    · rw [same] at committed ⊢
      exact mem_append_left _ (ih committed)
    · exact mem_append_right _ (mem_filterMap.mpr ⟨_, .head _, now⟩)

def Fresh (ledger : EndpointRequestLedger) (identity : EndpointRequestLedgerIdentity) : Prop :=
  ledger.state = .uninitialized ∨ ledger.identity.endpointEpoch < identity.endpointEpoch

/-- The identifiers of an identity are consecutive, and the next one continues them. -/
def Numbered (es : List Event) (ledger : EndpointRequestLedger)
    (identity : EndpointRequestLedgerIdentity) : Prop :=
  ∃ first, reservedIds identity es = range' first (reservedIds identity es).length ∧
    first + (reservedIds identity es).length ≤ max64 + 1 ∧
    (identity = ledger.identity → ledger.state = .open →
      ledger.nextRequestId = first + (reservedIds identity es).length) ∧
    (Fresh ledger identity → reservedIds identity es = [])

lemma reservedIds_of_none (none : e.reservedKey = none) :
    reservedIds identity (es ++ [e]) = reservedIds identity es := by
  have nothing : [e].filterMap Event.reservedKey = [] := by simp [none]
  unfold reservedIds reservedKeys
  rw [filterMap_append, nothing, append_nil]

lemma reservedIds_reserve : reservedIds identity (es ++ [.reserve key .ok]) =
      if key.ledgerIdentity = identity then reservedIds identity es ++ [key.requestId]
      else reservedIds identity es := by
  unfold reservedIds reservedKeys
  split
  · rename_i same
    simp [Event.reservedKey, same]
  · rename_i other
    simp [Event.reservedKey, other]

lemma Numbered.keep (numbered : Numbered es ledger identity) (none : e.reservedKey = none)
    (next : identity = ledger'.identity → ledger'.state = .open →
      identity = ledger.identity ∧ ledger.state = .open ∧
        ledger'.nextRequestId = ledger.nextRequestId)
    (fresh : Fresh ledger' identity → Fresh ledger identity) :
    Numbered (es ++ [e]) ledger' identity := by
  obtain ⟨first, range, bound, current, unused⟩ := numbered
  refine ⟨first, ?_⟩
  rw [reservedIds_of_none none]
  refine ⟨range, bound, fun same opened => ?_, fun ahead => unused (fresh ahead)⟩
  obtain ⟨same', opened', next_eq⟩ := next same opened
  exact next_eq.trans (current same' opened')

lemma Numbered.start (numbered : Numbered es ledger identity)
    (none : e.reservedKey = none) (ahead : Fresh ledger newIdentity) (word : firstRequestId ≤ max64)
    (identity_eq : ledger'.identity = newIdentity)
    (next_eq : ledger'.nextRequestId = firstRequestId)
    (fresh : Fresh ledger' identity → Fresh ledger identity) :
    Numbered (es ++ [e]) ledger' identity := by
  by_cases same : identity = newIdentity
  · subst same
    obtain ⟨_, _, _, _, unused⟩ := numbered
    have empty := unused ahead
    refine ⟨firstRequestId, ?_⟩
    rw [reservedIds_of_none none, empty]
    exact ⟨rfl, by exact Nat.le_succ_of_le word, fun _ _ => next_eq, fun _ => rfl⟩
  · refine numbered.keep none (fun now _ => ?_) fresh
    exact absurd (now.trans identity_eq) same

lemma Effect.numbered (canonical : Canonical ledger) (effect : Effect ledger e ledger')
    (numbered : Numbered es ledger identity) : Numbered (es ++ [e]) ledger' identity := by
  cases effect with
  | refused bad =>
    exact numbered.keep (Event.refused_keys bad).1 (fun same opened => ⟨same, opened, rfl⟩) id
  | initialized fresh _ _ word =>
    exact numbered.start rfl (.inl fresh) word rfl rfl fun _ => .inl fresh
  | reset draining _ _ word newer =>
    refine numbered.start rfl (.inr newer) word rfl rfl fun ahead => .inr ?_
    rcases ahead with never | later
    · cases never
    · exact Nat.lt_trans newer later
  | @reserve newKey index opened own next free =>
    have header := canonical.header
    rw [opened] at header
    obtain ⟨first, range, bound, current, unused⟩ := numbered
    refine ⟨first, ?_⟩
    rw [reservedIds_reserve]
    have ahead : Fresh (ledger.reserved index newKey) identity → Fresh ledger identity := by
      rintro (never | later)
      · change (if _ then _ else _) = _ at never
        split at never
        · cases never
        · exact absurd (opened.symm.trans never) nofun
      · exact .inr later
    split
    · rename_i same
      have now : identity = ledger.identity := same.symm.trans own
      have id_eq : newKey.requestId = first + (reservedIds identity es).length :=
        next.trans (current now opened)
      have word : newKey.requestId ≤ max64 := next ▸ header.2.2
      rw [length_append, length_singleton]
      refine ⟨?_, by omega, fun _ still => ?_, fun fresh => ?_⟩
      · rw [range'_concat, ← range, id_eq, Nat.one_mul]
      · show (if _ then _ else _) = _
        change (if _ then _ else _) = _ at still
        split at still
        · cases still
        rename_i more
        have below : newKey.requestId ≠ max64 := more
        rw [if_neg more, add64_eq (by omega)]
        omega
      · rcases ahead fresh with never | later
        · exact absurd (opened.symm.trans never) nofun
        · exact absurd (now ▸ later) (Nat.lt_irrefl _)
    · rename_i other
      refine ⟨range, bound, fun now _ => ?_, fun fresh => unused (ahead fresh)⟩
      exact absurd (own.trans now.symm) other
  | commit | cancel | complete | drained =>
    exact numbered.keep rfl (fun same opened => ⟨same, opened, rfl⟩) id
  | drain =>
    refine numbered.keep rfl nofun ?_
    rintro (never | later)
    · cases never
    · exact .inr later

lemma Run.numbered (run : Run .zero es ledger) (identity) : Numbered es ledger identity := by
  induction run with
  | nil => exact ⟨1, rfl, Nat.le_add_left .., fun _ never => (nomatch never), fun _ => rfl⟩
  | snoc run st ih => exact st.effect.numbered (Run.canonical run) ih

lemma Run.committed_of_complete (run : Run .zero es ledger)
    (st : Step ledger (.complete authority .ok) ledger') :
    authority.requestKey ∈ committedKeys es := by
  have effect := st.effect
  cases effect with
  | refused bad => exact absurd rfl bad
  | complete committed => exact Run.committed_of_row run committed

lemma Run.reserved_of_commit (run : Run .zero es ledger)
    (st : Step ledger (.commit key ⟨.ok, authority⟩) ledger') : key ∈ reservedKeys es := by
  have effect := st.effect
  cases effect with
  | refused bad => exact absurd rfl bad
  | @commit index reserved =>
    have live : (ledger.slots index).state ≠ .free := by
      rw [reserved]
      nofun
    exact Run.reserved_of_live run (mem_liveKeys live)

lemma Run.drain_keys {keys} (run : Run .zero es ledger)
    (st : Step ledger (.drain ⟨.ok, keys⟩) ledger') :
    (keys : Multiset EndpointRequestKey) = ledger.liveKeys := by
  have effect := st.effect
  cases effect with
  | refused bad => exact absurd rfl bad
  | drained draining => exact ((Run.canonical run).liveKeys_eq_zero (.inr draining)).symm
  | drain => exact keys_eq

lemma mem_liveKeys_iff : key ∈ ledger.liveKeys ↔
      ∃ index, (ledger.slots index).state ≠ .free ∧ (ledger.slots index).key = key := by
  refine Slots.mem_gather.trans (exists_congr fun index => ?_)
  by_cases free : (ledger.slots index).state = .free
  · rw [liveKey_of_free free]
    exact ⟨nofun, fun live => absurd free live.1⟩
  · rw [liveKey_of_live free]
    exact ⟨fun eq => ⟨free, Option.some.inj eq⟩, fun live => congrArg some live.2⟩

/-- The ledger stays canonical and refusals leave it alone. Under each identity, identifiers are
reserved one after the other and end with the largest. A request is committed at most once, after it
was reserved; it is settled at most once, by its completion, which follows its commit, by its
cancellation, or by a drain, which returns exactly the live requests: those that were reserved and
not settled yet. -/
theorem requests_settle_once (run : Run .zero es ledger) : endpointRequestLedgerIsCanonical ledger ∧
    (∀ e ledger', Step ledger e ledger' → e.status ≠ .ok → ledger' = ledger) ∧
    (∀ identity, ∃ first, reservedIds identity es = range' first (reservedIds identity es).length) ∧
    (∀ before key after, es = before ++ .reserve key .ok :: after →
      key.requestId = kEndpointRequestIdMaximum → reservedIds key.ledgerIdentity after = []) ∧
    (reservedKeys es).Nodup ∧ (committedKeys es).Nodup ∧ (settledKeys es).Nodup ∧
    (∀ key ∈ settledKeys es, key ∈ reservedKeys es) ∧
    (∀ before key authority after, es = before ++ .commit key ⟨.ok, authority⟩ :: after →
      key ∈ reservedKeys before) ∧
    (∀ before authority after, es = before ++ .complete authority .ok :: after →
      authority.requestKey ∈ committedKeys before) ∧
    (∀ keys ledger', Step ledger (.drain ⟨.ok, keys⟩) ledger' → keys.Nodup ∧ ∀ key,
      (key ∈ keys ↔ ∃ index, (ledger.slots index).state ≠ .free ∧ (ledger.slots index).key = key) ∧
      (key ∈ keys ↔ key ∈ reservedKeys es ∧ key ∉ settledKeys es)) := by
  have canonical := Run.canonical run
  have conserved := Run.conserves run
  have nodup := Run.reserved_nodup run
  have parts : (settledKeys es : Multiset EndpointRequestKey).Nodup ∧
      Disjoint (settledKeys es : Multiset EndpointRequestKey) ledger.liveKeys := by
    have all := coe_nodup.mpr nodup
    rw [conserved, nodup_add] at all
    exact ⟨all.1, all.2.2⟩
  refine ⟨canonical.isCanonical, ?_, ?_, ?_, nodup, Run.committed_nodup run,
    coe_nodup.mp parts.1, ?_, ?_, ?_, ?_⟩
  · intro e ledger' st bad
    have effect := st.effect
    cases effect with
    | refused => rfl
    | _ => exact absurd rfl bad
  · intro identity
    obtain ⟨first, range, _⟩ := Run.numbered run identity
    exact ⟨first, range⟩
  · rintro before key after rfl last
    obtain ⟨first, range, bound, _⟩ := Run.numbered run key.ledgerIdentity
    have split : reservedIds key.ledgerIdentity (before ++ .reserve key .ok :: after) =
        reservedIds key.ledgerIdentity before ++ key.requestId :: reservedIds key.ledgerIdentity
          after := by
      unfold reservedIds reservedKeys
      rw [filterMap_append, filterMap_append]
      refine congrArg _ ?_
      exact filterMap_cons_some (if_pos rfl)
    rw [last] at split
    exact Fifo.eq_nil_of_largest (split.symm.trans range) bound
  · intro key mem
    rw [← mem_coe, conserved]
    exact mem_add.mpr (.inl mem)
  · rintro before key authority after rfl
    obtain ⟨t, u, before_run, st, _⟩ := Lts.Run.split_at run
    exact Run.reserved_of_commit before_run st
  · rintro before authority after rfl
    obtain ⟨t, u, before_run, st, _⟩ := Lts.Run.split_at run
    exact Run.committed_of_complete before_run st
  · intro keys ledger' st
    have live := Run.drain_keys run st
    refine ⟨coe_nodup.mp (live ▸ canonical.distinct), fun key => ⟨?_, ?_⟩⟩
    · rw [← mem_coe, live]
      exact mem_liveKeys_iff
    · rw [← mem_coe, live, ← mem_coe, conserved, mem_add]
      constructor
      · intro mem
        exact ⟨.inr mem, fun settled => disjoint_left.mp parts.2 settled mem⟩
      · rintro ⟨settled | mem, open_⟩
        · exact absurd settled open_
        · exact mem

end Runs

/-- The first identity of the sample, and its only request. -/
def sampleKey : EndpointRequestKey := ⟨⟨1, .initiatorToAcceptor⟩, kEndpointRequestIdMaximum⟩

lemma sample_run :
    ∃ ledger keys, Run .zero
    ([.initialized sampleKey.ledgerIdentity kEndpointRequestIdMaximum .ok] ++
      [.reserve sampleKey .ok] ++ [.commit sampleKey ⟨.ok, ⟨sampleKey⟩⟩] ++ [.drain ⟨.ok, keys⟩])
        ledger := by
  have opens : endpointRequestLedgerInitialize .zero sampleKey.ledgerIdentity
    kEndpointRequestIdMaximum = (.ok, _) := rfl
  have committed := ((Lts.Run.single (Step.initialized (Nat.le_refl _) opens)).snoc
    (@Step.reserve _ _ sampleKey .ok rfl)).snoc (@Step.commit _ _ sampleKey ⟨.ok, ⟨sampleKey⟩⟩ rfl)
  exact ⟨_, _, committed.snoc (.drain rfl)⟩

theorem requests_settle_once_sample : ∃ ledger keys, Run .zero
    ([.initialized sampleKey.ledgerIdentity kEndpointRequestIdMaximum .ok] ++
      [.reserve sampleKey .ok] ++ [.commit sampleKey ⟨.ok, ⟨sampleKey⟩⟩] ++ [.drain ⟨.ok, keys⟩])
      ledger ∧ endpointRequestLedgerIsCanonical ledger ∧ keys.Nodup := by
  obtain ⟨ledger, keys, run⟩ := sample_run
  obtain ⟨canonical, _, _, _, _, _, settled, _⟩ := requests_settle_once run
  have once : (settledKeys [.drain ⟨.ok, keys⟩]).Nodup := settled
  exact ⟨ledger, keys, run, canonical, by simpa [settledKeys, Event.settledKeys] using once⟩

end DuetOS.Ledger
