import DuetOS.Resource.Domain

/-!
# Exact accounts

The invariant of the resource service: the counters of a domain are the totals of the Live charges
bound to its current key, and its state is the one its owners and counters call for.
-/

namespace DuetOS.Resource

open Word Prod
open scoped BigOperators

lemma resolve_eq_some {capacity key} {generation : Fin capacity → Nat} {slot} :
    resolve key generation = some slot ↔ key = ⟨slot, generation slot⟩ ∧ generation slot ≠ 0 ∧
        generation slot ≤ kResourceGenerationMaximum := by
  obtain ⟨index, gen⟩ := key
  simp only [resolve, resourceKeyIsValid, decide_eq_true_eq]
  constructor
  · intro h
    split_ifs at h with valid same
    cases h
    exact ⟨by rw [same], by rw [same]; exact valid.2⟩
  · rintro ⟨same, nonzero, small⟩
    cases same
    rw [dif_pos ⟨slot.isLt, nonzero, small⟩, if_pos rfl]

def State.domainKey (s : State) (slot : Fin kResourceDomainCapacity) : ResourceKey :=
  ⟨slot, (s.domains slot).generation⟩

def State.chargeKey (s : State) (c : ResourceClass) (slot : Fin c.capacity) : ResourceKey :=
  ⟨slot, (s.charges c slot).generation⟩

/-- The charge is Live and bound to the domain `key`. -/
def ResourceChargeRow.BoundTo (row : ResourceChargeRow) (key : ResourceKey) : Prop :=
  row.state = .live ∧ row.domain = key

instance (row : ResourceChargeRow) (key : ResourceKey) : Decidable (row.BoundTo key) :=
  inferInstanceAs (Decidable (_ ∧ _))

/-- What a charge adds to the counters of the domain `key`. -/
def load (key : ResourceKey) (row : ResourceChargeRow) : Nat × Nat :=
  if row.BoundTo key then (1, row.amount) else 0

lemma load_of_bound (bound : row.BoundTo key) : load key row = (1, row.amount) := if_pos bound

lemma load_of_not_bound (free : ¬row.BoundTo key) : load key row = 0 := if_neg free

lemma not_boundTo_of_retired {key} {row : ResourceChargeRow} (h : row.state = .retired) :
    ¬row.BoundTo key := by
  intro bound
  rw [ResourceChargeRow.BoundTo, h] at bound
  exact nomatch bound.1

/-- What the charges of a class add up to for the domain `key`. -/
def State.charged (s : State) (c : ResourceClass) (key : ResourceKey) : Nat × Nat :=
  ∑ slot, load key (s.charges c slot)

lemma State.load_le_charged (s : State) (c key slot) :
    load key (s.charges c slot) ≤ s.charged c key := by
  rw [State.charged, ← Finset.add_sum_erase _ _ (Finset.mem_univ slot)]
  exact ⟨Nat.le_add_right _ _, Nat.le_add_right _ _⟩

lemma State.charged_eq_zero {s : State} {c key} :
    s.charged c key = 0 ↔ ∀ slot, ¬(s.charges c slot).BoundTo key := by
  constructor
  · intro none slot bound
    have part := s.load_le_charged c key slot
    rw [none, load_of_bound bound] at part
    exact absurd part.1 (Nat.not_succ_le_zero 0)
  · intro free
    exact Finset.sum_eq_zero fun slot _ => load_of_not_bound (free slot)

@[simp]
lemma State.charges_setCharge (s : State) (c slot row) :
    (s.setCharge c slot row).charges c = Function.update (s.charges c) slot row :=
  Function.update_self c _ _

lemma State.charges_setCharge_of_ne (s : State) (ne : d ≠ c) (slot row)
    : (s.setCharge c slot row).charges d = s.charges d :=
  Function.update_of_ne ne _ _

lemma State.charged_setCharge (s : State) (c slot row key) :
    (s.setCharge c slot row).charged c key + load key
    (s.charges c slot) = s.charged c key + load key row := by
  rw [State.charged, State.charges_setCharge]
  exact Slots.sum_update (s.charges c) slot row (load key)

lemma State.charged_setCharge_of_ne (s : State) (ne : d ≠ c) (slot row key)
    : (s.setCharge c slot row).charged d key = s.charged d key := by
  rw [State.charged, State.charges_setCharge_of_ne s ne]
  rfl

@[simp]
lemma State.charged_setDomain (s : State) (slot row c key)
    : (s.setDomain slot row).charged c key = s.charged c key :=
  rfl

/-- The state the owners and the counters of a row call for. -/
def ResourceDomainRow.calledFor (row : ResourceDomainRow) : ResourceDomainState :=
  if row.ownerReferences ≠ 0 then .live else if uncharged row then .retired else .closing

def ResourceAccount.totals (account : ResourceAccount) : Nat × Nat :=
  (account.objects, account.amount)

lemma uncharged_iff : uncharged row ↔ ∀ c, (row.accounts c).totals = 0 := by
  rw [uncharged, decide_eq_true_eq]
  constructor
  · rintro ⟨h1, h2, h3, h4⟩ c
    cases c
    · exact Prod.ext h1 h2
    · exact Prod.ext h3 h4
  · intro h
    exact ⟨congrArg fst (h .section), congrArg snd (h .section), congrArg fst (h .channel),
      congrArg snd (h .channel)⟩

/-- The largest limit any profile grants; both counters of both classes stay within it. -/
def kLimitMaximum : Nat := 256 * 1024

/-- A domain row that accounts for the charges `charged`. -/
structure ResourceDomainRow.Exact (row : ResourceDomainRow) (charged : ResourceClass → Nat × Nat) :
    Prop where
  totals : ∀ c, (row.accounts c).totals = charged c
  objects_le : ∀ c, (row.accounts c).objects ≤ (row.accounts c).objectLimit
  amount_le : ∀ c, (row.accounts c).amount ≤ (row.accounts c).amountLimit
  objectLimit_le : ∀ c, (row.accounts c).objectLimit ≤ kLimitMaximum
  amountLimit_le : ∀ c, (row.accounts c).amountLimit ≤ kLimitMaximum
  owners_le : row.ownerReferences ≤ max32
  state_eq : row.state = row.calledFor

structure Exact (s : State) : Prop where
  row : ∀ slot, (s.domains slot).Exact fun c => s.charged c (s.domainKey slot)
  domain_le : ∀ slot, (s.domains slot).generation ≤ kResourceGenerationMaximum
  charge_le : ∀ c slot, (s.charges c slot).generation ≤ kResourceGenerationMaximum
  /-- A Live charge has its own key, an amount, and is bound to the current key of some domain. -/
  bound : ∀ c slot, (s.charges c slot).state = .live →
    (s.charges c slot).generation ≠ 0 ∧ (s.charges c slot).amount ≠ 0 ∧
    ∃ domain, (s.domains domain).generation ≠ 0 ∧ (s.charges c slot).domain = s.domainKey domain

lemma Exact.zero : Exact State.zero where
  row slot :=
    { totals := fun c => by
        rw [State.charged_eq_zero.mpr fun _ => not_boundTo_of_retired rfl]
        rfl
      objects_le := fun _ => Nat.le_refl 0
      amount_le := fun _ => Nat.le_refl 0
      objectLimit_le := fun _ => Nat.zero_le _
      amountLimit_le := fun _ => Nat.zero_le _
      owners_le := Nat.zero_le _
      state_eq := rfl }
  domain_le _ := Nat.zero_le _
  charge_le _ _ := Nat.zero_le _
  bound _ _ h := nomatch h

section states

variable {row : ResourceDomainRow} {charged : ResourceClass → Nat × Nat}

variable (exact : row.Exact charged)

include exact

lemma ResourceDomainRow.Exact.owners_ne_zero (live : row.state = .live) :
    row.ownerReferences ≠ 0 := by
  intro none
  have called := exact.state_eq.symm.trans live
  rw [calledFor, if_neg (not_not.mpr none)] at called
  split at called <;> exact nomatch called

lemma ResourceDomainRow.Exact.owners_eq_zero (dead : row.state ≠ .live) :
    row.ownerReferences = 0 := by
  by_contra owned
  apply dead
  rw [exact.state_eq, calledFor, if_pos owned]

lemma ResourceDomainRow.Exact.retired_iff : row.state = .retired ↔ row.ownerReferences = 0 ∧
    ∀ c, charged c = 0 := by
  have empty : uncharged row ↔ ∀ c, charged c = 0 :=
    uncharged_iff.trans (forall_congr' fun c => by rw [exact.totals c])
  rw [← empty, exact.state_eq, calledFor]
  split_ifs with owned free
  · exact ⟨fun h => (nomatch h), fun h => absurd h.1 owned⟩
  · exact ⟨fun _ => ⟨not_not.mp owned, free⟩, fun _ => rfl⟩
  · exact ⟨fun h => (nomatch h), fun h => absurd h.2 free⟩

lemma ResourceDomainRow.Exact.closing_iff : row.state = .closing ↔ row.ownerReferences = 0 ∧
    ∃ c, charged c ≠ 0 := by
  have empty : uncharged row ↔ ∀ c, charged c = 0 :=
    uncharged_iff.trans (forall_congr' fun c => by rw [exact.totals c])
  rw [← not_forall, ← empty, exact.state_eq, calledFor]
  split_ifs with owned free
  · exact ⟨fun h => (nomatch h), fun h => absurd h.1 owned⟩
  · exact ⟨fun h => (nomatch h), fun h => absurd free h.2⟩
  · exact ⟨fun _ => ⟨not_not.mp owned, free⟩, fun _ => rfl⟩

end states

end DuetOS.Resource
