import Mathlib.Data.Multiset.Filter

/-!
# Exclusive ownership

A slot that is empty or holds one token, and calls in progress each of which holds at most one.
`Owned held calls slot` says that the token in the slot is held by exactly one call, and that nobody
holds a token while the slot is empty. A mutex, a lease and a reservation are such slots.
-/

namespace Exclusive

open Multiset

variable {α τ : Type*}

/-- The calls hold what is in the slot. -/
def Owned (held : α → Option τ) (calls : Multiset α) (slot : Option τ) : Prop :=
  calls.filterMap held = slot.elim 0 fun token => {token}

variable {held : α → Option τ} {calls : Multiset α} {call call' : α} {slot : Option τ} {token : τ}

lemma owned_zero : Owned held 0 none := rfl

lemma owned_cons_none (none : held call = none) :
    Owned held (call ::ₘ calls) slot ↔ Owned held calls slot := by
  unfold Owned
  rw [filterMap_cons_none _ _ none]

/-- A call with a token has the one in the slot, and no other call has any. -/
lemma owned_cons_some (some_eq : held call = some token) :
    Owned held (call ::ₘ calls) slot ↔ slot = some token ∧ Owned held calls none := by
  unfold Owned
  rw [filterMap_cons_some _ _ _ some_eq]
  cases slot with
  | none => exact ⟨fun eq => absurd eq (cons_ne_zero), nofun⟩
  | some other =>
    constructor
    · intro eq
      have card := congrArg card eq
      rw [card_cons] at card
      have zero : calls.filterMap held = 0 := card_eq_zero.mp (Nat.succ.inj card)
      rw [zero] at eq
      exact ⟨congrArg some (singleton_inj.mp eq).symm, zero⟩
    · rintro ⟨eq, zero⟩
      cases eq
      exact congrArg (token ::ₘ ·) zero

lemma Owned.slot_eq_none (owned : Owned held calls slot) (idle : ∀ call ∈ calls, held call = none) :
    slot = none := by
  have zero : calls.filterMap held = 0 := by
    refine eq_zero_of_forall_notMem fun token mem => ?_
    obtain ⟨call, mem, eq⟩ := (mem_filterMap _ _).mp mem
    cases (idle call mem).symm.trans eq
  cases slot with
  | none => rfl
  | some token => exact absurd (zero.symm.trans owned).symm (singleton_ne_zero token)

lemma Owned.held_eq_none (owned : Owned held calls none) (mem : call ∈ calls) :
    held call = none := by
  cases eq : held call with
  | none => rfl
  | some token =>
    have held_mem : token ∈ calls.filterMap held := (mem_filterMap _ _).mpr ⟨call, mem, eq⟩
    rw [owned] at held_mem
    exact absurd held_mem (notMem_zero token)

/-- How a token moves when `call` goes on as `next`, or returns when there is no next: it stays as
it is, the holder changes it, or it is taken out of an empty slot. -/
inductive Moves (held : α → Option τ) (call : α) (next : Option α) (slot slot' : Option τ) :
    Prop where
  | keep :
    next.bind held = held call →
    slot' = slot →
    Moves held call next slot slot'
  | change {owned : τ} : held call = some owned → slot' = next.bind held →
    Moves held call next slot slot'
  | take : slot = none → slot' = next.bind held → Moves held call next slot slot'

/-- Nobody else has a token, so the slot has what the next call has. -/
lemma Owned.next (owned : Owned held calls none) (next : Option α) :
    Owned held (next.elim calls (· ::ₘ calls)) (next.bind held) := by
  cases next with
  | none => exact owned
  | some call =>
    cases eq : held call with
    | none =>
      have empty : (some call).bind held = none := eq
      rw [empty]
      exact (owned_cons_none eq).mpr owned
    | some token => exact (owned_cons_some eq).mpr ⟨eq, owned⟩

lemma Owned.moves {next slot'} (owned : Owned held (call ::ₘ calls) slot)
    (moves : Moves held call next slot slot') :
    Owned held (next.elim calls (· ::ₘ calls)) slot' := by
  cases moves with
  | keep same eq =>
    subst eq
    cases eq : held call with
    | none =>
      have owned' := (owned_cons_none eq).mp owned
      cases next with
      | none => exact owned'
      | some call' =>
        have idle : held call' = none := same.trans eq
        exact (owned_cons_none idle).mpr owned'
    | some token =>
      obtain ⟨rfl, owned'⟩ := (owned_cons_some eq).mp owned
      have next_eq := owned'.next next
      rw [same, eq] at next_eq
      exact next_eq
  | change some_eq eq =>
    subst eq
    exact ((owned_cons_some some_eq).mp owned).2.next next
  | take empty eq =>
    subst empty eq
    exact ((owned_cons_none (owned.held_eq_none (mem_cons_self ..))).mp owned).next next

end Exclusive
