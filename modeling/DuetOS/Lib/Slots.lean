import DuetOS.Lib.Bag
import Mathlib.Algebra.BigOperators.Fin
import Mathlib.Algebra.Order.BigOperators.Group.Finset

/-!
# Fixed-capacity slot arrays

A table of rows is a function `Fin n → α`, and writing one row is `update`. `sum_update` is how a
total over all rows moves when one is written, without subtraction for the sake of linear
arithmetic. `gather` collects what the rows hold. `probeOrder` is the order of a circular search
from `start`.
-/

namespace Slots

open Function Multiset

open scoped BigOperators

variable {n : Nat} {α β : Type*} {M : Type*}

lemma sum_update [AddCommMonoid M] (s : Fin n → α) (i) (v : α) (f : α → M) :
    ∑ j, f (update s i v j) + f (s i) = ∑ j, f (s j) + f v := by
  classical
  have split : ∀ g : Fin n → M, ∑ j, g j = g i + ∑ j ∈ Finset.univ.erase i, g j := fun g =>
    (Finset.add_sum_erase _ g (Finset.mem_univ i)).symm
  have rest : ∑ j ∈ Finset.univ.erase i, f (update s i v j) = ∑ j ∈ Finset.univ.erase i,
    f (s j) := by
    refine Finset.sum_congr rfl fun j hj => ?_
    rw [update_of_ne (Finset.ne_of_mem_erase hj)]
  rw [split fun j => f (update s i v j), split fun j => f (s j), rest, update_self]
  simp only [add_comm, add_left_comm]

lemma countP_update (p : α → Bool) (s : Fin n → α) (i) (v : α) :
    (List.finRange n).countP (fun j => p (update s i v j)) + (if p (s i) then 1 else 0) =
      (List.finRange n).countP (fun j => p (s j)) + if p v then 1 else 0 := by
  have total : ∀ t : Fin n → α, (List.finRange n).countP (fun j => p (t j)) = ∑ j, if p (t j) then 1
    else 0 := by
    intro t
    rw [Fin.sum_univ_def]
    induction List.finRange n with
    | nil => rfl
    | cons j rest ih => rw [List.countP_cons, ih, List.map_cons, List.sum_cons, Nat.add_comm]
  rw [total, total]
  exact sum_update s i v fun row => if p row then 1 else 0

lemma le_sum (s : Fin n → α) (i) (f : α → Nat) : f (s i) ≤ ∑ j, f (s j) :=
  Finset.single_le_sum (f := fun j => f (s j)) (fun _ _ => Nat.zero_le _) (Finset.mem_univ i)

lemma part_le_sum (part : Fin n → Multiset β) (i) : part i ≤ ∑ j, part j :=
  Finset.single_le_sum (f := part) (fun _ _ => zero_le _) (Finset.mem_univ i)

/-- What the rows hold, as a multiset. -/
def gather (hold : α → Option β) (s : Fin n → α) : Multiset β :=
  ∑ i, ((hold (s i)).toList : Multiset β)

/-- Writing a row conserves what is held when the row gives up `lost` and takes in `gained`. -/
lemma gather_update {hold : α → Option β} {s : Fin n → α} {i} {v : α} {gained lost}
    (balance : ((hold v).toList : Multiset β) + lost =
      ((hold (s i)).toList : Multiset β) + gained) :
    gather hold (update s i v) + lost = gather hold s + gained := by
  have trade := sum_update s i v fun row => ((hold row).toList : Multiset β)
  apply add_right_cancel (b := ((hold (s i)).toList : Multiset β))
  calc gather hold (update s i v) + lost + ((hold (s i)).toList : Multiset β)
      = gather hold s + ((hold v).toList : Multiset β) + lost := by
        rw [add_right_comm]
        exact congrArg (· + lost) trade
    _ = gather hold s + gained + ((hold (s i)).toList : Multiset β) := by
      rw [add_assoc, balance, ← add_assoc, add_right_comm]

/-- The same for a change that leaves what all other rows hold. -/
lemma gather_row {hold : α → Option β} {s s' : Fin n → α} {i gained lost}
    (others : ∀ j, j ≠ i → hold (s' j) = hold (s j))
    (balance : ((hold (s' i)).toList : Multiset β) + lost =
      ((hold (s i)).toList : Multiset β) + gained) :
    gather hold s' + lost = gather hold s + gained := by
  have same : gather hold s' = gather hold (update s i (s' i)) := Finset.sum_congr rfl fun j _ => by
      by_cases eq : j = i
      · rw [eq, update_self]
      · rw [update_of_ne eq, others j eq]
  rw [same]
  exact gather_update balance

lemma gather_eq_zero {hold : α → Option β} {s : Fin n → α} (empty : ∀ i, hold (s i) = none) :
    gather hold s = 0 :=
  Finset.sum_eq_zero fun i _ => by
    rw [empty i]
    rfl

lemma gather_congr {hold : α → Option β} {s s' : Fin n → α} (same : ∀ i, hold (s i) = hold (s' i)) :
    gather hold s = gather hold s' :=
  Finset.sum_congr rfl fun i _ => by rw [same i]

lemma gather_eq_filterMap (hold : α → Option β) (s : Fin n → α) :
    gather hold s = ((List.finRange n).filterMap fun i => hold (s i) : List β) := by
  rw [gather, Fin.sum_univ_def, Bag.sum_toList]

lemma mem_gather {hold : α → Option β} {s : Fin n → α} {b : β} :
    b ∈ gather hold s ↔ ∃ i, hold (s i) = some b := by
  rw [gather_eq_filterMap, mem_coe, List.mem_filterMap]
  exact ⟨fun ⟨i, _, eq⟩ => ⟨i, eq⟩, fun ⟨i, eq⟩ => ⟨i, List.mem_finRange i, eq⟩⟩

lemma count_gather [DecidableEq β] {hold : α → Option β} {s : Fin n → α} {b : β} :
    (gather hold s).count b = (Finset.univ.filter fun i => hold (s i) = some b).card := by
  rw [gather, count_sum', Finset.card_filter]
  refine Finset.sum_congr rfl fun i _ => ?_
  cases hold (s i) with
  | none => simp
  | some c =>
    rw [Option.toList_some, coe_singleton, count_singleton]
    exact if_congr (eq_comm.trans Option.some_inj.symm) rfl rfl

lemma card_gather {hold : α → Option β} {s : Fin n → α} :
    (gather hold s).card = (List.finRange n).countP fun i => (hold (s i)).isSome := by
  rw [gather_eq_filterMap, coe_card, List.length_filterMap_eq_countP]

lemma row_unique {hold : α → Option β} {s : Fin n → α} {i j} {b : β} (nodup : (gather hold s).Nodup)
    (at_i : hold (s i) = some b) (at_j : hold (s j) = some b) : i = j := by
  by_contra ne
  have others : ((hold (s j)).toList : Multiset β) ≤ ∑ k ∈ Finset.univ.erase i,
    ((hold (s k)).toList : Multiset β) :=
    Finset.single_le_sum (f := fun k => ((hold (s k)).toList : Multiset β))
      (fun _ _ => zero_le _) (Finset.mem_erase.mpr ⟨Ne.symm ne, Finset.mem_univ j⟩)
  have all : ((hold (s i)).toList : Multiset β) + ((hold (s j)).toList : Multiset β) ≤
    gather hold s := by
    refine (add_le_add_right others _).trans_eq ?_
    exact Finset.add_sum_erase _ (fun k => ((hold (s k)).toList : Multiset β)) (Finset.mem_univ i)
  rw [at_i, at_j] at all
  have twice := nodup_of_le all nodup
  simp at twice

/-- The rows in the order a circular search from `start` visits them. -/
def probeOrder (start : Fin n) : List (Fin n) :=
  (List.finRange n).map fun step => start + step

end Slots
