import Mathlib.Algebra.BigOperators.Group.Multiset.Basic

/-!
# Counting the calls in progress

Calls between two of their atomic sections form a multiset. `tally p calls` counts those that
satisfy the test `p`; a counter kept by the code is proved equal to such a tally. `mem_held_iff`
reads what is still held off what was put in and taken out.
-/

namespace Bag

open Multiset

variable {α : Type*}

/-- How many elements satisfy `p`. -/
def tally (p : α → Bool) (calls : Multiset α) : Nat := calls.countP fun a => p a = true

@[simp]
lemma tally_zero (p : α → Bool) : tally p 0 = 0 := rfl

@[simp]
lemma tally_cons (p : α → Bool) (a : α) (calls) :
    tally p (a ::ₘ calls) = tally p calls + if p a then 1 else 0 :=
  countP_cons ..

lemma tally_pos {p : α → Bool} {a : α} {calls} (mem : a ∈ calls) (sat : p a) : 0 < tally p calls :=
  countP_pos_of_mem mem sat

lemma exists_of_tally_pos {p : α → Bool} {calls} (pos : 0 < tally p calls) : ∃ a ∈ calls, p a :=
  countP_pos.mp pos

lemma mem_held_iff {held : Multiset α} {out put : List α} (conserved : held + out = put)
    (nodup : put.Nodup) {a : α} : a ∈ held ↔ a ∈ put ∧ a ∉ out := by
  have all : (held + (out : Multiset α)).Nodup := by
    rw [conserved]
    exact nodup
  have apart := (nodup_add.mp all).2.2
  rw [← mem_coe, ← conserved, mem_add, mem_coe]
  constructor
  · exact fun mem => ⟨.inl mem, fun gone => disjoint_left.mp apart mem gone⟩
  · exact fun ⟨mem, stays⟩ => mem.resolve_right stays

lemma sum_toList {ι : Type*} (item : ι → Option α) (order : List ι) :
    (order.map fun i => ((item i).toList : Multiset α)).sum = (order.filterMap item : List α) := by
  induction order with
  | nil => rfl
  | cons i rest ih =>
    rw [List.map_cons, List.sum_cons, ih, List.filterMap_cons]
    cases item i with
    | none => exact zero_add _
    | some held => rfl

lemma sum_coe {ι : Type*} (items : ι → List α) (order : List ι) :
    (order.map fun i => (items i : Multiset α)).sum = (order.flatMap items : List α) := by
  induction order with
  | nil => rfl
  | cons i rest ih => rw [List.map_cons, List.sum_cons, ih, List.flatMap_cons, coe_add]

end Bag
