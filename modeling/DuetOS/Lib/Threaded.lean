import Mathlib.Data.List.Nodup

/-!
# Chains threaded through an array

Cells `i : ι` are linked by `next : ι → β`, where a link is the name of a cell or `stop`. `Threaded
name stop next b l`: following the links from `b` visits the cells `l` and ends. Only their links
matter (`Threaded.congr`), a new cell goes in front (`Threaded.push`), and a cell is taken out by
giving its link to the cell before it (`Threaded.unlink`).
-/

/-- The chain from link `b` visits `l`. -/
inductive Threaded {ι β : Type*} (name : ι → β) (stop : β) (next : ι → β) : β → List ι → Prop where
  | nil : Threaded name stop next stop []
  | cons : name i ≠ stop → Threaded name stop next (next i) l →
    Threaded name stop next (name i) (i :: l)

namespace Threaded

open Function

variable {ι β : Type*} {name : ι → β} {stop b : β} {next next' : ι → β}
  {l before after : List ι} {i j : ι}

lemma congr (chain : Threaded name stop next b l) (same : ∀ i ∈ l, next' i = next i) :
    Threaded name stop next' b l := by
  induction chain with
  | nil => exact .nil
  | @cons i l proper _ ih =>
    have rest := ih fun j mem => same j (.tail _ mem)
    rw [← same i (.head _)] at rest
    exact .cons proper rest

lemma push [DecidableEq ι] (chain : Threaded name stop next b l) (proper : name i ≠ stop)
    (fresh : i ∉ l) :
    Threaded name stop (update next i b) (name i) (i :: l) := by
  have rest : Threaded name stop (update next i b) b l :=
    chain.congr fun j mem => update_of_ne (ne_of_mem_of_not_mem mem fresh) ..
  refine .cons proper ?_
  rw [update_self]
  exact rest

lemma rest (chain : Threaded name stop next b (i :: l)) : Threaded name stop next (next i) l := by
  cases chain with
  | cons _ rest => exact rest

lemma head (chain : Threaded name stop next b (i :: l)) : b = name i ∧ name i ≠ stop := by
  cases chain with
  | cons proper _ => exact ⟨rfl, proper⟩

/-- Take cell `i` out from behind cell `j`. -/
lemma unlink [DecidableEq ι] (chain : Threaded name stop next b (before ++ j :: i :: after))
    (nodup : (before ++ j :: i :: after).Nodup) (value : β) :
    Threaded name stop (update (update next j (next i)) i value) b (before ++ j :: after) := by
  induction before generalizing b with
  | nil =>
    obtain ⟨eq, proper⟩ := chain.head
    have tail := chain.rest.rest
    simp only [List.nil_append, List.nodup_cons, List.mem_cons, not_or] at nodup
    obtain ⟨⟨ne, out⟩, out', _⟩ := nodup
    rw [List.nil_append, eq]
    refine .cons proper ?_
    rw [update_of_ne ne, update_self]
    refine tail.congr fun k mem => ?_
    rw [update_of_ne (ne_of_mem_of_not_mem mem out'), update_of_ne (ne_of_mem_of_not_mem mem out)]
  | cons k before ih =>
    obtain ⟨eq, proper⟩ := chain.head
    rw [List.cons_append, List.nodup_cons] at nodup
    have tail := ih chain.rest nodup.2
    have ne_j : k ≠ j := fun eq => nodup.1 (eq ▸ by simp)
    have ne_i : k ≠ i := fun eq => nodup.1 (eq ▸ by simp)
    rw [List.cons_append, eq]
    refine .cons proper ?_
    rw [update_of_ne ne_i, update_of_ne ne_j]
    exact tail

end Threaded
