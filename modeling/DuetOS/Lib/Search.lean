import Mathlib.Order.Lattice

/-!
# Binary search

`lowerBound f key low high` is the usual loop that halves `[low, high)` until it is empty. Over a
strictly increasing `f` it finds the index of `key`, if there is one.
-/

namespace Search

variable {α : Type*} [LinearOrder α]

/-- The first index in `[low, high)` whose value is not below `key`, found by halving. -/
def lowerBound (f : Nat → α) (key : α) (low high : Nat) : Nat :=
  if low < high then
    let middle := low + (high - low) / 2
    if f middle < key then lowerBound f key (middle + 1) high else lowerBound f key low middle
  else low
  termination_by high - low

lemma lowerBound_of_mem {f : Nat → α} (mono : ∀ i j, i < j → j < size → f i < f j)
    (within : index < size)
    (least : low ≤ index) (most : index ≤ high) (fits : high ≤ size) :
    lowerBound f (f index) low high = index := by
  fun_induction lowerBound f (f index) low high with
  | case1 low high more middle less ih =>
    have later : middle < index := by
      by_contra early
      rcases (not_lt.mp early).lt_or_eq with lt | same
      · exact lt_asymm less (mono _ _ lt (by omega))
      · exact less.ne (congrArg f same.symm)
    exact ih later most fits
  | case2 low high more middle not_less ih =>
    exact ih least (not_lt.mp fun lt => not_less (mono _ _ lt within)) (by omega)
  | case3 low high done => omega

end Search
