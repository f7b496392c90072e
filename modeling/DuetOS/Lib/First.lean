import Mathlib.Order.Nat

/-!
# The first index

`First p lo hi o` says that `o` is the least index of `[lo, hi)` with `p`, or none when there is no
such index. Scans of adjacent ranges compose.
-/

/-- `o` is the least index of `[lo, hi)` with `p`, if there is one. -/
def First (p : Nat → Prop) (lo hi : Nat) : Option Nat → Prop
  | none => ∀ i, lo ≤ i → i < hi → ¬p i
  | some r => (lo ≤ r ∧ r < hi ∧ p r) ∧ ∀ i, lo ≤ i → i < r → ¬p i

namespace First

variable {p : Nat → Prop} {lo mid hi r : Nat} {o : Option Nat}

lemma empty (le : hi ≤ lo) :
    First p lo hi none := fun _ ge lt => absurd (ge.trans_lt lt) (Nat.not_lt.mpr le)

/-- Nothing in the first range: what the second range has. -/
lemma append (first : First p lo mid none) (second : First p mid hi o) (le : lo ≤ mid) :
    First p lo hi o := by
  have none_below : ∀ i, lo ≤ i → i < hi → p i → mid ≤ i := fun i ge _ holds =>
    Nat.le_of_not_lt fun lt => first i ge lt holds
  cases o with
  | none => exact fun i ge lt holds => second i (none_below i ge lt holds) lt holds
  | some r =>
    obtain ⟨⟨ge, lt, holds⟩, below⟩ := second
    refine ⟨⟨le.trans ge, lt, holds⟩, fun i ge' lt' holds' => ?_⟩
    exact below i (none_below i ge' (lt'.trans lt) holds') lt' holds'

lemma congr {q : Nat → Prop} (first : First p lo hi o) (same : ∀ i, lo ≤ i → i < hi → (p i ↔ q i)) :
    First q lo hi o := by
  cases o with
  | none => exact fun i ge lt holds => first i ge lt ((same i ge lt).mpr holds)
  | some r =>
    obtain ⟨⟨ge, lt, holds⟩, below⟩ := first
    refine ⟨⟨ge, lt, (same r ge lt).mp holds⟩, fun i ge' lt' holds' => ?_⟩
    exact below i ge' lt' ((same i ge' (lt'.trans lt)).mpr holds')

lemma unique {o' : Option Nat} (first : First p lo hi o) (other : First p lo hi o') : o = o' := by
  cases o with
  | none =>
    cases o' with
    | none => rfl
    | some r => exact absurd other.1.2.2 (first r other.1.1 other.1.2.1)
  | some r =>
    cases o' with
    | none => exact absurd first.1.2.2 (other r first.1.1 first.1.2.1)
    | some r' =>
      obtain lt | eq | gt := Nat.lt_trichotomy r r'
      · exact absurd first.1.2.2 (other.2 r first.1.1 lt)
      · rw [eq]
      · exact absurd other.1.2.2 (first.2 r' other.1.1 gt)

lemma some_of_lt (first : First p lo mid (some r)) (lt : r < hi) : First p lo hi (some r) :=
  ⟨⟨first.1.1, lt, first.1.2.2⟩, first.2⟩

lemma none_of_le (first : First p lo mid (some r)) (le : hi ≤ r) : First p lo hi none :=
  fun i ge lt => first.2 i ge (lt.trans_le le)

lemma none_of_subset (first : First p lo mid none) (le : hi ≤ mid) : First p lo hi none :=
  fun i ge lt => first i ge (lt.trans_le le)

end First

/-- `o` is an index with `p`, if there is one. -/
def Picks (p : Nat → Prop) : Option Nat → Prop
  | none => ∀ i, ¬p i
  | some r => p r

/-- A scan from the middle of a range, and then of what is before it. -/
lemma First.wrap {p : Nat → Prop} (upper : First p mid hi o) (lower : First p lo mid o')
    (ge : lo ≤ mid) (le : mid ≤ hi) : Picks (fun i => p i ∧ lo ≤ i ∧ i < hi) (o.or o') := by
  cases o with
  | some r => exact ⟨upper.1.2.2, ge.trans upper.1.1, upper.1.2.1⟩
  | none =>
    cases o' with
    | some r => exact ⟨lower.1.2.2, lower.1.1, lower.1.2.1.trans_le le⟩
    | none =>
      rintro i ⟨holds, ge', lt⟩
      obtain below | above := Nat.lt_or_ge i mid
      · exact lower i ge' below holds
      · exact upper i above lt holds
