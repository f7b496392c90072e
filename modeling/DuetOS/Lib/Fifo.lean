import DuetOS.Lib.Lts

/-!
# Numbered first-in first-out queues

The abstract queue a byte-level implementation stands for: elements are pushed with consecutive
numbers until the last number `top` has been used. What was pushed is what was popped followed by
what is queued (`Run.pushed_eq`), and the numbers pushed are consecutive (`Run.numbers`).
-/

namespace Fifo

open List

variable {α : Type*}

/-- The queued elements with their numbers, and the next number while there is one. -/
structure Queue (α : Type*) where
  items : List (Nat × α)
  next : Option Nat

inductive Action (α : Type*) where
  | push (number : Nat) (element : α)
  | pop (number : Nat) (element : α)

inductive Step (top : Nat) : Queue α → Action α → Queue α → Prop where
  | push {items number element} : Step top ⟨items, some number⟩ (.push number element)
      ⟨items ++ [(number, element)], if number = top then none else some (number + 1)⟩
  | pop {items next number element} : Step top ⟨(number, element) :: items, next⟩
    (.pop number element) ⟨items, next⟩

/-- An empty queue whose first number is `first`. -/
def Queue.init (first : Nat) : Queue α := ⟨[], some first⟩

def Action.pushed : Action α → Option (Nat × α)
  | .push number element => some (number, element)
  | .pop _ _ => none

def Action.popped : Action α → Option (Nat × α)
  | .push _ _ => none
  | .pop number element => some (number, element)

variable {top first : Nat} {actions : List (Action α)} {queue : Queue α}

lemma Run.pushed_eq (run : Lts.Run (Step top) (Queue.init first) actions queue) :
    actions.filterMap Action.pushed = actions.filterMap Action.popped ++ queue.items := by
  induction run with
  | nil => rfl
  | snoc _ st ih =>
    rw [filterMap_append, filterMap_append, ih]
    cases st with
    | push | pop => simp [Action.pushed, Action.popped]

lemma Run.numbers (le : first ≤ top) (run : Lts.Run (Step top) (Queue.init first) actions queue) :
    (actions.filterMap Action.pushed).map Prod.fst =
    range' first (actions.filterMap Action.pushed).length ∧
      ∀ number, (queue.next = some number →
        number = first + (actions.filterMap Action.pushed).length ∧ number ≤ top) ∧
        (queue.next = none → first + (actions.filterMap Action.pushed).length = top + 1) := by
  induction run with
  | nil =>
    refine ⟨rfl, fun number => ⟨fun eq => ?_, nofun⟩⟩
    cases eq
    exact ⟨rfl, le⟩
  | snoc _ st ih =>
    obtain ⟨numbers, next⟩ := ih
    rw [filterMap_append]
    cases st with
    | @push items number element =>
      obtain ⟨eq, bound⟩ := (next number).1 rfl
      have one : [Action.push number element].filterMap Action.pushed = [(number, element)] := rfl
      rw [one, map_append, length_append, length_singleton, numbers, range'_concat,
        Nat.one_mul, ← eq]
      refine ⟨rfl, fun number' => ⟨fun some_eq => ?_, fun none_eq => ?_⟩⟩
      · split at some_eq <;> cases some_eq
        omega
      · split at none_eq
        · omega
        · cases none_eq
    | @pop items next' number element =>
      have none : [Action.pop number element].filterMap Action.pushed = [] := rfl
      rw [none, append_nil]
      exact ⟨numbers, next⟩

/-- Nothing follows the largest of consecutive numbers. -/
lemma eq_nil_of_largest {before after largest n}
    (range : before ++ largest :: after = range' first n)
    (bound : first + n ≤ largest + 1) : after = [] := by
  have length := congrArg length range
  have here := congrArg (·[before.length]?) range
  simp only [length_append, length_cons, length_range'] at length here
  rw [getElem?_append_right (Nat.le_refl _), Nat.sub_self, getElem?_cons_zero,
    getElem?_range' (by omega)] at here
  have value := Option.some.inj here
  exact length_eq_zero_iff.mp (by omega)

end Fifo
