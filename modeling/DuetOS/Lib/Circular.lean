import Mathlib.Data.List.Basic
import Mathlib.Data.Nat.ModEq

/-!
# Words in circular storage

Storage with `cap` cells, addressed modulo `cap`. `Holds store cap start word`: the cells from
`start` on spell `word`. Writing one more cell extends a word at its end (`Holds.snoc`) or at its
front (`Holds.cons`), and a write to a cell behind it (`Outside`) keeps it (`Holds.update`).
-/

namespace Circular

open List Function

variable {α : Type*} {store : Nat → α} {cap start : Nat} {word more : List α}

/-- The cells from `start` on spell `word`. -/
def Holds (store : Nat → α) (cap start : Nat) (word : List α) : Prop :=
  ∀ i (lt : i < word.length), store ((start + i) % cap) = word[i]

/-- The cell lies behind an `n`-cell word that starts at `start`. -/
def Outside (cap start n cell : Nat) : Prop :=
  ∃ i, n ≤ i ∧ i < cap ∧ cell = (start + i) % cap

lemma holds_nil : Holds store cap start [] := nofun

lemma holds_mod : Holds store cap (start % cap) word ↔ Holds store cap start word := by
  unfold Holds
  simp only [Nat.mod_add_mod]

lemma holds_mod_add :
    Holds store cap (start % cap + n) word ↔ Holds store cap (start + n) word := by
  rw [← holds_mod, Nat.mod_add_mod, holds_mod]

/-- A concatenation is spelled by its parts, one after the other. -/
lemma holds_append : Holds store cap start (word ++ more) ↔
    Holds store cap start word ∧ Holds store cap (start + word.length) more := by
  constructor
  · intro holds
    refine ⟨fun i lt => ?_, fun i lt => ?_⟩
    · rw [holds i (by rw [length_append]; omega), getElem_append_left lt]
    · have at_i := holds (word.length + i) (by rw [length_append]; omega)
      simpa [Nat.add_assoc] using at_i
  · rintro ⟨front, back⟩ i lt
    by_cases split : i < word.length
    · rw [front i split, getElem_append_left split]
    have le := Nat.le_of_not_lt split
    rw [getElem_append_right le, ← back (i - word.length) (by rw [length_append] at lt; omega)]
    congr 2
    omega

lemma holds_cons : Holds store cap start (value :: word) ↔
    store (start % cap) = value ∧ Holds store cap (start + 1) word := by
  rw [← singleton_append, holds_append]
  refine and_congr_left fun _ => ⟨fun holds => holds 0 Nat.one_pos, fun eq i lt => ?_⟩
  obtain rfl : i = 0 := Nat.lt_one_iff.mp lt
  exact eq

lemma Holds.read (holds : Holds store cap start word) :
    ((range word.length).map fun i => (start + i) % cap).map store = word := by
  refine ext_getElem (by simp) fun i _ lt => ?_
  simpa using holds i lt

lemma mod_ne (lt : i < j) (near : j - i < cap) : (start + i) % cap ≠ (start + j) % cap := by
  intro eq
  have congruent : start + i ≡ start + j [MOD cap] := eq
  have dvd := (Nat.modEq_iff_dvd' (by omega)).mp congruent
  have zero := Nat.eq_zero_of_dvd_of_lt dvd (by omega)
  omega

lemma Outside.ne (out : Outside cap start n cell) (lt : i < n) : (start + i) % cap ≠ cell := by
  obtain ⟨j, le, near, rfl⟩ := out
  exact mod_ne (by omega) (by omega)

lemma Holds.update (holds : Holds store cap start word) (out : Outside cap start word.length cell) :
    Holds (update store cell value) cap start word := by
  intro i lt
  rw [update_of_ne (out.ne lt)]
  exact holds i lt

lemma Holds.snoc {value} (holds : Holds store cap start word) (room : word.length < cap) :
    Holds (Function.update store ((start + word.length) % cap) value) cap start
      (word ++ [value]) := by
  refine holds_append.mpr ⟨holds.update ⟨_, Nat.le_refl _, room, rfl⟩, fun i lt => ?_⟩
  obtain rfl : i = 0 := Nat.lt_one_iff.mp lt
  exact update_self ..

lemma Holds.set {old value} (holds : Holds store cap start (word ++ old :: more))
    (room : word.length + more.length < cap) :
    Holds (Function.update store ((start + word.length) % cap) value) cap start
      (word ++ value :: more) := by
  intro i lt
  have len : i < (word ++ old :: more).length := by simpa using lt
  rcases Nat.lt_trichotomy i word.length with before | rfl | after
  · rw [update_of_ne (mod_ne before (by omega)), holds i len,
      getElem_append_left before, getElem_append_left before]
  · simp
  rw [length_append, length_cons] at len
  rw [update_of_ne (mod_ne after (by omega)).symm, holds i (by simpa using lt),
    getElem_append_right after.le, getElem_append_right after.le,
    getElem_cons, getElem_cons, dif_neg (by omega), dif_neg (by omega)]

lemma Holds.cons {value} (holds : Holds store cap (start + 1) word) (room : word.length < cap) :
    Holds (Function.update store (start % cap) value) cap start (value :: word) := by
  refine holds_cons.mpr ⟨update_self .., holds.update ⟨cap - 1, by omega, by omega, ?_⟩⟩
  rw [show start + 1 + (cap - 1) = start + cap by omega, Nat.add_mod_right]

lemma Holds.tail {first value} (holds : Holds store cap start (first :: word))
    (room : word.length < cap) :
    Holds (Function.update store (start % cap) value) cap (start + 1) word := by
  refine (holds_cons.mp holds).2.update ⟨cap - 1, by omega, by omega, ?_⟩
  rw [show start + 1 + (cap - 1) = start + cap by omega, Nat.add_mod_right]

/-- Perform writes one after the other. -/
def blit (store : Nat → α) (writes : List (Nat × α)) : Nat → α :=
  writes.foldl (fun store write => update store write.1 write.2) store

lemma Holds.blit (holds : Holds store cap start word)
    (out : ∀ write ∈ writes, Outside cap start word.length write.1) :
    Holds (blit store writes) cap start word := by
  induction writes generalizing store with
  | nil => exact holds
  | cons write writes ih =>
    exact ih (holds.update (out write (.head _))) fun write mem => out write (.tail _ mem)

/-- The writes that put `word` into the cells from `start` on. -/
def writes (cap start : Nat) (word : List α) : List (Nat × α) :=
  ((range word.length).map fun i => (start + i) % cap).zip word

lemma writes_mod : writes cap (start % cap) word = writes cap start word := by
  unfold writes
  simp only [Nat.mod_add_mod]

lemma writes_cons (value : α) :
    writes cap start (value :: word) = (start % cap, value) :: writes cap (start + 1) word := by
  simp only [writes, length_cons, range_succ_eq_map, map_cons, map_map, zip_cons_cons, Nat.add_zero]
  congr 3
  funext i
  simp only [comp_apply]
  congr 1
  omega

lemma mem_writes (mem : write ∈ writes cap start word) :
    ∃ i < word.length, write.1 = (start + i) % cap := by
  have cell := (of_mem_zip (a := write.1) (b := write.2) mem).1
  obtain ⟨i, lt, eq⟩ := mem_map.mp cell
  exact ⟨i, mem_range.mp lt, eq.symm⟩

/-- Writing a word after another spells both. -/
lemma Holds.append_blit (holds : Holds store cap start word)
    (room : word.length + more.length ≤ cap) :
    Holds (Circular.blit store (writes cap (start + word.length) more)) cap start
      (word ++ more) := by
  induction more generalizing store word with
  | nil => rw [append_nil]; exact holds
  | cons value more ih =>
    rw [writes_cons]
    rw [length_cons] at room
    have next := ih (holds.snoc (by omega) : Holds (Function.update store
      ((start + word.length) % cap) value) cap start (word ++ [value])) (by
        rw [length_append, length_singleton]; omega)
    rw [length_append, length_singleton, ← Nat.add_assoc, append_assoc] at next
    exact next

end Circular
