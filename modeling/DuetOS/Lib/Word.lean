import Mathlib.Tactic.Ring

/-!
# Fixed-width unsigned arithmetic

Machine words are natural numbers with explicit wrap-around: `add32`/`sub32` and `add64`/`sub64` are
the C++ operators on `u32` and `u64`. Each comes with the lemma that says when it does not wrap.
-/

namespace Word

def max32 : Nat := 4294967295

def max64 : Nat := 18446744073709551615

def add32 (a b : Nat) : Nat := (a + b) % 4294967296

def sub32 (a b : Nat) : Nat := (a + 4294967296 - b) % 4294967296

def add64 (a b : Nat) : Nat := (a + b) % 18446744073709551616

def sub64 (a b : Nat) : Nat := (a + 18446744073709551616 - b) % 18446744073709551616

lemma add32_eq (h : a + b ≤ max32) : add32 a b = a + b := by
  unfold add32 max32 at *
  omega

lemma sub32_eq (hb : b ≤ a) (ha : a ≤ max32) : sub32 a b = a - b := by
  unfold sub32 max32 at *
  omega

lemma add64_eq (h : a + b ≤ max64) : add64 a b = a + b := by
  unfold add64 max64 at *
  omega

lemma sub64_eq (hb : b ≤ a) (ha : a ≤ max64) : sub64 a b = a - b := by
  unfold sub64 max64 at *
  omega

end Word
