import Mathlib.Data.BitVec

/-!
# Kernel objects

`kobject.h` with the kernel-wide `ErrorCode` (`result.h`) and `MaskedIndex32` (`nospec.h`). A
`KObject*` is the identity of the object with its type tag; `nullptr` is `none`. The reference count
changes at any time, so a function that reads or bumps it takes what it observed as an argument
(`refcount`, `retained`).
-/

namespace DuetOS

inductive KObjectType where
  | invalid | mutex | event | semaphore | mailbox | waitable | file | iocp | messagePort
  | serviceEndpoint
  | test
  deriving DecidableEq, Repr

structure KObject where
  id : Nat
  type : KObjectType
  deriving DecidableEq, Repr

inductive ErrorCode where
  | ok | outOfMemory | invalidArgument | notFound | alreadyExists | permissionDenied | timeout
  | unsupported
  | badState | ioError | truncated | bufferTooSmall | overflow | corrupt | notReady | busy
  | deadlock
  | noDevice | unknown
  deriving DecidableEq, Repr

/-- `idx & (0 - (idx < bound))` on `u32` (C++ `MaskedIndex32`). -/
def maskedIndex32 (idx bound : Nat) : Nat :=
  let mask := if idx < bound then 4294967295 else 0
  idx &&& mask

lemma maskedIndex32_lt (idx : Nat) (pos : 0 < bound) : maskedIndex32 idx bound < bound := by
  unfold maskedIndex32
  split
  · exact Nat.lt_of_le_of_lt Nat.and_le_left ‹_›
  · simpa using pos

lemma maskedIndex32_eq (lt : idx < bound) (le : bound ≤ 4294967296) :
    maskedIndex32 idx bound = idx := by
  unfold maskedIndex32
  rw [if_pos lt]
  have h := Nat.and_two_pow_sub_one_of_lt_two_pow (n := 32) (x := idx) (by omega)
  simpa using h

end DuetOS
