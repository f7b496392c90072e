import DuetOS.Lib.Lts
import Mathlib.Data.Fintype.Basic
import Mathlib.Data.Fintype.Card
import Mathlib.Tactic.Abel

/-!
# The reader/writer lock

A step is a section that holds the inner mutex: a call, or the re-check of a waiter that was woken.
The lock is sound when its counters are the numbers of readers and of blocked writers, a sleeping
reader has a writer in front of it, and a sleeping writer has somebody who will signal it. A task is
in the lock at most once, so the number of tasks bounds the counters, and they do not wrap.
-/

namespace DuetOS.Sync

open Multiset

variable {Task : Type*}

/-- The kernel stacks that can be live at a time. -/
def kKernelStackMaxSlots : Nat := 512

def kMaxCpus : Nat := 32

/-- A wait queue is the list of its tasks, longest waiting first. -/
structure RwLock (Task : Type*) where
  (readersCv writersCv : List Task)
  (activeReaders waitingWriters : UInt32)
  writerActive : Bool

section

variable (lock : RwLock Task) (task : Task)

def rwLockAssertExclusivity : Prop := ¬(lock.writerActive ∧ lock.activeReaders > 0)

/-- One pass of the loop of `RwLockAcquireShared`; the caller is admitted or sleeps. -/
def rwLockAcquireShared : Bool × RwLock Task :=
  if lock.writerActive ∨ lock.waitingWriters > 0 then
    (false, { lock with readersCv := lock.readersCv ++ [task] })
  else (true, { lock with activeReaders := lock.activeReaders + 1 })

/-- The tasks woken, and the lock. A release that matches no acquire is refused. -/
def rwLockReleaseShared : List Task × RwLock Task :=
  if lock.activeReaders = 0 then ([], lock)
  else
    let lock := { lock with activeReaders := lock.activeReaders - 1 }
    if lock.activeReaders = 0 ∧ lock.waitingWriters > 0 then
      (lock.writersCv.take 1, { lock with writersCv := lock.writersCv.drop 1 })
    else ([], lock)

/-- One pass of the loop of `RwLockAcquireExclusive`, by a caller that `waiting_writers` counts. -/
def acquireExclusivePass : Bool × RwLock Task :=
  if lock.writerActive ∨ lock.activeReaders > 0 then
    (false, { lock with writersCv := lock.writersCv ++ [task] })
  else (true, { lock with waitingWriters := lock.waitingWriters - 1, writerActive := true })

def rwLockAcquireExclusive : Bool × RwLock Task :=
  acquireExclusivePass { lock with waitingWriters := lock.waitingWriters + 1 } task

/-- The writer woken, the readers woken, and the lock. -/
def rwLockReleaseExclusive : List Task × List Task × RwLock Task :=
  if lock.writerActive = false then ([], [], lock)
  else
    let lock := { lock with writerActive := false }
    if lock.waitingWriters > 0 then
      (lock.writersCv.take 1, [], { lock with writersCv := lock.writersCv.drop 1 })
    else ([], lock.readersCv, { lock with readersCv := [] })

def rwLockTryAcquireShared : Bool × RwLock Task :=
  if ¬lock.writerActive ∧ lock.waitingWriters = 0 then
    (true, { lock with activeReaders := lock.activeReaders + 1 })
  else (false, lock)

def rwLockTryAcquireExclusive : Bool × RwLock Task :=
  if ¬lock.writerActive ∧ lock.activeReaders = 0 then (true, { lock with writerActive := true })
  else (false, lock)

end

/-- The lock, the tasks that hold it, and the waiters that were woken and have not re-checked. -/
structure State (Task : Type*) where
  lock : RwLock Task
  (readers writers wokenReaders wokenWriters : Multiset Task)

def State.init : State Task := ⟨⟨[], [], 0, 0, false⟩, 0, 0, 0, 0⟩

section

variable (s : State Task) (task : Task)

/-- The exclusive acquirers that are blocked, asleep or on their way to a re-check. -/
def State.blocked : Multiset Task := s.lock.writersCv + s.wokenWriters

/-- The tasks that hold the lock or are inside an acquire. -/
def State.tasks : Multiset Task :=
  s.readers + s.writers + s.lock.readersCv + s.wokenReaders + s.blocked

def State.entersShared (pass : Bool × RwLock Task) : State Task :=
  { s with lock := pass.2, readers := if pass.1 then task ::ₘ s.readers else s.readers }

def State.entersExclusive (pass : Bool × RwLock Task) : State Task :=
  { s with lock := pass.2, writers := if pass.1 then task ::ₘ s.writers else s.writers }

def State.leavesShared (rest : Multiset Task) : State Task :=
  let (woken, lock) := rwLockReleaseShared s.lock
  { s with lock, readers := rest, wokenWriters := s.wokenWriters + woken }

def State.leavesExclusive (rest : Multiset Task) : State Task :=
  let (woken, readers, lock) := rwLockReleaseExclusive s.lock
  { s with
    lock
    writers := rest
    wokenWriters := s.wokenWriters + woken
    wokenReaders := s.wokenReaders + readers }

end

inductive Event (Task : Type*) where
  | acquireShared (task : Task)
  | resumeShared (task : Task)
  | tryAcquireShared (task : Task)
  | releaseShared (task : Task)
  | acquireExclusive (task : Task)
  | resumeExclusive (task : Task)
  | tryAcquireExclusive (task : Task)
  | releaseExclusive (task : Task)

/-- The lock does not support recursion: a task that is in it does not call to enter it. -/
inductive Step : State Task → Event Task → State Task → Prop where
  | acquireShared {s task} :
    task ∉ s.tasks →
    Step s (.acquireShared task) (s.entersShared task (rwLockAcquireShared s.lock task))
  | resumeShared {s task rest} :
    s.wokenReaders = task ::ₘ rest →
    Step s (.resumeShared task)
      ({ s with wokenReaders := rest }.entersShared task (rwLockAcquireShared s.lock task))
  | tryAcquireShared {s task} :
    task ∉ s.tasks →
    Step s (.tryAcquireShared task) (s.entersShared task (rwLockTryAcquireShared s.lock))
  | releaseShared {s task rest} :
    s.readers = task ::ₘ rest →
    Step s (.releaseShared task) (s.leavesShared rest)
  | acquireExclusive {s task} :
    task ∉ s.tasks →
    Step s (.acquireExclusive task) (s.entersExclusive task (rwLockAcquireExclusive s.lock task))
  | resumeExclusive {s task rest} :
    s.wokenWriters = task ::ₘ rest →
    Step s (.resumeExclusive task)
      ({ s with wokenWriters := rest }.entersExclusive task (acquireExclusivePass s.lock task))
  | tryAcquireExclusive {s task} :
    task ∉ s.tasks →
    Step s (.tryAcquireExclusive task) (s.entersExclusive task (rwLockTryAcquireExclusive s.lock))
  | releaseExclusive {s task rest} :
    s.writers = task ::ₘ rest →
    Step s (.releaseExclusive task) (s.leavesExclusive rest)

structure State.Contract (s : State Task) : Prop where
  exclusive : s.writers ≠ 0 → s.readers = 0 ∧ s.writers.card = 1
  activeReaders : s.lock.activeReaders.toNat = s.readers.card
  waitingWriters : s.lock.waitingWriters.toNat = s.blocked.card
  asserts : rwLockAssertExclusivity s.lock
  awake : s.readers = 0 → s.writers = 0 → s.wokenReaders = 0 → s.wokenWriters = 0 →
    s.lock.readersCv = [] ∧ s.lock.writersCv = []

/-- The lock is sound, apart from `entering` exclusive acquirers that are counted and neither asleep
nor woken. -/
structure Sound (entering : Nat) (s : State Task) : Prop where
  writer : s.writers.card = if s.lock.writerActive then 1 else 0
  apart : s.lock.writerActive → s.readers = 0
  readers : s.lock.activeReaders.toNat = s.readers.card
  waiting : s.lock.waitingWriters.toNat = s.blocked.card + entering
  behind : s.lock.readersCv ≠ [] → s.lock.writerActive ∨ s.lock.waitingWriters > 0
  signalled : entering = 0 → s.lock.writersCv ≠ [] →
    s.lock.writerActive ∨ s.lock.activeReaders > 0 ∨ s.wokenWriters ≠ 0

variable {s s' : State Task} {e : Event Task} {es : List (Event Task)} {task : Task}
  {rest : Multiset Task}

/-- A counter is positive when its number is not zero. -/
lemma pos_iff {x : UInt32} : x > 0 ↔ x.toNat ≠ 0 := by
  rw [gt_iff_lt, UInt32.lt_iff_toNat_lt, Nat.pos_iff_ne_zero.symm]
  rfl

/-- A counter is zero when its number is. -/
lemma eq_zero_iff {x : UInt32} : x = 0 ↔ x.toNat = 0 := UInt32.toNat_inj.symm

/-- A counter below its limit counts up. -/
lemma toNat_succ {x : UInt32} (room : x.toNat < 0xFFFFFFFF) : (x + 1).toNat = x.toNat + 1 := by
  rw [UInt32.toNat_add]
  exact Nat.mod_eq_of_lt (Nat.succ_lt_succ room)

/-- A positive counter counts down. -/
lemma toNat_pred {x : UInt32} (pos : x.toNat ≠ 0) : (x - 1).toNat = x.toNat - 1 :=
  UInt32.toNat_sub_of_le _ _ (UInt32.le_iff_toNat_le.mpr (Nat.one_le_iff_ne_zero.mpr pos))

/-- A signal moves the first sleeper to the woken ones. -/
lemma blocked_signal (queue : List Task) (woken : Multiset Task) :
    (queue.drop 1 : Multiset Task) + (woken + (queue.take 1 : Multiset Task)) = queue + woken := by
  rw [add_comm woken, ← add_assoc, coe_add, ← coe_eq_coe.mpr List.perm_append_comm,
    List.take_append_drop]

/-- A signal to a queue of several wakes somebody. -/
lemma woken_ne_zero {queue : List Task} (more : queue.drop 1 ≠ []) (woken : Multiset Task) :
    woken + (queue.take 1 : Multiset Task) ≠ 0 := by
  cases queue with
  | nil => exact absurd rfl more
  | cons first rest => exact fun zero => absurd (congrArg card zero) (by simp)

/-- A shared acquirer is in the lock, admitted or asleep. -/
lemma tasks_acquireShared :
    (s.entersShared task (rwLockAcquireShared s.lock task)).tasks = task ::ₘ s.tasks := by
  unfold rwLockAcquireShared State.entersShared State.tasks State.blocked
  split
  · simp only [Bool.false_eq_true, if_false, ← coe_add, coe_singleton, ← singleton_add]
    abel
  · simp only [if_true, ← singleton_add]
    abel

/-- An exclusive acquirer is in the lock, admitted or asleep. -/
lemma tasks_pass :
    (s.entersExclusive task (acquireExclusivePass s.lock task)).tasks = task ::ₘ s.tasks := by
  unfold acquireExclusivePass State.entersExclusive State.tasks State.blocked
  split
  · simp only [Bool.false_eq_true, if_false, ← coe_add, coe_singleton, ← singleton_add]
    abel
  · simp only [if_true, ← singleton_add]
    abel

/-- A shared release may move a sleeping writer to the woken ones. -/
lemma rwLockReleaseShared_queues (lock : RwLock Task) (woken : Multiset Task) :
    (rwLockReleaseShared lock).2.readersCv = lock.readersCv ∧
      ((rwLockReleaseShared lock).2.writersCv : Multiset Task) +
        (woken + ((rwLockReleaseShared lock).1 : Multiset Task)) = lock.writersCv + woken := by
  unfold rwLockReleaseShared
  split
  · exact ⟨rfl, by rw [coe_nil, add_zero]⟩
  · dsimp only
    split
    · exact ⟨rfl, blocked_signal ..⟩
    · exact ⟨rfl, by rw [coe_nil, add_zero]⟩

/-- An exclusive release moves a sleeping writer, or all sleeping readers, to the woken ones. -/
lemma rwLockReleaseExclusive_queues (lock : RwLock Task) (readers writers : Multiset Task) :
    ((rwLockReleaseExclusive lock).2.2.readersCv : Multiset Task) +
        (readers + ((rwLockReleaseExclusive lock).2.1 : Multiset Task)) =
      lock.readersCv + readers ∧
    ((rwLockReleaseExclusive lock).2.2.writersCv : Multiset Task) +
        (writers + ((rwLockReleaseExclusive lock).1 : Multiset Task)) =
      lock.writersCv + writers := by
  unfold rwLockReleaseExclusive
  split
  · exact ⟨by rw [coe_nil, add_zero], by rw [coe_nil, add_zero]⟩
  · dsimp only
    split
    · exact ⟨by rw [coe_nil, add_zero], blocked_signal ..⟩
    · exact ⟨by rw [coe_nil, zero_add, add_comm], by rw [coe_nil, add_zero]⟩

/-- The reader that leaves is the only task that does. -/
lemma tasks_leavesShared (held : s.readers = task ::ₘ rest) :
    task ::ₘ (s.leavesShared rest).tasks = s.tasks := by
  obtain ⟨readers, writers⟩ := rwLockReleaseShared_queues s.lock s.wokenWriters
  unfold State.leavesShared State.tasks State.blocked
  dsimp only
  rw [held, readers, writers, ← singleton_add, ← singleton_add]
  abel

/-- The writer that leaves is the only task that does. -/
lemma tasks_leavesExclusive (held : s.writers = task ::ₘ rest) :
    task ::ₘ (s.leavesExclusive rest).tasks = s.tasks := by
  obtain ⟨readers, writers⟩ :=
    rwLockReleaseExclusive_queues s.lock s.wokenReaders s.wokenWriters
  unfold State.leavesExclusive State.tasks State.blocked
  dsimp only
  rw [held, add_assoc (s.readers + rest), readers, writers, ← singleton_add, ← singleton_add]
  abel

/-- A step lets at most its own task in, which was not in the lock. -/
lemma Step.tasks (st : Step s e s') :
    s'.tasks ≤ s.tasks ∨ ∃ task ∉ s.tasks, s'.tasks = task ::ₘ s.tasks := by
  cases st with
  | @acquireShared task absent => exact .inr ⟨task, absent, tasks_acquireShared⟩
  | @resumeShared task rest woken =>
    refine .inl (le_of_eq ((tasks_acquireShared (s := { s with wokenReaders := rest })).trans ?_))
    unfold State.tasks State.blocked
    rw [woken, ← singleton_add, ← singleton_add]
    abel
  | @tryAcquireShared task absent =>
    unfold rwLockTryAcquireShared
    split
    · refine .inr ⟨task, absent, ?_⟩
      simp only [State.entersShared, State.tasks, State.blocked, if_true, ← singleton_add]
      abel
    · exact .inl le_rfl
  | releaseShared held => exact .inl ((le_cons_self _ _).trans_eq (tasks_leavesShared held))
  | @acquireExclusive task absent =>
    exact .inr ⟨task, absent,
      tasks_pass (s := { s with lock.waitingWriters := s.lock.waitingWriters + 1 })⟩
  | @resumeExclusive task rest woken =>
    refine .inl (le_of_eq ((tasks_pass (s := { s with wokenWriters := rest })).trans ?_))
    unfold State.tasks State.blocked
    rw [woken, ← singleton_add, ← singleton_add]
    abel
  | @tryAcquireExclusive task absent =>
    unfold rwLockTryAcquireExclusive
    split
    · refine .inr ⟨task, absent, ?_⟩
      simp only [State.entersExclusive, State.tasks, State.blocked, if_true, ← singleton_add]
      abel
    · exact .inl le_rfl
  | releaseExclusive held => exact .inl ((le_cons_self _ _).trans_eq (tasks_leavesExclusive held))

/-- No task is in the lock twice. -/
lemma Step.nodup (st : Step s e s') (nodup : s.tasks.Nodup) : s'.tasks.Nodup := by
  rcases st.tasks with le | ⟨task, absent, eq⟩
  · exact nodup_of_le le nodup
  · rw [eq]
    exact nodup_cons.mpr ⟨absent, nodup⟩

/-- There are not more readers and blocked writers than tasks. -/
lemma card_le_tasks [Fintype Task] (nodup : s.tasks.Nodup) :
    s.readers.card ≤ Fintype.card Task ∧ s.blocked.card ≤ Fintype.card Task := by
  have all : s.tasks.card ≤ Fintype.card Task := Finset.card_le_univ ⟨s.tasks, nodup⟩
  unfold State.tasks at all
  simp only [card_add] at all
  omega

/-- A reader sleeps behind a writer that holds the lock or waits for it. -/
lemma Sound.sleeps (sound : Sound 0 s)
    (shut : s.lock.writerActive ∨ s.lock.waitingWriters > 0) :
    Sound 0 { s with lock.readersCv := s.lock.readersCv ++ [task] } :=
  { sound with behind := fun _ => shut }

section

variable (sound : Sound 0 s) (room : s.readers.card < 0xFFFFFFFF)

include sound room

/-- A reader is admitted while no writer holds the lock. -/
lemma Sound.admits (idle : ¬s.lock.writerActive) :
    Sound 0 { s with
      lock.activeReaders := s.lock.activeReaders + 1
      readers := task ::ₘ s.readers } where
  writer := sound.writer
  apart active := absurd active idle
  readers := by
    rw [card_cons, ← sound.readers]
    exact toNat_succ (sound.readers ▸ room)
  waiting := sound.waiting
  behind := sound.behind
  signalled _ _ := by
    refine .inr (.inl (pos_iff.mpr ?_))
    rw [toNat_succ (sound.readers ▸ room)]
    exact Nat.succ_ne_zero _

/-- `RwLockAcquireShared` keeps the lock sound. -/
lemma Sound.acquireShared :
    Sound 0 (s.entersShared task (rwLockAcquireShared s.lock task)) := by
  unfold rwLockAcquireShared
  split
  next shut => exact sound.sleeps shut
  next open_ => exact sound.admits room fun active => open_ (.inl active)

/-- `RwLockTryAcquireShared` keeps the lock sound. -/
lemma Sound.tryAcquireShared :
    Sound 0 (s.entersShared task (rwLockTryAcquireShared s.lock)) := by
  unfold rwLockTryAcquireShared
  split
  next open_ => exact sound.admits room open_.1
  next => exact sound

end

/-- A writer takes a lock that nobody holds. -/
lemma Sound.grants {n : Nat} {left : UInt32} (sound : Sound n s)
    (idle : ¬s.lock.writerActive)
    (none : s.lock.activeReaders.toNat = 0)
    (waits : left.toNat = s.blocked.card) :
    Sound 0 { s with
      lock.writerActive := true
      lock.waitingWriters := left
      writers := task ::ₘ s.writers } where
  writer := by simpa [idle] using sound.writer
  apart _ := card_eq_zero.mp (sound.readers.symm.trans none)
  readers := sound.readers
  waiting := waits
  behind _ := .inl rfl
  signalled _ _ := .inl rfl

/-- The pass of an exclusive acquirer ends with its holding the lock, or asleep behind whoever
does. -/
lemma Sound.pass (sound : Sound 1 s) :
    Sound 0 (s.entersExclusive task (acquireExclusivePass s.lock task)) := by
  unfold acquireExclusivePass
  split
  next shut =>
    exact { sound with
      waiting := by
        simpa [State.entersExclusive, State.blocked, add_right_comm] using sound.waiting
      signalled := fun _ _ => shut.imp_right .inl }
  next free =>
    rw [not_or, pos_iff, not_not] at free
    refine sound.grants free.1 free.2 ((toNat_pred ?_).trans ?_) <;> rw [sound.waiting]
    · exact Nat.succ_ne_zero _
    · rfl

/-- `RwLockAcquireExclusive` keeps the lock sound. -/
lemma Sound.acquireExclusive (sound : Sound 0 s) (room : s.blocked.card < 0xFFFFFFFF) :
    Sound 0 (s.entersExclusive task (rwLockAcquireExclusive s.lock task)) := by
  have counted : (s.lock.waitingWriters + 1).toNat = s.blocked.card + 1 := by
    rw [toNat_succ (sound.waiting ▸ room), sound.waiting]
  refine Sound.pass (s := { s with lock.waitingWriters := s.lock.waitingWriters + 1 })
    { sound with
      waiting := counted
      behind := fun _ => .inr (pos_iff.mpr ?_)
      signalled := nofun }
  rw [counted]
  exact Nat.succ_ne_zero _

/-- The re-check of a woken writer keeps the lock sound. -/
lemma Sound.resumeExclusive (sound : Sound 0 s) (woken : s.wokenWriters = task ::ₘ rest) :
    Sound 0 ({ s with wokenWriters := rest }.entersExclusive task
      (acquireExclusivePass s.lock task)) := by
  refine Sound.pass (s := { s with wokenWriters := rest })
    { sound with waiting := ?_, signalled := nofun }
  rw [sound.waiting, State.blocked, State.blocked, woken, add_cons, card_cons]

/-- `RwLockTryAcquireExclusive` keeps the lock sound. -/
lemma Sound.tryAcquireExclusive (sound : Sound 0 s) :
    Sound 0 (s.entersExclusive task (rwLockTryAcquireExclusive s.lock)) := by
  unfold rwLockTryAcquireExclusive
  split
  next free => exact sound.grants free.1 (eq_zero_iff.mp free.2) sound.waiting
  next => exact sound

section

variable (sound : Sound 0 s)

include sound

/-- `RwLockReleaseShared` keeps the lock sound. -/
lemma Sound.releaseShared (held : s.readers = task ::ₘ rest) : Sound 0 (s.leavesShared rest) := by
  have idle : ¬s.lock.writerActive := fun active =>
    cons_ne_zero (held.symm.trans (sound.apart active))
  have readers := sound.readers
  rw [held, card_cons] at readers
  have left : (s.lock.activeReaders - 1).toNat = rest.card := by
    rw [toNat_pred (by omega), readers, Nat.add_sub_cancel]
  unfold State.leavesShared rwLockReleaseShared
  rw [if_neg fun zero => by rw [eq_zero_iff.mp zero] at readers; cases readers]
  dsimp only
  split
  next last =>
    exact { sound with
      apart := fun active => absurd active idle
      readers := left
      waiting := sound.waiting.trans
        (congrArg card (blocked_signal s.lock.writersCv s.wokenWriters).symm)
      signalled := fun _ more => .inr (.inr (woken_ne_zero more s.wokenWriters)) }
  next others =>
    refine { sound with
      apart := fun active => absurd active idle
      readers := left
      waiting := by simpa [State.blocked] using sound.waiting
      signalled := fun _ asleep => ?_ }
    -- somebody sleeps, so a writer waits, and it was not signalled because readers are left
    have waits : s.lock.waitingWriters > 0 := by
      rw [pos_iff, sound.waiting]
      cases eq : s.lock.writersCv with
      | nil => exact absurd eq asleep
      | cons first rest => simp [State.blocked, eq]
    exact .inr (.inl (pos_iff.mpr fun zero => others ⟨eq_zero_iff.mpr zero, waits⟩))

/-- `RwLockReleaseExclusive` keeps the lock sound. -/
lemma Sound.releaseExclusive (held : s.writers = task ::ₘ rest) :
    Sound 0 (s.leavesExclusive rest) := by
  have writer := sound.writer
  rw [held, card_cons] at writer
  have active : s.lock.writerActive := by
    by_contra idle
    rw [if_neg idle] at writer
    cases writer
  rw [if_pos active] at writer
  have alone : rest.card = 0 := Nat.succ.inj writer
  unfold State.leavesExclusive rwLockReleaseExclusive
  rw [if_neg (by simp [active])]
  dsimp only
  split
  next waits =>
    exact { sound with
      writer := alone
      apart := nofun
      waiting := sound.waiting.trans
        (congrArg card (blocked_signal s.lock.writersCv s.wokenWriters).symm)
      behind := fun _ => .inr waits
      signalled := fun _ more => .inr (.inr (woken_ne_zero more s.wokenWriters)) }
  next none =>
    rw [pos_iff, not_not, sound.waiting] at none
    have nobody : s.lock.writersCv = [] ∧ s.wokenWriters = 0 := by
      simpa [State.blocked] using none
    exact { sound with
      writer := alone
      apart := nofun
      waiting := by simpa [State.blocked] using sound.waiting
      behind := fun asleep => absurd rfl asleep
      signalled := fun _ asleep => absurd nobody.1 asleep }

/-- A step keeps the lock sound while its counters have room. -/
lemma Sound.step (st : Step s e s')
    (readers : s.readers.card < 0xFFFFFFFF)
    (blocked : s.blocked.card < 0xFFFFFFFF) :
    Sound 0 s' := by
  cases st with
  | acquireShared => exact sound.acquireShared readers
  | @resumeShared _ rest =>
    exact Sound.acquireShared (s := { s with wokenReaders := rest }) { sound with } readers
  | tryAcquireShared => exact sound.tryAcquireShared readers
  | releaseShared held => exact sound.releaseShared held
  | acquireExclusive => exact sound.acquireExclusive blocked
  | resumeExclusive woken => exact sound.resumeExclusive woken
  | tryAcquireExclusive => exact sound.tryAcquireExclusive
  | releaseExclusive held => exact sound.releaseExclusive held

/-- A sound lock meets its contract. -/
lemma Sound.contract : s.Contract where
  exclusive held := by
    have writer := sound.writer
    split at writer
    next active => exact ⟨sound.apart active, writer⟩
    next => exact absurd (card_eq_zero.mp writer) held
  activeReaders := sound.readers
  waitingWriters := sound.waiting
  asserts := fun ⟨active, reads⟩ =>
    pos_iff.mp reads (sound.readers.trans (card_eq_zero.mpr (sound.apart active)))
  awake noReader noWriter _ noWoken := by
    have idle : ¬s.lock.writerActive := by
      intro active
      have writer := sound.writer
      rw [if_pos active, noWriter] at writer
      cases writer
    have writers : s.lock.writersCv = [] := by
      by_contra asleep
      rcases sound.signalled rfl asleep with active | reads | woken
      · exact idle active
      · exact pos_iff.mp reads (sound.readers.trans (card_eq_zero.mpr noReader))
      · exact woken noWoken
    refine ⟨by_contra fun asleep => (sound.behind asleep).elim idle fun waits => ?_, writers⟩
    exact pos_iff.mp waits (by simp [sound.waiting, State.blocked, writers, noWoken])

/-- Nobody is blocked when `waiting_writers` is zero. -/
lemma Sound.unblocked (none : s.lock.waitingWriters = 0) : s.blocked = 0 :=
  card_eq_zero.mp (sound.waiting.symm.trans (eq_zero_iff.mp none))

/-- `RwLockAcquireShared` admits a reader only when nobody is blocked. -/
lemma Sound.acquireShared_admits
    (more : s.readers.card <
      (s.entersShared task (rwLockAcquireShared s.lock task)).readers.card) :
    s.blocked = 0 := by
  unfold rwLockAcquireShared at more
  split at more
  · exact absurd more (lt_irrefl _)
  next free =>
    exact sound.unblocked
      (eq_zero_iff.mpr (by_contra fun pos => free (.inr (pos_iff.mpr pos))))

/-- A step that admits a reader finds no exclusive acquirer waiting. -/
lemma Sound.admitted (st : Step s e s') (more : s.readers.card < s'.readers.card) :
    s.blocked = 0 := by
  cases st with
  | acquireShared => exact sound.acquireShared_admits more
  | @resumeShared _ rest =>
    exact Sound.acquireShared_admits (s := { s with wokenReaders := rest }) { sound with } more
  | tryAcquireShared =>
    unfold rwLockTryAcquireShared at more
    split at more
    next free => exact sound.unblocked free.2
    · exact absurd more (lt_irrefl _)
  | @releaseShared _ rest held =>
    rw [held, card_cons] at more
    exact absurd more (Nat.lt_asymm (Nat.lt_succ_self rest.card))
  | _ => exact absurd more (lt_irrefl _)

end

/-- Every task has a kernel stack of its own, or is the one its CPU came up with. In every run of so
many tasks the lock keeps its contract and admits no reader while a writer is blocked. -/
theorem rwlock_keeps_contract [Fintype Task]
    (few : Fintype.card Task ≤ kKernelStackMaxSlots + kMaxCpus)
    (run : Lts.Run Step (State.init : State Task) es s) :
    s.Contract ∧ ∀ e s', Step s e s' → s.readers.card < s'.readers.card → s.blocked = 0 := by
  have limit : Fintype.card Task < 0xFFFFFFFF := few.trans_lt (by decide)
  have inv : Sound 0 s ∧ s.tasks.Nodup := by
    refine run.invariant (P := fun t => Sound 0 t ∧ t.tasks.Nodup) ⟨?_, nodup_zero⟩
      fun ⟨sound, nodup⟩ st => ⟨?_, st.nodup nodup⟩
    · exact ⟨rfl, fun _ => rfl, rfl, rfl, fun asleep => absurd rfl asleep,
        fun _ asleep => absurd rfl asleep⟩
    · have small := card_le_tasks nodup
      exact sound.step st (small.1.trans_lt limit) (small.2.trans_lt limit)
  exact ⟨inv.1.contract, fun _ _ => inv.1.admitted⟩

/-- A writer sleeps behind a reader, is signalled when the reader leaves, and gets the lock. -/
theorem rwlock_keeps_contract_handover :
    ∃ s : State Bool, Lts.Run Step State.init
      [.acquireShared true, .acquireExclusive false, .releaseShared true, .resumeExclusive false]
      s ∧ s.writers = {false} ∧ s.Contract := by
  have run : Lts.Run Step (State.init : State Bool)
      [.acquireShared true, .acquireExclusive false, .releaseShared true,
        .resumeExclusive false] _ :=
    .snoc (.snoc (.snoc (.snoc .nil (.acquireShared (by decide)))
      (.acquireExclusive (by decide))) (@Step.releaseShared _ _ _ 0 rfl))
      (@Step.resumeExclusive _ _ _ 0 rfl)
  exact ⟨_, run, rfl, (rwlock_keeps_contract (by decide) run).1⟩

end DuetOS.Sync
