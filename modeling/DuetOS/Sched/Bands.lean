import DuetOS.Lib.Lts
import Mathlib.Data.Fin.VecNotation

/-!
# The bands of a run queue

The Normal tasks of one CPU wait in four bands. A pop takes the head of the highest band that is not
empty, every eighth pop that of the lowest. A band between two others is served by neither: only one
with nothing below it when the valve opens, or nothing above it otherwise, has its share of the
pops.
-/

namespace DuetOS.Sched

open Function List

abbrev kSchedBands : Nat := 4

/-- Band 0 is the highest. -/
abbrev Band := Fin kSchedBands

def kLowBandEscapeValve : UInt32 := 8

variable {Task : Type*}

/-- The run queue of a `cpu::PerCpu`; a list stands for the chain its head pointer leads to. The
lengths are `u32` in the source. They count tasks, and a task holds one of 512 kernel stacks, so
they never wrap. -/
structure PerCpu (Task : Type*) where
  runq : Band → List Task
  runqNormalLen : Nat
  runqPopCounter : UInt32
  runqBandLen : Band → Nat
  counted : ∀ band, runqBandLen band = (runq band).length

/-- The band for the priority class of a process; kernel tasks have no process. -/
def schedBandForProcess : Option UInt32 → Band
  | some 0x100 | some 0x80 => 0
  | some 0x8000 => 1
  | some 0x4000 | some 0x40 => 3
  | _ => 2

lemma counted_update {runq : Band → List Task} {len : Band → Nat}
    (counted : ∀ band, len band = (runq band).length)
    {queue : List Task} {n} (same : n = queue.length) (band other) :
    update len band n other = (update runq band queue other).length := by
  rcases eq_or_ne other band with rfl | ne
  · simp [same]
  · simp [ne, counted]

section

variable (p : PerCpu Task)

/-- C++ `RunqueuePushOn` for a Normal task. -/
def runqueuePushOn (task : Task) (process : Option UInt32) : PerCpu Task :=
  let band := schedBandForProcess process
  { p with
    runq := update p.runq band (p.runq band ++ [task])
    runqBandLen := update p.runqBandLen band (p.runqBandLen band + 1)
    runqNormalLen := p.runqNormalLen + 1
    counted := counted_update p.counted (by simp [p.counted]) band }

/-- The next pop is one for the lowest band. -/
abbrev PerCpu.Valve : Prop := (p.runqPopCounter + 1) % kLowBandEscapeValve = 0

def runqSelectPopBand : Option Band :=
  (Fin.find? fun band => p.runqBandLen band ≠ 0).bind fun highest =>
    (Fin.findRev? fun band => p.runqBandLen band ≠ 0).map fun lowest =>
      if p.Valve ∧ lowest ≠ highest then lowest else highest

/-- `none` is a null head or a failed KASSERT. -/
def runqUnlinkBandHead (band : Band) : Option (Task × PerCpu Task) :=
  match queue : p.runq band with
  | [] => none
  | task :: rest =>
    if p.runqBandLen band = 0 ∨ p.runqNormalLen = 0 then none
    else some (task, { runq := update p.runq band rest
                       runqNormalLen := p.runqNormalLen - 1
                       runqPopCounter := p.runqPopCounter + 1
                       runqBandLen := update p.runqBandLen band (p.runqBandLen band - 1)
                       counted := counted_update p.counted (by simp [p.counted, queue]) band })

/-- C++ `RunqueuePop` where a Normal band has a task. -/
def runqueuePop : Option (Band × Task × PerCpu Task) :=
  (runqSelectPopBand p).bind fun band => (runqUnlinkBandHead p band).map (band, ·)

end

inductive Event (Task : Type*) where
  | push (task : Task) (process : Option UInt32)
  | pop (band : Band) (task : Task)

inductive Step : PerCpu Task → Event Task → PerCpu Task → Prop where
  | push : Step p (.push task process) (runqueuePushOn p task process)
  | pop : runqueuePop p = some (band, task, q) → Step p (.pop band task) q

/-- A run in which every step starts in a state with `P`. -/
abbrev Window (P : PerCpu Task → Prop) := Lts.Run fun p e q => Step p e q ∧ P p

def Event.isPop : Event Task → Bool
  | .push _ _ => false
  | .pop _ _ => true

def pops (es : List (Event Task)) : Nat := es.countP Event.isPop

section

variable (band : Band) (p : PerCpu Task)

def Event.pushed : Event Task → Option Task
  | .push task process => if schedBandForProcess process = band then some task else none
  | .pop _ _ => none

def Event.popped : Event Task → Option Task
  | .push _ _ => none
  | .pop other task => if other = band then some task else none

def taken (es : List (Event Task)) : List Task := es.filterMap (Event.popped band)

def NoneBelow : Prop := p.Valve → ∀ lower, band < lower → p.runq lower = []

/-- No higher band has a task while the valve is closed. -/
def NoneAbove : Prop := ¬p.Valve → ∀ higher, higher < band → p.runq higher = []

end

variable {p q : PerCpu Task} {band : Band} {task : Task} {es : List (Event Task)}
  {Spared : PerCpu Task → Prop}

/-- A pop takes the head of the selected band and counts itself. -/
lemma pop_some (ran : runqueuePop p = some (other, task, q)) : runqSelectPopBand p = some other ∧
    q.runqPopCounter = p.runqPopCounter + 1 ∧ ∃ rest, p.runq other = task :: rest ∧
      q.runq = update p.runq other rest := by
  obtain ⟨_, selected, ran⟩ := Option.bind_eq_some_iff.mp ran
  obtain ⟨_, unlinked, same⟩ := Option.map_eq_some_iff.mp ran
  cases same
  unfold runqUnlinkBandHead at unlinked
  split at unlinked
  · cases unlinked
  next rest queue =>
    cases (Option.ite_none_left_eq_some.mp unlinked).2
    exact ⟨selected, rfl, rest, queue, rfl⟩

/-- An open valve lets the lowest band through, a closed one the highest. -/
lemma select_some (selected : runqSelectPopBand p = some other) (some : p.runq band ≠ []) :
    (p.Valve → band ≤ other) ∧ (¬p.Valve → other ≤ band) := by
  obtain ⟨highest, first, selected⟩ := Option.bind_eq_some_iff.mp selected
  obtain ⟨lowest, last, rfl⟩ := Option.map_eq_some_iff.mp selected
  have occupied : p.runqBandLen band ≠ 0 := by simpa [p.counted] using some
  have least : highest ≤ band := le_of_not_gt fun lt =>
    occupied (by simpa using (Fin.find?_eq_some_iff.mp first).2 band lt)
  have greatest : band ≤ lowest := le_of_not_gt fun lt =>
    occupied (by simpa using (Fin.findRev?_eq_some_iff.mp last).2 band lt)
  split
  next opens => exact ⟨fun _ => greatest, fun closed => absurd opens.1 closed⟩
  next closed =>
    refine ⟨fun opens => ?_, fun _ => least⟩
    rw [not_and, not_not] at closed
    exact closed opens ▸ greatest

lemma valve_iff : p.Valve ↔ p.runqPopCounter.toNat % 8 = 7 := by
  rw [PerCpu.Valve, ← UInt32.toNat_inj]
  simp only [UInt32.toNat_mod, UInt32.toNat_add, kLowBandEscapeValve, UInt32.reduceToNat]
  omega

/-- At one count in eight a pop is one for the band. -/
lemma exists_turn (side : Spared ∈ [NoneBelow band, NoneAbove band]) :
    ∃ turn ≤ 7, ∀ {p q : PerCpu Task} {other task},
    Spared p → p.runq band ≠ [] → runqueuePop p = some (other, task, q) →
      p.runqPopCounter.toNat % 8 = turn →
      other = band := by
  rcases mem_pair.mp side with rfl | rfl
  · refine ⟨7, le_rfl, fun {p q other task} spared some ran now => ?_⟩
    obtain ⟨selected, _, rest, queue, _⟩ := pop_some ran
    have opens := valve_iff.mpr now
    by_contra ne
    rw [spared opens other (lt_of_le_of_ne ((select_some selected some).1 opens) (Ne.symm ne))]
      at queue
    cases queue
  · refine ⟨0, by decide, fun {p q other task} spared some ran now => ?_⟩
    obtain ⟨selected, _, rest, queue, _⟩ := pop_some ran
    have closed : ¬p.Valve := by
      rw [valve_iff, now]
      decide
    by_contra ne
    rw [spared closed other (lt_of_le_of_ne ((select_some selected some).2 closed) ne)] at queue
    cases queue

/-- The band is served in turn, at least once in eight pops. -/
lemma window_served (side : Spared ∈ [NoneBelow band, NoneAbove band])
    (run : Window (fun p => Spared p ∧ p.runq band ≠ []) p es q) :
    pops es ≤ 8 * (taken band es).length + 7 ∧
      p.runq band ++ es.filterMap (Event.pushed band) = taken band es ++ q.runq band := by
  obtain ⟨turn, le, serves⟩ := exists_turn side
  have counted := run.history (P := fun es q =>
      pops es ≤ 8 * (taken band es).length + (q.runqPopCounter.toNat + 7 - turn) % 8 ∧
      p.runq band ++ es.filterMap (Event.pushed band) = taken band es ++ q.runq band)
    ⟨Nat.zero_le _, append_nil _⟩ ?_
  · exact ⟨by omega, counted.2⟩
  rintro es q e r ⟨bound, queue⟩ ⟨step, spared, some⟩
  simp only [taken, filterMap_append, pops, countP_append, length_append, ← append_assoc, queue]
    at bound ⊢
  cases step with
  | @push task process =>
    refine ⟨bound, ?_⟩
    rcases eq_or_ne (schedBandForProcess process) band with rfl | ne
    · simp [Event.pushed, Event.popped, runqueuePushOn]
    · simp [Event.pushed, Event.popped, runqueuePushOn, ne, ne.symm]
  | @pop other task _ ran =>
    obtain ⟨_, counter, rest, head, runq⟩ := pop_some ran
    have wraps := UInt32.toNat_add q.runqPopCounter 1
    rw [show (1 : UInt32).toNat = 1 from rfl] at wraps
    have turn_served := serves spared some ran
    rw [counter, runq]
    rcases eq_or_ne other band with rfl | ne
    · simp only [Event.pushed, Event.popped, Event.isPop, head, countP_singleton, filterMap_cons,
        filterMap_nil, if_true,
        length_singleton, update_self, append_assoc, append_nil, singleton_append, and_true]
      omega
    · have early := mt turn_served ne
      simp only [Event.pushed, Event.popped, Event.isPop, countP_singleton, filterMap_cons,
        filterMap_nil, if_true,
        if_neg ne, length_nil, update_of_ne ne.symm, append_nil, and_true]
      omega

/-- A band that is not empty, and is shielded on one side, is served in every eight pops, and a task
with `k` others ahead of it in such a band runs within `8 * (k + 1)` pops. -/
theorem shielded_band_is_served (side : Spared ∈ [NoneBelow band, NoneAbove band]) :
    (Window (fun p => Spared p ∧ p.runq band ≠ []) p es q → kLowBandEscapeValve.toNat ≤ pops es →
      taken band es ≠ []) ∧
    ∀ ahead task behind, p.runq band = ahead ++ task :: behind → Window Spared p es q →
      (ahead.length + 1) * kLowBandEscapeValve.toNat ≤ pops es → task ∈ taken band es := by
  rw [show kLowBandEscapeValve.toNat = 8 from rfl]
  refine ⟨fun run enough => ?_, fun ahead task behind queue run enough => ?_⟩
  · have bound := (window_served side run).1
    exact length_pos_iff.mp (by omega)
  by_contra waits
  -- as long as the task waits, its band is not empty
  have window := run.history (P := fun es q => task ∉ taken band es →
      Window (fun p => Spared p ∧ p.runq band ≠ []) p es q)
    (fun _ => .nil) (fun {es q e r} before step waits => ?_) waits
  · obtain ⟨bound, fifo⟩ := window_served side window
    have same : (taken band es)[ahead.length]? = some task := by
      rw [← getElem?_append_left (by omega), ← fifo, queue]
      simp
    exact waits (mem_of_getElem? same)
  · rw [taken, filterMap_append, mem_append, not_or] at waits
    have run := before waits.1
    have mem : task ∈ taken band es ++ q.runq band := (window_served side run).2 ▸ by simp [queue]
    exact run.snoc ⟨step.1, step.2, ne_nil_of_mem ((mem_append.mp mem).resolve_left waits.1)⟩

/-- The bands 0, 1 and 3 have tasks. -/
def crowded : PerCpu Nat where
  runq band := replicate (![28, 1, 0, 4] band) band
  runqNormalLen := 33
  runqPopCounter := 0
  runqBandLen := ![28, 1, 0, 4]
  counted _ := length_replicate.symm

/-- Pops in a row, as long as band 1 has a task. -/
def popMany : Nat → PerCpu Task → Option (List (Event Task) × PerCpu Task)
  | 0, p => some ([], p)
  | n + 1, p => (popMany n p).bind fun done => if done.2.runq 1 = [] then none else
      (runqueuePop done.2).map fun popped => (done.1 ++ [.pop popped.1 popped.2.1], popped.2.2)

/-- Pops in a row are a run. -/
lemma popMany_run {n es} {q : PerCpu Task} (ran : popMany n p = some (es, q)) :
    Window (·.runq 1 ≠ []) p es q := by
  induction n generalizing es q with
  | zero =>
    cases ran
    exact .nil
  | succ n ih =>
    obtain ⟨⟨_, _⟩, before, ran⟩ := Option.bind_eq_some_iff.mp ran
    obtain ⟨some, ran⟩ := Option.ite_none_left_eq_some.mp ran
    obtain ⟨_, popped, same⟩ := Option.map_eq_some_iff.mp ran
    cases same
    exact (ih before).snoc ⟨.pop popped, some⟩

lemma exists_run {n} {P : List (Event Task) → Prop} [DecidablePred P]
    (holds : (popMany n p).any fun done => P done.1) :
    ∃ es q, Window (·.runq 1 ≠ []) p es q ∧ P es := by
  obtain ⟨⟨es, q⟩, ran, holds⟩ := (Option.any_eq_true ..).mp holds
  exact ⟨es, q, popMany_run ran, of_decide_eq_true holds⟩

theorem shielded_band_is_served_low : ∃ es q, Window (NoneBelow 3) crowded es q ∧ pops es = 8 ∧
    3 ∈ taken 3 es := by
  obtain ⟨es, q, run, count⟩ := @exists_run _ crowded 8 (pops · = 8) _ (by decide)
  have run : Window (NoneBelow 3) crowded es q :=
    run.mono fun step => ⟨step.1, fun _ lower below => absurd below (Fin.le_last lower).not_gt⟩
  exact ⟨es, q, run, count, (shielded_band_is_served (mem_cons_self ..)).2 [] 3 _ rfl run count.ge⟩

/-- A band between two others is not served in a round of all the bands. -/
theorem middle_band_starves : ∃ es q, Window (·.runq 1 ≠ []) crowded es q ∧
    pops es = kLowBandEscapeValve.toNat * kSchedBands ∧ taken 1 es = [] :=
  @exists_run _ crowded 32 (fun es => pops es = 32 ∧ taken 1 es = []) _ (by decide +kernel)

end DuetOS.Sched
