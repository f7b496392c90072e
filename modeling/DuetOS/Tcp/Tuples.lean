import DuetOS.Tcp.Lookup

/-!
# Connections are told apart by their tuples

`Connect` and `HandleListenSyn` look for a connection with their tuple before they leave the lock,
and publish theirs after they have taken it again. As long as the calls under way have different
tuples, the connections have, too.
-/

namespace DuetOS.Tcp

open Multiset

def Call.tuple : Call → Option FiveTuple
  | .connecting call => some call.tuple
  | .answering call => some call.tuple
  | .discarding _ => none

/-- A step after which no two calls under way share a tuple, and that does not publish the last
slot. -/
def SoloStep (s : System) (e : Event) (s' : System) : Prop :=
  Step s e s' ∧ (s'.calls.filterMap Call.tuple).Nodup ∧ e.publishes ≠ some lastSlot

/-- The published tuples differ from each other and from those of the calls. -/
structure Distinct (s : System) : Prop where
  unique : ∀ i j, (s.table.tcbs i).published → (s.table.tcbs j).published →
    (s.table.tcbs i).tuple = (s.table.tcbs j).tuple → i = j
  ahead : ∀ call ∈ s.calls, ∀ i, (s.table.tcbs i).published →
    call.tuple ≠ some (s.table.tcbs i).tuple

/-- A slot that is published after a step that publishes nothing was published before. -/
def Shrinks (table table' : Table) : Prop :=
  ∀ i, (table'.tcbs i).published → (table.tcbs i).published ∧
    (table'.tcbs i).tuple = (table.tcbs i).tuple

lemma Quiets.shrinks (quiets : Quiets table table') : Shrinks table table' := by
  intro i live
  rcases quiets.survived i with kept | ⟨_, dropped⟩
  · exact ⟨kept.published ▸ live, kept.tuple⟩
  · rw [Tcb.not_published_of_free dropped.inUse] at live
    cases live

lemma setTcb_shrinks {table i t} (gone : t.published = false) :
    Shrinks table (table.setTcb i t) := by
  intro j live
  by_cases at_i : j = i
  · rw [at_i, setTcb_self, gone] at live
    cases live
  · rw [setTcb_of_ne at_i] at live ⊢
    exact ⟨live, rfl⟩

lemma Distinct.shrinks (distinct : Distinct s) (shrinks : Shrinks s.table table)
    (ahead : ∀ call ∈ calls, ∀ i, (table.tcbs i).published →
      call.tuple ≠ some (table.tcbs i).tuple) :
    Distinct ⟨table, calls, returned⟩ := by
  refine ⟨fun i j live live' same => ?_, ahead⟩
  obtain ⟨live, tuple⟩ := shrinks i live
  obtain ⟨live', tuple'⟩ := shrinks j live'
  exact distinct.unique i j live live' (tuple.symm.trans (same.trans tuple'))

lemma Distinct.ahead_of_shrinks (distinct : Distinct s) (shrinks : Shrinks s.table table)
    (mem : call ∈ s.calls) (i)
    (live : (table.tcbs i).published) : call.tuple ≠ some (table.tcbs i).tuple := by
  obtain ⟨live, tuple⟩ := shrinks i live
  rw [tuple]
  exact distinct.ahead call mem i live

lemma Distinct.publish (distinct : Distinct s) {calls call} (pending : s.calls = call ::ₘ calls)
    (solo : (s.calls.filterMap Call.tuple).Nodup) {table returned}
    (tuple : call.tuple = some (table.tcbs call.slot).tuple)
    (others : ∀ j, j ≠ call.slot → (table.tcbs j).published = (s.table.tcbs j).published ∧
      (table.tcbs j).tuple = (s.table.tcbs j).tuple) : Distinct ⟨table, calls, returned⟩ := by
  have fresh : ∀ j, j ≠ call.slot → (table.tcbs j).published →
      (table.tcbs j).tuple ≠ (table.tcbs call.slot).tuple := by
    intro j ne live same
    rw [(others j ne).1] at live
    rw [← same, (others j ne).2] at tuple
    exact distinct.ahead call (pending ▸ mem_cons_self ..) j live tuple
  refine ⟨fun i j live live' same => ?_, fun c mem j live => ?_⟩
  · by_cases at_i : i = call.slot
    · by_cases at_j : j = call.slot
      · exact at_i.trans at_j.symm
      · exact absurd (at_i ▸ same.symm) (fresh j at_j live')
    · by_cases at_j : j = call.slot
      · exact absurd (at_j ▸ same) (fresh i at_i live)
      · rw [(others i at_i).1] at live
        rw [(others j at_j).1] at live'
        rw [(others i at_i).2, (others j at_j).2] at same
        exact distinct.unique i j live live' same
  · by_cases at_j : j = call.slot
    · -- two calls with this tuple would have been under way together
      intro same
      rw [at_j, ← tuple] at same
      rw [pending, filterMap_cons_some _ _ _ tuple, nodup_cons] at solo
      exact solo.1 ((mem_filterMap _ _).mpr ⟨c, mem, same.trans tuple⟩)
    · rw [(others j at_j).1] at live
      rw [(others j at_j).2]
      exact distinct.ahead c (pending ▸ mem_cons_of_mem mem) j live

lemma Call.fresh.lookup {table : Table} {call : Call} {tuple : FiveTuple} (fresh : call.fresh table)
    (same : call.tuple = some tuple) : lookupExact table tuple = none := by
  cases call with
  | connecting call => exact Option.some.inj same ▸ fresh.2.1
  | answering call => exact Option.some.inj same ▸ fresh.1
  | discarding slot => cases same

lemma Distinct.shape (distinct : Distinct s) (reserved : Reserved s) (sound : Chains s.table chains)
    (solo : (s.calls.filterMap Call.tuple).Nodup) (shape : Shape s e s') : Distinct s' := by
  cases shape with
  | quiet _ quiets =>
    exact distinct.shrinks quiets.shrinks fun _ mem => distinct.ahead_of_shrinks quiets.shrinks mem
  | @listen i snapshot localIp localPort backlog _ _ _ _ _ =>
    have shrinks : Shrinks s.table (s.table.setTcb i
        (listening (s.table.tcbs i) snapshot localIp localPort backlog)) := setTcb_shrinks rfl
    exact distinct.shrinks shrinks fun _ mem => distinct.ahead_of_shrinks shrinks mem
  | @reserve _ cursor call _ _ fresh =>
    obtain ⟨_, sound'⟩ := sound.quiet (.cursor cursor)
    have shrinks : Shrinks s.table
      (reserveSlot { s.table with ephemeralCursor := cursor } call.slot) :=
      @setTcb_shrinks s.table _ _ rfl
    refine distinct.shrinks shrinks fun c mem i live => ?_
    rcases mem_cons.mp mem with rfl | mem
    · -- `LookupExact` found nothing, and the chains miss nothing
      obtain ⟨live', tuple⟩ := shrinks i live
      intro same
      have found := sound'.lookupExact_isSome live' tuple.symm
      rw [fresh.lookup same] at found
      cases found
    · exact distinct.ahead_of_shrinks shrinks mem i live
  | @connectPublish calls call now pending =>
    obtain ⟨_, eq⟩ := @connectPublish_self s.table now call
    refine distinct.publish pending solo ?_ fun j ne => ?_
    · show some call.tuple = some ((connectPublish s.table now call).tcbs call.slot).tuple
      rw [eq]
      rfl
    · rw [connectPublish_of_ne ne]
      exact ⟨rfl, rfl⟩
  | @synPublish calls call p now pending welcome =>
    have mem : Call.answering call ∈ s.calls := pending ▸ mem_cons_self ..
    have ne : p ≠ call.slot := reserved.parent_ne mem welcome
    obtain ⟨_, eq⟩ := @synPublish_self s.table p now call ne
    refine distinct.publish pending solo ?_ fun j ne' => ?_
    · show some call.tuple = some ((synPublish s.table now call p).tcbs call.slot).tuple
      rw [eq]
      rfl
    · by_cases at_p : j = p
      · rw [at_p, synPublish_parent ne]
        exact ⟨rfl, rfl⟩
      · rw [synPublish_of_ne ne' at_p]
        exact ⟨rfl, rfl⟩
  | @unreserve _ calls call _ pending =>
    have shrinks : Shrinks s.table (unreserveSlot s.table call.slot) := setTcb_shrinks rfl
    refine distinct.shrinks shrinks fun c mem => distinct.ahead_of_shrinks shrinks ?_
    exact pending ▸ mem_cons_of_mem mem
  | @discard _ calls call _ pending =>
    refine ⟨distinct.unique, fun c mem => ?_⟩
    rcases mem_cons.mp mem with rfl | mem
    · exact fun _ _ => nofun
    · exact distinct.ahead c (pending ▸ mem_cons_of_mem mem)

/-- No two published connections have the same tuple, in any interleaving in which no two calls with
one tuple are under way together and no connection is published in the last slot. -/
theorem published_tuples_unique {isnSecret : UInt64} {es : List Event} {s : System}
    (run : Lts.Run SoloStep (initSystem isnSecret) es s) (i j : Fin kTcbCap)
    (live : (s.table.tcbs i).published) (live' : (s.table.tcbs j).published)
    (same : (s.table.tcbs i).tuple = (s.table.tcbs j).tuple) : i = j := by
  have all : (Reserved s ∧ ∃ chains, Chains s.table chains) ∧ (s.calls.filterMap Call.tuple).Nodup ∧
    Distinct s := by
    refine run.invariant (P := fun s => (Reserved s ∧ ∃ chains, Chains s.table chains) ∧
      (s.calls.filterMap Call.tuple).Nodup ∧ Distinct s) ?_ ?_
    · refine ⟨⟨.init isnSecret, _, chains_init isnSecret⟩, nodup_zero, fun _ _ live => ?_,
        fun _ mem => ?_⟩
      · cases live
      · exact absurd mem (notMem_zero _)
    · rintro s e s' ⟨⟨reserved, _, sound⟩, solo, distinct⟩ ⟨step, solo', spare⟩
      have shape := step.shape reserved.unbound
      exact ⟨⟨reserved.shape shape, sound.shape reserved shape spare⟩, solo',
        distinct.shape reserved sound solo shape⟩
  exact all.2.2.unique i j live live' same

/-- Two `Connect` calls one after the other publish connections with two tuples. -/
theorem published_tuples_unique_pair :
    ∃ es s, Lts.Run SoloStep (initSystem 0) es s ∧ (s.table.tcbs firstSlot).published ∧
      (s.table.tcbs secondSlot).published ∧
      (s.table.tcbs firstSlot).tuple ≠ (s.table.tcbs secondSlot).tuple := by
  let s₁ := connectDone (initSystem 0) firstSlot 5000 0
  have reserve : SoloStep (initSystem 0) _ _ :=
    ⟨@step_connectReserve firstSlot 5000 (initSystem 0) (by decide) (lookupExact_empty rfl)
      (by decide +kernel),
      nodup_singleton (loopTuple 5000), by decide⟩
  have run := (Lts.Run.single reserve).snoc
    ⟨@step_connectPublish firstSlot 5000 0 (initSystem 0), nodup_zero, by decide⟩
  have reserve' : SoloStep s₁ _ _ :=
    ⟨@step_connectReserve secondSlot 5001 s₁ (by decide) (by decide +kernel) (by decide +kernel),
      nodup_singleton (loopTuple 5001), by decide⟩
  have run' := (run.snoc reserve').snoc
    ⟨@step_connectPublish secondSlot 5001 0 s₁, nodup_zero, by decide⟩
  have live : (connectDone s₁ secondSlot 5001 0).table.tcbs firstSlot |>.published := by
    decide +kernel
  refine ⟨_, _, run', live, connectDone_published.1, fun same => ?_⟩
  exact absurd (published_tuples_unique run' firstSlot secondSlot live connectDone_published.1 same)
    (by decide)

/-- Two `Connect` calls with the same local port, both past their lookup before either publishes. -/
theorem two_connects_share_tuple : ∃ s, Lts.Run Step (initSystem 0)
      [.connectReserve (some firstSlot), .connectReserve (some secondSlot),
        .connectPublish secondSlot,
        .connectPublish firstSlot] s ∧ (s.table.tcbs firstSlot).published ∧
          (s.table.tcbs secondSlot).published ∧
    (s.table.tcbs firstSlot).tuple = (s.table.tcbs secondSlot).tuple := by
  let begun := connectBegun (initSystem 0) firstSlot 5000
  have first : Step (initSystem 0) _ begun :=
    step_connectReserve (by decide) (lookupExact_empty rfl) (by decide +kernel)
  have second : Step begun _ (connectBegun begun secondSlot 5000) :=
    step_connectReserve (by decide) (lookupExact_empty rfl) (by decide +kernel)
  have third := @step_connectPublish secondSlot 5000 0 begun
  have fourth := @Step.connectPublish (connectDone begun secondSlot 5000 0) 0
    (loopCall (initTable 0) firstSlot 5000) 0 rfl
  refine ⟨_, (((Lts.Run.single first).snoc second).snoc third).snoc fourth, ?_, ?_, ?_⟩
  all_goals decide +kernel

end DuetOS.Tcp
