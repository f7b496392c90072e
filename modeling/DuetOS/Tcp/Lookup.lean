import DuetOS.Tcp.Reserved

/-!
# Lookup by five-tuple

The chains hold exactly the published connections, as long as none of them is in the slot whose
number is the sentinel. `BucketInsert` of that slot makes its bucket look empty.
-/

namespace DuetOS.Tcp

def Event.publishes : Event → Option (Fin kTcbCap)
  | .connectPublish slot | .synPublish slot => some slot
  | _ => none

lemma Kept.published (kept : Kept t t') : t'.published = t.published := by
  rw [Tcb.published, Tcb.published, kept.inUse, kept.initializing, kept.isListener]

lemma Tcb.published_iff {t : Tcb} : t.published ↔ t.settled ∧ t.isListener = false := by
  rw [Tcb.published, Tcb.settled, Bool.and_eq_true, Bool.and_eq_true, Bool.not_eq_true',
    Bool.not_eq_true']

lemma Tcb.not_published_of_free {t : Tcb} (free : t.inUse = false) : t.published = false := by
  rw [Tcb.published, free, Bool.false_and, Bool.false_and]

lemma Tcb.not_published_of_initializing {t : Tcb} (initializing : t.initializing) :
    t.published = false := by
  rw [Tcb.published, initializing, Bool.not_true, Bool.and_false, Bool.false_and]

lemma Tcb.not_published_of_listener {t : Tcb} (listener : t.isListener) : t.published = false := by
  rw [Tcb.published, listener, Bool.not_true, Bool.and_false]

lemma Chains.setTcb (sound : Chains s chains) (published : t.published = (s.tcbs i).published)
    (same : (s.tcbs i).published → t.tuple = (s.tcbs i).tuple ∧
      t.bucketNext = (s.tcbs i).bucketNext) :
    Chains (s.setTcb i t) chains := by
  refine sound.congr rfl (fun j => ?_) fun j live => ?_
  · by_cases at_i : j = i
    · rw [at_i, setTcb_self, published]
    · rw [setTcb_of_ne at_i]
  · by_cases at_i : j = i
    · rw [at_i, setTcb_self]
      exact same (at_i ▸ live)
    · rw [setTcb_of_ne at_i]
      exact ⟨rfl, rfl⟩

lemma Chains.drop (sound : Chains s chains) (settled : (s.tcbs i).settled) :
    ∃ chains', Chains (dropTcb s i) chains' := by
  obtain ⟨buckets, dropped, others⟩ := dropTcb_tcbs settled.1
  have gone : ((dropTcb s i).tcbs i).published = false := Tcb.not_published_of_free dropped.inUse
  cases listener : (s.tcbs i).isListener with
  | true =>
    have unlinked : unlink s i = s := if_pos listener
    rw [unlinked] at buckets others
    refine ⟨chains, sound.congr buckets (fun j => ?_) fun j live => ?_⟩
    · by_cases at_i : j = i
      · rw [at_i, gone, Tcb.not_published_of_listener listener]
      · rw [others j at_i]
        rfl
    · have ne : j ≠ i := by
        rintro rfl
        rw [Tcb.not_published_of_listener listener] at live
        cases live
      rw [others j ne]
      exact ⟨rfl, rfl⟩
  | false =>
    have unlinked : unlink s i = bucketRemove s i := if_neg (by rw [listener]; decide)
    rw [unlinked] at buckets others
    refine ⟨_, sound.remove (Tcb.published_iff.mpr ⟨settled, listener⟩) buckets gone fun j ne => ?_⟩
    obtain ⟨_, eq⟩ := (bucketRemove_sameSlots s i).tcbs j
    rw [others j ne, eq]
    exact ⟨rfl, rfl, rfl⟩

lemma Chains.quiet (sound : Chains s chains) (quiet : Quiet s s') :
    ∃ chains', Chains s' chains' := by
  cases quiet with
  | cursor => exact ⟨chains, sound.congr rfl (fun _ => rfl) fun _ _ => ⟨rfl, rfl⟩⟩
  | push i p _ _ _ _ _ _ =>
    refine ⟨chains, (sound.setTcb ?_ ?_).setTcb ?_ ?_⟩
    · rfl
    · exact fun _ => ⟨rfl, rfl⟩
    · rfl
    · exact fun _ => ⟨rfl, rfl⟩
  | drop i settled => exact sound.drop settled
  | _ => exact ⟨chains, sound.setTcb rfl fun _ => ⟨rfl, rfl⟩⟩

lemma Chains.quiets (sound : Chains s chains) (quiets : Quiets s s') :
    ∃ chains', Chains s' chains' := by
  induction quiets with
  | refl => exact ⟨chains, sound⟩
  | tail _ quiet ih =>
    obtain ⟨_, sound'⟩ := ih
    exact sound'.quiet quiet

/-- Every step keeps the chains, unless it publishes the last slot. -/
lemma Chains.shape {s s' : System} {e : Event} (reserved : Reserved s)
    (sound : Chains s.table chains)
    (shape : Shape s e s') (spare : e.publishes ≠ some lastSlot) :
    ∃ chains', Chains s'.table chains' := by
  cases shape with
  | quiet _ quiets => exact sound.quiets quiets
  | listen _ _ _ _ free _ _ _ _ =>
    have idle := Tcb.not_published_of_free free
    exact ⟨chains, sound.setTcb idle.symm fun live => by rw [idle] at live; cases live⟩
  | @reserve _ cursor _ _ free _ =>
    obtain ⟨chains', sound'⟩ := sound.quiet (.cursor cursor)
    have idle := Tcb.not_published_of_free free
    exact ⟨chains', sound'.setTcb idle.symm fun live => by rw [idle] at live; cases live⟩
  | @connectPublish calls call now pending =>
    obtain ⟨inUse, initializing, _⟩ := reserved.pending pending
    refine ⟨_, sound.insert (Tcb.not_published_of_initializing initializing)
      (fun eq => spare (eq ▸ rfl)) ?_
      (fun j ne => setTcb_of_ne ne) rfl⟩
    rw [setTcb_self]
    exact Tcb.published_iff.mpr ⟨⟨inUse, rfl⟩, rfl⟩
  | @synPublish calls call p now pending welcome =>
    obtain ⟨inUse, initializing, _⟩ := reserved.pending pending
    have mem : Call.answering call ∈ s.calls := pending ▸ Multiset.mem_cons_self ..
    have ne : p ≠ call.slot := reserved.parent_ne mem welcome
    have gained : Chains (s.table.setTcb p (s.table.tcbs p).gain) chains :=
      sound.setTcb rfl fun _ => ⟨rfl, rfl⟩
    have idle : ((s.table.setTcb p (s.table.tcbs p).gain).tcbs call.slot).published = false := by
      rw [setTcb_of_ne ne.symm]
      exact Tcb.not_published_of_initializing initializing
    refine ⟨_, gained.insert idle (fun eq => spare (eq ▸ rfl)) ?_ (fun j ne' => ?_) rfl⟩
    · rw [setTcb_of_ne ne.symm, setTcb_self]
      exact Tcb.published_iff.mpr ⟨⟨inUse, rfl⟩, rfl⟩
    · by_cases at_p : j = p
      · rw [at_p, setTcb_self, setTcb_self, setTcb_of_ne ne]
        rfl
      · rw [setTcb_of_ne at_p, setTcb_of_ne at_p, setTcb_of_ne ne']
  | unreserve _ pending =>
    have idle := Tcb.not_published_of_initializing (reserved.pending pending).2.1
    refine ⟨chains, sound.setTcb (idle.symm ▸ rfl) fun live => ?_⟩
    rw [idle] at live
    cases live
  | discard _ _ => exact ⟨chains, sound⟩

lemma chains_init (isnSecret : UInt64) : Chains (initTable isnSecret) fun _ => [] :=
  ⟨fun _ => .nil, fun _ => List.nodup_nil, fun _ _ => ⟨nofun, fun both => by cases both.1⟩⟩

lemma chains_of_run {isnSecret es s} (run : Lts.Run Step (initSystem isnSecret) es s)
    (spare : ∀ e ∈ es, e.publishes ≠ some lastSlot) : ∃ chains, Chains s.table chains := by
  have both : Reserved s ∧ ∃ chains, Chains s.table chains := by
    induction run with
    | nil => exact ⟨.init isnSecret, _, chains_init isnSecret⟩
    | snoc _ step ih =>
      obtain ⟨reserved, _, sound⟩ := ih fun e mem => spare e (List.mem_append_left _ mem)
      have shape := step.shape reserved.unbound
      refine ⟨reserved.shape shape, ?_⟩
      exact sound.shape reserved shape
        (spare _ (List.mem_append_right _ (List.mem_singleton_self _)))
  exact both.2

/-- Over every run that publishes nothing in the last slot, the chains are without repetition,
disjoint and hold exactly the published connections, and `LookupExact` finds a connection exactly if
one is published with that tuple. -/
theorem lookupExact_finds_published {isnSecret : UInt64} {es : List Event} {s : System}
    (run : Lts.Run Step (initSystem isnSecret) es s)
    (spare : ∀ e ∈ es, e.publishes ≠ some lastSlot) :
    (∃ chains : Fin kTcbBuckets → List (Fin kTcbCap),
      (∀ h, Chain s.table (s.table.buckets h) (chains h) ∧ (chains h).Nodup) ∧
      (∀ h h', h ≠ h' → (chains h).Disjoint (chains h')) ∧ ∀ i, (∃ h, i ∈ chains h) ↔
      (s.table.tcbs i).published) ∧
    (∀ tuple i, lookupExact s.table tuple = some i → (s.table.tcbs i).published ∧
      (s.table.tcbs i).tuple = tuple) ∧
    ∀ tuple, (lookupExact s.table tuple).isSome ↔ ∃ i, (s.table.tcbs i).published ∧
      (s.table.tcbs i).tuple = tuple := by
  obtain ⟨chains, sound⟩ := chains_of_run run spare
  refine ⟨⟨chains, fun h => ⟨sound.chain h, sound.nodup h⟩, fun h h' ne i mem mem' => ?_,
    fun i => ?_⟩,
    fun tuple i => sound.of_lookupExact, fun tuple => ⟨fun found => ?_, fun ⟨i, live, same⟩ => ?_⟩⟩
  · exact ne (((sound.mem h i).mp mem).2.symm.trans ((sound.mem h' i).mp mem').2)
  · exact ⟨fun ⟨h, mem⟩ => ((sound.mem h i).mp mem).1,
      fun live => ⟨_, (sound.mem _ i).mpr ⟨live, rfl⟩⟩⟩
  · obtain ⟨i, found⟩ := Option.isSome_iff_exists.mp found
    exact ⟨i, sound.of_lookupExact found⟩
  · exact sound.lookupExact_isSome live same

section Connecting

open Function

def firstSlot : Fin kTcbCap := ⟨0, by decide⟩

def secondSlot : Fin kTcbCap := ⟨1, by decide⟩

def loopback : NetInterfaceSnapshot := ⟨⟨1, 1⟩, 0, ⟨0x7F000001⟩⟩

/-- The tuple of a connection from the interface to itself. -/
def loopTuple (port : UInt16) : FiveTuple := ⟨loopback.binding, loopback.ip, port, loopback.ip, 80⟩

variable {s : Table} {i : Fin kTcbCap} {tuple : FiveTuple} {port : UInt16} {now : Nat}

lemma allocSlot_eq (free : (s.tcbs i).inUse = false) (below : ∀ j < i, (s.tcbs j).inUse) :
    allocSlot s = some i := by
  rw [allocSlot, List.find?_eq_some_iff_getElem]
  refine ⟨by rw [free]; rfl, i, by rw [List.length_finRange]; exact i.isLt, ?_, fun j lt => ?_⟩
  · rw [List.getElem_finRange]
    rfl
  · rw [List.getElem_finRange, below _ (by exact lt)]
    rfl

lemma lookupExact_empty (empty : s.buckets (bucketHash tuple) = kBucketNone) :
    lookupExact s tuple = none := by
  rw [lookupExact, empty, lookupLoop, if_pos rfl]

def loopCall (s : Table) (i : Fin kTcbCap) (port : UInt16) : ConnectCall :=
  ⟨i, (s.tcbs i).generation + 1, loopback, loopTuple port⟩

lemma connectReserve_eq (valid : port ≠ 0) (fresh : lookupExact s (loopTuple port) = none)
    (free : allocSlot s = some i) :
    connectReserve s loopback loopback.ip 80 port =
      (some (loopCall s i port), reserveSlot s i) := by
  unfold connectReserve
  rw [if_neg valid]
  show (if port = 0 then _ else if lookupExact s (loopTuple port) ≠ none then _ else _) = _
  rw [if_neg valid, if_neg (not_not.mpr fresh), free]
  rfl

def connectBegun (s : System) (i : Fin kTcbCap) (port : UInt16) : System :=
  ⟨reserveSlot s.table i, .connecting (loopCall s.table i port) ::ₘ s.calls,
    update s.returned i false⟩

lemma step_connectReserve {s} (valid : port ≠ 0)
    (fresh : lookupExact s.table (loopTuple port) = none)
    (free : allocSlot s.table = some i) :
    Step s (.connectReserve (some i)) (connectBegun s i port) :=
  .connectReserve loopback loopback.ip 80 port rfl (connectReserve_eq valid fresh free)

def connectDone (s : System) (i : Fin kTcbCap) (port : UInt16) (now : Nat) : System :=
  ⟨connectPublish (reserveSlot s.table i) now (loopCall s.table i port), s.calls,
    update s.returned i true⟩

lemma step_connectPublish {s} :
    Step (connectBegun s i port) (.connectPublish i) (connectDone s i port now) := by
  have publish := @Step.connectPublish (connectBegun s i port) s.calls
    (loopCall s.table i port) now rfl
  have returned : update (update s.returned i false) i true = update s.returned i true :=
    update_idem ..
  rw [connectDone, ← returned]
  exact publish

lemma run_connect {s} (valid : port ≠ 0) (fresh : lookupExact s.table (loopTuple port) = none)
    (free : allocSlot s.table = some i) :
    Lts.Run Step s [.connectReserve (some i), .connectPublish i] (connectDone s i port now) :=
  .snoc (.single (step_connectReserve valid fresh free)) step_connectPublish

lemma run_reserves (n : Nat) (fits : n ≤ kTcbCap) : ∃ es s, Lts.Run Step (initSystem 0) es s ∧
    (∀ i, (s.table.tcbs i).inUse = decide (i.val < n)) ∧ ∀ h, s.table.buckets h = kBucketNone := by
  induction n with
  | zero => exact ⟨[], _, .nil, fun _ => rfl, fun _ => rfl⟩
  | succ n ih =>
    obtain ⟨es, s, run, used, empty⟩ := ih (Nat.le_of_succ_le fits)
    have free : allocSlot s.table = some ⟨n, fits⟩ :=
      allocSlot_eq ((used _).trans (decide_eq_false (Nat.lt_irrefl n))) fun j lt =>
        (used j).trans (decide_eq_true lt)
    have step := @step_connectReserve ⟨n, fits⟩ 5000 s (by decide)
      (lookupExact_empty (empty _)) free
    refine ⟨_, _, run.snoc step, fun i => ?_, empty⟩
    rcases eq_or_ne i ⟨n, fits⟩ with rfl | ne
    · exact (congrArg Tcb.inUse (update_self ..)).trans (decide_eq_true (Nat.lt_succ_self n)).symm
    · have other : i.val ≠ n := fun eq => ne (Fin.ext eq)
      rw [connectBegun, reserveSlot, setTcb_of_ne ne, used]
      exact decide_eq_decide.mpr (by omega)

/-- `Connect` publishes the connection. -/
lemma connectDone_published {s : System} {i : Fin kTcbCap} {port : UInt16} {now : Nat} :
    ((connectDone s i port now).table.tcbs i).published ∧
      ((connectDone s i port now).table.tcbs i).tuple = loopTuple port := by
  obtain ⟨_, eq⟩ := @connectPublish_self (reserveSlot s.table i) now (loopCall s.table i port)
  have slot : (connectDone s i port now).table.tcbs i = _ := eq
  rw [slot, loopCall, connected, reserveSlot, setTcb_self]
  exact ⟨rfl, rfl⟩

/-- `Connect` makes the connection the head of its bucket. -/
lemma connectDone_bucket {s : System} :
    (connectDone s i port now).table.buckets (bucketHash (loopTuple port)) = slotByte i := by
  have head : ∀ table : Table, (bucketInsert table i).buckets (bucketHash (table.tcbs i).tuple) =
    slotByte i :=
    fun _ => Function.update_self ..
  have inserted := head ((reserveSlot s.table i).setTcb i
    (connected ((reserveSlot s.table i).tcbs i) s.table.isnSecret now (loopCall s.table i port)))
  rw [setTcb_self] at inserted
  exact inserted

/-- Two connections in one chain are found. -/
theorem lookupExact_finds_both :
    bucketHash (loopTuple 5000) = bucketHash (loopTuple 5064) ∧
    ∃ es s, Lts.Run Step (initSystem 0) es s ∧ (lookupExact s.table (loopTuple 5000)).isSome ∧
      (lookupExact s.table (loopTuple 5064)).isSome := by
  let s₁ := connectDone (initSystem 0) firstSlot 5000 0
  have run := @run_connect firstSlot 5000 0 (initSystem 0) (by decide) (lookupExact_empty rfl)
    (allocSlot_eq rfl fun _ lt => absurd lt (Nat.not_lt_zero _))
  have run' := run.append
    (@run_connect secondSlot 5064 0 s₁ (by decide) (by decide +kernel) (by decide +kernel))
  have found := (lookupExact_finds_published run' (by decide)).2.2
  refine ⟨by decide +kernel, _, _, run',
    (found _).mpr ⟨firstSlot, by decide +kernel, by decide +kernel⟩, ?_⟩
  exact (found _).mpr ⟨secondSlot, connectDone_published⟩

/-- With 255 `Connect` calls under way, the next takes the last slot, and `LookupExact` never finds
that connection. -/
theorem last_slot_is_lost :
    ∃ es s, Lts.Run Step (initSystem 0) es s ∧ (s.table.tcbs lastSlot).published ∧
    (s.table.tcbs lastSlot).tuple = loopTuple 5000 ∧ lookupExact s.table
    (loopTuple 5000) = none := by
  obtain ⟨es, s, run, used, empty⟩ := run_reserves 255 (by decide)
  have free : allocSlot s.table = some lastSlot :=
    allocSlot_eq (used lastSlot) fun j lt => (used j).trans (decide_eq_true lt)
  have connect := @run_connect lastSlot 5000 0 s (by decide) (lookupExact_empty (empty _)) free
  have live := @connectDone_published s lastSlot 5000 0
  refine ⟨_, _, run.append connect, live.1, live.2, lookupExact_empty ?_⟩
  -- the head of the bucket is now the number of the slot, which reads as the end of the chain
  exact connectDone_bucket

end Connecting

end DuetOS.Tcp
