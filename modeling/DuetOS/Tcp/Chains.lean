import DuetOS.Lib.Threaded
import DuetOS.Tcp.System
import Mathlib.Data.Fintype.Card

/-!
# Hash chains

The chains of the table hold exactly the published connections, as long as the last slot is none of
them: its number is the sentinel of the chains. `BucketInsert` and `BucketRemove` keep this, and
`LookupExact` is a search in one chain.
-/

namespace DuetOS.Tcp

open Function List

variable {s : Table} {i : Fin kTcbCap} {h : Fin kTcbBuckets}
  {chains : Fin kTcbBuckets → List (Fin kTcbCap)}

/-- A connection that other calls can find. -/
def Tcb.published (t : Tcb) : Bool := t.inUse && !t.initializing && !t.isListener

/-- The slot whose number is the sentinel. -/
def lastSlot : Fin kTcbCap := ⟨255, by decide⟩

abbrev Chain (s : Table) (link : UInt8) (l : List (Fin kTcbCap)) : Prop :=
  Threaded slotByte kBucketNone (fun i => (s.tcbs i).bucketNext) link l

/-- The chains visit the published connections, each in the chain of its hash. -/
structure Chains (s : Table) (chains : Fin kTcbBuckets → List (Fin kTcbCap)) : Prop where
  chain : ∀ h, Chain s (s.buckets h) (chains h)
  nodup : ∀ h, (chains h).Nodup
  mem : ∀ h i, i ∈ chains h ↔ (s.tcbs i).published ∧ bucketHash (s.tcbs i).tuple = h

lemma byteSlot_slotByte (i) : byteSlot (slotByte i) = i := Fin.ext (UInt8.toNat_ofNat_of_lt' i.isLt)

lemma slotByte_inj : slotByte i = slotByte j ↔ i = j :=
  ⟨fun eq => by rw [← byteSlot_slotByte i, eq, byteSlot_slotByte], congrArg _⟩

lemma slotByte_ne (ne : i ≠ lastSlot) :
    slotByte i ≠ kBucketNone := fun eq => ne (slotByte_inj.mp eq)

namespace Chains

lemma length_lt (sound : Chains s chains) (h) : (chains h).length < kTcbCap + 1 := by
  have le := List.Nodup.length_le_card (sound.nodup h)
  rw [Fintype.card_fin] at le
  omega

lemma congr (sound : Chains s chains) (buckets : s'.buckets = s.buckets)
    (published : ∀ i, (s'.tcbs i).published = (s.tcbs i).published)
    (same : ∀ i, (s.tcbs i).published →
      (s'.tcbs i).tuple = (s.tcbs i).tuple ∧ (s'.tcbs i).bucketNext = (s.tcbs i).bucketNext) :
        Chains s' chains := by
  refine ⟨fun h => ?_, sound.nodup, fun h i => ?_⟩
  · rw [buckets]
    exact (sound.chain h).congr fun i mem => (same i ((sound.mem h i).mp mem).1).2
  · rw [sound.mem, published]
    refine and_congr_right fun live => ?_
    rw [(same i live).1]

end Chains

lemma lookupLoop_eq (chain : Chain s link l) (enough : l.length < steps) :
    lookupLoop s tuple steps link =
      l.find? fun i => (s.tcbs i).inUse ∧ ¬(s.tcbs i).isListener ∧ (s.tcbs i).tuple = tuple := by
  induction chain generalizing steps with
  | nil =>
    cases steps with
    | zero => cases enough
    | succ => rw [lookupLoop, if_pos rfl, find?_nil]
  | @cons i l proper _ ih =>
    cases steps with
    | zero => cases enough
    | succ steps =>
      rw [lookupLoop, if_neg proper, byteSlot_slotByte]
      dsimp only
      split
      next found => rw [find?_cons, decide_eq_true found]
      next other =>
        rw [find?_cons, decide_eq_false other]
        exact ih (Nat.lt_of_succ_lt_succ enough)

lemma Chains.of_lookupExact (sound : Chains s chains) (found : lookupExact s tuple = some i) :
    (s.tcbs i).published ∧ (s.tcbs i).tuple = tuple := by
  rw [lookupExact, lookupLoop_eq (sound.chain _) (sound.length_lt _)] at found
  have mem := mem_of_find?_eq_some found
  have fits := find?_some found
  rw [decide_eq_true_eq] at fits
  exact ⟨((sound.mem _ _).mp mem).1, fits.2.2⟩

lemma Chains.lookupExact_isSome (sound : Chains s chains) (published : (s.tcbs i).published)
    (same : (s.tcbs i).tuple = tuple) : (lookupExact s tuple).isSome := by
  rw [lookupExact, lookupLoop_eq (sound.chain _) (sound.length_lt _), find?_isSome]
  refine ⟨i, (sound.mem _ i).mpr ⟨published, by rw [same]⟩, ?_⟩
  simp only [Tcb.published, Bool.and_eq_true, Bool.not_eq_true'] at published
  simp [published.1.1, published.2, same]

lemma bucketInsert_self : (bucketInsert s i).tcbs i =
    { s.tcbs i with bucketNext := s.buckets (bucketHash (s.tcbs i).tuple) } :=
  update_self ..

lemma bucketInsert_of_ne (ne : j ≠ i) : (bucketInsert s i).tcbs j = s.tcbs j := update_of_ne ne ..

lemma Chains.insert (sound : Chains s chains) (free : (s.tcbs i).published = false)
    (ne : i ≠ lastSlot)
    (published : (s'.tcbs i).published) (others : ∀ j, j ≠ i → s'.tcbs j = s.tcbs j)
    (buckets : s'.buckets = s.buckets) :
    Chains (bucketInsert s' i) (update chains (bucketHash (s'.tcbs i).tuple)
      (i :: chains (bucketHash (s'.tcbs i).tuple))) := by
  generalize hash : bucketHash _ = h₀
  have fresh : ∀ h, i ∉ chains h := by
    intro h mem
    rw [((sound.mem h i).mp mem).1] at free
    cases free
  have heads : (bucketInsert s' i).buckets = update s.buckets h₀ (slotByte i) := by
    rw [← hash, ← buckets]
    rfl
  have links : ∀ j, ((bucketInsert s' i).tcbs j).bucketNext =
      update (fun j => (s.tcbs j).bucketNext) i (s.buckets h₀) j := by
    intro j
    by_cases eq : j = i
    · rw [eq, bucketInsert_self, update_self, hash, buckets]
    · rw [bucketInsert_of_ne eq, others j eq, update_of_ne eq]
  refine ⟨fun h => ?_, fun h => ?_, fun h j => ?_⟩
  · rw [heads]
    by_cases eq : h = h₀
    · rw [eq, update_self, update_self]
      exact ((sound.chain h₀).push (slotByte_ne ne) (fresh h₀)).congr fun j _ => links j
    · rw [update_of_ne eq, update_of_ne eq]
      refine (sound.chain h).congr fun j mem => ?_
      rw [links, update_of_ne (ne_of_mem_of_not_mem mem (fresh h))]
  · by_cases eq : h = h₀
    · rw [eq, update_self]
      exact nodup_cons.mpr ⟨fresh h₀, sound.nodup h₀⟩
    · rw [update_of_ne eq]
      exact sound.nodup h
  · by_cases same : j = i
    · rw [same, bucketInsert_self]
      rw [hash]
      by_cases eq : h = h₀
      · rw [eq, update_self]
        exact ⟨fun _ => ⟨published, rfl⟩, fun _ => .head _⟩
      · rw [update_of_ne eq]
        exact ⟨fun mem => absurd mem (fresh h), fun ⟨_, at_h⟩ => absurd at_h.symm eq⟩
    · rw [bucketInsert_of_ne same, others j same, ← sound.mem]
      by_cases eq : h = h₀
      · rw [eq, update_self, mem_cons, or_iff_right same]
      · rw [update_of_ne eq]

lemma setLink_link (link value) : (s.setLink link value).link link = value := by
  cases link with
  | head => exact update_self ..
  | next i =>
    show ((s.setTcb i _).tcbs i).bucketNext = _
    rw [setTcb_self]

lemma setLink_link_of_ne (ne : other ≠ link) (value) :
    (s.setLink link value).link other = s.link other := by
  cases link with
  | head h =>
    cases other with
    | head h' => exact update_of_ne (fun eq => ne (congrArg _ eq)) ..
    | next => rfl
  | next i =>
    cases other with
    | head => rfl
    | next j => exact congrArg Tcb.bucketNext (update_of_ne (fun eq => ne (congrArg _ eq)) ..)

/-- The link that leads to the slot behind `before`. -/
def lastLink (first : Link) (before : List (Fin kTcbCap)) : Link := before.getLast?.elim first .next

lemma bucketRemoveLoop_eq {first steps before after}
    (chain : Chain s (s.link first) (before ++ i :: after))
    (out : i ∉ before) (enough : before.length < steps) : bucketRemoveLoop i steps s first =
      (s.setLink (lastLink first before) (s.link (.next i))).setLink (.next i) kBucketNone := by
  induction before generalizing steps first with
  | nil =>
    obtain ⟨eq, proper⟩ := chain.head
    cases steps with
    | zero => cases enough
    | succ steps =>
      rw [bucketRemoveLoop, if_neg (by rw [eq]; exact proper), if_pos eq]
      rfl
  | cons j before ih =>
    obtain ⟨eq, proper⟩ := chain.head
    cases steps with
    | zero => cases enough
    | succ steps =>
      have other : ¬s.link first = slotByte i := by
        rw [eq, slotByte_inj]
        exact fun same => out (same ▸ .head _)
      have rest : Chain s (s.link (.next j)) (before ++ i :: after) := chain.rest
      rw [bucketRemoveLoop, if_neg (by rw [eq]; exact proper), if_neg other, eq, byteSlot_slotByte,
        ih rest (fun mem => out (.tail _ mem)) (Nat.lt_of_succ_lt_succ enough)]
      rw [lastLink, lastLink, getLast?_cons]
      cases before.getLast? <;> rfl

/-- Two tables that differ in their links only. -/
structure SameSlots (s s' : Table) : Prop where
  tcbs : ∀ j, ∃ next, s'.tcbs j = { s.tcbs j with bucketNext := next }
  ephemeralCursor : s'.ephemeralCursor = s.ephemeralCursor
  isnSecret : s'.isnSecret = s.isnSecret

lemma setLink_sameSlots (link value) : SameSlots s (s.setLink link value) := by
  cases link with
  | head => exact ⟨fun j => ⟨_, rfl⟩, rfl, rfl⟩
  | next i =>
    refine ⟨fun j => ?_, rfl, rfl⟩
    by_cases eq : j = i
    · rw [eq]
      exact ⟨value, update_self ..⟩
    · exact ⟨_, update_of_ne eq ..⟩

lemma SameSlots.trans (first : SameSlots s s') (second : SameSlots s' s'') : SameSlots s s'' := by
  refine ⟨fun j => ?_, second.ephemeralCursor.trans first.ephemeralCursor,
    second.isnSecret.trans first.isnSecret⟩
  obtain ⟨_, eq⟩ := first.tcbs j
  obtain ⟨next, eq'⟩ := second.tcbs j
  exact ⟨next, by rw [eq', eq]⟩

lemma bucketRemove_sameSlots (s i) : SameSlots s (bucketRemove s i) := by
  have loop : ∀ steps s first, SameSlots s (bucketRemoveLoop i steps s first) := by
    intro steps
    induction steps with
    | zero => exact fun s _ => ⟨fun _ => ⟨_, rfl⟩, rfl, rfl⟩
    | succ steps ih =>
      intro s first
      rw [bucketRemoveLoop]
      split
      · exact ⟨fun _ => ⟨_, rfl⟩, rfl, rfl⟩
      · split
        · exact (setLink_sameSlots ..).trans (setLink_sameSlots ..)
        · exact ih ..
  exact loop ..

lemma Chains.unlinked (sound : Chains s chains) (published : (s.tcbs i).published) (h) :
    Chain (bucketRemove s i) ((bucketRemove s i).buckets h) ((chains h).erase i) := by
  have mem := (sound.mem _ i).mpr ⟨published, rfl⟩
  generalize hash : bucketHash _ = h₀ at mem
  obtain ⟨before, after, split⟩ := append_of_mem mem
  have chain := sound.chain h₀
  have nodup := sound.nodup h₀
  have length := sound.length_lt h₀
  rw [split] at chain nodup length
  have out : i ∉ before := fun bad => (nodup_append.mp nodup).2.2 i bad i (.head _) rfl
  have out' : i ∉ after := (nodup_cons.mp (nodup_append.mp nodup).2.1).1
  have removed : bucketRemove s i =
      (s.setLink (lastLink (.head h₀) before) (s.link (.next i))).setLink (.next i)
        kBucketNone := by
    rw [bucketRemove, hash]
    refine bucketRemoveLoop_eq chain out ?_
    rw [length_append] at length
    omega
  have elsewhere : ∀ h, h ≠ h₀ → ∀ k ∈ chains h, k ∉ before ++ i :: after := by
    intro h ne k at_h at_h₀
    rw [← split] at at_h₀
    exact ne (((sound.mem h k).mp at_h).2.symm.trans ((sound.mem h₀ k).mp at_h₀).2)
  have gone : ∀ h, h ≠ h₀ → (chains h).erase i = chains h := fun h ne =>
    erase_of_not_mem fun mem => elsewhere h ne i mem (by simp)
  rcases eq_nil_or_concat before with rfl | ⟨before, j, rfl⟩
  · -- the slot is the first of its chain
    have heads : (bucketRemove s i).buckets = update s.buckets h₀ (s.tcbs i).bucketNext := by
      rw [removed]
      rfl
    have links : ∀ k, k ≠ i → ((bucketRemove s i).tcbs k).bucketNext = (s.tcbs k).bucketNext := by
      intro k ne
      rw [removed]
      exact congrArg Tcb.bucketNext (update_of_ne ne ..)
    rw [heads]
    by_cases eq : h = h₀
    · rw [eq, update_self, split, nil_append, erase_cons_head]
      exact chain.rest.congr fun k mem => links k (ne_of_mem_of_not_mem mem out')
    · rw [update_of_ne eq, gone h eq]
      exact (sound.chain h).congr fun k mem => links k fun same =>
        elsewhere h eq k mem (by simp [same])
  · -- the slot before it gets its link
    rw [concat_eq_append] at *
    have heads : (bucketRemove s i).buckets = s.buckets := by
      rw [removed, lastLink, getLast?_append]
      rfl
    have links : ∀ k, ((bucketRemove s i).tcbs k).bucketNext = update
        (update (fun k => (s.tcbs k).bucketNext) j (s.tcbs i).bucketNext) i kBucketNone k := by
      intro k
      show (bucketRemove s i).link (.next k) = _
      have at_j : lastLink (.head h₀) (before ++ [j]) = .next j := by simp [lastLink]
      rw [removed, at_j]
      by_cases eq : k = i
      · rw [eq, update_self, setLink_link]
      rw [update_of_ne eq, setLink_link_of_ne fun same => eq (Link.next.inj same)]
      by_cases eq' : k = j
      · rw [eq', update_self, setLink_link]
        rfl
      · rw [update_of_ne eq', setLink_link_of_ne fun same => eq' (Link.next.inj same)]
        rfl
    rw [heads]
    by_cases eq : h = h₀
    · rw [eq, split, erase_append_right _ out, erase_cons_head, append_assoc]
      rw [append_assoc] at chain nodup
      exact (chain.unlink nodup kBucketNone).congr fun k _ => links k
    rw [gone h eq]
    refine (sound.chain h).congr fun k mem => ?_
    have away := elsewhere h eq k mem
    simp only [append_assoc, mem_append, mem_cons, not_or] at away
    rw [links, update_of_ne away.2.2.1, update_of_ne away.2.1.1]

lemma Chains.remove (sound : Chains s chains) (published : (s.tcbs i).published)
    (buckets : s'.buckets = (bucketRemove s i).buckets) (gone : (s'.tcbs i).published = false)
    (others : ∀ j, j ≠ i → (s'.tcbs j).published = (s.tcbs j).published ∧
      (s'.tcbs j).tuple = (s.tcbs j).tuple ∧
      (s'.tcbs j).bucketNext = ((bucketRemove s i).tcbs j).bucketNext) : Chains s' fun h =>
        (chains h).erase i := by
  refine ⟨fun h => ?_, fun h => (sound.nodup h).erase i, fun h j => ?_⟩
  · rw [buckets]
    refine (sound.unlinked published h).congr fun j mem => ?_
    exact (others j ((sound.nodup h).mem_erase_iff.mp mem).1).2.2
  · rw [(sound.nodup h).mem_erase_iff, sound.mem]
    by_cases eq : j = i
    · rw [eq, gone]
      simp
    · rw [(others j eq).1, (others j eq).2.1]
      exact and_iff_right eq

end DuetOS.Tcp
