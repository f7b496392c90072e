import DuetOS.Lib.Mask
import DuetOS.Loader.LoadPlan

/-!
# Accepted load plans

What the validator accepts, stated over unbounded integers and all pairs of regions, and that it
accepts nothing else.
-/

namespace DuetOS.Loader

/-- Two intervals of integers, given by start and length, without a common point. -/
def Apart (start length start' length' : Nat) :
    Prop := start + length ≤ start' ∨ start' + length' ≤ start

/-- The last address of the region lies in the machine's words, and so does its last backing
byte. -/
structure LoadRegionV1.Shaped (region : LoadRegionV1) : Prop where
  reserved : region.reserved = 0
  protection : region.protection ≠ 0
  flags : Mask.Sub region.protection.toBitVec kVmProtectionMask.toBitVec
  exclusive : ¬(region.writable ∧ region.executable)
  nonempty : 0 < region.length.toNat
  address : 4096 ∣ region.virtualAddress.toNat
  pages : 4096 ∣ region.length.toNat
  offset : 4096 ∣ region.objectOffset.toNat
  object : region.memoryObject ≠ 0
  within : region.objectOffset.toNat + region.length.toNat < 2 ^ 64
  hash : region.contentHash ≠ 0

/-- The region lies in the user range of the format. -/
def LoadRegionV1.Ranged (format : ImageFormat) (region : LoadRegionV1) : Prop :=
  4096 ≤ region.virtualAddress.toNat ∧
    region.virtualAddress.toNat + region.length.toNat ≤ (formatUserMax format).toNat + 1

/-- Two regions that share neither an address nor a backing byte. -/
def LoadRegionV1.Apart (region other : LoadRegionV1) : Prop :=
  Loader.Apart region.virtualAddress.toNat region.length.toNat other.virtualAddress.toNat
    other.length.toNat ∧
    Loader.Apart region.objectOffset.toNat region.length.toNat other.objectOffset.toNat
      other.length.toNat

/-- The region is executable and holds the entry point. -/
def LoadRegionV1.Entered (entry : UInt64) (region : LoadRegionV1) : Prop :=
  region.executable ∧ region.virtualAddress.toNat ≤ entry.toNat ∧
    entry.toNat < region.virtualAddress.toNat + region.length.toNat

structure HeaderOk (bytes : List UInt8) (expected : Option Hash256) (header : LoadPlanV1) :
    Prop where
  version : header.version = kLoadPlanVersion1
  format : ∀ value, header.format ≠ .unsupported value
  dependencies : header.dependencyCount = 0
  least : 0 < header.regionCount
  most : header.regionCount ≤ kLoadPlanMaxRegions
  size : header.size = bytes.length
  length : bytes.length = kLoadPlanV1HeaderBytes + header.regionCount * kLoadRegionV1Bytes
  hash : header.sourceHash ≠ 0
  source : expected = some header.sourceHash
  base : header.preferredBase = 0 ∨ 4096 ∣ header.preferredBase.toNat ∧
    4096 ≤ header.preferredBase.toNat ∧
    header.preferredBase.toNat ≤ (formatUserMax header.format).toNat

structure WellFormed (bytes : List UInt8) (expected : Option Hash256) : Prop where
  header : HeaderOk bytes expected (decodeHeader bytes)
  shaped : ∀ region ∈ decodeRegions bytes, region.Shaped
  object : ∃ object, ∀ region ∈ decodeRegions bytes, region.memoryObject = object
  ranged : ∀ region ∈ decodeRegions bytes, region.Ranged (decodeHeader bytes).format
  apart : (decodeRegions bytes).Pairwise LoadRegionV1.Apart
  total : ((decodeRegions bytes).map (·.length.toNat)).sum ≤ kLoadPlanMaxMappedBytes.toNat
  entry : ∃ region ∈ decodeRegions bytes, region.Entered (decodeHeader bytes).entryPoint

/-- The slice of the region is there, is sealed if it is executed, and has the recorded hash. -/
structure BackedBy (region : LoadRegionV1) (backing : LoadBackingInfoV1) : Prop where
  sealed : backing.sealed ≤ 1
  reserved : backing.reserved = 0
  within : region.objectOffset.toNat + region.length.toNat ≤ backing.objectSize.toNat
  executable : region.executable → backing.sealed ≠ 0
  hash : region.contentHash = backing.sliceHash

def Backed (bytes : List UInt8) (queryBacking : Option LoadBackingQueryV1) : Prop :=
  ∃ query, queryBacking = some query ∧
    ∀ region ∈ decodeRegions bytes, ∃ backing, query region.request = some backing ∧
      BackedBy region backing

section Checks

variable [Decidable c]

@[simp] lemma guard_eq_ok {rest : Except ε α} : (if c then .error error else rest) = .ok a ↔ ¬c ∧
    rest = .ok a := by
  split
  next yes => exact ⟨nofun, fun checked => absurd yes checked.1⟩
  next no => exact ⟨fun rest => ⟨no, rest⟩, And.right⟩

@[simp] lemma bind_eq_ok {first : Except ε α} {next : α → Except ε β} :
    first.bind next = .ok b ↔ ∃ a, first = .ok a ∧ next a = .ok b := by
  cases first with
  | error => exact ⟨nofun, nofun⟩
  | ok a => exact ⟨fun rest => ⟨a, rfl, rest⟩, fun ⟨_, same, rest⟩ => Except.ok.inj same ▸ rest⟩

lemma toNat_add {a b : UInt64} (within : a.toNat + b.toNat < 2 ^ 64) :
    (a + b).toNat = a.toNat + b.toNat := by
  rw [UInt64.toNat_add, Nat.mod_eq_of_lt within]

@[simp] lemma checkedAdd_eq_ok {rest : UInt64 → Except ε α} :
    (checkedAdd lhs rhs).elim (.error error) rest = .ok a ↔
      lhs.toNat + rhs.toNat < 2 ^ 64 ∧ rest (lhs + rhs) = .ok a := by
  have room : (0xFFFFFFFFFFFFFFFF - lhs).toNat = 2 ^ 64 - 1 - lhs.toNat := by
    rw [UInt64.toNat_sub_of_le _ _ (UInt64.le_iff_toNat_le.mpr (Nat.le_of_lt_succ lhs.toNat_lt))]
    rfl
  have bound := lhs.toNat_lt
  unfold checkedAdd
  split
  next wraps =>
    rw [gt_iff_lt, UInt64.lt_iff_toNat_lt, room] at wraps
    exact ⟨nofun, fun checked => by omega⟩
  next fits =>
    rw [gt_iff_lt, UInt64.lt_iff_toNat_lt, room] at fits
    exact ⟨fun rest => ⟨by omega, rest⟩, And.right⟩

lemma isPageAligned_iff : isPageAligned value ↔ 4096 ∣ value.toNat := by
  have mask : (value &&& (kLoadPlanPageSize - 1)).toNat = value.toNat % 4096 :=
    Nat.and_two_pow_sub_one_eq_mod value.toNat 12
  rw [isPageAligned, decide_eq_true_iff, Nat.dvd_iff_mod_eq_zero, ← mask]
  exact UInt64.toNat_inj.symm

lemma foldl_or_eq_zero (f : Fin n → UInt8) :
    (List.finRange n).foldl (fun gathered i => gathered ||| f i) 0 = 0 ↔ f = 0 := by
  have general : ∀ (slots : List (Fin n)) (start : UInt8),
      slots.foldl (fun gathered i => gathered ||| f i) start = 0 ↔ start = 0 ∧
        ∀ i ∈ slots, f i = 0 := by
    intro slots
    induction slots with
    | nil => simp
    | cons i slots ih =>
      intro start
      rw [List.foldl_cons, ih, UInt8.or_eq_zero_iff]
      simp [and_assoc]
  rw [general]
  exact ⟨fun zero => funext fun i => zero.2 i (List.mem_finRange i),
    fun zero => ⟨rfl, fun i _ => congrFun zero i⟩⟩

lemma hashIsZero_iff {hash} : hashIsZero hash ↔ hash = 0 := by
  rw [hashIsZero, decide_eq_true_iff, foldl_or_eq_zero]

lemma hashEqual_iff : hashEqual lhs rhs ↔ lhs = rhs := by
  rw [hashEqual, decide_eq_true_iff, foldl_or_eq_zero]
  constructor
  · exact fun same => funext fun i => UInt8.xor_eq_zero_iff.mp (congrFun same i)
  · exact fun same => funext fun i => UInt8.xor_eq_zero_iff.mpr (congrFun same i)

end Checks

/-- The first pass accepts records that are well shaped, of one memory object, and whose lengths do
not overflow. The induction is on the records. -/
lemma shapePass_ok {regions : List LoadRegionV1} {primary : Option UInt64} {total total' : UInt64} :
    shapePass primary total regions = .ok total' ↔ (∀ region ∈ regions, region.Shaped) ∧
      (∃ object, (∀ first ∈ primary, first = object) ∧ ∀ region ∈ regions,
        region.memoryObject = object) ∧
      total.toNat + (regions.map (·.length.toNat)).sum < 2 ^ 64 ∧
      total'.toNat = total.toNat + (regions.map (·.length.toNat)).sum := by
  induction regions generalizing primary total with
  | nil =>
    have object : ∃ object, ∀ first ∈ primary, first = object := by
      cases primary with
      | none => exact ⟨0, nofun⟩
      | some first => exact ⟨first, fun _ same => Option.some.inj same.symm⟩
    have bound := total.toNat_lt
    rw [shapePass, Except.ok.injEq, List.map_nil, List.sum_nil, Nat.add_zero,
      UInt64.toNat_inj, eq_comm]
    exact ⟨fun same => ⟨nofun, object.imp fun _ first => ⟨first, nofun⟩, bound, same⟩,
      fun all => all.2.2.2⟩
  | cons region rest ih =>
    -- the object of the record is that of all others, or becomes it
    have object : (primary.any (region.memoryObject ≠ ·)) = false ∧
        (∃ object, (∀ first ∈ primary.or (some region.memoryObject), first = object) ∧
          ∀ other ∈ rest, other.memoryObject = object) ↔
        ∃ object, (∀ first ∈ primary, first = object) ∧ ∀ other ∈ region :: rest,
          other.memoryObject = object := by
      cases primary <;> simp
    rw [List.map_cons, List.sum_cons, List.forall_mem_cons, ← object, shapePass]
    simp only [guard_eq_ok, checkedAdd_eq_ok, ih]
    constructor
    · rintro ⟨reserved, protection, nonempty, aligned, nonzero, single, within, hash, exclusive,
        fits, shaped, same,
      sum, eq⟩
      rw [toNat_add fits] at sum eq
      simp only [not_or, not_not, isPageAligned_iff] at protection aligned
      refine ⟨⟨⟨not_not.mp reserved, protection.1, ?_, exclusive, ?_, aligned.1, aligned.2.1,
        aligned.2.2, nonzero,
        within, fun zero => hash (hashIsZero_iff.mpr zero)⟩, shaped⟩,
          ⟨Bool.not_eq_true _ ▸ single, same⟩, ?_, ?_⟩
      · exact congrArg UInt32.toBitVec protection.2
      · exact Nat.pos_of_ne_zero fun zero => nonempty (UInt64.toNat_inj.mp zero)
      · rw [← Nat.add_assoc]
        exact sum
      · rw [← Nat.add_assoc]
        exact eq
    · rintro ⟨⟨shaped, rest⟩, ⟨single, same⟩, sum, eq⟩
      rw [← Nat.add_assoc] at sum eq
      have fits : total.toNat + region.length.toNat < 2 ^ 64 :=
        lt_of_le_of_lt (Nat.le_add_right ..) sum
      rw [← toNat_add fits] at sum eq
      refine ⟨not_not.mpr shaped.reserved, ?_, ?_, ?_, shaped.object, Bool.not_eq_true _ ▸ single,
        shaped.within, ?_,
        shaped.exclusive, fits, rest, same, sum, eq⟩
      · rw [not_or, not_not]
        exact ⟨shaped.protection, UInt32.toBitVec_inj.mp shaped.flags⟩
      · intro empty
        have nonempty := shaped.nonempty
        rw [empty] at nonempty
        cases nonempty
      · simp only [isPageAligned_iff, not_or, not_not]
        exact ⟨shaped.address, shaped.pages, shaped.offset⟩
      · exact fun zero => shaped.hash (hashIsZero_iff.mp zero)

lemma not_overlap_iff {start length start' length' : UInt64}
    (within : start.toNat + length.toNat < 2 ^ 64)
    (within' : start'.toNat + length'.toNat < 2 ^ 64) :
    ¬(start < start' + length' ∧ start' < start + length) ↔
      Apart start'.toNat length'.toNat start.toNat length.toNat := by
  rw [UInt64.lt_iff_toNat_lt, UInt64.lt_iff_toNat_lt, toNat_add within, toNat_add within', Apart]
  omega

/-- The ends of the region and of its slice are machine words. -/
def LoadRegionV1.Bounded (region : LoadRegionV1) : Prop :=
  region.virtualAddress.toNat + region.length.toNat < 2 ^ 64 ∧
    region.objectOffset.toNat + region.length.toNat < 2 ^ 64

/-- A record passes against the earlier ones exactly if it is apart from each of them. -/
lemma overlapPass_ok {region : LoadRegionV1} (bounded : region.Bounded)
    (all : ∀ previous ∈ done, previous.Bounded) :
    overlapPass region (region.virtualAddress + region.length) (region.objectOffset + region.length)
      done = .ok () ↔
      ∀ previous ∈ done, previous.Apart region := by
  induction done with
  | nil => exact ⟨fun _ => nofun, fun _ => rfl⟩
  | cons previous rest ih =>
    obtain ⟨first, others⟩ := List.forall_mem_cons.mp all
    rw [List.forall_mem_cons, ← ih others, overlapPass, guard_eq_ok, guard_eq_ok,
      not_overlap_iff bounded.1 first.1,
      not_overlap_iff bounded.2 first.2, ← and_assoc]
    rfl

/-- What the second pass finds of the entry point. -/
def LoadRegionV1.entered (entry : UInt64) (region : LoadRegionV1) : Bool :=
  region.executable && entry ≥ region.virtualAddress && entry <
    region.virtualAddress + region.length

lemma ranged_iff {format} {region : LoadRegionV1} (nonempty : 0 < region.length.toNat) :
    (region.virtualAddress.toNat + region.length.toNat < 2 ^ 64 ∧
      ¬(region.virtualAddress < kLoadPlanUserMin ∨ region.virtualAddress + region.length = 0 ∨
        region.virtualAddress + region.length - 1 > formatUserMax format)) ↔
          region.Ranged format := by
  have last : (formatUserMax format).toNat < 2 ^ 47 := by
    unfold formatUserMax
    split <;> decide
  have least : kLoadPlanUserMin.toNat = 4096 := rfl
  unfold LoadRegionV1.Ranged
  constructor
  · rintro ⟨within, range⟩
    rw [not_or, not_or, UInt64.lt_iff_toNat_lt, gt_iff_lt, UInt64.lt_iff_toNat_lt,
      UInt64.toNat_sub_of_le,
      toNat_add within,
      least] at range
    · have one : (1 : UInt64).toNat = 1 := rfl
      omega
    · rw [UInt64.le_iff_toNat_le, toNat_add within]
      exact Nat.le_trans nonempty (Nat.le_add_left ..)
  · rintro ⟨low, high⟩
    have within : region.virtualAddress.toNat + region.length.toNat < 2 ^ 64 := by omega
    have one : (1 : UInt64).toNat = 1 := rfl
    refine ⟨within, ?_⟩
    rw [not_or, not_or, UInt64.lt_iff_toNat_lt, gt_iff_lt, UInt64.lt_iff_toNat_lt,
      ← UInt64.toNat_inj,
      UInt64.toNat_sub_of_le, toNat_add within, least]
    · refine ⟨by omega, ?_, by omega⟩
      show region.virtualAddress.toNat + region.length.toNat ≠ 0
      omega
    · rw [UInt64.le_iff_toNat_le, toNat_add within]
      omega

/-- The second pass accepts records that are in range and apart, and tells whether one of them has
the entry point. -/
lemma addressPass_ok (bounded : ∀ previous ∈ done, previous.Bounded)
    (shaped : ∀ region ∈ regions, region.Shaped) :
    addressPass header done entry regions = .ok entry' ↔
      (∀ region ∈ regions, region.Ranged header.format) ∧
      (∀ region ∈ regions, ∀ previous ∈ done, previous.Apart region) ∧
      regions.Pairwise LoadRegionV1.Apart ∧
      entry' = (regions.any (·.entered header.entryPoint) || entry) := by
  induction regions generalizing done entry with
  | nil => simp [addressPass, eq_comm]
  | cons region rest ih =>
    obtain ⟨first, others⟩ := List.forall_mem_cons.mp shaped
    rw [List.forall_mem_cons, List.forall_mem_cons, List.pairwise_cons, List.any_cons, addressPass,
      checkedAdd_eq_ok,
      guard_eq_ok, ← and_assoc, ranged_iff first.nonempty, bind_eq_ok]
    have ends : ∀ {region : LoadRegionV1}, region.Shaped → region.Ranged header.format →
      region.Bounded :=
      fun shaped ranged => ⟨((ranged_iff shaped.nonempty).mpr ranged).1, shaped.within⟩
    have all : ∀ {previous}, region.Bounded → previous ∈ done ++ [region] → previous.Bounded := by
      intro previous new mem
      rcases List.mem_append.mp mem with old | same
      · exact bounded previous old
      · rw [List.mem_singleton.mp same]
        exact new
    constructor
    · rintro ⟨ranged, _, apart, later⟩
      have new := ends first ranged
      obtain ⟨restRanged, restApart, pairwise, eq⟩ := (ih (fun _ => all new) others).mp later
      refine ⟨⟨ranged, restRanged⟩,
        ⟨(overlapPass_ok new bounded).mp apart, fun other mem previous old => ?_⟩,
        ⟨fun other mem => restApart other mem region (by simp), pairwise⟩, ?_⟩
      · exact restApart other mem previous (List.mem_append_left _ old)
      · rw [eq, LoadRegionV1.entered, ← Bool.or_assoc, Bool.or_comm (rest.any _)]
    · rintro ⟨⟨ranged, restRanged⟩, ⟨apart, restApart⟩, ⟨pairs, pairwise⟩, eq⟩
      have new := ends first ranged
      refine ⟨ranged, (), (overlapPass_ok new bounded).mpr apart, (ih (fun _ => all new) others).mpr
        ⟨restRanged, fun other mem previous old => ?_, pairwise, ?_⟩⟩
      · rcases List.mem_append.mp old with old | same
        · exact restApart other mem previous old
        · rw [List.mem_singleton.mp same]
          exact pairs other mem
      · rw [eq, LoadRegionV1.entered, ← Bool.or_assoc, Bool.or_comm (rest.any _)]

/-- The authority must know the slice, and its answer must back the record. -/
lemma checkBacking_ok (within : region.objectOffset.toNat + region.length.toNat < 2 ^ 64) :
    checkBacking query region = .ok () ↔ ∃ backing, query region.request = some backing ∧
      BackedBy region backing := by
  unfold checkBacking
  cases query region.request with
  | none => exact ⟨nofun, nofun⟩
  | some backing =>
    simp only [guard_eq_ok, Option.some.injEq, exists_eq_left', and_true, not_or, not_not,
      foldl_or_eq_zero, gt_iff_lt,
      UInt8.not_lt, UInt64.not_lt, UInt64.le_iff_toNat_le, toNat_add within, hashEqual_iff, not_and]
    exact ⟨fun ⟨known, fits, sealed, hash⟩ => ⟨known.1, known.2, fits, sealed, hash⟩,
      fun backed => ⟨⟨backed.sealed, backed.reserved⟩, backed.within, backed.executable,
        backed.hash⟩⟩

/-- Every question is about one of the records. -/
lemma authorityPass_asked (query : LoadBackingQueryV1) (regions : List LoadRegionV1) :
    ∀ request ∈ (authorityPass query regions).2, request ∈ regions.map (·.request) := by
  induction regions with
  | nil => nofun
  | cons region rest ih =>
    intro request asked
    rw [authorityPass] at asked
    cases checked : checkBacking query region with
    | error =>
      rw [checked] at asked
      exact List.mem_singleton.mp asked ▸ List.mem_cons_self
    | ok =>
      rw [checked] at asked
      rcases List.mem_cons.mp asked with rfl | later
      · exact List.mem_cons_self
      · exact List.mem_cons_of_mem _ (ih request later)

/-- The slices of one plan are disjoint and not empty, so no two questions are the same. -/
lemma authorityPass_nodup {query : LoadBackingQueryV1} {regions : List LoadRegionV1}
    (shaped : ∀ region ∈ regions, region.Shaped)
    (apart : regions.Pairwise LoadRegionV1.Apart) : (authorityPass query regions).2.Nodup := by
  induction regions with
  | nil => exact List.nodup_nil
  | cons region rest ih =>
    obtain ⟨first, others⟩ := List.pairwise_cons.mp apart
    obtain ⟨new, known⟩ := List.forall_mem_cons.mp shaped
    rw [authorityPass]
    cases checkBacking query region with
    | error => exact List.nodup_singleton _
    | ok =>
      refine List.nodup_cons.mpr ⟨fun asked => ?_, ih known others⟩
      obtain ⟨other, mem, same⟩ := List.mem_map.mp (authorityPass_asked query rest _ asked)
      obtain ⟨_, offset, length⟩ := BackingRequest.mk.inj same
      have slices := (first other mem).2
      have nonempty := new.nonempty
      rw [offset, length] at slices
      rw [Loader.Apart] at slices
      omega

/-- The third pass accepts exactly if every record is backed. -/
lemma authorityPass_ok : (authorityPass query regions).1 = .ok () ↔
    ∀ region ∈ regions, checkBacking query region = .ok () := by
  induction regions with
  | nil => exact ⟨fun _ => nofun, fun _ => rfl⟩
  | cons region rest ih =>
    rw [List.forall_mem_cons, ← ih, authorityPass]
    cases checkBacking query region with
    | error => exact ⟨nofun, nofun⟩
    | ok => exact ⟨fun rest => ⟨rfl, rest⟩, And.right⟩

lemma baseOk_iff {base : UInt64} {format : ImageFormat} :
    ¬(base ≠ 0 ∧ (¬isPageAligned base ∨ base < kLoadPlanUserMin ∨ base > kLoadPlanUserMax ∨
      format = .pe32 ∧ base > kLoadPlanPe32UserMax)) ↔
      base = 0 ∨ 4096 ∣ base.toNat ∧ 4096 ≤ base.toNat ∧
        base.toNat ≤ (formatUserMax format).toNat := by
  have least : kLoadPlanUserMin.toNat = 4096 := rfl
  have user : kLoadPlanUserMax.toNat = 0x00007FFFFFFFFFFF := rfl
  have pe32 : kLoadPlanPe32UserMax.toNat = 0xFFFFFFFF := rfl
  rw [not_and_or, not_not, isPageAligned_iff, gt_iff_lt, gt_iff_lt, UInt64.lt_iff_toNat_lt,
    UInt64.lt_iff_toNat_lt,
    UInt64.lt_iff_toNat_lt, formatUserMax, least, user, pe32]
  refine or_congr_right ?_
  by_cases narrow : format = .pe32
  · simp only [narrow, if_true, true_and, pe32]
    omega
  · simp only [narrow, if_false, false_and, or_false, user]
    omega

/-- The header is accepted exactly if it is well formed and names the expected source. -/
lemma validateHeader_ok {bytes expected} : validateHeader bytes expected = .ok header ↔
    header = decodeHeader bytes ∧ HeaderOk bytes expected header := by
  unfold validateHeader
  cases expected with
  | none =>
    simp only [guard_eq_ok, reduceCtorEq, and_false, false_iff]; exact fun ok => nomatch ok.2.source
  | some expected =>
    simp only [guard_eq_ok, Except.ok.injEq, not_not, not_or, hashIsZero_iff, hashEqual_iff]
    constructor
    · rintro ⟨_, _, version, format, dependencies, least, _, ⟨size, length⟩, most, hash, source,
        base, rfl⟩
      refine ⟨rfl, version, ?_, dependencies, Nat.pos_of_ne_zero least, Nat.le_of_not_gt most,
        size.trans length.symm,
        length, hash, congrArg some source.symm, baseOk_iff.mp base⟩
      intro value same
      rw [same] at format
      cases format
    · rintro ⟨rfl, ok⟩
      have most : (decodeHeader bytes).regionCount ≤ 256 := ok.most
      have length : bytes.length = 64 + (decodeHeader bytes).regionCount * 72 := ok.length
      refine ⟨?_, ?_, ok.version, ?_, ok.dependencies, ok.least.ne', ?_,
        ⟨ok.size.trans ok.length, ok.length⟩,
        Nat.not_lt.mpr ok.most, ok.hash, Option.some.inj ok.source.symm,
        baseOk_iff.mpr ok.base, rfl⟩
      · show ¬bytes.length < 64
        omega
      · omega
      · cases format : (decodeHeader bytes).format with
        | unsupported value => exact absurd format (ok.format value)
        | _ => rfl
      · show ¬(decodeHeader bytes).regionCount > (0xFFFFFFFF - 64) / 72
        omega

lemma entered_iff {region : LoadRegionV1} (bounded : region.Bounded) :
    region.entered entry ↔ region.Entered entry := by
  simp only [LoadRegionV1.entered, LoadRegionV1.Entered, Bool.and_eq_true, decide_eq_true_iff,
    ge_iff_le,
    UInt64.le_iff_toNat_le, UInt64.lt_iff_toNat_lt, toNat_add bounded.1, and_assoc]

lemma total_le_iff {total : UInt64} :
    ¬(total > kLoadPlanMaxMappedBytes ∨ total / kLoadPlanPageSize > kLoadPlanMaxMappedPages) ↔
      total.toNat ≤ kLoadPlanMaxMappedBytes.toNat := by
  have pages : (total / kLoadPlanPageSize).toNat = total.toNat / 4096 := rfl
  have bytes : kLoadPlanMaxMappedBytes.toNat = 262144 * 4096 := rfl
  have most : kLoadPlanMaxMappedPages.toNat = 262144 := rfl
  rw [gt_iff_lt, gt_iff_lt, UInt64.lt_iff_toNat_lt, UInt64.lt_iff_toNat_lt, pages, bytes, most]
  omega

/-- The structure is accepted exactly if the plan is well formed. -/
lemma validateStructure_ok : validateStructure bytes expected = .ok header ↔
    header = decodeHeader bytes ∧ WellFormed bytes expected := by
  have bounded : ∀ {region : LoadRegionV1} {format}, region.Shaped → region.Ranged format →
    region.Bounded :=
    fun shaped ranged => ⟨((ranged_iff shaped.nonempty).mpr ranged).1, shaped.within⟩
  simp only [validateStructure, bind_eq_ok, guard_eq_ok, total_le_iff, validateHeader_ok,
    shapePass_ok]
  constructor
  · rintro ⟨_, ⟨rfl, header⟩, total, ⟨shaped, ⟨object, _, same⟩, _, sum⟩, most, entry, passed,
      entered, eq⟩
    obtain ⟨ranged, _, apart, rfl⟩ := (addressPass_ok (by simp) shaped).mp passed
    rw [UInt64.toNat_zero, Nat.zero_add] at sum
    refine ⟨(Except.ok.inj eq).symm, header, shaped, ⟨object, same⟩, ranged, apart, sum ▸ most, ?_⟩
    rw [Bool.or_false, not_not, List.any_eq_true] at entered
    obtain ⟨region, mem, entered⟩ := entered
    exact ⟨region, mem, (entered_iff (bounded (shaped region mem) (ranged region mem))).mp entered⟩
  · rintro ⟨rfl, ok⟩
    obtain ⟨object, same⟩ := ok.object
    obtain ⟨region, mem, entered⟩ := ok.entry
    have small : ((decodeRegions bytes).map (·.length.toNat)).sum < 2 ^ 64 :=
      lt_of_le_of_lt ok.total (by decide)
    have word : (UInt64.ofNat ((decodeRegions bytes).map (·.length.toNat)).sum).toNat =
        ((decodeRegions bytes).map (·.length.toNat)).sum := UInt64.toNat_ofNat_of_lt small
    refine ⟨_, ⟨rfl, ok.header⟩, .ofNat _, ⟨ok.shaped, ⟨object, nofun, same⟩, ?_, ?_⟩,
      word ▸ ok.total, true,
      (addressPass_ok (by simp) ok.shaped).mpr ⟨ok.ranged, fun _ _ => nofun, ok.apart, ?_⟩,
      by simp, rfl⟩
    · rwa [UInt64.toNat_zero, Nat.zero_add]
    · rw [word, UInt64.toNat_zero, Nat.zero_add]
    · rw [Bool.or_false, eq_comm, List.any_eq_true]
      exact ⟨region, mem,
        (entered_iff (bounded (ok.shaped region mem) (ok.ranged region mem))).mpr entered⟩

/-- The validator accepts exactly the well-formed plans whose backing the authority vouches for. It
asks the authority about well-formed plans only, and a refused plan leaves no view. -/
theorem load_plan_validation_exact (bytes : List UInt8) (expected : Option Hash256)
    (queryBacking : Option LoadBackingQueryV1) :
    let validation := loadPlanValidateV1 (some bytes) expected queryBacking
    (validation.result = .ok () ↔ WellFormed bytes expected ∧ Backed bytes queryBacking) ∧
      (¬WellFormed bytes expected → validation.asked = []) ∧
      (validation.result = .ok () →
        validation.view = some ⟨bytes, bytes.length, decodeHeader bytes⟩) ∧
      (validation.result ≠ .ok () → validation.view = none) := by
  dsimp only [loadPlanValidateV1]
  cases structured : validateStructure bytes expected with
  | error error =>
    have malformed : ¬WellFormed bytes expected := by
      intro ok
      rw [validateStructure_ok.mpr ⟨rfl, ok⟩] at structured
      cases structured
    exact ⟨⟨nofun, fun ok => absurd ok.1 malformed⟩, fun _ => rfl, nofun, fun _ => rfl⟩
  | ok header =>
    obtain ⟨rfl, ok⟩ := validateStructure_ok.mp structured
    cases queryBacking with
    | none =>
      exact ⟨⟨nofun, fun backed => nomatch backed.2⟩, fun bad => absurd ok bad, nofun, fun _ => rfl⟩
    | some query =>
      have backed : (authorityPass query (decodeRegions bytes)).1 = .ok () ↔
        Backed bytes (some query) := by
        rw [authorityPass_ok]
        constructor
        · exact fun checked => ⟨query, rfl, fun region mem =>
            (checkBacking_ok (ok.shaped region mem).within).mp (checked region mem)⟩
        · rintro ⟨_, same, backed⟩ region mem
          cases same
          exact (checkBacking_ok (ok.shaped region mem).within).mpr (backed region mem)
      dsimp only
      generalize authorityPass _ _ = passed at backed ⊢
      obtain ⟨result, asked⟩ := passed
      cases result with
      | error error =>
        exact ⟨⟨nofun, fun both => nomatch backed.mpr both.2⟩, fun bad => absurd ok bad, nofun,
          fun _ => rfl⟩
      | ok =>
        refine ⟨⟨fun _ => ⟨ok, backed.mp rfl⟩, fun _ => rfl⟩, fun bad => absurd ok bad, fun _ => ?_,
          fun bad => absurd rfl bad⟩
        rw [ok.header.size]

open LittleEndian in
/-- A plan of one executable page at 0x1000, and its preferred base. -/
def samplePlan (base : Nat) : List UInt8 :=
  writeLe32 136 ++ [1, 0, 3, 0] ++ writeLe64 0x1000 ++ writeLe64 base ++ writeLe32 1 ++
    writeLe32 0 ++
    List.replicate 32 1 ++ writeLe64 0x1000 ++ writeLe64 0x1000 ++ writeLe64 1 ++ writeLe64 0 ++
      writeLe32 5 ++
    List.replicate 32 2 ++ writeLe32 0

/-- An authority that knows one sealed page. -/
def samplePage : LoadBackingQueryV1 := fun _ => some ⟨0x1000, 1, 0, fun _ => 2⟩

/-- The region and its backing are what they should be, but the preferred base decides. -/
theorem preferred_base_decides :
    (loadPlanValidateV1 (some (samplePlan 0)) (some fun _ => 1) (some samplePage)).result = .ok () ∧
      (loadPlanValidateV1 (some (samplePlan 1)) (some fun _ => 1) (some samplePage)).result =
        .error .invalidPreferredBase := by
  decide +kernel

end DuetOS.Loader
