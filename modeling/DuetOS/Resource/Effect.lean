import DuetOS.Resource.Exact

/-!
# What a call does

Every call of the resource service refuses and changes nothing, or it writes one domain row and at
most one charge row. Either way the tables stay exact.
-/

namespace DuetOS.Resource

open Word Function Prod

def Event.refused : Event → Bool
  | .create result => result.isNone
  | .retain _ result => !result
  | .release _ result => !result
  | .charge _ _ _ result => result.isNone
  | .releaseCharge _ _ result => !result

inductive Effect (s : State) : Event → State → Prop where
  | refused : e.refused → Effect s e s
  | create : (s.domains slot).state = .retired →
    (s.domains slot).generation < kResourceGenerationMaximum →
    generation = (s.domains slot).generation + 1 →
    row.generation = generation →
    row.Exact (fun _ => 0) →
    Effect s (.create (some ⟨slot, generation⟩)) (s.setDomain slot row)
  | own : e = .retain key true ∨ e = .release key true →
    row.generation = (s.domains slot).generation →
    row.Exact (fun c => s.charged c (s.domainKey slot)) →
    Effect s e (s.setDomain slot row)
  | charge {c amount domainSlot slot generation row} : amount ≠ 0 →
    (s.domains domainSlot).generation ≠ 0 →
    (s.charges c slot).state = .retired →
    (s.charges c slot).generation < kResourceGenerationMaximum →
    generation = (s.charges c slot).generation + 1 →
    row.generation = (s.domains domainSlot).generation →
    row.Exact (update (fun d => s.charged d (s.domainKey domainSlot)) c
      (s.charged c (s.domainKey domainSlot) + (1, amount))) →
    Effect s (.charge c (s.domainKey domainSlot) amount (some ⟨slot, generation⟩))
      ((s.setCharge c slot ⟨.live, generation, s.domainKey domainSlot, amount⟩).setDomain
        domainSlot row)
  | discharge {c domainSlot slot row totals} : (s.charges c slot).BoundTo (s.domainKey domainSlot) →
    row.generation = (s.domains domainSlot).generation →
    totals + (1, (s.charges c slot).amount) = s.charged c (s.domainKey domainSlot) →
    row.Exact (update (fun d => s.charged d (s.domainKey domainSlot)) c totals) →
    Effect s (.releaseCharge c (s.chargeKey c slot) true)
      ((s.setCharge c slot
        ⟨.retired, (s.charges c slot).generation, kInvalidResourceDomainKey, 0⟩).setDomain
        domainSlot row)

section rows

variable {row : ResourceDomainRow}

lemma ResourceDomainRow.Exact.owners {charged} (exact : row.Exact charged) {owners}
    (small : owners ≤ max32) {state}
    (called : state = calledFor { row with ownerReferences := owners }) :
    ResourceDomainRow.Exact { row with ownerReferences := owners, state } charged :=
  ⟨exact.totals, exact.objects_le, exact.amount_le, exact.objectLimit_le, exact.amountLimit_le,
    small, called⟩

lemma retireDomainLocked_eq (unowned : row.ownerReferences = 0) (free : uncharged row) :
    retireDomainLocked row = { row with state := .retired } := by
  have accounts : (fun c => { row.accounts c with objects := 0, amount := 0 }) = row.accounts := by
    funext c
    have none := uncharged_iff.mp free c
    have objects : (row.accounts c).objects = 0 := congrArg fst none
    have amount : (row.accounts c).amount = 0 := congrArg snd none
    exact ResourceAccount.ext objects.symm amount.symm rfl rfl
  rw [retireDomainLocked, accounts, ← unowned]

lemma release_row (live : row.state = .live) : (if row.ownerReferences ≠ 0 then row
      else if ¬uncharged row then { row with state := .closing }
      else retireDomainLocked row) = { row with state := row.calledFor } := by
  unfold ResourceDomainRow.calledFor
  split_ifs with owned free
  · rw [← live]
  · exact retireDomainLocked_eq (not_not.mp owned) free
  · rfl

/-- So does the end of `ResourceDomainReleaseSection` and `ResourceDomainReleaseChannel`. -/
lemma releaseCharge_row (states : row.state = .live ∧ row.ownerReferences ≠ 0 ∨
      row.state = .closing ∧ row.ownerReferences = 0) :
    (if row.state = .closing ∧ uncharged row then retireDomainLocked row else row)
      = { row with state := row.calledFor } := by
  unfold ResourceDomainRow.calledFor
  rcases states with ⟨live, owned⟩ | ⟨closing, unowned⟩
  · rw [if_neg (by rw [live]; exact fun h => nomatch h.1), if_pos owned, ← live]
  rw [if_neg (not_not.mpr unowned)]
  by_cases free : uncharged row
  · rw [if_pos ⟨closing, free⟩, if_pos free]
    exact retireDomainLocked_eq unowned free
  · rw [if_neg (fun h => free h.2), if_neg free, ← closing]

end rows

section create

variable {s s' : State} {result : Option ResourceKey}

lemma createDomain_effect (objects_le : objectLimit ≤ kLimitMaximum)
    (pages_le : pageLimit ≤ kLimitMaximum)
    (channels_le : channelObjectLimit ≤ kLimitMaximum) (bytes_le : channelByteLimit ≤ kLimitMaximum)
    (call : createDomain s profile poolClass objectLimit pageLimit channelObjectLimit
      channelByteLimit
      = (result, s')) : Effect s (.create result) s' := by
  unfold createDomain at call
  split at call
  · cases call
    exact .refused rfl
  split at call
  · cases call
    exact .refused rfl
  next slot found =>
  cases call
  have free := List.find?_some found
  rw [decide_eq_true_eq] at free
  have next : add64 (s.domains slot).generation 1 = (s.domains slot).generation + 1 := by
    apply add64_eq
    have := free.2
    simp only [kResourceGenerationMaximum, max64] at *
    omega
  refine .create free.1 free.2 next rfl ?_
  constructor
  case owners_le => exact Nat.le_add_left 1 _
  case state_eq => rfl
  all_goals
    intro c
    cases c
    all_goals first | rfl | assumption | exact Nat.zero_le _

lemma createSandbox_effect (call : resourceDomainCreateSandbox s frameBudgetPages = (result, s')) :
    Effect s (.create result) s' := by
  unfold resourceDomainCreateSandbox at call
  split at call
  · cases call
    exact .refused rfl
  refine createDomain_effect (by decide) ?_ (by decide) (by decide) call
  split
  · next small => exact small.le.trans (by decide)
  · decide

lemma createBoundedAuthenticatedService_effect
    (call : resourceDomainCreateBoundedAuthenticatedService s requestedSectionObjects
      requestedSectionPages
      = (result, s')) : Effect s (.create result) s' := by
  unfold resourceDomainCreateBoundedAuthenticatedService at call
  split at call
  · cases call
    exact .refused rfl
  · next within =>
    simp only [not_or, gt_iff_lt, not_lt] at within
    exact createDomain_effect (within.2.1.trans (by decide)) (within.2.2.2.trans (by decide))
      (by decide)
      (by decide) call

end create

section owners

variable {s s' : State} {key : ResourceKey} {result : Bool}

lemma retain_effect (exact : Exact s) (call : resourceDomainRetain s key = (result, s')) :
    Effect s (.retain key result) s' := by
  unfold resourceDomainRetain at call
  split at call
  · cases call
    exact .refused rfl
  next slot found =>
  dsimp only at call
  split at call
  · cases call
    exact .refused rfl
  next guard =>
  cases call
  simp only [not_or, not_not] at guard
  obtain ⟨live, owned, room⟩ := guard
  have row := exact.row slot
  have next : add32 (s.domains slot).ownerReferences 1 = (s.domains slot).ownerReferences + 1 :=
    add32_eq (Nat.lt_of_le_of_ne row.owners_le room)
  refine .own (.inl rfl) rfl (row.owners ?_ ?_)
  · rw [next]
    exact Nat.lt_of_le_of_ne row.owners_le room
  · rw [ResourceDomainRow.calledFor, if_pos (by rw [next]; exact Nat.succ_ne_zero _)]
    exact live

lemma release_effect (exact : Exact s) (call : resourceDomainRelease s key = (result, s')) :
    Effect s (.release key result) s' := by
  unfold resourceDomainRelease at call
  split at call
  · cases call
    exact .refused rfl
  next slot found =>
  dsimp only at call
  split at call
  · cases call
    exact .refused rfl
  next guard =>
  simp only [not_or, not_not] at guard
  obtain ⟨live, owned⟩ := guard
  have row := exact.row slot
  have less : sub32 (s.domains slot).ownerReferences 1 ≤ max32 := by
    rw [sub32_eq (Nat.one_le_iff_ne_zero.mpr owned) row.owners_le]
    exact (Nat.sub_le _ _).trans row.owners_le
  have settled := @release_row
    { s.domains slot with ownerReferences := sub32 (s.domains slot).ownerReferences 1 } live
  rw [settled] at call
  cases call
  exact .own (.inr rfl) rfl (row.owners less rfl)

end owners

section charges

variable {s s' : State} {c : ResourceClass}

lemma kLimitMaximum_le_max32 : kLimitMaximum ≤ max32 := by
  unfold kLimitMaximum max32
  omega

lemma kLimitMaximum_le_max64 : kLimitMaximum ≤ max64 := by
  unfold kLimitMaximum max64
  omega

lemma ResourceClass.add_eq {a b} (h : a + b ≤ kLimitMaximum) : c.add a b = a + b := by
  cases c
  · exact add32_eq (h.trans kLimitMaximum_le_max32)
  · exact add64_eq (h.trans kLimitMaximum_le_max64)

lemma ResourceClass.sub_eq {a b} (le : b ≤ a) (small : a ≤ kLimitMaximum) : c.sub a b = a - b := by
  cases c
  · exact sub32_eq le (small.trans kLimitMaximum_le_max32)
  · exact sub64_eq le (small.trans kLimitMaximum_le_max64)

/-- Writing the account of one class, within the limits, gives the row the totals it then has. -/
lemma ResourceDomainRow.Exact.account {row : ResourceDomainRow}
    {charged : ResourceClass → Nat × Nat}
    (exact : row.Exact charged) {state account totals} (counted : account.totals = totals)
    (objects_le : account.objects ≤ (row.accounts c).objectLimit)
    (amount_le : account.amount ≤ (row.accounts c).amountLimit)
    (objectLimit : account.objectLimit = (row.accounts c).objectLimit)
    (amountLimit : account.amountLimit = (row.accounts c).amountLimit)
    (called : state = calledFor { row with accounts := update row.accounts c account }) :
    ResourceDomainRow.Exact { row with accounts := update row.accounts c account, state }
      (update charged c totals) := by
  constructor
  case owners_le => exact exact.owners_le
  case state_eq => exact called
  all_goals
    intro d
    by_cases same : d = c
    · subst same
      simp only [update_self]
      first
        | assumption
        | rw [objectLimit]; first | assumption | exact exact.objectLimit_le d
        | rw [amountLimit]; first | assumption | exact exact.amountLimit_le d
    · simp only [update_of_ne same]
      first
        | exact exact.totals d
        | exact exact.objects_le d
        | exact exact.amount_le d
        | exact exact.objectLimit_le d
        | exact exact.amountLimit_le d

lemma tryCharge_effect {domain : ResourceKey} {amount result} (exact : Exact s)
    (call : tryCharge c s domain amount = (result, s')) :
    Effect s (.charge c domain amount (result.map fst)) s' := by
  unfold tryCharge at call
  split at call
  · cases call
    exact .refused rfl
  next nonzero =>
  split at call
  · cases call
    exact .refused rfl
  next domainSlot named =>
  dsimp only at call
  split at call
  · cases call
    exact .refused rfl
  next guard =>
  split at call
  · cases call
    exact .refused rfl
  next slot found =>
  cases call
  obtain ⟨same, numbered, _⟩ := resolve_eq_some.mp named
  have row := exact.row domainSlot
  simp only [not_or, not_not, not_le, ge_iff_le, gt_iff_lt, not_lt] at guard
  obtain ⟨live, owned, objects, _, fits⟩ := guard
  rw [ResourceClass.sub_eq (row.amount_le c) (row.amountLimit_le c)] at fits
  have within : ((s.domains domainSlot).accounts c).amount + amount
      ≤ ((s.domains domainSlot).accounts c).amountLimit := by
    have := row.amount_le c
    omega
  have sum := @ResourceClass.add_eq c _ _ (within.trans (row.amountLimit_le c))
  have one : add32 ((s.domains domainSlot).accounts c).objects 1
      = ((s.domains domainSlot).accounts c).objects + 1 :=
    add32_eq ((Nat.succ_le_of_lt objects).trans
      ((row.objectLimit_le c).trans kLimitMaximum_le_max32))
  have free := List.find?_some found
  rw [decide_eq_true_eq] at free
  have next : add64 (s.charges c slot).generation 1 = (s.charges c slot).generation + 1 := by
    apply add64_eq
    have := free.2
    simp only [kResourceGenerationMaximum, max64] at *
    omega
  subst same
  refine .charge nonzero numbered free.1 free.2 next rfl (row.account ?_ ?_ ?_ rfl rfl ?_)
  · rw [← row.totals c, one, sum]
    rfl
  · rw [one]
    exact objects
  · rw [sum]
    exact within
  · rw [ResourceDomainRow.calledFor, if_pos owned]
    exact live

lemma releaseCharge_live (exact : Exact s) {slot : Fin c.capacity}
    (live : (s.charges c slot).state = .live) :
    ∃ s', releaseCharge c s (s.chargeKey c slot) = (true, s') ∧
      Effect s (.releaseCharge c (s.chargeKey c slot) true) s' := by
  obtain ⟨numbered, nonzero, domainSlot, known, bound⟩ := exact.bound c slot live
  have row := exact.row domainSlot
  have resolved : resolveChargeExactLocked s c (s.chargeKey c slot) = some slot :=
    resolve_eq_some.mpr ⟨rfl, numbered, exact.charge_le c slot⟩
  have named : resolveDomainExactLocked s (s.charges c slot).domain = some domainSlot :=
    resolve_eq_some.mpr ⟨bound, known, exact.domain_le domainSlot⟩
  -- The charge is counted in the domain it is bound to.
  have part := s.load_le_charged c (s.domainKey domainSlot) slot
  rw [load_of_bound ⟨live, bound⟩, ← row.totals c] at part
  have objects : 1 ≤ ((s.domains domainSlot).accounts c).objects := part.1
  have amount : (s.charges c slot).amount ≤ ((s.domains domainSlot).accounts c).amount := part.2
  have states : (s.domains domainSlot).state = .live ∧ (s.domains domainSlot).ownerReferences ≠ 0 ∨
      (s.domains domainSlot).state = .closing ∧ (s.domains domainSlot).ownerReferences = 0 := by
    cases state : (s.domains domainSlot).state with
    | live => exact .inl ⟨rfl, row.owners_ne_zero state⟩
    | closing => exact .inr ⟨rfl, row.owners_eq_zero (by rw [state]; exact nofun)⟩
    | retired =>
      have none := (row.retired_iff.mp state).2 c
      rw [← row.totals c] at none
      exact absurd (congrArg fst none) (Nat.one_le_iff_ne_zero.mp objects)
  have less : sub32 ((s.domains domainSlot).accounts c).objects 1 =
    ((s.domains domainSlot).accounts c).objects - 1 :=
    sub32_eq objects ((row.objects_le c).trans
      ((row.objectLimit_le c).trans kLimitMaximum_le_max32))
  have rest := @ResourceClass.sub_eq c _ _ amount ((row.amount_le c).trans (row.amountLimit_le c))
  have settled := @releaseCharge_row { s.domains domainSlot with
      accounts := update (s.domains domainSlot).accounts c { (s.domains domainSlot).accounts c with
          objects := sub32 ((s.domains domainSlot).accounts c).objects 1
          amount := c.sub ((s.domains domainSlot).accounts c).amount (s.charges c slot).amount } }
            states
  apply Exists.intro
  apply And.intro
  · rw [releaseCharge, resolved]
    dsimp only
    rw [if_neg (by simp [live, nonzero]), named]
    dsimp only
    rw [if_neg, settled]
    rintro (dead | none | short)
    · rcases states with state | state
      · exact dead.1 state.1
      · exact dead.2 state.1
    · exact Nat.one_le_iff_ne_zero.mp objects none
    · exact Nat.not_lt.mpr amount short
  · refine .discharge ⟨live, bound⟩ rfl ?_ (row.account rfl ?_ ?_ rfl rfl rfl)
    · rw [less, rest, ← row.totals c]
      exact Prod.ext (Nat.sub_add_cancel objects) (Nat.sub_add_cancel amount)
    · rw [less]
      exact (Nat.sub_le _ _).trans (row.objects_le c)
    · rw [rest]
      exact (Nat.sub_le _ _).trans (row.amount_le c)

lemma releaseCharge_effect (exact : Exact s) (call : releaseCharge c s key = (result, s')) :
    Effect s (.releaseCharge c key result) s' := by
  cases resolved : resolveChargeExactLocked s c key with
  | none =>
    rw [releaseCharge, resolved] at call
    cases call
    exact .refused rfl
  | some slot =>
    by_cases live : (s.charges c slot).state = .live
    · obtain ⟨t, done, effect⟩ := releaseCharge_live exact live
      have same : key = s.chargeKey c slot := (resolve_eq_some.mp resolved).1
      rw [same, done] at call
      cases call
      rw [same]
      exact effect
    · rw [releaseCharge, resolved] at call
      dsimp only at call
      rw [if_pos (.inl live)] at call
      cases call
      exact .refused rfl

end charges

lemma Step.effect (exact : Exact s) (st : Step s e s') : Effect s e s' := by
  cases st with
  | createSandbox call => exact createSandbox_effect call
  | createTrusted call =>
    exact createDomain_effect (by decide) (by decide) (by decide) (by decide) call
  | createAuthenticatedService call | createBoundedAuthenticatedService call =>
    exact createBoundedAuthenticatedService_effect call
  | retain call => exact retain_effect exact call
  | release call => exact release_effect exact call
  | tryChargeSection call => exact tryCharge_effect exact call
  | tryChargeChannel call =>
    cases call
    exact tryCharge_effect exact rfl
  | releaseSection call | releaseChannel call => exact releaseCharge_effect exact call

end DuetOS.Resource
