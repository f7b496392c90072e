import DuetOS.Resource.Effect
import Mathlib.Algebra.BigOperators.Pi

/-!
# The accounts over whole runs

The tables stay exact, every Live charge can be released, no charge is released twice and no key is
issued twice.
-/

namespace DuetOS.Resource

open Word Function Prod

section keys

variable {s : State} {slot : Fin kResourceDomainCapacity} {row : ResourceDomainRow}

@[simp]
lemma State.domains_setDomain : (s.setDomain slot row).domains = update s.domains slot row :=
  rfl

@[simp]
lemma State.charges_setDomain (c) : (s.setDomain slot row).charges c = s.charges c :=
  rfl

lemma State.domainKey_setDomain (same : row.generation = (s.domains slot).generation)
    (other) : (s.setDomain slot row).domainKey other = s.domainKey other := by
  unfold State.domainKey
  by_cases eq : other = slot
  · subst eq
    rw [State.domains_setDomain, update_self, same]
  · rw [State.domains_setDomain, update_of_ne eq]

lemma State.domainKey_injective (s : State) : Function.Injective s.domainKey := by
  intro a b same
  exact Fin.ext (congrArg ResourceKey.slot same)

lemma Exact.not_bound_of_retired (exact : Exact s)
    (retired : (s.domains slot).state = .retired) (c index)
    : ¬(s.charges c index).BoundTo (s.domainKey slot) :=
  State.charged_eq_zero.mp (((exact.row slot).retired_iff.mp retired).2 c) index

end keys

section effects

variable {s s' : State} {slot : Fin kResourceDomainCapacity} {row : ResourceDomainRow}

/-- Creating a domain keeps the tables exact: nothing is bound to the new key or to the old one. -/
lemma Exact.create (exact : Exact s) (retired : (s.domains slot).state = .retired)
    (room : (s.domains slot).generation < kResourceGenerationMaximum)
    (next : row.generation = (s.domains slot).generation + 1) (empty : row.Exact fun _ => 0) :
    Exact (s.setDomain slot row) where
  row other := by
    by_cases eq : other = slot
    · subst eq
      have fresh : ∀ c, s.charged c ⟨other, row.generation⟩ = 0 := by
        intro c
        refine State.charged_eq_zero.mpr fun index ⟨live, named⟩ => ?_
        obtain ⟨_, _, domain, _, bound⟩ := exact.bound c index live
        have same := named.symm.trans bound
        have row_eq : other = domain := Fin.ext (congrArg ResourceKey.slot same)
        have gen_eq : row.generation = (s.domains domain).generation :=
          congrArg ResourceKey.generation same
        rw [next, row_eq] at gen_eq
        exact Nat.succ_ne_self _ gen_eq
      simp only [State.domains_setDomain, State.domainKey, update_self,
        State.charged_setDomain, fresh]
      exact empty
    · simp only [State.domains_setDomain, State.domainKey, update_of_ne eq, State.charged_setDomain]
      exact exact.row other
  domain_le other := by
    by_cases eq : other = slot
    · subst eq
      rw [State.domains_setDomain, update_self, next]
      exact room
    · rw [State.domains_setDomain, update_of_ne eq]
      exact exact.domain_le other
  charge_le := exact.charge_le
  bound c index live := by
    obtain ⟨numbered, nonzero, domain, known, bound⟩ := exact.bound c index live
    have ne : domain ≠ slot := by
      rintro rfl
      exact exact.not_bound_of_retired retired c index ⟨live, bound⟩
    refine ⟨numbered, nonzero, domain, ?_, ?_⟩
    · rw [State.domains_setDomain, update_of_ne ne]
      exact known
    · rw [State.domainKey, State.domains_setDomain, update_of_ne ne]
      exact bound

lemma Exact.rewrite (exact : Exact s) (same : row.generation = (s.domains slot).generation)
    (counted : row.Exact fun c => s.charged c (s.domainKey slot)) :
    Exact (s.setDomain slot row) where
  row other := by
    simp only [State.domainKey_setDomain same, State.charged_setDomain]
    by_cases eq : other = slot
    · subst eq
      rw [State.domains_setDomain, update_self]
      exact counted
    · rw [State.domains_setDomain, update_of_ne eq]
      exact exact.row other
  domain_le other := by
    by_cases eq : other = slot
    · subst eq
      rw [State.domains_setDomain, update_self, same]
      exact exact.domain_le other
    · rw [State.domains_setDomain, update_of_ne eq]
      exact exact.domain_le other
  charge_le := exact.charge_le
  bound c index live := by
    obtain ⟨numbered, nonzero, domain, known, bound⟩ := exact.bound c index live
    refine ⟨numbered, nonzero, domain, ?_, ?_⟩
    · have key := congrArg ResourceKey.generation (State.domainKey_setDomain same domain)
      exact key.trans_ne known
    · rw [State.domainKey_setDomain same]
      exact bound

/-- Rewriting a charge keeps the tables exact when only the counters of the rewritten domain depend
on it. -/
lemma Exact.recharge (exact : Exact s) (small : charge.generation ≤ kResourceGenerationMaximum)
    (valid : charge.state = .live → charge.generation ≠ 0 ∧ charge.amount ≠ 0 ∧
      ∃ domain, (s.domains domain).generation ≠ 0 ∧ charge.domain = s.domainKey domain)
    (same : row.generation = (s.domains slot).generation)
    (elsewhere : ∀ key, key ≠ s.domainKey slot → load key charge = load key (s.charges c index))
    (counted : row.Exact fun d => (s.setCharge c index charge).charged d (s.domainKey slot)) :
    Exact ((s.setCharge c index charge).setDomain slot row) where
  row other := by
    simp only [State.domainKey_setDomain (s := s.setCharge c index charge) same,
      State.charged_setDomain]
    by_cases eq : other = slot
    · subst eq
      rw [State.domains_setDomain, update_self]
      exact counted
    rw [State.domains_setDomain, update_of_ne eq]
    have unmoved : ∀ d, (s.setCharge c index charge).charged d (s.domainKey other)
        = s.charged d (s.domainKey other) := by
      intro d
      by_cases class_eq : d = c
      · subst class_eq
        have trade := s.charged_setCharge d index charge (s.domainKey other)
        rw [elsewhere _ (s.domainKey_injective.ne eq)] at trade
        exact add_right_cancel trade
      · exact s.charged_setCharge_of_ne class_eq index charge _
    have old := exact.row other
    simp only [← unmoved] at old
    exact old
  domain_le other := by
    by_cases eq : other = slot
    · subst eq
      rw [State.domains_setDomain, update_self, same]
      exact exact.domain_le other
    · rw [State.domains_setDomain, update_of_ne eq]
      exact exact.domain_le other
  charge_le d other := by
    by_cases class_eq : d = c
    · subst class_eq
      rw [State.charges_setDomain, State.charges_setCharge]
      by_cases eq : other = index
      · rw [eq, update_self]
        exact small
      · rw [update_of_ne eq]
        exact exact.charge_le d other
    · rw [State.charges_setDomain, State.charges_setCharge_of_ne s class_eq]
      exact exact.charge_le d other
  bound d other := by
    have keys : ∀ domain, ((s.setCharge c index charge).setDomain slot row).domainKey domain
        = s.domainKey domain := fun domain => State.domainKey_setDomain same domain
    have numbers : ∀ domain,
      (((s.setCharge c index charge).setDomain slot row).domains domain).generation
        = (s.domains domain).generation :=
          fun domain => congrArg ResourceKey.generation (keys domain)
    simp only [keys, numbers, State.charges_setDomain]
    by_cases class_eq : d = c
    · subst class_eq
      rw [State.charges_setCharge]
      by_cases eq : other = index
      · rw [eq, update_self]
        exact valid
      · rw [update_of_ne eq]
        exact exact.bound d other
    · rw [State.charges_setCharge_of_ne s class_eq]
      exact exact.bound d other

lemma State.charged_setCharge_eq
    (traded : totals + load key (s.charges c index) = s.charged c key + load key charge) :
    (fun d => (s.setCharge c index charge).charged d key) = update
    (fun d => s.charged d key) c totals := by
  funext d
  by_cases class_eq : d = c
  · subst class_eq
    rw [update_self]
    exact add_right_cancel ((s.charged_setCharge d index charge key).trans traded.symm)
  · rw [update_of_ne class_eq, s.charged_setCharge_of_ne class_eq]

lemma Effect.exact (exact : Exact s) (effect : Effect s e s') : Exact s' := by
  cases effect with
  | refused => exact exact
  | create retired room next row_eq empty =>
    exact exact.create retired room (row_eq.trans next) empty
  | own _ same counted => exact exact.rewrite same counted
  | charge nonzero known free room next same counted =>
    subst next
    refine exact.recharge room (fun _ => ⟨Nat.succ_ne_zero _, nonzero, _, known, rfl⟩) same ?_ ?_
    · intro key other
      rw [load_of_not_bound (not_boundTo_of_retired free), load_of_not_bound]
      exact fun bound => other bound.2.symm
    · rw [State.charged_setCharge_eq]
      · exact counted
      · rw [load_of_not_bound (not_boundTo_of_retired free), add_zero, load_of_bound]
        exact ⟨rfl, rfl⟩
  | discharge bound same total counted =>
    refine exact.recharge (exact.charge_le _ _) nofun same ?_ ?_
    · intro key other
      rw [load_of_not_bound (not_boundTo_of_retired rfl), load_of_not_bound]
      exact fun held => other (held.2.symm.trans bound.2)
    · rw [State.charged_setCharge_eq]
      · exact counted
      · rw [load_of_bound bound, total, load_of_not_bound (not_boundTo_of_retired rfl), add_zero]

lemma Step.exact (exact : Exact s) (st : Step s e s') : Exact s' := (st.effect exact).exact exact

lemma Run.exact (run : Run State.zero es s) : Exact s := run.invariant Exact.zero Step.exact

end effects

section keys

variable {s s' : State} {e : Event} {c : ResourceClass}

def Event.domainIssued : Event → Option ResourceKey
  | .create result => result
  | _ => none

section

variable (c : ResourceClass) (s : State) (key : ResourceKey)

def Event.chargeIssued : Event → Option ResourceKey
  | .charge d _ _ result => if d = c then result else none
  | _ => none

def Event.chargeReleased : Event → Option ResourceKey
  | .releaseCharge d key true => if d = c then some key else none
  | _ => none

/-- The domain key has been issued: its row is at this generation or past it. -/
def DomainPast : Prop :=
  ∃ slot : Fin kResourceDomainCapacity, key.slot = slot ∧
    key.generation ≤ (s.domains slot).generation

def ChargePast : Prop :=
  ∃ slot : Fin c.capacity, key.slot = slot ∧ key.generation ≤ (s.charges c slot).generation

/-- The charge key was issued and its charge is no longer Live. -/
def ChargeSpent : Prop :=
  ∃ slot : Fin c.capacity, key.slot = slot ∧ (key.generation < (s.charges c slot).generation ∨
    key.generation = (s.charges c slot).generation ∧ (s.charges c slot).state = .retired)

end

lemma Effect.domain_mono (effect : Effect s e s') (slot) :
    (s.domains slot).generation ≤ (s'.domains slot).generation := by
  have write : ∀ {t : State} {index row}, t.domains = s.domains →
    (s.domains index).generation ≤ row.generation →
      (s.domains slot).generation ≤ ((t.setDomain index row).domains slot).generation := by
    intro t index row same le
    rw [State.domains_setDomain, same]
    by_cases eq : slot = index
    · rw [eq, update_self]
      exact le
    · rw [update_of_ne eq]
  cases effect with
  | refused => exact le_rfl
  | create _ _ next row_eq => exact write rfl (by rw [row_eq, next]; exact Nat.le_succ _)
  | own _ same | charge _ _ _ _ _ same | discharge _ same => exact write rfl same.ge

/-- A charge row keeps its generation, which is then retired once it is spent, or it takes the next
one. -/
lemma Effect.charge_mono (effect : Effect s e s') (slot) :
    (s.charges c slot).generation < (s'.charges c slot).generation ∨
      (s.charges c slot).generation = (s'.charges c slot).generation ∧
        ((s.charges c slot).state = .retired → (s'.charges c slot).state = .retired) := by
  have write : ∀ {d : ResourceClass} {index : Fin d.capacity} {charge},
      ((s.charges d index).generation < charge.generation ∨
        (s.charges d index).generation = charge.generation ∧ charge.state = .retired) →
      (s.charges c slot).generation < ((s.setCharge d index charge).charges c slot).generation ∨
        (s.charges c slot).generation = ((s.setCharge d index charge).charges c slot).generation ∧
        ((s.charges c slot).state = .retired →
          ((s.setCharge d index charge).charges c slot).state = .retired) := by
    intro d index charge moved
    by_cases class_eq : c = d
    · subst class_eq
      rw [State.charges_setCharge]
      by_cases eq : slot = index
      · rw [eq, update_self]
        exact moved.imp_right fun h => ⟨h.1, fun _ => h.2⟩
      · rw [update_of_ne eq]
        exact .inr ⟨rfl, id⟩
    · rw [State.charges_setCharge_of_ne s class_eq]
      exact .inr ⟨rfl, id⟩
  cases effect with
  | refused | create | own => exact .inr ⟨rfl, id⟩
  | charge _ _ _ _ next => exact write (.inl (by rw [next]; exact Nat.lt_succ_self _))
  | discharge => exact write (.inr ⟨rfl, rfl⟩)

lemma Step.domain_recorded (exact : Exact s) (st : Step s e s')
    (issued : e.domainIssued = some key) :
    ¬DomainPast s key ∧ DomainPast s' key := by
  cases st.effect exact with
  | refused no =>
    cases e with
    | create result =>
      cases issued
      exact nomatch no
    | _ => exact nomatch issued
  | @create slot generation row _ _ next row_eq =>
    cases issued
    refine ⟨?_, slot, rfl, ?_⟩
    · rintro ⟨other, same, le⟩
      have eq : slot = other := Fin.ext same
      subst eq
      rw [next] at le
      exact Nat.not_succ_le_self _ le
    · rw [State.domains_setDomain, update_self, row_eq]
  | own call => rcases call with rfl | rfl <;> exact nomatch issued
  | charge | discharge => exact nomatch issued

lemma Step.charge_recorded (exact : Exact s) (st : Step s e s')
    (issued : e.chargeIssued c = some key) :
    ¬ChargePast c s key ∧ ChargePast c s' key := by
  cases st.effect exact with
  | refused no =>
    cases e with
    | charge d domain amount result =>
      rw [Event.chargeIssued] at issued
      split at issued
      · cases issued
        exact nomatch no
      · exact nomatch issued
    | _ => exact nomatch issued
  | create | discharge => exact nomatch issued
  | own call => rcases call with rfl | rfl <;> exact nomatch issued
  | @charge d amount domainSlot slot generation row _ _ _ _ next =>
    rw [Event.chargeIssued] at issued
    split at issued
    · next same =>
      subst same
      cases issued
      refine ⟨?_, slot, rfl, ?_⟩
      · rintro ⟨other, same, le⟩
        have eq : slot = other := Fin.ext same
        subst eq
        rw [next] at le
        exact Nat.not_succ_le_self _ le
      · rw [State.charges_setDomain, State.charges_setCharge, update_self]
    · exact nomatch issued

lemma Step.charge_released (exact : Exact s) (st : Step s e s')
    (released : e.chargeReleased c = some key) :
    ¬ChargeSpent c s key ∧ ChargeSpent c s' key := by
  cases st.effect exact with
  | refused no =>
    cases e with
    | releaseCharge d key result =>
      cases result with
      | true => exact nomatch no
      | false => exact nomatch released
    | _ => exact nomatch released
  | create | charge => exact nomatch released
  | own call => rcases call with rfl | rfl <;> exact nomatch released
  | @discharge d domainSlot slot row totals bound =>
    rw [Event.chargeReleased] at released
    split at released
    · next same =>
      subst same
      cases released
      refine ⟨?_, slot, rfl, .inr ?_⟩
      · rintro ⟨other, same, spent⟩
        have eq : slot = other := Fin.ext same
        subst eq
        rcases spent with less | ⟨_, retired⟩
        · exact Nat.lt_irrefl _ less
        · exact nomatch bound.1.symm.trans retired
      · rw [State.charges_setDomain, State.charges_setCharge, update_self]
        exact ⟨rfl, rfl⟩
    · exact nomatch released

lemma Step.past_stays {key} (exact : Exact s) (st : Step s e s') :
    (DomainPast s key → DomainPast s' key) ∧ (ChargePast c s key → ChargePast c s' key) ∧
      (ChargeSpent c s key → ChargeSpent c s' key) := by
  have effect := st.effect exact
  refine ⟨?_, ?_, ?_⟩
  · rintro ⟨slot, same, le⟩
    exact ⟨slot, same, le.trans (effect.domain_mono slot)⟩
  · rintro ⟨slot, same, le⟩
    rcases effect.charge_mono slot with less | kept
    · exact ⟨slot, same, le.trans less.le⟩
    · exact ⟨slot, same, le.trans kept.1.le⟩
  · rintro ⟨slot, same, spent⟩
    refine ⟨slot, same, ?_⟩
    rcases effect.charge_mono slot with less | kept
    · rcases spent with before | now
      · exact .inl (before.trans less)
      · exact .inl (now.1.trans_lt less)
    · rw [← kept.1]
      exact spent.imp_right fun now => ⟨now.1, kept.2 now.2⟩

end keys

def State.boundCharges (s : State) (c : ResourceClass) (key : ResourceKey) :
    Finset (Fin c.capacity) :=
  Finset.univ.filter fun slot => (s.charges c slot).BoundTo key

lemma State.charged_eq (s : State) (c key) : s.charged c key
      = ((s.boundCharges c key).card, ∑ slot ∈ s.boundCharges c key,
        (s.charges c slot).amount) := by
  have loads : ∀ slot,
    load key (s.charges c slot) = (if (s.charges c slot).BoundTo key then 1 else 0,
        if (s.charges c slot).BoundTo key then (s.charges c slot).amount else 0) := by
    intro slot
    unfold load
    split_ifs <;> rfl
  rw [State.charged, Finset.sum_congr rfl fun slot _ => loads slot, State.boundCharges,
    Finset.card_filter,
    Finset.sum_filter]
  exact (prod_mk_sum _ _ _).symm

/-- Along every run of the resource service, with whatever keys it is called, the counters of a
domain are the number and the sum of the Live charges bound to its current key and stay within its
limits; a domain is Retired exactly when it has no owners and no charges, and Closing exactly when
it has no owners but charges; a Live charge is always released on request, and no charge twice; and
no domain or charge key is issued twice. -/
theorem resource_accounts_exact {es : List Event} {s : State} (run : Run State.zero es s) :
    (∀ slot c,
      ((s.domains slot).accounts c).objects = (s.boundCharges c (s.domainKey slot)).card ∧
      ((s.domains slot).accounts c).amount = ∑ index ∈ s.boundCharges c (s.domainKey slot),
      (s.charges c index).amount ∧
      ((s.domains slot).accounts c).objects ≤ ((s.domains slot).accounts c).objectLimit ∧
      ((s.domains slot).accounts c).amount ≤ ((s.domains slot).accounts c).amountLimit) ∧
    (∀ slot, ((s.domains slot).state = .retired ↔ (s.domains slot).ownerReferences = 0 ∧
        ∀ c, s.boundCharges c (s.domainKey slot) = ∅) ∧
      ((s.domains slot).state = .closing ↔ (s.domains slot).ownerReferences = 0 ∧
        ∃ c, (s.boundCharges c (s.domainKey slot)).Nonempty)) ∧
          (∀ index, (s.charges .section index).state = .live →
      (resourceDomainReleaseSection s (s.chargeKey .section index)).1) ∧
    (∀ index, (s.charges .channel index).state = .live →
      (resourceDomainReleaseChannel s (s.chargeKey .channel index)).1) ∧
    (∀ c, (es.filterMap (Event.chargeReleased c)).Nodup) ∧ (es.filterMap Event.domainIssued).Nodup ∧
    (∀ c, (es.filterMap (Event.chargeIssued c)).Nodup) := by
  have exact := Run.exact run
  have empty : ∀ slot c, s.charged c (s.domainKey slot) = 0 ↔
    s.boundCharges c (s.domainKey slot) = ∅ := by
    intro slot c
    rw [State.charged_eq_zero, State.boundCharges, Finset.filter_eq_empty_iff]
    exact ⟨fun h index _ => h index, fun h index => h (Finset.mem_univ index)⟩
  have release : ∀ c (index : Fin c.capacity), (s.charges c index).state = .live →
      (releaseCharge c s (s.chargeKey c index)).1 := by
    intro c index live
    obtain ⟨t, done, _⟩ := releaseCharge_live exact live
    rw [done]
  refine ⟨?_, ?_, release .section, release .channel, ?_, ?_, ?_⟩
  · intro slot c
    have totals := ((exact.row slot).totals c).trans (s.charged_eq c _)
    exact ⟨congrArg fst totals, congrArg snd totals, (exact.row slot).objects_le c,
      (exact.row slot).amount_le c⟩
  · intro slot
    have row := exact.row slot
    constructor
    · rw [row.retired_iff]
      simp only [empty]
    · rw [row.closing_iff]
      simp only [Ne, empty, Finset.nonempty_iff_ne_empty]
  · intro c
    exact (run.issued_nodup Exact.zero Step.exact Step.charge_released
      fun exact st => (Step.past_stays exact st).2.2).1
  · exact (run.issued_nodup Exact.zero Step.exact Step.domain_recorded
      fun exact st => (@Step.past_stays _ _ _ .section _ exact st).1).1
  · intro c
    exact (run.issued_nodup Exact.zero Step.exact Step.charge_recorded
      fun exact st => (Step.past_stays exact st).2.1).1

/-- A trusted domain that a Section is charged to, that loses its owner, and that retires with the
release of the charge, whose replay is refused. -/
theorem resource_accounts_exact_sample :
    ∃ s, Run State.zero [.create (some ⟨0, 1⟩), .charge .section ⟨0, 1⟩ 3 (some ⟨0, 1⟩),
      .release ⟨0, 1⟩ true, .releaseCharge .section ⟨0, 1⟩ true,
      .releaseCharge .section ⟨0, 1⟩ false] s ∧
      ((s.domains ⟨0, by decide⟩).state = .retired ↔
        (s.domains ⟨0, by decide⟩).ownerReferences = 0 ∧
        ∀ c, s.boundCharges c (s.domainKey ⟨0, by decide⟩) = ∅) := by
  have created := @Step.createTrusted State.zero (some ⟨0, 1⟩) _ (fst_eq_iff.mp (by decide +kernel))
  have charged := (Lts.Run.single created).snoc
    (@Step.tryChargeSection _ _ ⟨0, 1⟩ 3 (some (⟨0, 1⟩, .ordinary))
      (fst_eq_iff.mp (by decide +kernel)))
  have ownerless := charged.snoc (@Step.release _ ⟨0, 1⟩ true _ (fst_eq_iff.mp (by decide +kernel)))
  have retired := ownerless.snoc
    (@Step.releaseSection _ ⟨0, 1⟩ true _ (fst_eq_iff.mp (by decide +kernel)))
  have run := retired.snoc
    (@Step.releaseSection _ ⟨0, 1⟩ false _ (fst_eq_iff.mp (by decide +kernel)))
  exact ⟨_, run, ((resource_accounts_exact run).2.1 ⟨0, by decide⟩).1⟩

end DuetOS.Resource
