import DuetOS.Lib.Bag

/-!
# Labelled runs

A run of a step relation `step : σ → ε → σ → Prop` carries the labels it performed, oldest first, so
that a property of the history is a property of that list. `Run.invariant` is the induction for a
property of the state, `Run.history` the one that relates it to the labels performed so far.
-/

namespace Lts

open List

variable {σ ε : Type*} {step : σ → ε → σ → Prop}

/-- `Run step s es t`: from `s`, performing the labels `es` in order, the system reaches `t`. -/
inductive Run (step : σ → ε → σ → Prop) : σ → List ε → σ → Prop where
  | nil {s} : Run step s [] s
  | snoc {s t u es e} : Run step s es t → step t e u → Run step s (es ++ [e]) u

lemma Run.history {P : List ε → σ → Prop} (run : Run step s es t) (init : P [] s)
    (next : ∀ {es t e u}, P es t → step t e u → P (es ++ [e]) u) : P es t := by
  induction run with
  | nil => exact init
  | snoc _ st ih => exact next ih st

lemma Run.invariant {P : σ → Prop} (run : Run step s es t)
    (init : P s) (next : ∀ {t e u}, P t → step t e u → P u) : P t :=
  run.history (P := fun _ => P) init next

/-- A forward simulation: when every step either is invisible and keeps the related state, or is
matched by a step of the other system, a run is matched by a run over the visible labels. -/
lemma Run.simulates {τ δ : Type*} {spec : τ → δ → τ → Prop} {R : List ε → σ → τ → Prop} {f s t es a}
    (run : Run step s es t) (init : R [] s a)
    (hidden : ∀ {es t e u b}, R es t b → step t e u → f e = none → R (es ++ [e]) u b)
    (visible : ∀ {es t e u b d}, R es t b → step t e u → f e = some d → ∃ c, R (es ++ [e]) u c ∧
      spec b d c) :
    ∃ b, R es t b ∧ Run spec a (es.filterMap f) b := by
  induction run with
  | nil => exact ⟨a, init, .nil⟩
  | @snoc t u es e _ st ih =>
    obtain ⟨b, related, matched⟩ := ih
    rw [filterMap_append]
    cases eq : f e with
    | none =>
      have none : [e].filterMap f = [] := by simp [eq]
      rw [none, append_nil]
      exact ⟨b, hidden related st eq, matched⟩
    | some d =>
      have one : [e].filterMap f = [d] := by simp [eq]
      rw [one]
      obtain ⟨c, related', st'⟩ := visible related st eq
      exact ⟨c, related', .snoc matched st'⟩

lemma Run.single (st : step s e t) : Run step s [e] t := Run.snoc .nil st

lemma Run.mono {step' : σ → ε → σ → Prop} (run : Run step s es t)
    (le : ∀ {s e t}, step s e t → step' s e t) : Run step' s es t := by
  induction run with
  | nil => exact .nil
  | snoc _ st ih => exact .snoc ih (le st)

lemma Run.append (run1 : Run step s es t) (run2 : Run step t fs u) : Run step s (es ++ fs) u := by
  induction run2 with
  | nil => simpa using run1
  | snoc _ st ih =>
    rw [← append_assoc]
    exact .snoc ih st

lemma Run.split (run : Run step s (es ++ fs) u) : ∃ t, Run step s es t ∧ Run step t fs u := by
  induction fs using reverseRecOn generalizing u with
  | nil => exact ⟨u, by simpa using run, .nil⟩
  | append_singleton fs e ih =>
    rw [← append_assoc] at run
    generalize eq : es ++ fs ++ [e] = gs at run
    cases run with
    | nil => simp at eq
    | snoc run st =>
      obtain ⟨eq1, eq2⟩ := append_inj' eq rfl
      cases eq2
      subst eq1
      obtain ⟨t, run1, run2⟩ := ih run
      exact ⟨t, run1, .snoc run2 st⟩

lemma Run.split_at (run : Run step s (es ++ e :: fs) u) :
    ∃ t t', Run step s es t ∧ step t e t' ∧ Run step t' fs u := by
  have run' : Run step s ((es ++ [e]) ++ fs) u := by simpa using run
  obtain ⟨t', run1, run2⟩ := run'.split
  generalize eq : es ++ [e] = gs at run1
  cases run1 with
  | nil => simp at eq
  | snoc run st =>
    obtain ⟨eq1, eq2⟩ := append_inj' eq rfl
    cases eq2
    subst eq1
    exact ⟨_, t', run, st, run2⟩

/-- A step-closed property of the state, once it holds, holds for the rest of the run, relative to
an invariant. -/
lemma Run.stable {I P : σ → Prop} (run : Run step s es t) (inv : I s) (init : P s)
    (keep : ∀ {t e u}, I t → step t e u → I u)
    (next : ∀ {t e u}, I t → P t → step t e u → P u) : P t :=
  (run.invariant (P := fun u => I u ∧ P u) ⟨inv, init⟩ fun h st => ⟨keep h.1 st, next h.1 h.2 st⟩).2

/-- What is held, plus what labels took out, is what was held at the start plus what labels put
in. -/
lemma Run.conserved {M : Type*} [AddCommMonoid M] {I : σ → Prop} {h : σ → M} {p q : ε → M}
    (run : Run step s es t) (inv : I s) (keep : ∀ {t e u}, I t → step t e u → I u)
    (balance : ∀ {t e u}, I t → step t e u → h u + q e = h t + p e) :
    h t + (es.map q).sum = h s + (es.map p).sum := by
  induction run with
  | nil => rfl
  | @snoc t u es e run st ih =>
    simp only [map_append, map_cons, map_nil, sum_append, sum_singleton]
    calc h u + ((es.map q).sum + q e) = h u + q e + (es.map q).sum := by
          rw [add_left_comm, add_comm]
      _ = h t + (es.map q).sum + p e := by rw [balance (run.invariant inv keep) st, add_right_comm]
      _ = h s + ((es.map p).sum + p e) := by rw [ih, add_assoc]

/-- Items that labels put in and take out, one at a time. -/
lemma Run.conserved_items {τ : Type*} {I : σ → Prop} {h : σ → Multiset τ} {p q : ε → Option τ}
    (run : Run step s es t) (inv : I s) (keep : ∀ {t e u}, I t → step t e u → I u)
    (balance : ∀ {t e u}, I t → step t e u →
      h u + ((q e).toList : Multiset τ) = h t + ((p e).toList : Multiset τ)) :
    h t + (es.filterMap q : List τ) = h s + (es.filterMap p : List τ) := by
  rw [← Bag.sum_toList, ← Bag.sum_toList]
  exact run.conserved inv keep balance

/-- Identities that are recorded in the state when they are issued, stay recorded, and are never
issued while recorded, are pairwise distinct along every run. A label may issue several. -/
lemma Run.issued_all_nodup {τ : Type*} {I : σ → Prop} {issue} {P : σ → τ → Prop} {s t es}
    (run : Run step s es t)
    (inv : I s) (keep : ∀ {t e u}, I t → step t e u → I u)
    (distinct : ∀ {t e u}, I t → step t e u → (issue e).Nodup)
    (recorded : ∀ {t e u x}, I t → step t e u → x ∈ issue e → ¬P t x ∧ P u x)
    (stays : ∀ {t e u x}, I t → step t e u → P t x → P u x) :
    (es.flatMap issue).Nodup ∧ ∀ x ∈ es.flatMap issue, P t x := by
  induction run with
  | nil => exact ⟨nodup_nil, nofun⟩
  | snoc run st ih =>
    obtain ⟨nodup, issued⟩ := ih
    have inv := run.invariant inv keep
    rw [flatMap_append, flatMap_singleton]
    refine ⟨?_, fun y mem => ?_⟩
    · refine nodup_append.mpr ⟨nodup, distinct inv st, fun x old y new => ?_⟩
      rintro rfl
      exact (recorded inv st new).1 (issued x old)
    · rcases mem_append.mp mem with old | new
      · exact stays inv st (issued y old)
      · exact (recorded inv st new).2

/-- The same for labels that issue at most one identity each. -/
lemma Run.issued_nodup {τ : Type*} {I : σ → Prop} {issue} {P : σ → τ → Prop} {s t es}
    (run : Run step s es t)
    (inv : I s) (keep : ∀ {t e u}, I t → step t e u → I u)
    (recorded : ∀ {t e u x}, I t → step t e u → issue e = some x → ¬P t x ∧ P u x)
    (stays : ∀ {t e u x}, I t → step t e u → P t x → P u x) :
    (es.filterMap issue).Nodup ∧ ∀ x ∈ es.filterMap issue, P t x := by
  rw [filterMap_eq_flatMap_toList]
  refine run.issued_all_nodup inv keep (fun {_ e _} _ _ => ?_) (fun inv st mem => ?_) stays
  · cases issue e with
    | none => exact nodup_nil
    | some x => exact nodup_singleton x
  · exact recorded inv st (Option.mem_toList.mp mem)

/-- After a label that makes a stable property true, no label that needs it false occurs. -/
lemma Run.never_after {I P : σ → Prop} (run : Run step s (es ++ e :: (fs ++ f :: gs)) t) (inv : I s)
    (keep : ∀ {t e u}, I t → step t e u → I u) (stays : ∀ {t e u}, I t → P t → step t e u → P u)
    (makes : ∀ {t u}, I t → step t e u → P u) (needs : ∀ {t u}, I t → step t f u → ¬P t) :
    False := by
  obtain ⟨t₁, t₂, run1, st1, rest⟩ := run.split_at
  obtain ⟨t₃, t₄, run2, st2, _⟩ := rest.split_at
  have inv1 := run1.invariant inv keep
  have inv3 := run2.invariant (keep inv1 st1) keep
  exact needs inv3 st2 (run2.stable (keep inv1 st1) (makes inv1 st1) keep stays)

end Lts
