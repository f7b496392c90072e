import DuetOS.HandleTable.Invariant

/-!
# Tokens are never reused

A row's `age` combines its generation with how far the row has come in it: reserved, live, closing,
closed. No step makes a row younger. A token is issued when its row reaches the live phase of its
generation, can be used exactly there, and is dead afterwards, whatever happens to the slot.
-/

namespace DuetOS.HandleTable

open Word

/-- How far a row has come in its generation. -/
def HandleSlotState.phase : HandleSlotState → Nat
  | .reserved => 0
  | .live => 1
  | .closing => 2
  | .free => 3
  | .retired => 3

/-- Generation and phase of a row in one number. -/
def HandleSlot.age (slot : HandleSlot) :
    Nat := 4 * slot.generation + HandleSlotState.phase slot.state

/-- The token returned by a successful minting section. -/
def Event.minted : Event → Option Handle
  | .insert _ _ (.ok handle) => some handle
  | .publish _ _ (.ok handle) => some handle
  | .replace _ _ (.ok handle) => some handle
  | .adoptFinish _ _ _ (some result) => some result.handle
  | _ => none

def Event.succeedsWith (handle : Handle) : Event → Bool
  | .pin used _ _ (.ok _) => used = handle
  | .rights used granted => used = handle ∧ granted ≠ 0
  | .checkRight used _ true => used = handle
  | .detachMark used _ _ (.ok _) => used = handle
  | .replace used _ (.ok _) => used = handle
  | .adoptMark used _ _ _ (.ok _) => used = handle
  | _ => false

/-- A section that marked the row of this token closing, replaced the token, or drained the
table. -/
def Event.invalidates (handle : Handle) : Event → Bool
  | .detachMark used _ _ (.ok _) => used = handle
  | .adoptMark used _ _ _ (.ok _) => used = handle
  | .replace used _ (.ok _) => used = handle
  | .drainBegin .owner => true
  | .drainDetach _ => true
  | _ => false

lemma HandleSlot.age_closedAt (generation) :
    HandleSlot.age (.closedAt generation) = 4 * generation + 3 := by
  unfold HandleSlot.age
  rw [HandleSlot.closedAt_state]
  split <;> rfl

lemma HandleSlot.age_le_closedAt (slot) :
    HandleSlot.age slot ≤ HandleSlot.age (.closedAt slot.generation) := by
  rw [HandleSlot.age_closedAt]
  have : HandleSlotState.phase slot.state ≤ 3 := by cases slot.state <;> decide
  unfold HandleSlot.age
  omega

lemma HandleSlot.age_lt (slot) : HandleSlot.age slot < 4 * (slot.generation + 1) := by
  have le := age_le_closedAt slot
  rw [age_closedAt] at le
  omega

lemma age_setSlot {table : HandleTable} {index slot}
    (older : HandleSlot.age (table.slots index) ≤ HandleSlot.age slot) (j) :
    HandleSlot.age (table.slots j) ≤ HandleSlot.age ((table.setSlot index slot).slots j) := by
  by_cases eq : j = index
  · subst eq
    rw [HandleTable.setSlot_slots_self]
    exact older
  · rw [HandleTable.setSlot_slots_of_ne _ eq]

lemma Effect.age_le (inv : Inv s) (effect : Effect s e s') (j : Fin kHandleTableCapacity) :
    HandleSlot.age (s.table.slots j) ≤ HandleSlot.age (s'.table.slots j) := by
  cases effect with
  | insert _ _ _ _ row | reserve _ _ _ _ _ _ row | replace _ _ _ _ _ _ _ _ row
  | adoptFinish _ _ _ _ row =>
    exact age_setSlot (by rw [row]; exact (HandleSlot.age_lt _).le.trans (Nat.le_add_right ..)) j
  | publish _ _ _ _ row | detachMark _ _ _ _ _ _ row | adoptMark _ _ _ _ _ _ _ _ row =>
    exact age_setSlot (by rw [row]; exact Nat.le_succ _) j
  | abort _ _ _ row =>
    exact age_setSlot (by rw [row]; exact HandleSlot.age_le_closedAt (.reservedAt ..)) j
  | pin _ _ _ _ _ _ row | unpin _ _ _ _ _ row =>
    exact age_setSlot (by rw [row]; exact Nat.le_refl _) j
  | detachFinish _ _ row =>
    exact age_setSlot (by rw [row]; exact HandleSlot.age_le_closedAt (.owning .closing ..)) j
  | drainDetach =>
    rw [inv.closeRows_slots]
    exact HandleSlot.age_le_closedAt _
  | _ => exact Nat.le_refl _

/-- A row is used up to the live phase of the token's generation. -/
def Issued (s : State) (handle : Handle) : Prop :=
  ∃ decoded, decodeHandleNospec handle = some decoded ∧
    4 * decoded.generation + 1 ≤ HandleSlot.age (s.table.slots decoded.slot)

/-- The token can no longer be used: its row is past it, or the table no longer serves anyone. -/
def Dead (handle : Handle) (s : State) : Prop :=
  (∀ decoded, decodeHandleNospec handle = some decoded →
    4 * decoded.generation + 2 ≤ HandleSlot.age (s.table.slots decoded.slot)) ∨
  s.table.state ≠ .open

lemma Effect.state_ne_open (effect : Effect s e s') (shut : s.table.state ≠ .open) :
    s'.table.state ≠ .open := by
  cases effect with
  | drainOwner isOpen => exact absurd isOpen shut
  | drainComplete => exact nofun
  | _ => exact shut

lemma Issued.mono (inv : Inv s) (st : Step s e s') (issued : Issued s handle) :
    Issued s' handle := by
  obtain ⟨decoded, decodes, le⟩ := issued
  exact ⟨decoded, decodes, le.trans ((st.effect inv).age_le inv decoded.slot)⟩

lemma Dead.mono (inv : Inv s) (dead : Dead handle s) (st : Step s e s') : Dead handle s' := by
  have effect := st.effect inv
  rcases dead with past | shut
  · exact .inl fun decoded decodes => (past decoded decodes).trans (effect.age_le inv decoded.slot)
  · exact .inr (effect.state_ne_open shut)

lemma issued_of_mint (decodes : decodeHandleNospec handle = some ⟨index, generation⟩)
    (before : HandleSlot.age (table.slots index) ≤ 4 * generation)
    (after : HandleSlot.age (table'.slots index) = 4 * generation + 1) :
    ¬Issued ⟨table, inflight, nonce⟩ handle ∧ Issued ⟨table', inflight', nonce'⟩ handle := by
  refine ⟨fun issued => ?_, ⟨index, generation⟩, decodes, after.ge⟩
  obtain ⟨decoded, decodes', le⟩ := issued
  cases decodes.symm.trans decodes'
  exact absurd (le.trans before) (Nat.not_succ_le_self _)

lemma age_setSlot_self (table : HandleTable) (index slot) :
    HandleSlot.age ((table.setSlot index slot).slots index) = HandleSlot.age slot :=
  congrArg HandleSlot.age (table.setSlot_slots_self index slot)

lemma Effect.minted_fresh (effect : Effect s e s') (minted : e.minted = some handle) :
    ¬Issued s handle ∧ Issued s' handle := by
  cases effect with
  | quiet q => cases q <;> cases minted
  | insert _ _ pos lt row =>
    cases minted
    exact issued_of_mint (decodeHandleNospec_handleEncode pos (Nat.succ_pos _) lt)
      (row ▸ (HandleSlot.age_lt _).le)
      (age_setSlot_self ..)
  | publish decodes _ _ _ row =>
    cases minted
    exact issued_of_mint decodes (by rw [row]; exact Nat.le_refl _) (age_setSlot_self ..)
  | replace decodes _ _ lt _ _ _ _ row =>
    cases minted
    obtain ⟨_, pos, _⟩ := decodeHandleNospec_some decodes
    exact issued_of_mint (decodeHandleNospec_handleEncode pos (Nat.succ_pos _) lt)
      (row ▸ (HandleSlot.age_lt _).le)
      (age_setSlot_self ..)
  | adoptFinish lt pos _ _ row =>
    cases minted
    exact issued_of_mint (decodeHandleNospec_handleEncode pos (Nat.succ_pos _) lt)
      (row ▸ (HandleSlot.age_lt _).le)
      (age_setSlot_self ..)
  | _ => cases minted

lemma not_dead_of_live (decodes : decodeHandleNospec handle = some decoded)
    (isOpen : table.state = .open)
    (row : table.slots decoded.slot = .owning .live decoded.generation pins obj rights) :
    ¬Dead handle ⟨table, inflight, nonce⟩ := by
  rintro (past | shut)
  · have le := past decoded decodes
    rw [row] at le
    exact absurd le (Nat.not_succ_le_self _)
  · exact shut isOpen

lemma Effect.succeeds_alive (effect : Effect s e s') (succeeds : e.succeedsWith handle) :
    ¬Dead handle s := by
  cases effect with
  | quiet q =>
    cases q with
    | rights => simp [Event.succeedsWith] at succeeds
    | _ => cases succeeds
  | rights decodes isOpen row =>
    obtain ⟨rfl, _⟩ := of_decide_eq_true succeeds
    exact not_dead_of_live decodes isOpen row
  | checkRight decodes isOpen row | pin decodes isOpen _ _ _ _ row
  | detachMark decodes isOpen _ _ _ _ row | replace decodes isOpen _ _ _ _ _ _ row
  | adoptMark decodes isOpen _ _ _ _ _ _ row =>
    cases of_decide_eq_true succeeds
    exact not_dead_of_live decodes isOpen row
  | _ => cases succeeds

lemma dead_of_age (decodes : decodeHandleNospec handle = some decoded)
    (past : 4 * decoded.generation + 2 ≤ HandleSlot.age (table.slots decoded.slot)) :
    Dead handle ⟨table, inflight, nonce⟩ := by
  refine .inl fun decoded' decodes' => ?_
  cases decodes.symm.trans decodes'
  exact past

lemma Effect.invalidates_dead (effect : Effect s e s') (invalidates : e.invalidates handle) :
    Dead handle s' := by
  cases effect with
  | quiet q => cases q <;> cases invalidates
  | detachMark decodes _ _ _ _ _ _ | adoptMark decodes _ _ _ _ _ _ _ _ =>
    cases of_decide_eq_true invalidates
    refine dead_of_age decodes (le_of_le_of_eq ?_ (age_setSlot_self ..).symm)
    exact Nat.le_refl _
  | replace decodes _ _ _ _ _ _ _ _ =>
    cases of_decide_eq_true invalidates
    refine dead_of_age decodes (le_of_le_of_eq ?_ (age_setSlot_self ..).symm)
    simp only [HandleSlot.age, HandleSlot.owning_generation]
    omega
  | drainOwner => exact .inr nofun
  | drainDetach draining => exact .inr fun isOpen => by cases draining.symm.trans isOpen
  | _ => cases invalidates

lemma retired_setSlot {table : HandleTable} {index j slot}
    (used : (table.slots index).state ≠ .retired)
    (retired : (table.slots j).state = .retired) :
    (table.setSlot index slot).slots j = table.slots j := by
  refine HandleTable.setSlot_slots_of_ne _ (fun eq => ?_) _
  subst eq
  exact used retired

lemma Effect.retired_eq (inv : Inv s) (effect : Effect s e s')
    {j : Fin kHandleTableCapacity} (retired : (s.table.slots j).state = .retired) :
    s'.table.slots j = s.table.slots j := by
  cases effect with
  | insert _ _ _ lt row | reserve _ _ _ _ _ lt row =>
    exact retired_setSlot (by simp [row, Nat.ne_of_lt lt]) retired
  | publish _ _ _ _ row | abort _ _ _ row | pin _ _ _ _ _ _ row | detachMark _ _ _ _ _ _ row
  | detachFinish _ _ row | replace _ _ _ _ _ _ _ _ row | adoptMark _ _ _ _ _ _ _ _ row
  | adoptFinish _ _ _ _ row => exact retired_setSlot (by simp [row]) retired
  | unpin used _ _ _ _ row =>
    exact retired_setSlot (by rcases used with rfl | rfl <;> simp [row]) retired
  | drainDetach => exact (inv.closeRows_slots j).trans ((inv.ok.rows j).of_retired retired).symm
  | _ => rfl

lemma Effect.generation_le (inv : Inv s) (effect : Effect s e s') (j) :
    (s.table.slots j).generation ≤ (s'.table.slots j).generation := by
  have le := effect.age_le inv j
  have phase : HandleSlotState.phase (s'.table.slots j).state ≤ 3 := by
    cases (s'.table.slots j).state <;> decide
  simp only [HandleSlot.age] at le
  omega

/-- Along every run from the zero-initialised table, whatever the interleaving: the minted tokens
are pairwise distinct; a token whose row was marked closing, replaced or drained never succeeds
again; and generations only grow, up to a terminal one at which the closed row is retired for
good. -/
theorem tokens_never_alias {es s} (run : Run State.init es s) : (es.filterMap Event.minted).Nodup ∧
    (∀ handle before kill between use after, es = before ++ kill :: (between ++ use :: after) →
      kill.invalidates handle → use.succeedsWith handle = false) ∧
    (∀ before after t, es = before ++ after → Run State.init before t → Run t after s →
      ∀ index : Fin kHandleTableCapacity,
      (t.table.slots index).generation ≤ (s.table.slots index).generation ∧
        (s.table.slots index).generation ≤ kHandleGenerationMax ∧
        ((s.table.slots index).generation = kHandleGenerationMax →
          (s.table.slots index).state ≠ .free) ∧
        ((t.table.slots index).state = .retired → s.table.slots index = t.table.slots index)) := by
  refine ⟨?_, ?_, ?_⟩
  · exact (run.issued_nodup (P := Issued) Inv.init Step.preserves
      (fun inv st minted => (st.effect inv).minted_fresh minted)
      (fun inv st issued => issued.mono inv st)).1
  · rintro handle before kill between use after rfl invalidates
    by_contra succeeds
    exact run.never_after (P := Dead handle) Inv.init Step.preserves
      (fun inv dead st => dead.mono inv st)
      (fun inv st => (st.effect inv).invalidates_dead invalidates)
      (fun inv st => (st.effect inv).succeeds_alive (eq_true_of_ne_false succeeds))
  · rintro before after t rfl run1 run2 index
    have inv := run.inv
    refine ⟨?_, (inv.ok.rows index).generation_le, fun terminal free => ?_, fun retired => ?_⟩
    · refine run2.stable
        (P := fun u => (t.table.slots index).generation ≤ (u.table.slots index).generation) run1.inv
        (Nat.le_refl _) Step.preserves fun inv le st => ?_
      exact le.trans ((st.effect inv).generation_le inv index)
    · exact absurd terminal (Nat.ne_of_lt ((inv.ok.rows index).of_free free).2)
    · refine run2.stable (P := fun u => u.table.slots index = t.table.slots index) run1.inv rfl
        Step.preserves fun inv same st => ?_
      exact ((st.effect inv).retired_eq inv (same ▸ retired)).trans same

def sampleEvent : KObject := ⟨7, .event⟩

/-- Insert a handle, replace it, then look up the old and the new token. -/
def sampleEvents : List Event :=
  [.insert (some sampleEvent) kHandleRightDuplicate (.ok 4097),
    .replace 4097 kHandleRightDuplicate (.ok 8193),
   .pin 4097 .event 0 (.error .invalidArgument),
   .pin 8193 .event 0 (.ok ⟨sampleEvent, kHandleRightDuplicate⟩)]

lemma sampleEvents_run : ∃ s, Run State.init sampleEvents s :=
  ⟨_, .snoc (.snoc (.snoc (.snoc .nil (@Step.insert _ _ _ _ _ 1 _ _ rfl)) (.replace rfl))
    (.pinRefused rfl)) (.pin rfl)⟩

theorem tokens_never_alias_sample : (∃ s, Run State.init sampleEvents s) ∧
      sampleEvents.filterMap Event.minted = [4097, 8193] ∧ [4097, 8193].Nodup ∧
      (Event.pin 4097 .event 0 (.error .invalidArgument)).succeedsWith 4097 = false := by
  obtain ⟨s, run⟩ := sampleEvents_run
  obtain ⟨nodup, stale, _⟩ := tokens_never_alias run
  exact ⟨⟨s, run⟩, rfl, nodup, stale 4097 [_] _ [] _ _ rfl rfl⟩

end DuetOS.HandleTable
