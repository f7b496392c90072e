import DuetOS.ObjectTransfer.Lifetime

/-!
# The authority of transfer rows

A row that owns an object after a step carried it before with the same generation and rights, or is
the row the step exported into. References are issued once: an export moves its row past every age
at which the new reference is unissued.
-/

namespace DuetOS.ObjectTransfer

open Word

/-- The row of the reference has reached the reference's generation. -/
def Issued (table : ObjectTransferTable) (reference : ObjectTransferRef) : Prop :=
  ∃ decoded, decodeTransferRefNospec reference = some decoded ∧
    3 * decoded.generation ≤ ObjectTransferSlot.age (table.slots decoded.slot)

lemma Issued.mono (effect : Effect table pinned e table' pinned')
    (issued : Issued table reference) :
    Issued table' reference := by
  obtain ⟨decoded, decodes, le⟩ := issued
  exact ⟨decoded, decodes, le.trans (effect.age_le decoded.slot)⟩

lemma Effect.exported_fresh
    (effect : Effect table pinned (.exportClaim source handle authority object (.ok reference))
      table' pinned') :
    ¬Issued table reference ∧ Issued table' reference := by
  cases effect with
  | quiet q => cases q
  | claim _ _ pos lt row =>
    have decodes := decodeTransferRefNospec_encode pos (Nat.succ_pos _) lt
    constructor
    · rintro ⟨decoded, decodes', le⟩
      cases decodes.symm.trans decodes'
      rw [row] at le
      simp only [ObjectTransferSlot.age, ObjectTransferSlot.closedAt_generation,
        ObjectTransferSlot.closedAt_state, ObjectTransferSlotState.phase] at le
      omega
    · refine ⟨_, decodes, ?_⟩
      rw [ObjectTransferTable.setSlot_slots_self]
      exact Nat.le_refl _

/-- The row owns nothing after the step, carries what it carried before, or was just exported
into. -/
inductive Carried (j : Fin kObjectTransferTableCapacity) (e : Event) :
    ObjectTransferSlot → ObjectTransferSlot → Prop where
  | empty : after.object = none → Carried j e before after
  | kept : before.object = after.object → before.generation = after.generation →
    before.rights = after.rights →
    Carried j e before after
  | exported :
    e = .exportClaim source handle authority object (.ok (objectTransferRefEncode j generation)) →
    Carried j e before (.owning .live generation 0 object authority)

lemma carried_setSlot {table : ObjectTransferTable} {index slot e}
    (here : Carried index e (table.slots index) slot)
    (j) : Carried j e (table.slots j) ((table.setSlot index slot).slots j) := by
  by_cases eq : j = index
  · subst eq
    rw [ObjectTransferTable.setSlot_slots_self]
    exact here
  · rw [ObjectTransferTable.setSlot_slots_of_ne _ eq]
    exact .kept rfl rfl rfl

lemma Effect.carried (inv : Pinned table pinned)
    (effect : Effect table pinned e table' pinned') (j : Fin kObjectTransferTableCapacity) :
    Carried j e (table.slots j) (table'.slots j) := by
  cases effect with
  | quiet | closeAgain => exact .kept rfl rfl rfl
  | claim => exact carried_setSlot (.exported rfl) j
  | pin _ _ _ _ _ _ row | unpin _ _ _ _ _ row | mark _ _ _ _ _ _ _ row =>
    exact carried_setSlot (by rw [row]; exact .kept rfl rfl rfl) j
  | release => exact carried_setSlot (.empty rfl) j
  | closeBusy =>
    obtain ⟨object, generation, _⟩ := inv.closeBegin_row j
    refine .kept object.symm generation.symm ?_
    unfold closeBegin
    split
    · dsimp only
      split <;> rfl
    · rfl
  | closeDone _ zero => exact .empty ((inv.closeDone zero).closed rfl j)

end DuetOS.ObjectTransfer
