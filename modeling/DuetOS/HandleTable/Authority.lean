import DuetOS.HandleTable.Tokens

/-!
# The authority of rows

A step that leaves a row owning an object left its object, generation and rights alone or minted the
row's token; a row is reserved only by the reserve that issued its ticket. So a token's authority is
fixed when it is minted, and a reservation's rights when it is made.
-/

namespace DuetOS.HandleTable

open Word DuetOS.HandleTable.HandleSlot

lemma Effect.minted_row (effect : Effect s e s') (minted : e.minted = some handle) :
    ∃ decoded pins obj rights, decodeHandleNospec handle = some decoded ∧ RightsOk obj.type rights ∧
      s'.table.slots decoded.slot = .owning .live decoded.generation pins obj rights := by
  cases effect with
  | quiet q => cases q <;> cases minted
  | insert ok _ pos lt _ | adoptFinish lt pos ok _ _ =>
    cases minted
    exact ⟨_, _, _, _, decodeHandleNospec_handleEncode pos (Nat.succ_pos _) lt, ok,
      HandleTable.setSlot_slots_self ..⟩
  | publish decodes _ _ ok _ =>
    cases minted
    exact ⟨_, _, _, _, decodes, ok, HandleTable.setSlot_slots_self ..⟩
  | replace decodes _ _ lt _ ok ne sub _ =>
    cases minted
    obtain ⟨_, pos, _⟩ := decodeHandleNospec_some decodes
    exact ⟨_, _, _, _, decodeHandleNospec_handleEncode pos (Nat.succ_pos _) lt,
      ⟨ne, sub.trans ok.2⟩, HandleTable.setSlot_slots_self ..⟩
  | _ => cases minted

/-- The row owns nothing after the step, carries what it carried before, or its token was just
minted. -/
inductive Carried (j : Fin kHandleTableCapacity) (e : Event) : HandleSlot → HandleSlot → Prop where
  | empty : after.obj = none → Carried j e before after
  | kept : before.obj = after.obj → before.generation = after.generation →
    before.rights = after.rights →
    Carried j e before after
  | minted : e.minted = some handle → decodeHandleNospec handle = some ⟨j, after.generation⟩ →
    Carried j e before after

lemma carried_setSlot {table : HandleTable} {index slot e}
    (here : Carried index e (table.slots index) slot) (j) :
    Carried j e (table.slots j) ((table.setSlot index slot).slots j) := by
  by_cases eq : j = index
  · subst eq
    rw [HandleTable.setSlot_slots_self]
    exact here
  · rw [HandleTable.setSlot_slots_of_ne _ eq]
    exact .kept rfl rfl rfl

lemma Effect.carried (inv : Inv s) (effect : Effect s e s') (j : Fin kHandleTableCapacity) :
    Carried j e (s.table.slots j) (s'.table.slots j) := by
  cases effect with
  | insert _ _ pos lt _ | adoptFinish lt pos =>
    refine carried_setSlot (.minted rfl ?_) j
    exact decodeHandleNospec_handleEncode pos (Nat.succ_pos _) lt
  | reserve | abort | detachFinish => exact carried_setSlot (.empty rfl) j
  | publish decodes => exact carried_setSlot (.minted rfl decodes) j
  | pin _ _ _ _ _ _ row | unpin _ _ _ _ _ row | detachMark _ _ _ _ _ _ row
  | adoptMark _ _ _ _ _ _ _ _ row => exact carried_setSlot (by rw [row]; exact .kept rfl rfl rfl) j
  | replace decodes _ _ lt =>
    obtain ⟨_, pos, _⟩ := decodeHandleNospec_some decodes
    refine carried_setSlot (.minted rfl ?_) j
    exact decodeHandleNospec_handleEncode pos (Nat.succ_pos _) lt
  | drainDetach =>
    refine .empty ?_
    rw [inv.closeRows_slots j]
    rfl
  | _ => exact .kept rfl rfl rfl

/-- The row of this ticket, while it is still the ticket's reservation, carries these rights. -/
def ReservedAs (s : State) (reservation : HandleTableReservation) (rights : Rights) : Prop :=
  ∃ decoded, decodeHandleNospec reservation.handle = some decoded ∧
    4 * decoded.generation ≤ HandleSlot.age (s.table.slots decoded.slot) ∧
    ((s.table.slots decoded.slot).state = .reserved →
      (s.table.slots decoded.slot).generation = decoded.generation →
        (s.table.slots decoded.slot).rights = rights)

lemma reserved_setSlot {table : HandleTable} {index slot}
    (here : slot.state = .reserved → age (table.slots index) < age slot) (j)
    (reserved : ((table.setSlot index slot).slots j).state = .reserved) :
    (table.setSlot index slot).slots j = table.slots j ∨
      age (table.slots j) < age ((table.setSlot index slot).slots j) := by
  by_cases eq : j = index
  · subst eq
    rw [HandleTable.setSlot_slots_self] at reserved ⊢
    exact .inr (here reserved)
  · exact .inl (HandleTable.setSlot_slots_of_ne _ eq _)

/-- A row that is reserved after a step was that same row before, or has aged. -/
lemma Effect.reserved_or_aged (inv : Inv s) (effect : Effect s e s')
    (j : Fin kHandleTableCapacity) (reserved : (s'.table.slots j).state = .reserved) :
    s'.table.slots j = s.table.slots j ∨ age (s.table.slots j) < age (s'.table.slots j) := by
  cases effect with
  | insert | publish | pin | detachMark | replace | adoptMark | adoptFinish =>
    exact reserved_setSlot (fun eq => by cases eq) j reserved
  | reserve _ _ _ _ _ _ row =>
    refine reserved_setSlot (fun _ => ?_) j reserved
    rw [row, age_closedAt]
    simp only [HandleSlot.age, HandleSlot.reservedAt_generation]
    omega
  | abort | detachFinish =>
    refine reserved_setSlot (fun eq => ?_) j reserved
    rw [HandleSlot.closedAt_state] at eq
    split at eq <;> cases eq
  | unpin used =>
    refine reserved_setSlot (fun eq => ?_) j reserved
    rcases used with rfl | rfl <;> cases eq
  | drainDetach =>
    have row := inv.closeRows_slots j
    have eq := (congrArg HandleSlot.state row).symm.trans reserved
    rw [HandleSlot.closedAt_state] at eq
    split at eq <;> cases eq
  | _ => exact .inl rfl

lemma ReservedAs.mono (inv : Inv s) (st : Step s e s')
    (known : ReservedAs s reservation rights) : ReservedAs s' reservation rights := by
  obtain ⟨decoded, decodes, age, knows⟩ := known
  have effect := st.effect inv
  refine ⟨decoded, decodes, age.trans (effect.age_le inv decoded.slot), fun reserved same => ?_⟩
  rcases effect.reserved_or_aged inv decoded.slot reserved with eq | aged
  · rw [eq] at reserved same ⊢
    exact knows reserved same
  · simp only [HandleSlot.age, reserved, same, HandleSlotState.phase] at aged age
    omega

lemma Effect.reservedAs {s s' type rights reservation}
    (effect : Effect s (.reserve type rights (.ok reservation)) s') :
    ReservedAs s' reservation rights := by
  cases effect with
  | quiet q => cases q
  | reserve _ _ _ _ pos lt _ =>
    refine ⟨_, decodeHandleNospec_handleEncode pos (Nat.succ_pos _) lt, ?_, fun _ _ => ?_⟩
    · refine le_of_le_of_eq ?_ (age_setSlot_self ..).symm
      exact Nat.le_refl _
    · exact congrArg HandleSlot.rights (HandleTable.setSlot_slots_self ..)

end DuetOS.HandleTable
