import DuetOS.Directory.Sound

/-!
# Registrations and operation pins

The sections that publish, abort and pin a registration leave its channels alone: they keep the row
sound, hold the same receipts and serve the same handles.
-/

namespace DuetOS.Directory

open Word DuetOS.Lifecycle Function

/-- A section that leaves the trackers, the publishers and the close alone. -/
lemma RowSound.admin (sound : RowSound row calls) (canonical : RowCanonical row')
    (key : row'.key = row.key) (owner : row'.owner = row.owner)
    (channels : row'.acceptedChannels = row.acceptedChannels)
    (publishers : row'.externalPublishers = row.externalPublishers)
    (driver : row'.closeDriverActive = row.closeDriverActive)
    (outstanding : row'.closeBatchOutstanding = row.closeBatchOutstanding)
    (pins : ∀ index, (row'.operationSlots index).generation ≤ max32)
    (closing : row.state = .closing → row'.state = .closing) : RowSound row' calls where
  canonical
  registered := key ▸ sound.registered
  pins
  publishers := publishers.trans sound.publishers
  closers := {
    count := driver.trans sound.closers.count
    closer := fun mem => by
      obtain ⟨owned, state, count⟩ := sound.closers.closer mem
      exact ⟨owned.trans owner.symm, closing state, outstanding.trans count⟩ }
  trackers := channels ▸ sound.trackers

/-- The facts about channels do not depend on the state of the registration. -/
lemma RowCanonical.restate (canonical : RowCanonical row) {authority ready state reason}
    (facts : let row' :=
      { row with reservationAuthority := authority, ready, state, closeReason := reason }
      state = .reserved ∧ ReservedRow row' ∨ state = .active ∧ ActiveRow row' ∨ state = .closing ∧
        ClosingRow row') :
    RowCanonical { row with
      reservationAuthority := authority, ready, state, closeReason := reason } :=
  { canonical with
    operations := { canonical.operations with }, queue := { canonical.queue with },
    accepted := { canonical.accepted with }, closing := { canonical.closing with }, state := facts }

section

variable (sound : RowSound row calls)

include sound

lemma RowSound.publish (reserved : row.state = .reserved) :
    RowSound { row with reservationAuthority := 0, ready := false, state := .active } calls := by
  have facts := sound.canonical.reservedRow reserved
  refine sound.admin (sound.canonical.restate ?_) rfl rfl rfl rfl rfl rfl sound.pins
    fun closing => ?_
  · exact .inr (.inl ⟨rfl, rfl, facts.closing, facts.outstanding, facts.driver, facts.reason⟩)
  · rw [reserved] at closing
    cases closing

lemma RowSound.commitReady (active : row.state = .active) :
    RowSound { row with ready := true } calls := by
  have facts := sound.canonical.activeRow active
  refine sound.admin (sound.canonical.restate ?_) rfl rfl rfl rfl rfl rfl sound.pins id
  exact .inr (.inl ⟨active, facts.authority, facts.closing, facts.outstanding, facts.driver,
    facts.reason⟩)

lemma RowSound.closes {reason} (given : reason ≠ .none)
    (opened : row.state = .reserved ∨ row.state = .active) :
    RowSound { row with ready := false, state := .closing, closeReason := reason } calls := by
  refine sound.admin (sound.canonical.restate ?_) rfl rfl rfl rfl rfl rfl sound.pins fun _ => rfl
  refine .inr (.inr ⟨rfl, ?_, rfl, given⟩)
  rcases opened with reserved | active
  · exact .inr (sound.canonical.reservedRow reserved).authority
  · exact .inl (sound.canonical.activeRow active).authority

lemma RowSound.dropAuthority (closing : row.state = .closing) :
    RowSound { row with reservationAuthority := 0 } calls := by
  have facts := sound.canonical.closingRow closing
  refine sound.admin (sound.canonical.restate ?_) rfl rfl rfl rfl rfl rfl sound.pins id
  exact .inr (.inr ⟨closing, .inl rfl, facts.ready, facts.reason⟩)

/-- A registered row with an operation slot written, when the count of Live slots follows. A
Reserved row has no operations. -/
lemma RowSound.setOperation (opened : row.state ≠ .reserved)
    (canonical : operationSlotIsCanonical operation)
    (bound : operation.generation ≤ max32) (hinted : hint < kServiceDirectoryOperationCapacity)
    (counted : count + (if (row.operationSlots slot).state = .live then 1 else 0) =
      row.activeOperations + if operation.state = .live then 1 else 0)
    : RowSound { row with
      operationSlots := update row.operationSlots slot operation, activeOperations := count,
      nextOperationHint := hint } calls := by
  have pins : ∀ index, (update row.operationSlots slot operation index).generation ≤ max32 := by
    intro index
    rcases eq_or_ne index slot with rfl | ne
    · rw [update_self]
      exact bound
    · rw [update_of_ne ne]
      exact sound.pins index
  refine sound.admin ?_ rfl rfl rfl rfl rfl rfl pins id
  have old := sound.canonical
  exact {
    name := old.name
    owner := old.owner
    credential := old.credential
    key := old.key
    manifestSlot := old.manifestSlot
    operations := {
      slot := fun index => by
        dsimp only
        rcases eq_or_ne index slot with rfl | ne
        · rw [update_self]
          exact canonical
        · rw [update_of_ne ne]
          exact old.operations.slot index
      live := by
        have trade := Slots.countP_update (fun operation => decide (operation.state = .live))
          row.operationSlots slot operation
        have live := old.operations.live
        simp only [ServiceDirectoryRow.liveOperations, decide_eq_true_eq] at trade live ⊢
        omega
      hint := hinted }
    queue := { old.queue with }
    accepted := { old.accepted with }
    closing := { old.closing with }
    state := by
      rcases old.state with ⟨reserved, _⟩ | ⟨active, facts⟩ | ⟨closing, facts⟩
      · exact absurd reserved opened
      · exact .inr (.inl ⟨active, { facts with }⟩)
      · exact .inr (.inr ⟨closing, { facts with }⟩) }

end

end DuetOS.Directory
