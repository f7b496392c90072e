import DuetOS.Directory.Preservation

/-!
# Reserving a registration

`ServiceDirectoryReserveRegistration` takes the first Empty row whose generations are not used up,
and retires those it passes. The key of the new registration was never given out before.
-/

namespace DuetOS.Directory

open Word DuetOS.Lifecycle Function

variable {directory directory' : ServiceDirectory} {last last' : LastServiceGenerations}
  {calls : Multiset Call}
  {index slot : Fin kServiceDirectoryCapacity} {row : ServiceDirectoryRow}

lemma zero_of_not_occupied (canonical : rowIsCanonical row) (free : row.occupied = false) :
    rowIsZeroExceptState row := by
  have unused : row.state = .empty ∨ row.state = .retired := by
    by_contra used
    rw [ServiceDirectoryRow.occupied, decide_eq_true (not_or.mp used)] at free
    cases free
  rwa [rowIsCanonical, if_pos unused] at canonical

lemma held_of_not_occupied (canonical : rowIsCanonical row) (free : row.occupied = false) :
    row.held = 0 ∧ row.served = 0 := by
  have zero := zero_of_not_occupied canonical free
  simp only [rowIsZeroExceptState, decide_eq_true_eq] at zero
  obtain ⟨_, _, _, _, _, _, _, _, _, count, _, _, _, closing, _, _, _, _, _, _, trackers⟩ := zero
  have queue : row.queue = [] := List.length_eq_zero_iff.mp ((length_queue row).trans count)
  have receipts : row.acceptedReceipts = 0 := Slots.gather_eq_zero fun index => by
    rw [trackers index]
    rfl
  constructor
  · rw [ServiceDirectoryRow.held, ServiceDirectoryRow.queueReceipts, queue, receipts, closing]
    rfl
  · refine Slots.gather_eq_zero fun index => ?_
    rw [trackers index]
    rfl

/-- The directory with some Empty rows retired. -/
inductive Retires (directory : ServiceDirectory) : ServiceDirectory → Prop where
  | refl : Retires directory directory
  | retire {directory' : ServiceDirectory} {slot : Fin kServiceDirectoryCapacity} :
    Retires directory directory' → (directory'.rows slot).state = .empty →
    Retires directory (directory'.setRow slot (.zero .retired))

def reservedRow (row : ServiceDirectoryRow) (name : ServiceDirectoryName) (manifestSlot : Nat)
    (owner : ServiceInstanceToken) (credential : ServiceEndpointCredentialSnapshot)
    (key : ServiceKey) :
    ServiceDirectoryRow :=
  { row with
    name, owner, ownerCredential := credential, key, reservationAuthority := key.generation,
    manifestSlot, state := .reserved }

variable {name : ServiceDirectoryName} {manifestSlot : Nat} {owner : ServiceInstanceToken}
  {credential : ServiceEndpointCredentialSnapshot} {result : ServiceDirectoryReserveResult}

/-- What the search for a row does. -/
inductive Reserves (name : ServiceDirectoryName) (manifestSlot : Nat) (owner : ServiceInstanceToken)
    (credential : ServiceEndpointCredentialSnapshot) (directory : ServiceDirectory)
    (last : LastServiceGenerations) : ServiceDirectoryReserveResult → ServiceDirectory →
    LastServiceGenerations → Prop where
  | full {directory' : ServiceDirectory} {status : ServiceDirectoryStatus} :
    Retires directory directory' → status ≠ .ok → status ≠ .corruptState →
    Reserves name manifestSlot owner credential directory last (reserveFailure status)
      directory' last
  | reserve {directory' : ServiceDirectory} {slot : Fin kServiceDirectoryCapacity} :
    Retires directory directory' → (directory'.rows slot).state = .empty →
    last slot < kServiceKeyGenerationMaximum →
    Reserves name manifestSlot owner credential directory last
      ⟨.ok, ⟨⟨slot, last slot + 1⟩, last slot + 1⟩⟩
      (directory'.setRow slot (reservedRow (directory'.rows slot) name manifestSlot owner credential
        ⟨slot, last slot + 1⟩))
      (update last slot (last slot + 1))

lemma reserveRow_spec (retired : Retires directory₀ directory)
    (eq : reserveRow name manifestSlot owner credential slots exhausted directory last =
      (result, directory', last')) :
    Reserves name manifestSlot owner credential directory₀ last result directory' last' := by
  induction slots generalizing directory exhausted with
  | nil =>
    cases eq
    refine .full retired ?_ ?_ <;> cases exhausted <;> decide
  | cons slot slots ih =>
    rw [reserveRow] at eq
    split at eq
    · exact ih retired eq
    next used =>
    have empty := not_not.mp used
    split at eq
    · exact ih (.retire retired empty) eq
    next generation allocated =>
    unfold allocateServiceGeneration at allocated
    split at allocated
    next less =>
      cases allocated
      cases eq
      exact .reserve retired empty less
    · cases allocated

lemma reserveRegistration_spec (sound : DirectorySound directory last calls)
    (eq : serviceDirectoryReserveRegistration directory last name manifestSlot owner credential =
      (result, directory', last')) :
    (result.status ≠ .ok ∧ result.status ≠ .corruptState ∧ directory' = directory ∧ last' = last) ∨
    serviceDirectoryNameIsCanonical name ∧ manifestSlot < kServiceDirectoryCapacity ∧
      serviceInstanceTokenIsValid owner ∧ serviceEndpointCredentialSnapshotIsCanonical credential ∧
      (∀ index, (directory.rows index).occupied →
        nameEquals (directory.rows index).name name = false ∧
        (directory.rows index).owner.start.serviceIdentity ≠ owner.start.serviceIdentity) ∧
      Reserves name manifestSlot owner credential directory last result directory' last' := by
  unfold serviceDirectoryReserveRegistration at eq
  rw [sound.enters] at eq
  split at eq
  · cases eq
    exact .inl ⟨nofun, nofun, rfl, rfl⟩
  next arguments =>
  simp only [not_or, not_not, not_le] at arguments
  obtain ⟨named, manifest, owned, credentialed⟩ := arguments
  rw [if_neg (by decide)] at eq
  split at eq
  next status conflict =>
    cases eq
    obtain ⟨index, _, found⟩ := List.exists_of_findSome?_eq_some conflict
    dsimp only at found
    refine .inl ⟨?_, ?_, rfl, rfl⟩ <;> (repeat' split at found) <;> cases found <;> exact nofun
  next free =>
  refine .inr ⟨named, manifest, owned, credentialed, fun index occupied => ?_,
    reserveRow_spec .refl eq⟩
  have none := List.findSome?_eq_none_iff.mp free index (List.mem_finRange index)
  rw [if_neg (not_not.mpr occupied)] at none
  split at none
  · cases none
  next differs =>
  split at none
  · cases none
  next other => exact ⟨Bool.not_eq_true _ ▸ differs, other⟩

lemma occupied_of_empty (empty : row.state = .empty) : row.occupied = false := by
  rw [ServiceDirectoryRow.occupied, empty]
  rfl

lemma setRow_self : (directory.setRow index row).rows index = row := update_self ..

lemma setRow_of_ne (ne : other ≠ index) :
    (directory.setRow index row).rows other = directory.rows other := update_of_ne ne ..

/-- A row without a registration in the place of another. -/
lemma DirectorySound.vacate (sound : DirectorySound directory last calls)
    (free : (directory.rows index).occupied = false) (free' : row.occupied = false)
    (canonical : rowIsCanonical row) : DirectorySound (directory.setRow index row) last calls := by
  have elsewhere : ∀ {i}, ((directory.setRow index row).rows i).occupied → i ≠ index := by
    rintro i used rfl
    rw [setRow_self, free'] at used
    cases used
  refine { sound with
    row := fun used => ?_, idle := fun {i} unused => ?_, slot := fun used => ?_,
    live := fun mem works => ?_, name := fun used_i used_j same => ?_,
    identity := fun used_i used_j same => ?_, generation := fun used => ?_ }
  · have ne := elsewhere used
    rw [setRow_of_ne ne] at used ⊢
    exact sound.row used
  · rcases eq_or_ne i index with rfl | ne
    · rw [setRow_self]
      exact canonical
    · rw [setRow_of_ne ne] at unused ⊢
      exact sound.idle unused
  · have ne := elsewhere used
    rw [setRow_of_ne ne] at used ⊢
    exact sound.slot used
  · obtain ⟨i, used, same⟩ := sound.live mem works
    have ne : i ≠ index := by
      rintro rfl
      rw [free] at used
      cases used
    refine ⟨i, ?_⟩
    rw [setRow_of_ne ne]
    exact ⟨used, same⟩
  · have ne_i := elsewhere used_i
    have ne_j := elsewhere used_j
    rw [setRow_of_ne ne_i] at used_i same
    rw [setRow_of_ne ne_j] at used_j same
    exact sound.name used_i used_j same
  · have ne_i := elsewhere used_i
    have ne_j := elsewhere used_j
    rw [setRow_of_ne ne_i] at used_i same
    rw [setRow_of_ne ne_j] at used_j same
    exact sound.identity used_i used_j same
  · have ne := elsewhere used
    rw [setRow_of_ne ne] at used ⊢
    exact sound.generation used

lemma install_accounts (held : row.held = 0) (served : row.served = 0)
    (canonical : rowIsCanonical (directory.rows index))
    (free : (directory.rows index).occupied = false) :
    rowsHeld (directory.setRow index row) = rowsHeld directory ∧
      rowsServed (directory.setRow index row) = rowsServed directory := by
  have nothing := held_of_not_occupied canonical free
  constructor
  · have trade := rowsHeld_setRow directory index row
    rwa [nothing.1, held, add_zero, add_zero] at trade
  · have trade := rowsServed_setRow directory index row
    rwa [nothing.2, served, add_zero, add_zero] at trade

lemma Retires.sound (retires : Retires directory directory')
    (sound : DirectorySound directory last calls) :
    DirectorySound directory' last calls ∧ rowsHeld directory' = rowsHeld directory ∧
      rowsServed directory' = rowsServed directory ∧
      ∀ index, (directory'.rows index).occupied → directory'.rows index = directory.rows index := by
  induction retires with
  | refl => exact ⟨sound, rfl, rfl, fun _ _ => rfl⟩
  | @retire directory' slot _ empty ih =>
    obtain ⟨sound', held, served, kept⟩ := ih
    have free := occupied_of_empty empty
    obtain ⟨held', served'⟩ := @install_accounts directory' slot (.zero .retired) (zero_held _)
      (zero_served _) (sound'.idle free) free
    refine ⟨sound'.vacate free rfl rfl, held'.trans held, served'.trans served,
      fun index used => ?_⟩
    have ne : index ≠ slot := by
      rintro rfl
      rw [setRow_self] at used
      cases used
    rw [setRow_of_ne ne] at used ⊢
    exact kept index used

lemma Retires.occupied (retires : Retires directory directory') (index) :
    (directory'.rows index).occupied = (directory.rows index).occupied := by
  induction retires with
  | refl => rfl
  | @retire directory' slot _ empty ih =>
    rw [← ih]
    rcases eq_or_ne index slot with rfl | ne
    · rw [setRow_self, occupied_of_empty empty]
      rfl
    · rw [setRow_of_ne ne]

lemma reservedRow_sound (canonical : rowIsCanonical row) (free : row.occupied = false)
    (named : serviceDirectoryNameIsCanonical name)
    (manifest : manifestSlot < kServiceDirectoryCapacity)
    (owned : serviceInstanceTokenIsValid owner)
    (credentialed : serviceEndpointCredentialSnapshotIsCanonical credential)
    (valid : serviceKeyIsValid key) :
    RowSound (reservedRow row name manifestSlot owner credential key) 0 := by
  have zero := zero_of_not_occupied canonical free
  clear canonical free
  simp only [rowIsZeroExceptState, decide_eq_true_eq] at zero
  cases row
  obtain ⟨_, _, _, _, _, _, rfl, rfl, rfl, rfl, rfl, rfl, rfl, rfl, rfl, rfl, ready, rfl, pins,
    cells, trackers⟩ := zero
  cases funext pins
  cases funext trackers
  exact {
    canonical := {
      name := named
      owner := owned
      credential := credentialed
      key := valid
      manifestSlot := manifest
      operations := ⟨fun _ => rfl,
        List.countP_eq_zero.mpr fun _ _ => by simp [reservedRow], show 0 < _ by decide⟩
      queue := {
        head := show 0 < _ by decide
        count := Nat.zero_le _
        cells := fun cell lt => (congrArg queuedChannelIsCanonical
          (cells ⟨cell, lt⟩)).trans zero_canonical
        used := nofun }
      accepted := ⟨Multiset.card_eq_zero.mpr (Slots.gather_eq_zero fun _ => rfl),
        show 0 < _ by decide, fun _ => rfl⟩
      closing := ⟨Nat.zero_le _, Nat.zero_le _, Nat.zero_le _, nofun,
        fun active => absurd rfl active, fun _ => rfl⟩
      state := .inl ⟨rfl, rfl, rfl, rfl, rfl, rfl, rfl, rfl, rfl, Bool.not_eq_true _ ▸ ready, rfl⟩ }
    registered := fun call mem => absurd mem (Multiset.notMem_zero call)
    pins := fun _ => Nat.zero_le _
    publishers := rfl
    closers := ⟨rfl, fun mem => absurd mem (Multiset.notMem_zero _)⟩
    trackers := {
      generation := fun _ => Nat.zero_le _
      drivers := Slots.gather_eq_zero fun _ => rfl
      claims := Multiset.nodup_zero
      claimed := fun mem => absurd mem (Multiset.notMem_zero _) } }

lemma DirectorySound.unregistered (sound : DirectorySound directory last calls)
    {key : ServiceKey} (slot_eq : key.slot = slot) (later : last slot < key.generation) :
    registered key calls = 0 := by
  refine registered_eq_zero fun call mem works => ?_
  obtain ⟨index, occupied, rfl⟩ := sound.live mem works
  obtain rfl : index = slot := Fin.ext ((sound.slot occupied).symm.trans slot_eq)
  exact absurd (sound.generation occupied) (Nat.not_le.mpr later)

/-- A new registration in an Empty row. -/
lemma DirectorySound.register (sound : DirectorySound directory last calls)
    (free : (directory.rows slot).occupied = false)
    (room : last slot < kServiceKeyGenerationMaximum)
    (row_sound : RowSound row 0) (key : row.key = ⟨slot, last slot + 1⟩)
    (names : ∀ index, (directory.rows index).occupied →
      nameEquals (directory.rows index).name row.name = false ∧
      nameEquals row.name (directory.rows index).name = false)
        (identities : ∀ index, (directory.rows index).occupied →
      (directory.rows index).owner.start.serviceIdentity ≠ row.owner.start.serviceIdentity) :
    DirectorySound (directory.setRow slot row) (update last slot (last slot + 1)) calls := by
  have nobody : registered row.key calls = 0 := by
    rw [key]
    exact sound.unregistered rfl (Nat.lt_succ_self _)
  have other : ∀ {i}, (directory.rows i).occupied → i ≠ slot := by
    rintro i used rfl
    rw [free] at used
    cases used
  refine { sound with
    row := fun {i} used => ?_, idle := fun {i} unused => ?_, slot := fun {i} used => ?_,
    live := fun mem works => ?_, name := fun {i j} used_i used_j same => ?_,
    identity := fun {i j} used_i used_j same => ?_, generation := fun {i} used => ?_,
    last := fun i => ?_ }
  · rcases eq_or_ne i slot with rfl | ne
    · rw [setRow_self, nobody]
      exact row_sound
    · rw [setRow_of_ne ne] at used ⊢
      exact sound.row used
  · have ne : i ≠ slot := by
      rintro rfl
      rw [setRow_self, row_sound.canonical.occupied] at unused
      cases unused
    rw [setRow_of_ne ne] at unused ⊢
    exact sound.idle unused
  · rcases eq_or_ne i slot with rfl | ne
    · rw [setRow_self, key]
    · rw [setRow_of_ne ne] at used ⊢
      exact sound.slot used
  · obtain ⟨i, used, same⟩ := sound.live mem works
    refine ⟨i, ?_⟩
    rw [setRow_of_ne (other used)]
    exact ⟨used, same⟩
  · rcases eq_or_ne i slot with eq_i | ne_i <;> rcases eq_or_ne j slot with eq_j | ne_j
    · exact eq_i.trans eq_j.symm
    · rw [setRow_of_ne ne_j] at used_j same
      rw [eq_i, setRow_self, (names j used_j).2] at same
      cases same
    · rw [setRow_of_ne ne_i] at used_i same
      rw [eq_j, setRow_self, (names i used_i).1] at same
      cases same
    · rw [setRow_of_ne ne_i] at used_i same
      rw [setRow_of_ne ne_j] at used_j same
      exact sound.name used_i used_j same
  · rcases eq_or_ne i slot with eq_i | ne_i <;> rcases eq_or_ne j slot with eq_j | ne_j
    · exact eq_i.trans eq_j.symm
    · rw [setRow_of_ne ne_j] at used_j same
      rw [eq_i, setRow_self] at same
      exact absurd same.symm (identities j used_j)
    · rw [setRow_of_ne ne_i] at used_i same
      rw [eq_j, setRow_self] at same
      exact absurd same (identities i used_i)
    · rw [setRow_of_ne ne_i] at used_i same
      rw [setRow_of_ne ne_j] at used_j same
      exact sound.identity used_i used_j same
  · rcases eq_or_ne i slot with rfl | ne
    · rw [setRow_self, key, update_self]
    · rw [setRow_of_ne ne] at used ⊢
      rw [update_of_ne ne]
      exact sound.generation used
  · rcases eq_or_ne i slot with rfl | ne
    · rw [update_self]
      exact room
    · rw [update_of_ne ne]
      exact sound.last i

lemma nameEquals_comm (lhs rhs) : nameEquals lhs rhs = nameEquals rhs lhs := by
  rw [nameEquals, nameEquals, decide_eq_decide]
  constructor
  all_goals
    rintro ⟨length, bytes⟩
    exact ⟨length.symm, fun index lt => (bytes index (length ▸ lt)).symm⟩

lemma reserveRegistration_sound (sound : Sound s)
    (eq : serviceDirectoryReserveRegistration s.directory s.last name manifestSlot owner
      credential =
      (result, directory', last')) :
    result.status ≠ .corruptState ∧ Sound { s with directory := directory', last := last' } ∧
      Registers s (.reserveRegistration result)
        { s with directory := directory', last := last' } := by
  obtain ⟨refused, fine, rfl, rfl⟩ | ⟨named, manifest, owned, credentialed, free, reserves⟩ :=
    reserveRegistration_spec sound.directory eq
  · exact ⟨fine, sound, .keeps (if_neg refused) rfl fun _ used => ⟨used, rfl⟩⟩
  · cases reserves with
    | full retires refused fine =>
      obtain ⟨sound', held, served, kept⟩ := retires.sound sound.directory
      refine ⟨fine, sound.rows sound' held served, .keeps (if_neg refused) rfl fun index used => ?_⟩
      rw [← kept index used]
      exact ⟨used, rfl⟩
    | @reserve directory'' slot retires empty room =>
      obtain ⟨sound', held, served, kept⟩ := retires.sound sound.directory
      have unoccupied := occupied_of_empty empty
      have canonical := sound'.idle unoccupied
      have valid : serviceKeyIsValid ⟨slot, s.last slot + 1⟩ :=
        decide_eq_true ⟨slot.isLt, Nat.succ_ne_zero _, room⟩
      have row_sound := reservedRow_sound canonical unoccupied named manifest owned
        credentialed valid
      have nothing := held_of_not_occupied canonical unoccupied
      obtain ⟨held', served'⟩ := @install_accounts directory'' slot
        (reservedRow (directory''.rows slot) name manifestSlot owner credential
          ⟨slot, s.last slot + 1⟩)
        nothing.1 nothing.2 canonical unoccupied
      refine ⟨nofun, sound.rows
        (sound'.register unoccupied room row_sound rfl (fun index used => ?_)
        fun index used => ?_) (held'.trans held) (served'.trans served),
        .reserves rfl rfl ((retires.occupied slot).symm.trans unoccupied) ?_ ?_
          fun index ne used => ?_⟩
      · have differs := (free index (by rw [← kept index used]; exact used)).1
        rw [← kept index used] at differs
        refine ⟨differs, ?_⟩
        rw [nameEquals_comm]
        exact differs
      · rw [kept index used]
        exact (free index (by rw [← kept index used]; exact used)).2
      · rw [setRow_self]
        exact row_sound.canonical.occupied
      · rw [setRow_self]
        rfl
      · rw [setRow_of_ne ne] at used ⊢
        rw [← kept index used]
        exact ⟨used, rfl⟩

end DuetOS.Directory
