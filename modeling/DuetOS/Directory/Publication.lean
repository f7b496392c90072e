import DuetOS.Directory.Effect
import DuetOS.Lifecycle.Effect

/-!
# Publication in broker and directory

`CommitDirectoryPublication` publishes an instance in the broker and its registration in the
directory, while it holds the broker lock. What the directory refuses the broker takes back.
-/

namespace DuetOS.Directory

open DuetOS.Lifecycle

/-- The states that `CommitDirectoryPublication` can change, and what it returns. -/
structure Publication where
  result : ServiceLifecycleDirectoryPublicationResult
  broker : ServiceLifecycleBroker
  directory : ServiceDirectory
  reservation : ServiceRegistrationReservation

/-- C++ `ServiceLifecycleBrokerCommitDirectoryPublication` with the directory it calls. -/
def commitDirectoryPublication (broker : ServiceLifecycleBroker)
    (ticket : ServiceLifecycleStartTicket)
    (process : ServiceInstanceKey) (nowNs : Nat) (directory : ServiceDirectory)
    (reservation : ServiceRegistrationReservation) : Publication :=
  let commit := serviceLifecycleBrokerCommitDirectoryPublication broker ticket process nowNs
    (serviceRegistrationReservationIsValid reservation)
  -- the directory is called if the broker has no reason to refuse
  if (commit .ok).1.lifecycleStatus ≠
    .ok then ⟨(commit .ok).1, (commit .ok).2, directory, reservation⟩
  else
    let published := serviceDirectoryPublishRegistration directory reservation
      ⟨ticket.transition, process⟩
    ⟨(commit published.1).1, (commit published.1).2, published.2,
      if published.1 = .ok then kInvalidServiceRegistrationReservation else reservation⟩

/-- A directory call that is refused changes nothing, and one that is not makes the row of the
reservation Active. -/
lemma publishRegistration_cases (directory reservation owner) :
    (serviceDirectoryPublishRegistration directory reservation owner).1 ≠ .ok ∧
      (serviceDirectoryPublishRegistration directory reservation owner).2 = directory ∨
    (serviceDirectoryPublishRegistration directory reservation owner).1 = .ok ∧
      ∃ index, (directory.rows index).key = reservation.service ∧
        (directory.rows index).owner = owner ∧
        (directory.rows index).state = .reserved ∧
        (serviceDirectoryPublishRegistration directory reservation owner).2 = directory.setRow index
          { directory.rows index with
            reservationAuthority := 0, ready := false, state := .active } := by
  unfold serviceDirectoryPublishRegistration
  split
  · exact .inl ⟨nofun, rfl⟩
  split
  next refused => exact .inl ⟨refused, rfl⟩
  cases resolved : resolveOwned directory reservation.service owner with
  | error status =>
    refine .inl ⟨?_, rfl⟩
    unfold resolveOwned at resolved
    grind
  | ok index =>
    obtain ⟨_, key, same⟩ := resolveOwned_ok resolved
    dsimp only
    split
    · exact .inl ⟨nofun, rfl⟩
    split
    · exact .inl ⟨nofun, rfl⟩
    next checks => exact .inr ⟨rfl, index, key, same, not_not.mp (not_or.mp checks).1, rfl⟩

/-- Either the row of the ticket becomes Running for the instance, the registration Active, and the
reservation is consumed; or nothing changes. The rollback is never rejected. -/
theorem directory_publication_atomic (broker ticket process nowNs directory reservation) :
    let after := commitDirectoryPublication broker ticket process nowNs directory reservation
    ((after.result.lifecycleStatus = .ok ∧ after.result.directoryStatus = .ok ∧
        after.reservation = kInvalidServiceRegistrationReservation) ∧
      (∃ index, ticket = (broker.rows index).ticket broker.brokerEpoch ∧
        after.broker = broker.setRow index
          ((broker.rows index).published ⟨ticket.transition.serviceIdentity, .running,
          ticket.transition.generation, process, true, false⟩ nowNs)) ∧
      ∃ index, (directory.rows index).key = reservation.service ∧
        (directory.rows index).owner = ⟨ticket.transition, process⟩ ∧
          (directory.rows index).state = .reserved ∧
        after.directory = directory.setRow index
          { directory.rows index with
            reservationAuthority := 0, ready := false, state := .active }) ∨
    (after.result.lifecycleStatus ≠ .ok ∧ after.result.directoryStatus = .ok ∨
        after.result.lifecycleStatus = .ok ∧ after.result.directoryStatus ≠ .ok) ∧
      after.broker = broker ∧ after.directory = directory ∧ after.reservation = reservation := by
  intro after
  rcases commitDirectoryPublication_cases broker ticket process nowNs
    (serviceRegistrationReservationIsValid reservation)
    with ⟨status, refuses, _, commit⟩ | ⟨index, _, rfl, ticket_eq, _, _, _, commit⟩
  · have eq : after = ⟨directoryPublicationFailure status .ok, broker, directory, reservation⟩ := by
      unfold after commitDirectoryPublication
      simp only [commit]
      exact if_pos refuses
    rw [eq]
    exact .inr ⟨.inl ⟨refuses, rfl⟩, rfl, rfl, rfl⟩
  -- the broker has published the instance, and the directory decides whether it stays published
  · have published := publishRegistration_cases directory reservation ⟨ticket.transition, process⟩
    unfold after commitDirectoryPublication
    generalize serviceDirectoryPublishRegistration directory reservation
      ⟨ticket.transition, process⟩ = call at published ⊢
    dsimp only
    rw [commit .ok, if_neg (not_not.mpr rfl), if_neg (not_not.mpr rfl), commit call.1]
    rcases published with ⟨refused, same⟩ | ⟨ok, found⟩
    · rw [if_pos refused, if_neg refused, same]
      exact .inr ⟨.inr ⟨rfl, refused⟩, rfl, rfl, rfl⟩
    · rw [if_neg (not_not.mpr ok), if_pos ok]
      rw [ticket_eq] at found ⊢
      exact .inl ⟨⟨rfl, rfl, rfl⟩, ⟨index, rfl, rfl⟩, found⟩

end DuetOS.Directory
