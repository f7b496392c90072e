import Mathlib.Logic.Basic

/-!
# Directory statuses

What the operations of the service directory report, also to the lifecycle broker that publishes
through it.
-/

namespace DuetOS.Directory

inductive ServiceDirectoryStatus where
  | ok | invalidArgument | notInitialized | alreadyInitialized | corruptState | nameConflict
  | serviceConflict | capacityExhausted | generationExhausted | notFound | staleKey | ownerMismatch
  | credentialMismatch | protocolMismatch | notReady | closing | reservationConsumed | busy
  | operationIdentityExhausted | staleOperation | queueFull | queueEmpty | acceptedCapacityExhausted
  | staleAcceptedChannel | endpointCreateFailed | endpointActivationFailed | endpointReleaseFailed
  | handleReserveFailed | handlePublishFailed | handleRollbackFailed
  deriving DecidableEq

end DuetOS.Directory
