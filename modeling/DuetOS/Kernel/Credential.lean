import DuetOS.Lib.Word
import Mathlib.Data.Fintype.Pi

/-!
# Process keys and credentials

Model of the identities of `kernel/proc/process.h` and `kernel/proc/credentials.h` that services
carry: the exact incarnation of a process, and the immutable security context of a credential
together with the check that it is written in its canonical spelling.
-/

namespace DuetOS

open Word

structure ProcessKey where
  (identity pid : Nat)
  deriving DecidableEq

def kInvalidProcessKey : ProcessKey := ⟨0, 0⟩

def processKeyIsValid (key : ProcessKey) : Bool := key.identity ≠ 0 ∧ key.pid ≠ 0

def kCredentialCapacity : Nat := 64

def kCredentialSupplementalGroupCapacity : Nat := 16

def kCredentialGenerationMaximum : Nat := 2 ^ 51 - 1

def kCredentialInvalidId : Nat := max32

def kCredentialCapabilityKnownMask : Nat := 2 ^ 41 - 1

structure CredentialKey where
  (slot generation : Nat)
  deriving DecidableEq

def credentialKeyIsValid (key : CredentialKey) : Bool :=
  key.slot < kCredentialCapacity ∧ key.generation ≠ 0 ∧
    key.generation ≤ kCredentialGenerationMaximum

inductive Win32IntegrityLevel where
  | invalid | untrusted | low | medium | high | system
  deriving DecidableEq

structure CredentialSecurityContext where
  (realUid effectiveUid savedUid fsUid realGid effectiveGid savedGid fsGid : Nat)
  supplementalGroupCount : Nat
  supplementalGroups : Fin kCredentialSupplementalGroupCapacity → Nat
  (capabilityEffective capabilityPermitted capabilityInheritable capabilityBounding : Nat)
  win32Integrity : Win32IntegrityLevel
  deriving DecidableEq

def CredentialSecurityContext.zero : CredentialSecurityContext :=
  ⟨0, 0, 0, 0, 0, 0, 0, 0, 0, fun _ => 0, 0, 0, 0, 0, .invalid⟩

def idIsStored (id : Nat) : Bool := id ≠ kCredentialInvalidId

def groupsAreCanonical (count : Nat) (groups : Fin kCredentialSupplementalGroupCapacity → Nat)
    (rejectRoot : Bool) : Bool :=
  count ≤ kCredentialSupplementalGroupCapacity ∧
    (∀ index : Fin kCredentialSupplementalGroupCapacity, index.val < count →
      idIsStored (groups index) ∧ ¬(rejectRoot ∧ groups index = 0) ∧
        ∀ before : Fin kCredentialSupplementalGroupCapacity, before.val + 1 = index.val →
          groups before < groups index) ∧
    ∀ index : Fin kCredentialSupplementalGroupCapacity, count ≤ index.val → groups index = 0

def capabilityMaskIsCanonical (mask : Nat) : Bool :=
  mask &&& (max64 ^^^ kCredentialCapabilityKnownMask) = 0

def maskIsSubset (child parent : Nat) : Bool := child &&& (max64 ^^^ parent) = 0

def credentialSecurityContextIsCanonical (context : CredentialSecurityContext) : Bool :=
  idIsStored context.realUid ∧ idIsStored context.effectiveUid ∧ idIsStored context.savedUid ∧
    idIsStored context.fsUid ∧ idIsStored context.realGid ∧ idIsStored context.effectiveGid ∧
    idIsStored context.savedGid ∧ idIsStored context.fsGid ∧
    groupsAreCanonical context.supplementalGroupCount context.supplementalGroups false ∧
    capabilityMaskIsCanonical context.capabilityEffective ∧
    capabilityMaskIsCanonical context.capabilityPermitted ∧
    capabilityMaskIsCanonical context.capabilityInheritable ∧
    capabilityMaskIsCanonical context.capabilityBounding ∧
    maskIsSubset context.capabilityEffective context.capabilityPermitted ∧
    maskIsSubset context.capabilityPermitted context.capabilityBounding ∧
    maskIsSubset context.capabilityInheritable context.capabilityBounding ∧
    context.win32Integrity ≠ .invalid

structure ServiceEndpointCredentialSnapshot where
  key : CredentialKey
  security : CredentialSecurityContext
  deriving DecidableEq

def ServiceEndpointCredentialSnapshot.zero : ServiceEndpointCredentialSnapshot := ⟨⟨0, 0⟩, .zero⟩

def serviceEndpointCredentialSnapshotIsCanonical
    (snapshot : ServiceEndpointCredentialSnapshot) : Bool :=
  credentialKeyIsValid snapshot.key ∧ credentialSecurityContextIsCanonical snapshot.security

end DuetOS
