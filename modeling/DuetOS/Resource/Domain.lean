import DuetOS.Lib.Lts
import DuetOS.Lib.Slots
import DuetOS.Lib.Word

/-!
# Resource domains

A resource domain accounts for the Sections and ChannelCores of one process tree. The service keeps
a table of domains and a table of charges for each class of resource; every entry point is one
section under its lock.

The two classes have the same code over different fields, so a row has one `ResourceAccount` for
each class (`section_objects`, `section_pages` and their limits; `channel_objects`, `channel_bytes`
and theirs), and `tryCharge` and `releaseCharge` are written once. Pages are 32-bit words, bytes
64-bit words.
-/

namespace DuetOS.Resource

open Word Function

def kResourceDomainCapacity : Nat := 64

def kResourceSectionChargeCapacity : Nat := 8

def kResourceChannelChargeCapacity : Nat := 64

def kSandboxSectionObjectLimit : Nat := 2

def kSandboxSectionPageLimitMaximum : Nat := 8

def kTrustedSectionObjectLimit : Nat := 2

def kTrustedSectionPageLimit : Nat := 1024

def kAuthenticatedServiceSectionObjectLimit : Nat := 4

def kAuthenticatedServiceSectionPageLimit : Nat := 2048

def kSandboxChannelObjectLimit : Nat := 2

def kSandboxChannelByteLimit : Nat := 16 * 1024

def kTrustedChannelObjectLimit : Nat := 8

def kTrustedChannelByteLimit : Nat := 64 * 1024

def kAuthenticatedServiceChannelObjectLimit : Nat := 32

def kAuthenticatedServiceChannelByteLimit : Nat := 256 * 1024

/-- `kResourceDomainGenerationMaximum` and the two charge maxima, which are the same. -/
def kResourceGenerationMaximum : Nat := 2251799813685247

inductive ResourceClass where
  | «section»
  | channel
  deriving DecidableEq

/-- How many charges of a class there can be. -/
def ResourceClass.capacity : ResourceClass → Nat
  | .section => kResourceSectionChargeCapacity
  | .channel => kResourceChannelChargeCapacity

def ResourceClass.add : ResourceClass → Nat → Nat → Nat
  | .section => add32
  | .channel => add64

def ResourceClass.sub : ResourceClass → Nat → Nat → Nat
  | .section => sub32
  | .channel => sub64

/-- `ResourceDomainKey`, `ResourceSectionChargeKey` and `ResourceChannelChargeKey`. -/
structure ResourceKey where
  (slot generation : Nat)
  deriving DecidableEq

def kInvalidResourceDomainKey : ResourceKey := ⟨kResourceDomainCapacity, 0⟩

/-- `ResourceDomainKeyIsValid` and its siblings for charge keys, for a table of this capacity. -/
def resourceKeyIsValid (capacity : Nat) (key : ResourceKey) : Bool :=
  key.slot < capacity ∧ key.generation ≠ 0 ∧ key.generation ≤ kResourceGenerationMaximum

inductive ResourceDomainProfile where
  | sandbox | trusted | authenticatedService
  deriving DecidableEq

inductive ResourceDomainState where
  | retired | live | closing
  deriving DecidableEq

inductive ResourceSectionPoolClass where
  | ordinary | authenticatedService
  deriving DecidableEq

/-- The objects and the amount charged to a domain in one class, with their limits. -/
@[ext]
structure ResourceAccount where
  (objects amount objectLimit amountLimit : Nat)
  deriving DecidableEq

structure ResourceDomainRow where
  state : ResourceDomainState
  profile : ResourceDomainProfile
  sectionPoolClass : ResourceSectionPoolClass
  (generation ownerReferences : Nat)
  accounts : ResourceClass → ResourceAccount

/-- `ResourceSectionChargeState` and `ResourceChannelChargeState`. -/
inductive ResourceChargeState where
  | retired | live
  deriving DecidableEq

/-- `ResourceSectionChargeRow`, whose amount is `pages`, and `ResourceChannelChargeRow`, whose
amount is `queued_buffer_bytes`. -/
structure ResourceChargeRow where
  state : ResourceChargeState
  generation : Nat
  domain : ResourceKey
  amount : Nat
  deriving DecidableEq

/-- `g_resource_domains`, and `g_section_charges` and `g_channel_charges`. -/
structure State where
  domains : Fin kResourceDomainCapacity → ResourceDomainRow
  charges : (c : ResourceClass) → Fin c.capacity → ResourceChargeRow

def State.zero : State where
  domains _ := ⟨.retired, .sandbox, .ordinary, 0, 0, fun _ => ⟨0, 0, 0, 0⟩⟩
  charges _ _ := ⟨.retired, 0, ⟨0, 0⟩, 0⟩

def resolve {capacity : Nat} (key : ResourceKey) (generation : Fin capacity → Nat) :
    Option (Fin capacity) :=
  if valid : resourceKeyIsValid capacity key then
    let slot : Fin capacity := ⟨key.slot, (of_decide_eq_true valid).1⟩
    if generation slot = key.generation then some slot else none
  else none

section

variable (row : ResourceDomainRow) (s : State) (chargeKey : ResourceKey) (domain : ResourceKey)
  (c : ResourceClass)
  (key : ResourceKey)

def resolveDomainExactLocked : Option (Fin kResourceDomainCapacity) :=
  resolve key fun slot => (s.domains slot).generation

/-- C++ `ResolveSectionChargeExactLocked` and `ResolveChannelChargeExactLocked`. -/
def resolveChargeExactLocked : Option (Fin c.capacity) :=
  resolve key fun slot => (s.charges c slot).generation

def retireDomainLocked : ResourceDomainRow :=
  { row with
    ownerReferences := 0
    accounts := fun c => { row.accounts c with objects := 0, amount := 0 }
    state := .retired }

def State.setDomain (slot : Fin kResourceDomainCapacity) (row : ResourceDomainRow) : State :=
  { s with domains := update s.domains slot row }

def State.setCharge (slot : Fin c.capacity) (row : ResourceChargeRow) : State :=
  { s with charges := update s.charges c (update (s.charges c) slot row) }

def uncharged : Bool :=
  (row.accounts .section).objects = 0 ∧ (row.accounts .section).amount = 0 ∧
    (row.accounts .channel).objects = 0 ∧ (row.accounts .channel).amount = 0

def createDomain (profile : ResourceDomainProfile) (poolClass : ResourceSectionPoolClass)
    (objectLimit pageLimit channelObjectLimit channelByteLimit : Nat) :
    Option ResourceKey × State :=
  if objectLimit = 0 ∨ pageLimit = 0 ∨ channelObjectLimit = 0 ∨ channelByteLimit = 0 then (none, s)
  else
    match (List.finRange kResourceDomainCapacity).find? fun slot =>
      (s.domains slot).state = .retired ∧
        (s.domains slot).generation < kResourceGenerationMaximum with
    | none => (none, s)
    | some slot =>
      let generation := add64 (s.domains slot).generation 1
      (some ⟨slot, generation⟩, s.setDomain slot
        { state := .live
          profile
          sectionPoolClass := poolClass
          generation
          ownerReferences := 1
          accounts := fun
            | .section => ⟨0, 0, objectLimit, pageLimit⟩
            | .channel => ⟨0, 0, channelObjectLimit, channelByteLimit⟩ })

def resourceDomainCreateSandbox (frameBudgetPages : Nat) : Option ResourceKey × State :=
  if frameBudgetPages = 0 then (none, s)
  else
    createDomain s .sandbox .ordinary kSandboxSectionObjectLimit
      (if frameBudgetPages < kSandboxSectionPageLimitMaximum then frameBudgetPages
        else kSandboxSectionPageLimitMaximum)
      kSandboxChannelObjectLimit kSandboxChannelByteLimit

def resourceDomainCreateTrusted : Option ResourceKey × State :=
  createDomain s .trusted .ordinary kTrustedSectionObjectLimit kTrustedSectionPageLimit
    kTrustedChannelObjectLimit kTrustedChannelByteLimit

def resourceDomainCreateBoundedAuthenticatedService
    (requestedSectionObjects requestedSectionPages : Nat)
    : Option ResourceKey × State :=
  if requestedSectionObjects = 0 ∨
    requestedSectionObjects > kAuthenticatedServiceSectionObjectLimit ∨
      requestedSectionPages = 0 ∨ requestedSectionPages > kAuthenticatedServiceSectionPageLimit then
    (none, s)
  else
    createDomain s .authenticatedService .authenticatedService requestedSectionObjects
      requestedSectionPages kAuthenticatedServiceChannelObjectLimit
      kAuthenticatedServiceChannelByteLimit

def resourceDomainCreateAuthenticatedService : Option ResourceKey × State :=
  resourceDomainCreateBoundedAuthenticatedService s kAuthenticatedServiceSectionObjectLimit
    kAuthenticatedServiceSectionPageLimit

def resourceDomainRetain : Bool × State :=
  match resolveDomainExactLocked s key with
  | none => (false, s)
  | some slot =>
    let row := s.domains slot
    if row.state ≠ .live ∨ row.ownerReferences = 0 ∨ row.ownerReferences = max32 then (false, s)
    else (true, s.setDomain slot { row with ownerReferences := add32 row.ownerReferences 1 })

def resourceDomainRelease : Bool × State :=
  match resolveDomainExactLocked s key with
  | none => (false, s)
  | some slot =>
    let row := s.domains slot
    if row.state ≠ .live ∨ row.ownerReferences = 0 then (false, s)
    else
      let row := { row with ownerReferences := sub32 row.ownerReferences 1 }
      (true, s.setDomain slot
        (if row.ownerReferences ≠ 0 then row
        else if ¬uncharged row then { row with state := .closing }
        else retireDomainLocked row))

/-- `ResourceDomainTryChargeSection` and `ResourceDomainTryChargeChannel`. -/
def tryCharge (s : State) (domain : ResourceKey) (amount : Nat) :
    Option (ResourceKey × ResourceSectionPoolClass) × State :=
  if amount = 0 then (none, s)
  else
    match resolveDomainExactLocked s domain with
    | none => (none, s)
    | some domainSlot =>
      let row := s.domains domainSlot
      let account := row.accounts c
      if row.state ≠ .live ∨ row.ownerReferences = 0 ∨ account.objects ≥ account.objectLimit ∨
          account.amount > account.amountLimit ∨
          amount > c.sub account.amountLimit account.amount then (none, s)
      else
        match (List.finRange c.capacity).find? fun slot =>
          (s.charges c slot).state = .retired ∧
            (s.charges c slot).generation < kResourceGenerationMaximum with
        | none => (none, s)
        | some slot =>
          let generation := add64 (s.charges c slot).generation 1
          (some (⟨slot, generation⟩, row.sectionPoolClass),
            (s.setCharge c slot ⟨.live, generation, domain, amount⟩).setDomain domainSlot
              { row with
                accounts := update row.accounts c
                  { account with
                    objects := add32 account.objects 1, amount := c.add account.amount amount } })

def resourceDomainTryChargeSection (numPages : Nat) :
    Option (ResourceKey × ResourceSectionPoolClass) × State :=
  tryCharge .section s domain numPages

def resourceDomainTryChargeChannel (queuedBufferBytes : Nat) : Option ResourceKey × State :=
  ((tryCharge .channel s domain queuedBufferBytes).1.map Prod.fst,
    (tryCharge .channel s domain queuedBufferBytes).2)

/-- `ResourceDomainReleaseSection` and `ResourceDomainReleaseChannel`. -/
def releaseCharge (s : State) (chargeKey : ResourceKey) : Bool × State :=
  match resolveChargeExactLocked s c chargeKey with
  | none => (false, s)
  | some slot =>
    let charge := s.charges c slot
    if charge.state ≠ .live ∨ charge.amount = 0 then (false, s)
    else
      match resolveDomainExactLocked s charge.domain with
      | none => (false, s)
      | some domainSlot =>
        let row := s.domains domainSlot
        let account := row.accounts c
        if (row.state ≠ .live ∧ row.state ≠ .closing) ∨ account.objects = 0 ∨
            account.amount < charge.amount then (false, s)
        else
          let row := { row with
            accounts := update row.accounts c
              { account with
                objects := sub32 account.objects 1
                amount := c.sub account.amount charge.amount } }
          (true,
            (s.setCharge c slot
              ⟨.retired, charge.generation, kInvalidResourceDomainKey, 0⟩).setDomain
              domainSlot
              (if row.state = .closing ∧ uncharged row then retireDomainLocked row else row))

def resourceDomainReleaseSection : Bool × State :=
  releaseCharge .section s chargeKey

def resourceDomainReleaseChannel : Bool × State :=
  releaseCharge .channel s chargeKey

end

inductive Event where
  | create (result : Option ResourceKey)
  | retain (key : ResourceKey) (result : Bool)
  | release (key : ResourceKey) (result : Bool)
  | charge (c : ResourceClass) (domain : ResourceKey) (amount : Nat) (result : Option ResourceKey)
  | releaseCharge (c : ResourceClass) (key : ResourceKey) (result : Bool)
  deriving DecidableEq

inductive Step : State → Event → State → Prop where
  | createSandbox :
    resourceDomainCreateSandbox s frameBudgetPages = (result, s') →
    Step s (.create result) s'
  | createTrusted :
    resourceDomainCreateTrusted s = (result, s') →
    Step s (.create result) s'
  | createAuthenticatedService :
    resourceDomainCreateAuthenticatedService s = (result, s') →
    Step s (.create result) s'
  | createBoundedAuthenticatedService :
    resourceDomainCreateBoundedAuthenticatedService s requestedSectionObjects
      requestedSectionPages = (result, s') →
    Step s (.create result) s'
  | retain :
    resourceDomainRetain s key = (result, s') →
    Step s (.retain key result) s'
  | release :
    resourceDomainRelease s key = (result, s') →
    Step s (.release key result) s'
  | tryChargeSection {s s' domain numPages result} :
    resourceDomainTryChargeSection s domain numPages = (result, s') →
    Step s (.charge .section domain numPages (result.map Prod.fst)) s'
  | tryChargeChannel :
    resourceDomainTryChargeChannel s domain queuedBufferBytes = (result, s') →
    Step s (.charge .channel domain queuedBufferBytes result) s'
  | releaseSection :
    resourceDomainReleaseSection s key = (result, s') →
    Step s (.releaseCharge .section key result) s'
  | releaseChannel :
    resourceDomainReleaseChannel s key = (result, s') →
    Step s (.releaseCharge .channel key result) s'

abbrev Run := Lts.Run Step

end DuetOS.Resource
