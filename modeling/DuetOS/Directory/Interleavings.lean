import DuetOS.Directory.Receipts

/-!
# Interleavings of the service directory

What every interleaving of the sections keeps, and the interleaving that overflows an accept queue:
Accept claims the head of a full queue, a Connect takes the free cell, and Accept, whose handle was
not published, gives its channel back to the queue without looking for room. In the sample runs one
service registers in an empty directory and becomes ready; its client connects, and Accept claims
the head of its queue.
-/

namespace DuetOS.Directory

open Word DuetOS.Lifecycle Function

def emptyState : State where
  directory := ⟨kDirectoryInitializeReady, .open, 1, 0, fun _ => .zero .empty⟩
  last := fun _ => 0
  calls := 0
  rollbacks := 0
  created := []
  released := []
  handles := []

lemma emptyState_initialized : Initialized emptyState :=
  ⟨rfl, rfl, by decide, rfl, fun _ => rfl, fun _ => Nat.zero_le _, rfl, rfl, rfl, rfl, rfl⟩

def firstIndex : Fin kServiceDirectoryCapacity := ⟨0, by decide⟩

def sampleName : ServiceDirectoryName := ⟨1, fun index => if index.val = 0 then 97 else 0⟩

def sampleOwner : ServiceInstanceToken := ⟨⟨1, 1⟩, ⟨1, 1⟩⟩

def sampleProcess : ProcessKey := processKeyFromInstance sampleOwner.process

def sampleCredential : ServiceEndpointCredentialSnapshot :=
  ⟨⟨0, 1⟩, { CredentialSecurityContext.zero with win32Integrity := .medium }⟩

def sampleKey : ServiceKey := ⟨0, 1⟩

def samplePin : ServiceDirectoryOperationPin := ⟨sampleKey, 0, 1⟩

def sampleReceipt (n : Nat) : ServiceEndpointOwnerReceipt := ⟨1, ⟨0, n + 1, 1⟩⟩

def sampleAcceptor : KObject := ⟨0, .serviceEndpoint⟩

def reserved : ServiceDirectoryReserveResult × ServiceDirectory ×
    (Fin kServiceDirectoryCapacity → Nat) :=
  serviceDirectoryReserveRegistration emptyState.directory emptyState.last sampleName 0 sampleOwner
    sampleCredential

def publishedDirectory : ServiceDirectory :=
  (serviceDirectoryPublishRegistration reserved.2.1 ⟨sampleKey, 1⟩ sampleOwner).2

def readyDirectory :
    ServiceDirectory :=
    (serviceDirectoryCommitJointReady publishedDirectory sampleKey sampleOwner).2

def openDirectory : ServiceDirectory := (serviceDirectoryLookup readyDirectory sampleName).2

def sampleState (directory : ServiceDirectory) (calls : Multiset Call)
    (created : List ServiceEndpointOwnerReceipt) :
    State :=
  { emptyState with directory, last := reserved.2.2, calls, created }

/-- The sample state is reached without an overflow. -/
def Reached (directory : ServiceDirectory) (calls : Multiset Call)
    (created : List ServiceEndpointOwnerReceipt) : Prop :=
  ∃ es, Lts.Run RoomyStep emptyState es (sampleState directory calls created)

lemma Reached.step (reached : Reached directory calls created)
    (step : RoomyStep (sampleState directory calls created) e
      (sampleState directory' calls' created')) :
    Reached directory' calls' created' :=
  reached.elim fun _ run => ⟨_, run.snoc step⟩

lemma openDirectory_reached : Reached openDirectory 0 [] := by
  have reserved : Reached reserved.2.1 0 [] :=
    ⟨_, .single ⟨.reserveRegistration _ _ _ _ Prod.mk.eta.symm, id⟩⟩
  have published : Reached publishedDirectory 0 [] :=
    reserved.step ⟨.publishRegistration ⟨sampleKey, 1⟩ sampleOwner Prod.mk.eta.symm, id⟩
  have ready : Reached readyDirectory 0 [] :=
    published.step ⟨.commitJointReady sampleKey sampleOwner Prod.mk.eta.symm, id⟩
  exact ready.step ⟨.lookup sampleName Prod.mk.eta.symm, id⟩

/-- The directory with one more pair in the queue, not yet published to the client. -/
def queued (directory : ServiceDirectory) (n : Nat) : ServiceDirectoryStatus × ServiceDirectory :=
  connectEnqueue directory samplePin (sampleReceipt n) sampleAcceptor

def connected (directory : ServiceDirectory) (n : Nat) : ConnectCommit × ServiceDirectory :=
  connectCommit (queued directory n).2 sampleKey (sampleReceipt n).channel true

/-- No section of the client's Connect refuses it. -/
def Connectable (directory : ServiceDirectory) (n : Nat) : Prop :=
  directory.endpointOwner = 1 ∧ connectCheck directory samplePin 1 = .ok ∧
    (queued directory n).1 = .ok ∧
    (connected directory n).1 = ⟨false, true, false, none⟩

instance (directory : ServiceDirectory) (n : Nat) : Decidable (Connectable directory n) :=
  inferInstanceAs (Decidable (_ ∧ _))

lemma Reached.connects (reached : Reached directory calls created) (able : Connectable directory n)
    (valid : serviceEndpointOwnerReceiptIsValid (sampleReceipt n))
    (fresh : sampleReceipt n ∉ created) :
    Reached (connected directory n).2 calls (sampleReceipt n :: created) := by
  obtain ⟨owner, check, enqueue, commit⟩ := able
  have checked : Reached directory (.connecting samplePin ::ₘ calls) created :=
    reached.step ⟨.connectCheck _ _ check, id⟩
  have paired : Reached directory (.paired samplePin (sampleReceipt n) sampleAcceptor ::ₘ calls)
      (sampleReceipt n :: created) :=
        checked.step ⟨.connectCreate _ _ rfl valid owner.symm fresh, id⟩
  have waits : Reached (queued directory n).2
    (.queued sampleKey (sampleReceipt n).channel ::ₘ calls)
      (sampleReceipt n :: created) :=
    paired.step (e := .connectEnqueue samplePin .ok)
      ⟨.connectEnqueue rfl (Prod.ext (x := queued directory n) enqueue rfl), id⟩
  have step := Step.connectCommit (s := sampleState (queued directory n).2
    (.queued sampleKey (sampleReceipt n).channel ::ₘ calls) (sampleReceipt n :: created)) 1
      .ok true rfl
    (Prod.ext (x := connected directory n) commit rfl)
  have last : Reached (connected directory n).2 (0 + calls) (sampleReceipt n :: created) :=
    waits.step ⟨step, id⟩
  rwa [zero_add] at last

/-- The directory in which Accept has claimed the head of the queue. -/
def claimed (directory : ServiceDirectory) :
    Except ServiceDirectoryStatus (ServiceDirectoryAcceptedChannelKey × Option KObject) ×
      ServiceDirectory :=
  acceptClaim directory sampleKey sampleOwner sampleProcess sampleCredential

lemma Reached.accepts (reached : Reached directory calls created)
    (check : acceptCheck directory sampleKey sampleOwner sampleProcess sampleCredential = .ok)
    (claim : (claimed directory).1 = .ok (key, acceptor)) :
    Reached (claimed directory).2 (.claimed key sampleProcess acceptor ::ₘ calls) created := by
  have accepting : Reached directory
    (.accepting sampleKey sampleOwner sampleProcess sampleCredential ::ₘ calls) created :=
    reached.step ⟨.acceptCheck _ _ _ _ check, id⟩
  exact accepting.step (e := .acceptClaim sampleKey (acceptFailure .ok))
    ⟨.acceptClaim rfl (Prod.ext (x := claimed directory) claim rfl), id⟩

def filled : Nat → ServiceDirectory
  | 0 => openDirectory
  | n + 1 => (connected (filled n) n).2

def sampleTracker :
    ServiceDirectoryAcceptedChannelKey := ⟨sampleKey, 0, 1, (sampleReceipt 0).channel⟩

/-- The directory when a ninth client has taken the cell of the channel that Accept claimed from the
full queue, and Accept gives the channel back. -/
def overflowed (directory : ServiceDirectory) : ServiceDirectory :=
  (acceptCommit directory sampleTracker none sampleAcceptor).2

lemma Reached.overflows
    (reached : Reached directory (.claimed sampleTracker sampleProcess sampleAcceptor ::ₘ calls)
    created) :
    ∃ es, Run emptyState es (sampleState (overflowed directory) calls created) :=
  reached.elim fun _ run =>
    ⟨_, (run.mono And.left).snoc (.acceptUnpublished .badState true rfl Prod.mk.eta.symm)⟩

lemma sample_checks : (∀ n : Fin kServiceDirectoryAcceptCapacity, Connectable (filled n) n) ∧
    acceptCheck (filled 8) sampleKey sampleOwner sampleProcess sampleCredential = .ok ∧
    (claimed (filled 8)).1 = .ok (sampleTracker, sampleAcceptor) ∧ Connectable
    (claimed (filled 8)).2 8 ∧
    directoryIsCanonicalLocked (overflowed (connected (claimed (filled 8)).2 8).2) = false ∧
    enterStatus (overflowed (connected (claimed (filled 8)).2 8).2) = .corruptState := by
      decide +kernel

lemma filled_reached (n : Nat) (room : n ≤ kServiceDirectoryAcceptCapacity) :
    Reached (filled n) 0 ((List.range n).reverse.map sampleReceipt) := by
  induction n with
  | zero => exact openDirectory_reached
  | succ n ih =>
    have valid : ∀ n : Fin kServiceDirectoryAcceptCapacity,
        serviceEndpointOwnerReceiptIsValid (sampleReceipt n) := by decide
    have fresh : ∀ n : Fin kServiceDirectoryAcceptCapacity,
        sampleReceipt n ∉ (List.range n).reverse.map sampleReceipt := by decide
    have next := (ih (Nat.le_of_succ_le room)).connects (sample_checks.1 ⟨n, room⟩)
      (valid ⟨n, room⟩) (fresh ⟨n, room⟩)
    rwa [List.range_succ, List.reverse_append]

/-- As long as no Accept gives a channel back to a full queue: the directory is canonical whenever a
section takes its lock, no section finds it corrupt, names and identities are registered once, a key
resolves from its reservation until its row is recycled and never afterwards, and every receipt is
in one place until it is released once. -/
theorem directory_keeps_receipts {s₀ s s' t} {e} {es fs} (start : Initialized s₀)
    (run : Lts.Run RoomyStep s₀ es s)
    (step : RoomyStep s e s') (later : Lts.Run RoomyStep s' fs t) :
    directoryIsCanonicalLocked s.directory ∧ e.status ≠ .corruptState ∧
    (∀ i j, (s.directory.rows i).occupied → (s.directory.rows j).occupied →
      nameEquals (s.directory.rows i).name (s.directory.rows j).name ∨
        (s.directory.rows i).owner.start.serviceIdentity =
        (s.directory.rows j).owner.start.serviceIdentity → i = j) ∧
    (∀ key index, resolveExactLocked s.directory key = some index →
      ∃ e ∈ es, e.reserved = some key) ∧
    (∀ key, e.reserved = some key → resolveExactLocked s.directory key = none ∧
      ∃ index, resolveExactLocked s'.directory key = some index) ∧
    (∀ key index, resolveExactLocked s.directory key = some index →
      resolveExactLocked s'.directory key = some index ∨
        (s'.directory.rows index).state = .empty ∨ (s'.directory.rows index).state = .retired) ∧
    (∀ key index, resolveExactLocked s.directory key = some index →
      resolveExactLocked s'.directory key = none → resolveExactLocked t.directory key = none) ∧
        ReceiptsSettled s := by
  obtain ⟨sound, spent⟩ := run_sound start run
  have fine := step.fine sound
  refine ⟨sound.directory.isCanonical, fine.status, fun i j used_i used_j same => ?_,
    fun _ _ => run_reserved start run, fun _ => fine.reserved sound, fun _ _ => fine.resolving,
    fun key index before after => ?_, sound.receiptsSettled spent⟩
  · exact same.elim (sound.directory.name used_i used_j) (sound.directory.identity used_i used_j)
  · exact (later.stable fine.sound (fine.ends sound before after)
      (fun sound step => (step.fine sound).sound)
      fun sound ended step => (step.fine sound).keyEnded sound ended).1

/-- A service that registered is found by its key, and its queue holds the receipts of eight clients
when it accepts. -/
theorem directory_keeps_receipts_sample :
    ∃ es s e s', Lts.Run RoomyStep emptyState es s ∧ RoomyStep s e s' ∧ s.created.length = 8 ∧
      directoryIsCanonicalLocked s.directory ∧ e.status ≠ .corruptState ∧
      (∃ key, resolveExactLocked s.directory key = some firstIndex ∧
        ∃ e ∈ es, e.reserved = some key) ∧
      ReceiptsSettled s := by
  obtain ⟨es, run⟩ := filled_reached 8 le_rfl
  have resolves : resolveExactLocked (filled 8) sampleKey = some firstIndex := by decide +kernel
  have check := sample_checks.2.1
  generalize filled 8 = directory at run resolves check
  have step : RoomyStep (sampleState directory 0 ((List.range 8).reverse.map sampleReceipt))
      (.acceptCheck sampleKey .ok) _ := ⟨.acceptCheck _ _ _ _ check, id⟩
  obtain ⟨canonical, fine, _, reserved, _, _, _, receipts⟩ :=
    directory_keeps_receipts emptyState_initialized run step .nil
  exact ⟨es, _, _, _, run, step, rfl, canonical, fine,
    ⟨sampleKey, resolves, reserved _ _ resolves⟩, receipts⟩

/-- Accept takes a channel from a full queue, a ninth client connects, and Accept gives the channel
back: the row has nine queue entries in eight cells, and every later call finds the directory
corrupt. -/
theorem accept_rollback_overflows : ∃ es s, Run emptyState es s ∧
    directoryIsCanonicalLocked s.directory = false ∧ ∀ name, serviceDirectoryNameIsCanonical name →
      (serviceDirectoryLookup s.directory name).1.status = .corruptState := by
  obtain ⟨_, check, claim, able, corrupted, corrupt⟩ := sample_checks
  -- eight clients wait, Accept claims the first of them, and a ninth takes its cell
  obtain ⟨es, run⟩ :=
    (((filled_reached 8 le_rfl).accepts check claim).connects able (by decide)
    (by decide)).overflows
  generalize overflowed _ = directory at run corrupted corrupt
  refine ⟨es, _, run, corrupted, fun name canonical => ?_⟩
  rw [serviceDirectoryLookup, if_neg (not_not.mpr canonical),
    if_pos (by rw [sampleState, corrupt]; decide)]
  exact corrupt

end DuetOS.Directory
