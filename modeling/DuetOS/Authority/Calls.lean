import DuetOS.Authority.Grants

/-!
# What calls in progress know

Between its sections a call relies on what it saw earlier: a duplicate or an export on the grant of
its source, an import on the rights of the row it reserved and on the grant of the reference it
pinned. The rights of a token never change, so this stays true whatever other callers do.
-/

namespace DuetOS.Authority

/-- The handle was granted with `Duplicate` and at least these rights to the object. -/
def Duplicable (gs : List Grant) (source : Nat) (handle : Handle) (obj : KObject)
    (rights : Rights) : Prop :=
  ∃ held, ⟨.handle source handle, obj, held⟩ ∈ gs ∧ Mask.Sub kHandleRightDuplicate held ∧
    Mask.Sub rights held

/-- The reference was granted with at least these rights to the object. -/
def Transferable (gs : List Grant) (table : Nat) (reference : ObjectTransfer.ObjectTransferRef)
    (obj : KObject) (rights : Rights) : Prop :=
  ∃ held, ⟨.reference table reference, obj, held⟩ ∈ gs ∧ Mask.Sub rights held

def Call.Known (gs : List Grant) : Call → Prop
  | .retaining source handle _ _ _ snapshot =>
    Duplicable gs source handle snapshot.obj snapshot.rights
  | .holding source handle _ obj rights => Duplicable gs source handle obj rights

def TransferKnown (gs : List Grant) (handles : Nat → HandleTable.State) (table : Nat) :
    ObjectTransfer.InFlight → Prop
  | .lookingUp source handle authority _ snapshot =>
    Duplicable gs source handle snapshot.obj authority.rights ∧ snapshot.obj.type = authority.type
  | .exporting source handle authority object =>
    Duplicable gs source handle object authority.rights ∧ object.type = authority.type
  | .reserved _ _ destination _ rights reservation =>
    HandleTable.ReservedAs (handles destination) reservation rights
  | .pinned reference _ destination _ rights reservation object _ =>
    HandleTable.ReservedAs (handles destination) reservation rights ∧
      Transferable gs table reference object rights
  | .publishing reference destination _ rights reservation object _ =>
    HandleTable.ReservedAs (handles destination) reservation rights ∧
      Transferable gs table reference object rights
  | .aborting _ _ _ => True
  | .unpublishing _ _ _ => True

lemma Duplicable.mono (grow : gs ⊆ gs')
    (known : Duplicable gs source handle obj rights) : Duplicable gs' source handle obj rights := by
  obtain ⟨held, mem, sub⟩ := known
  exact ⟨held, grow mem, sub⟩

lemma Transferable.mono (grow : gs ⊆ gs') (known : Transferable gs table reference obj rights) :
    Transferable gs' table reference obj rights := by
  obtain ⟨held, mem, sub⟩ := known
  exact ⟨held, grow mem, sub⟩

lemma Call.Known.mono {call : Call} (grow : gs ⊆ gs') (known : call.Known gs) : call.Known gs' := by
  cases call with
  | retaining | holding => exact Duplicable.mono grow known

lemma TransferKnown.mono (grow : gs ⊆ gs') (reserved : ∀ {destination reservation rights},
      HandleTable.ReservedAs (handles destination) reservation rights →
        HandleTable.ReservedAs (handles' destination) reservation rights)
    (known : TransferKnown gs handles table op) : TransferKnown gs' handles' table op := by
  cases op with
  | lookingUp | exporting => exact ⟨known.1.mono grow, known.2⟩
  | reserved => exact reserved known
  | pinned | publishing => exact ⟨reserved known.1, known.2.mono grow⟩
  | aborting | unpublishing => trivial

structure Warranted (gs : List Grant) (sys : System) : Prop where
  record : Recorded gs sys
  calls : ∀ call ∈ sys.calls, call.Known gs
  transfers : ∀ table, ∀ op ∈ (sys.transfers table).inflight, TransferKnown gs sys.handles table op
  exported : ∀ {table reference obj rights}, ⟨.reference table reference, obj, rights⟩ ∈ gs →
    ∃ source handle, Duplicable gs source handle obj rights

lemma Recorded.reservedAs_mono (record : Recorded gs sys)
    (st : HandleTable.Step (sys.handles table) e s')
    (known : HandleTable.ReservedAs (sys.handles destination) reservation rights) :
    HandleTable.ReservedAs ((sys.setHandles table s').handles destination) reservation rights := by
  show HandleTable.ReservedAs (Function.update sys.handles table s' destination) reservation rights
  by_cases eq : destination = table
  · subst eq
    rw [Function.update_self]
    exact known.mono (record.handles destination) st
  · rw [Function.update_of_ne eq]
    exact known

lemma Recorded.of_row {gs sys table handle decoded pins obj rights} (record : Recorded gs sys)
    (decodes : decodeHandleNospec handle = some decoded)
    (row : (sys.handles table).table.slots decoded.slot =
      .owning .live decoded.generation pins obj rights) :
    ⟨.handle table handle, obj, rights⟩ ∈ gs := by
  have mem := record.rows decodes (congrArg HandleSlot.generation row) (congrArg HandleSlot.obj row)
  rwa [row] at mem

lemma Recorded.of_pin {gs sys table handle type required snapshot s'} (record : Recorded gs sys)
    (st : HandleTable.Step (sys.handles table) (.pin handle type required (.ok snapshot)) s') :
    ⟨.handle table handle, snapshot.obj, snapshot.rights⟩ ∈ gs ∧
      Mask.Sub required snapshot.rights ∧ (type ≠ .invalid → snapshot.obj.type = type) := by
  have effect := st.effect (record.handles table)
  generalize eq : sys.handles table = s at effect
  cases effect with
  | quiet q => cases q
  | pin decodes _ _ _ _ _ row sub typed =>
    exact ⟨record.of_row decodes (by rw [eq]; exact row), sub, typed⟩

/-- A successful replace found a grant with `Duplicate` and the rights it keeps. -/
lemma Recorded.of_replace {gs sys table handle requested replacement s'} (record : Recorded gs sys)
    (st : HandleTable.Step (sys.handles table) (.replace handle requested (.ok replacement)) s') :
    ∃ obj, Duplicable gs table handle obj requested ∧
      mintedGrant table (.replace handle requested (.ok replacement)) s' =
        some ⟨.handle table replacement, obj, requested⟩ := by
  have effect := st.effect (record.handles table)
  generalize eq : sys.handles table = s at effect
  cases effect with
  | quiet q => cases q
  | @replace _ _ _ _ _ _ _ obj rights decodes _ _ lt _ _ _ sub row duplicate =>
    obtain ⟨_, pos, _⟩ := decodeHandleNospec_some decodes
    refine ⟨obj, ⟨rights, record.of_row decodes (by rw [eq]; exact row), ?_, sub⟩, ?_⟩
    · exact Mask.Sub.of_and_ne_zero duplicate
    · exact mintedGrant_of_row rfl (decodeHandleNospec_handleEncode pos (Nat.succ_pos _) lt)
        (HandleTable.setSlot_slots_self ..)

lemma Recorded.of_insert {gs sys table obj rights handle s'} (record : Recorded gs sys)
    (st : HandleTable.Step (sys.handles table) (.insert (some obj) rights (.ok handle)) s') :
    mintedGrant table (.insert (some obj) rights (.ok handle)) s' =
      some ⟨.handle table handle, obj, rights⟩ := by
  have effect := st.effect (record.handles table)
  generalize sys.handles table = s at effect
  cases effect with
  | quiet q => cases q
  | insert _ _ pos lt _ =>
    exact mintedGrant_of_row rfl (decodeHandleNospec_handleEncode pos (Nat.succ_pos _) lt)
      (HandleTable.setSlot_slots_self ..)

/-- A successful publish mints a grant of its object with the rights its ticket was reserved
with. -/
lemma Recorded.of_publish {gs sys table reservation obj handle rights s'} (record : Recorded gs sys)
    (known : HandleTable.ReservedAs (sys.handles table) reservation rights)
    (st : HandleTable.Step (sys.handles table) (.publish reservation (some obj) (.ok handle)) s') :
    mintedGrant table (.publish reservation (some obj) (.ok handle)) s' =
      some ⟨.handle table handle, obj, rights⟩ := by
  have effect := st.effect (record.handles table)
  generalize sys.handles table = s at effect known
  cases effect with
  | quiet q => cases q
  | publish decodes _ _ _ row =>
    obtain ⟨decoded, decodes', _, knows⟩ := known
    cases decodes.symm.trans decodes'
    rw [row] at knows
    cases knows rfl rfl
    exact mintedGrant_of_row rfl decodes (HandleTable.setSlot_slots_self ..)

/-- An import that pins the row of its reference found a grant with the rights it asked for. -/
lemma Recorded.of_importPin (record : Recorded gs sys)
    (st : ObjectTransfer.Step (sys.transfers table)
      (.importPin reference type rights (.ok (object, metadata))) s') :
    Transferable gs table reference object rights := by
  have effect := st.effect (record.transfers table)
  generalize eq : (sys.transfers table).table = before at effect
  generalize pinnedBy : ObjectTransfer.pinnedBy _ = pinned at effect
  generalize s'.table = after at effect
  generalize ObjectTransfer.pinnedBy _ = pinned' at effect
  cases effect with
  | quiet q => cases q
  | pin decodes _ _ _ _ _ row sub =>
    rw [← eq] at row
    have mem := record.references decodes
      (congrArg ObjectTransfer.ObjectTransferSlot.generation row)
      (congrArg ObjectTransfer.ObjectTransferSlot.object row)
    rw [row] at mem
    exact ⟨_, mem, sub⟩

end DuetOS.Authority
