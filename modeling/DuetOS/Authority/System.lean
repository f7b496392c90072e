import DuetOS.ObjectTransfer.Lifetime

/-!
# Handle tables and transfer tables together

Any number of tables, with the calls that move authority between them: `HandleTableDuplicate` and
`HandleTableDuplicateRights` (a retained lookup and an insert), `HandleReplace`, and
`ObjectTransferExport` and `ObjectTransferImport`, which synchronise a transfer table with the
handle table that answers its calls (`Event.external`). Every other handle-table call may run at any
time.

A step is labelled with the authority it creates: the new token with its object and rights
(`granted`), and the token it was derived from (`parent`).
-/

namespace DuetOS.Authority

open HandleTable (Effect)

/-- A name for authority: a handle in a handle table or a reference in a transfer table. -/
inductive Token where
  | handle (table : Nat) (handle : Handle)
  | reference (table : Nat) (reference : ObjectTransfer.ObjectTransferRef)
  deriving DecidableEq

/-- A token with the authority it was created with. -/
structure Grant where
  token : Token
  obj : KObject
  rights : Rights
  deriving DecidableEq

/-- The authority a step creates, and what it derives it from. -/
structure Event where
  parent : Option Token
  granted : Option Grant
  deriving DecidableEq

/-- A duplicate call between two of its sections. `requested` is `none` for
`HandleTableDuplicate`. -/
inductive Call where
  | retaining (source : Nat) (handle : Handle) (destination : Nat) (requested : Option Rights)
      (decoded : DecodedHandle) (snapshot : RetainedSnapshot)
  | holding (source : Nat) (handle : Handle) (destination : Nat) (obj : KObject) (rights : Rights)
  deriving DecidableEq

structure System where
  handles : Nat → HandleTable.State
  transfers : Nat → ObjectTransfer.State
  calls : Multiset Call

/-- Fresh handle tables, and transfer tables initialised with the given first generations. -/
def System.init (first : Nat → Nat) : System where
  handles := fun _ => HandleTable.State.init
  transfers := fun table => ObjectTransfer.State.init (first table)
  calls := 0

def System.setHandles (sys : System) (table : Nat) (s : HandleTable.State) : System :=
  { sys with handles := Function.update sys.handles table s }

def System.setTransfers (sys : System) (table : Nat) (s : ObjectTransfer.State) : System :=
  { sys with transfers := Function.update sys.transfers table s }

def grantAt (table : Nat) (handle : Handle) (s : HandleTable.State) : Option Grant :=
  (decodeHandleNospec handle).bind fun decoded =>
    (s.table.slots decoded.slot).obj.map fun obj =>
      ⟨.handle table handle, obj, (s.table.slots decoded.slot).rights⟩

def mintedGrant (table : Nat) (e : HandleTable.Event) (s : HandleTable.State) : Option Grant :=
  e.minted.bind fun handle => grantAt table handle s

def exportedGrant (table : Nat) : ObjectTransfer.Event → Option Grant
  | .exportClaim _ _ authority object (.ok reference) =>
    some ⟨.reference table reference, object, authority.rights⟩
  | _ => none

def replaced (table : Nat) : HandleTable.Event → Option Token
  | .replace handle _ (.ok _) => some (.handle table handle)
  | _ => none

def exportedFrom : ObjectTransfer.Event → Option Token
  | .exportClaim source handle _ _ (.ok _) => some (.handle source handle)
  | _ => none

def importedFrom (table : Nat) : ObjectTransfer.Event → Option Token
  | .importPublish reference _ _ _ (.ok _) _ => some (.reference table reference)
  | _ => none

/-- The handle-table section a transfer-table event stands for, and the table it runs on. -/
def external : ObjectTransfer.Event → Option (Nat × HandleTable.Event)
  | .exportPin source handle authority result =>
    some (source, .pin handle authority.type (ObjectTransfer.requiredSourceRights authority) result)
  | .exportUnpin source decoded result => some (source, .unpin decoded result)
  | .importReserve _ destination type rights result =>
    some (destination, .reserve type rights result)
  | .importAbort destination reservation aborted _ =>
    some (destination, .abort reservation aborted)
  | .importPublish _ destination reservation object published _ =>
    some (destination, .publish reservation (some object) published)
  | _ => none

def requestValid : Option Rights → Prop
  | none => True
  | some requested => requested ≠ 0 ∧ Mask.Sub requested kHandleRightAll

inductive Step : System → Event → System → Prop where
  | handle {sys : System} {table e s'} : HandleTable.Step (sys.handles table) e s' →
    Step sys ⟨replaced table e, mintedGrant table e s'⟩ (sys.setHandles table s')
  | duplicatePin {sys : System} {source handle destination requested decoded snapshot s'} :
    requestValid requested →
    decodeHandleNospec handle = some decoded →
    HandleTable.Step (sys.handles source)
      (.pin handle .invalid kHandleRightDuplicate (.ok snapshot)) s' →
    Step sys ⟨none, none⟩ { sys.setHandles source s' with
        calls := .retaining source handle destination requested decoded snapshot ::ₘ sys.calls }
  | duplicateNotRetained {sys : System}
    {source handle destination requested decoded snapshot calls code s'} :
    sys.calls = .retaining source handle destination requested decoded snapshot ::ₘ calls →
    HandleTable.Step (sys.handles source) (.unpin decoded (.error code)) s' →
    Step sys ⟨none, none⟩ { sys.setHandles source s' with calls }
  | duplicateDenied {sys : System} {source handle destination requested decoded snapshot calls s'} :
    sys.calls = .retaining source handle destination (some requested) decoded snapshot ::ₘ calls →
    HandleTable.Step (sys.handles source) (.unpin decoded (.ok snapshot)) s' →
    ¬Mask.Sub requested snapshot.rights →
    Step sys ⟨none, none⟩ { sys.setHandles source s' with calls }
  | duplicateUnpin {sys : System} {source handle destination requested decoded snapshot calls s'} :
    sys.calls = .retaining source handle destination requested decoded snapshot ::ₘ calls →
    HandleTable.Step (sys.handles source) (.unpin decoded (.ok snapshot)) s' →
    Mask.Sub (requested.getD snapshot.rights) snapshot.rights →
    Step sys ⟨none, none⟩ { sys.setHandles source s' with
        calls := .holding source handle destination snapshot.obj (requested.getD
          snapshot.rights) ::ₘ calls }
  | duplicateRefused {sys : System} {source handle destination obj rights calls code s'} :
    sys.calls = .holding source handle destination obj rights ::ₘ calls →
    HandleTable.Step (sys.handles destination) (.insert (some obj) rights (.error code)) s' →
    Step sys ⟨none, none⟩ { sys.setHandles destination s' with calls }
  | duplicateInsert {sys : System} {source handle destination obj rights calls duplicate s'} :
    sys.calls = .holding source handle destination obj rights ::ₘ calls →
    HandleTable.Step (sys.handles destination) (.insert (some obj) rights (.ok duplicate)) s' →
    Step sys ⟨some (.handle source handle),
      mintedGrant destination (.insert (some obj) rights (.ok duplicate)) s'⟩
      { sys.setHandles destination s' with calls }
  | transfer {sys : System} {table e s'} : ObjectTransfer.Step (sys.transfers table) e s' →
    external e = none →
    Step sys ⟨exportedFrom e, exportedGrant table e⟩ (sys.setTransfers table s')
  | transferCall {sys : System} {table e s' answering e' h'} :
    ObjectTransfer.Step (sys.transfers table) e s' →
    external e = some (answering, e') →
    HandleTable.Step (sys.handles answering) e' h' →
    Step sys ⟨importedFrom table e, mintedGrant answering e' h'⟩
      ((sys.setTransfers table s').setHandles answering h')

abbrev Run := Lts.Run Step

def grants (es : List Event) : List Grant := es.filterMap Event.granted

def Direct (es : List Event) (h k : Grant) : Prop :=
  h ∈ grants es ∧ ∃ e ∈ es, e.parent = some h.token ∧ e.granted = some k

/-- `k` was derived from `h` through a chain of any length. -/
def Derived (es : List Event) : Grant → Grant → Prop := Relation.TransGen (Direct es)

end DuetOS.Authority
