import DuetOS.Authority.System
import DuetOS.HandleTable.Authority
import DuetOS.ObjectTransfer.Authority

/-!
# Every row's authority is on record

`Recorded gs sys`: whatever a handle row or a transfer row carries is the grant of its token, tokens
are granted once, and every grant stays within the rights its object type may carry. A section adds
the grant it mints or exports; nothing else changes what rows carry.
-/

namespace DuetOS.Authority

open Function List Option

def Issued (sys : System) : Token → Prop
  | .handle table handle => HandleTable.Issued (sys.handles table) handle
  | .reference table reference => ObjectTransfer.Issued (sys.transfers table).table reference

structure Recorded (gs : List Grant) (sys : System) : Prop where
  handles : ∀ table, HandleTable.Inv (sys.handles table)
  transfers : ∀ table, ObjectTransfer.Inv (sys.transfers table)
  rows : ∀ {table handle decoded obj}, decodeHandleNospec handle = some decoded →
    ((sys.handles table).table.slots decoded.slot).generation = decoded.generation →
    ((sys.handles table).table.slots decoded.slot).obj = some obj →
    ⟨.handle table handle, obj, ((sys.handles table).table.slots decoded.slot).rights⟩ ∈ gs
  references : ∀ {table reference decoded object},
    ObjectTransfer.decodeTransferRefNospec reference = some decoded →
    ((sys.transfers table).table.slots decoded.slot).generation = decoded.generation →
    ((sys.transfers table).table.slots decoded.slot).object = some object →
    ⟨.reference table reference, object, ((sys.transfers table).table.slots decoded.slot).rights⟩ ∈
      gs
  issued : ∀ g ∈ gs, Issued sys g.token
  nodup : (gs.map Grant.token).Nodup
  valid : ∀ g ∈ gs, RightsOk g.obj.type g.rights

lemma Recorded.unique (record : Recorded gs sys) (mem : g ∈ gs) (mem' : g' ∈ gs)
    (same : g.token = g'.token) : g = g' :=
  inj_on_of_nodup_map record.nodup mem mem' same

lemma mintedGrant_eq (minted : e.minted = some handle)
    (decodes : decodeHandleNospec handle = some decoded)
    (owned : (s.table.slots decoded.slot).obj = some obj) :
    mintedGrant table e s =
      some ⟨.handle table handle, obj, (s.table.slots decoded.slot).rights⟩ := by
  simp [mintedGrant, grantAt, minted, decodes, owned]

lemma mintedGrant_of_row (minted : e.minted = some handle)
    (decodes : decodeHandleNospec handle = some decoded)
    (row : s.table.slots decoded.slot = .owning state generation pins obj rights) :
    mintedGrant table e s = some ⟨.handle table handle, obj, rights⟩ := by
  rw [mintedGrant_eq minted decodes (congrArg HandleSlot.obj row), row]
  rfl

lemma mintedGrant_token (minted : mintedGrant table e s = some g) :
    ∃ handle, e.minted = some handle ∧ g.token = .handle table handle := by
  obtain ⟨handle, eq, rest⟩ := bind_eq_some_iff.mp minted
  obtain ⟨decoded, _, rest⟩ := bind_eq_some_iff.mp rest
  obtain ⟨obj, _, rfl⟩ := map_eq_some_iff.mp rest
  exact ⟨handle, eq, rfl⟩

lemma handle_unique (decodes : decodeHandleNospec handle = some decoded)
    (decodes' : decodeHandleNospec handle' = some decoded) : handle = handle' :=
  (decodeHandleNospec_some decodes).1.trans (decodeHandleNospec_some decodes').1.symm

lemma nodup_append_fresh (nodup : (gs.map Grant.token).Nodup)
    (fresh : ∀ g, new = some g → ∀ g' ∈ gs, g'.token ≠ g.token) :
    ((gs ++ new.toList).map Grant.token).Nodup := by
  cases new with
  | none => simpa using nodup
  | some g =>
    rw [map_append]
    refine nodup_append.mpr ⟨nodup, nodup_singleton _, fun token mem token' single => ?_⟩
    obtain ⟨g', mem', rfl⟩ := mem_map.mp mem
    rw [mem_singleton.mp single]
    exact fresh g rfl g' mem'

lemma Issued.setHandles (inv : HandleTable.Inv (sys.handles table))
    (st : HandleTable.Step (sys.handles table) e s') (issued : Issued sys token) :
    Issued (sys.setHandles table s') token := by
  cases token with
  | handle t handle =>
    have kept := (forall_update_iff sys.handles fun t s =>
      HandleTable.Issued (sys.handles t) handle → HandleTable.Issued s handle).mpr
      ⟨HandleTable.Issued.mono inv st, fun _ _ => id⟩
    exact kept t issued
  | reference => exact issued

lemma Issued.setTransfers (inv : ObjectTransfer.Inv (sys.transfers table))
    (st : ObjectTransfer.Step (sys.transfers table) e s') (issued : Issued sys token) :
    Issued (sys.setTransfers table s') token := by
  cases token with
  | handle => exact issued
  | reference t reference =>
    have kept := (forall_update_iff sys.transfers fun t s =>
      ObjectTransfer.Issued (sys.transfers t).table reference →
        ObjectTransfer.Issued s.table reference).mpr
      ⟨ObjectTransfer.Issued.mono (st.effect inv), fun _ _ => id⟩
    exact kept t issued

/-- A section keeps the tokens that exist and may add the grant of a new one. -/
lemma Recorded.tokens (record : Recorded gs sys)
    (mono : ∀ {token}, Issued sys token → Issued sys' token)
    (fresh : ∀ g, new = some g → ¬Issued sys g.token ∧ Issued sys' g.token ∧
      RightsOk g.obj.type g.rights) :
    ((gs ++ new.toList).map Grant.token).Nodup ∧
    ∀ g ∈ gs ++ new.toList, Issued sys' g.token ∧ RightsOk g.obj.type g.rights := by
  refine ⟨nodup_append_fresh record.nodup fun g eq g' mem same => ?_, fun g mem => ?_⟩
  · exact (fresh g eq).1 (same ▸ record.issued g' mem)
  · rcases mem_append.mp mem with mem | added
    · exact ⟨mono (record.issued g mem), record.valid g mem⟩
    · exact (fresh g (mem_toList.mp added)).2

/-- A minted grant is of a token created by this step, with rights its object type may carry. -/
lemma mintedGrant_fresh (inv : HandleTable.Inv (sys.handles table))
    (st : HandleTable.Step (sys.handles table) e s') (minted : mintedGrant table e s' = some g) :
    ¬Issued sys g.token ∧ Issued (sys.setHandles table s') g.token ∧
      RightsOk g.obj.type g.rights := by
  have effect := st.effect inv
  obtain ⟨handle, mints, token⟩ := mintedGrant_token minted
  obtain ⟨fresh, now⟩ := effect.minted_fresh mints
  obtain ⟨decoded, pins, obj, rights, decodes, ok, row⟩ := effect.minted_row mints
  cases (mintedGrant_of_row mints decodes row).symm.trans minted
  refine ⟨fresh, ?_, ok⟩
  show HandleTable.Issued (update sys.handles table s' table) handle
  rw [update_self]
  exact now

lemma Recorded.handle {gs sys table e s'} (record : Recorded gs sys)
    (st : HandleTable.Step (sys.handles table) e s') :
    Recorded (gs ++ (mintedGrant table e s').toList) (sys.setHandles table s') := by
  have inv := record.handles table
  have effect := st.effect inv
  have old : ∀ {g}, g ∈ gs → g ∈ gs ++ (mintedGrant table e s').toList :=
    fun mem => mem_append_left _ mem
  have tokens := record.tokens (fun issued => issued.setHandles inv st) fun g =>
    mintedGrant_fresh inv st
  refine ⟨(forall_update_iff _ fun _ s => HandleTable.Inv s).mpr
    ⟨st.preserves inv, fun t _ => record.handles t⟩,
    record.transfers, ?_, fun decodes same owned => old (record.references decodes same owned),
    fun g mem => (tokens.2 g mem).1, tokens.1, fun g mem => (tokens.2 g mem).2⟩
  intro t handle decoded obj decodes same owned
  rcases eq_or_ne t table with rfl | ne
  · dsimp only [System.setHandles] at same owned ⊢
    rw [update_self] at same owned ⊢
    cases effect.carried inv decoded.slot with
    | empty none => cases none.symm.trans owned
    | kept obj_eq gen_eq rights_eq =>
      rw [← rights_eq]
      exact old (record.rows decodes (gen_eq.trans same) (obj_eq.trans owned))
    | minted minted decodes' =>
      rw [same] at decodes'
      cases handle_unique decodes decodes'
      rw [mintedGrant_eq minted decodes' owned]
      exact mem_append_right _ (mem_singleton.mpr rfl)
  · dsimp only [System.setHandles] at same owned ⊢
    rw [update_of_ne ne] at same owned ⊢
    exact old (record.rows decodes same owned)

lemma exportedGrant_fresh (inv : ObjectTransfer.Inv (sys.transfers table))
    (st : ObjectTransfer.Step (sys.transfers table) e s')
    (exported : exportedGrant table e = some g) :
    ¬Issued sys g.token ∧ Issued (sys.setTransfers table s') g.token := by
  cases e with
  | exportClaim source handle authority object result =>
    cases result with
    | error => cases exported
    | ok reference =>
      cases exported
      obtain ⟨fresh, now⟩ := (st.effect inv).exported_fresh
      refine ⟨fresh, ?_⟩
      show ObjectTransfer.Issued (update sys.transfers table s' table).table reference
      rw [update_self]
      exact now
  | _ => cases exported

lemma Recorded.transfer (record : Recorded gs sys)
    (st : ObjectTransfer.Step (sys.transfers table) e s')
    (valid : ∀ g, exportedGrant table e = some g → RightsOk g.obj.type g.rights) :
    Recorded (gs ++ (exportedGrant table e).toList) (sys.setTransfers table s') := by
  have inv := record.transfers table
  have effect := st.effect inv
  have old : ∀ {g}, g ∈ gs → g ∈ gs ++ (exportedGrant table e).toList :=
    fun mem => mem_append_left _ mem
  have tokens := record.tokens (fun issued => issued.setTransfers inv st) fun g exported =>
    ⟨(exportedGrant_fresh inv st exported).1, (exportedGrant_fresh inv st exported).2,
      valid g exported⟩
  refine ⟨record.handles, (forall_update_iff _ fun _ s => ObjectTransfer.Inv s).mpr
    ⟨st.preserves inv, fun t _ => record.transfers t⟩,
    fun decodes same owned => old (record.rows decodes same owned),
    ?_, fun g mem => (tokens.2 g mem).1, tokens.1, fun g mem => (tokens.2 g mem).2⟩
  intro t reference decoded object decodes same owned
  rcases eq_or_ne t table with rfl | ne
  · dsimp only [System.setTransfers] at same owned ⊢
    rw [update_self] at same owned ⊢
    generalize row : s'.table.slots _ = slot at same owned
    cases row ▸ effect.carried inv.pinned decoded.slot with
    | empty none => cases none.symm.trans owned
    | kept object_eq gen_eq rights_eq =>
      rw [← rights_eq]
      exact old (record.references decodes (gen_eq.trans same) (object_eq.trans owned))
    | exported eq =>
      cases owned
      cases same
      cases eq
      rw [← ObjectTransfer.decodeTransferRefNospec_some decodes]
      exact mem_append_right _ (mem_singleton.mpr rfl)
  · dsimp only [System.setTransfers] at same owned ⊢
    rw [update_of_ne ne] at same owned ⊢
    exact old (record.references decodes same owned)

lemma Recorded.init {first} (initialized : ∀ table,
      (ObjectTransfer.objectTransferTableInitialize .zero (first table)).1 = .ok) :
    Recorded [] (System.init first) := by
  refine ⟨fun _ => HandleTable.Inv.init,
    fun table => ObjectTransfer.Inv.init (initialized table), ?_,
    ?_, nofun, nodup_nil,
    nofun⟩
  · intro table handle decoded obj _ _ owned
    cases owned
  · intro table reference decoded object _ _ owned
    dsimp only [System.init] at owned
    rw [(ObjectTransfer.State.init_table (initialized table)).2.2] at owned
    cases owned

end DuetOS.Authority
