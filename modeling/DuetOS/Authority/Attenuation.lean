import DuetOS.Authority.Calls

/-!
# Authority never grows

Every section keeps the grants in step with the system (`Step.warranted`) and derives what it grants
from a grant on record (`Step.sourced`). So whatever is derived from a handle, through any chain
across any tables, carries a nonzero subset of its rights.
-/

namespace DuetOS.Authority

open Function Multiset

lemma Recorded.setCalls (record : Recorded gs sys) : Recorded gs { sys with calls } :=
  ⟨record.handles, record.transfers, record.rows, record.references, record.issued, record.nodup,
    record.valid⟩

lemma exported_mintedGrant (w : Warranted gs sys)
    (mem : ⟨.reference x reference, obj, rights⟩ ∈ gs ++ (mintedGrant table e s').toList) :
    ∃ source handle, Duplicable (gs ++ (mintedGrant table e s').toList) source handle obj
      rights := by
  rcases List.mem_append.mp mem with old | new
  · obtain ⟨source, handle, known⟩ := w.exported old
    exact ⟨source, handle, known.mono (List.subset_append_left ..)⟩
  · obtain ⟨handle, _, eq⟩ := mintedGrant_token (Option.mem_toList.mp new)
    cases eq

lemma Warranted.handle {calls} (w : Warranted gs sys)
    (st : HandleTable.Step (sys.handles table) e s') (known : ∀ call ∈ calls, call.Known gs) :
    Warranted (gs ++ (mintedGrant table e s').toList) { sys.setHandles table s' with calls } where
  record := (w.record.handle st).setCalls
  calls call mem := (known call mem).mono (List.subset_append_left ..)
  transfers x op mem :=
    TransferKnown.mono (List.subset_append_left ..) (w.record.reservedAs_mono st)
    (w.transfers x op mem)
  exported mem := exported_mintedGrant w mem

lemma Warranted.handle_silent {calls} (w : Warranted gs sys)
    (st : HandleTable.Step (sys.handles table) e s') (silent : e.minted = none)
    (known : ∀ call ∈ calls, call.Known gs) :
    Warranted gs { sys.setHandles table s' with calls } := by
  have next := w.handle st known
  have none : mintedGrant table e s' = none := by
    unfold mintedGrant
    rw [silent]
    rfl
  rw [none] at next
  exact (List.append_nil gs) ▸ next

section

variable (w : Warranted gs sys) (st : ObjectTransfer.Step (sys.transfers table) e s')

include w st

/-- What the calls on a transfer table know after one of its own sections. -/
lemma Warranted.known_of_local (own : external e = none) :
    ∀ op ∈ s'.inflight, TransferKnown gs sys.handles table op := by
  have known := w.transfers table
  have pinned : ∀ {reference type rights object metadata},
      e = .importPin reference type rights (.ok (object, metadata)) →
        Transferable gs table reference object rights :=
    fun eq => w.record.of_importPin (eq ▸ st)
  generalize sys.transfers table = s at st known
  cases st with
  | exportRefused | importRefused | revoke | close => exact known
  | exportClaim => exact fun op mem => known op (mem_cons_of_mem mem)
  | importDenied | importCorrupt | importNotRetained =>
    refine forall_mem_cons.mpr ⟨trivial, ?_⟩
    exact fun op mem => known op (mem_cons_of_mem mem)
  | importPin =>
    refine forall_mem_cons.mpr ⟨⟨known _ (mem_cons_self ..), pinned rfl⟩, ?_⟩
    exact fun op mem => known op (mem_cons_of_mem mem)
  | importUnpin =>
    obtain ⟨reserved, held⟩ := known _ (mem_cons_self ..)
    refine forall_mem_cons.mpr ⟨⟨reserved, held⟩, ?_⟩
    exact fun op mem => known op (mem_cons_of_mem mem)
  | _ => cases own

/-- What the calls on a transfer table know after a section answered by a handle table. -/
lemma Warranted.known_of_external (answered : external e = some (answering, e'))
    (answer : HandleTable.Step (sys.handles answering) e' h') :
    ∀ op ∈ s'.inflight, TransferKnown gs (update sys.handles answering h') table op := by
  have known : ∀ op ∈ (sys.transfers table).inflight,
      TransferKnown gs (update sys.handles answering h') table op := fun op mem =>
    TransferKnown.mono (List.Subset.refl gs) (w.record.reservedAs_mono answer)
      (w.transfers table op mem)
  have ok := (w.record.transfers table).calls
  generalize sys.transfers table = s at st known ok
  cases st with
  | exportNoSource | importNoRoom => exact known
  | exportPin check =>
    cases answered
    obtain ⟨mem, sub, typed⟩ := w.record.of_pin answer
    refine forall_mem_cons.mpr ⟨⟨⟨_, mem, ?_, ?_⟩, typed ?_⟩, known⟩
    · exact sub.of_or_left.of_or_right
    · exact sub.of_or_right
    · exact (ObjectTransfer.rightsOk_of_check check).type_ne_invalid
  | exportNotRetained | importAbort | importPublished | importUnpublish =>
    exact fun op mem => known op (mem_cons_of_mem mem)
  | exportUnpin =>
    obtain ⟨held, typed⟩ := known _ (mem_cons_self ..)
    refine forall_mem_cons.mpr ⟨⟨held, typed⟩, ?_⟩
    exact fun op mem => known op (mem_cons_of_mem mem)
  | importReserve =>
    cases answered
    refine forall_mem_cons.mpr ⟨?_, known⟩
    show HandleTable.ReservedAs (update sys.handles answering h' answering) _ _
    rw [update_self]
    exact (answer.effect (w.record.handles answering)).reservedAs
  | importUnpublished =>
    refine forall_mem_cons.mpr ⟨trivial, ?_⟩
    exact fun op mem => known op (mem_cons_of_mem mem)
  | _ => cases answered

end

lemma Warranted.of_export {gs sys table source handle authority object result s'}
    (w : Warranted gs sys)
    (st : ObjectTransfer.Step (sys.transfers table)
      (.exportClaim source handle authority object result) s') :
    Duplicable gs source handle object authority.rights ∧
      RightsOk object.type authority.rights := by
  have known := w.transfers table
  have ok := (w.record.transfers table).calls
  generalize sys.transfers table = s at st known ok
  cases st with
  | exportClaim =>
    obtain ⟨held, typed⟩ := known _ (mem_cons_self ..)
    exact ⟨held, typed ▸ ok _ (mem_cons_self ..)⟩

lemma Warranted.of_import (w : Warranted gs sys) (st : ObjectTransfer.Step (sys.transfers table)
      (.importPublish reference destination reservation object published returned) s') :
    ∃ rights, HandleTable.ReservedAs (sys.handles destination) reservation rights ∧
      Transferable gs table reference object rights := by
  have known := w.transfers table
  generalize sys.transfers table = s at st known
  cases st with
  | importPublished | importUnpublished => exact ⟨_, known _ (mem_cons_self ..)⟩

section

variable (w : Warranted gs sys) (st : ObjectTransfer.Step (sys.transfers table) e s')

include w st

lemma Warranted.of_exportedGrant (exported : exportedGrant table e = some g) :
    ∃ source handle, exportedFrom e = some (.handle source handle) ∧
      Duplicable gs source handle g.obj g.rights ∧ RightsOk g.obj.type g.rights := by
  cases e with
  | exportClaim source handle authority object result =>
    cases result with
    | error => cases exported
    | ok reference =>
      cases exported
      exact ⟨source, handle, rfl, w.of_export st⟩
  | _ => cases exported

/-- A section of a transfer table, given what the calls on that table know after it. -/
lemma Warranted.transfer (known : ∀ op ∈ s'.inflight, TransferKnown gs sys.handles table op) :
    Warranted (gs ++ (exportedGrant table e).toList) (sys.setTransfers table s') where
  record := w.record.transfer st fun g exported => by
    obtain ⟨_, _, _, _, ok⟩ := w.of_exportedGrant st exported
    exact ok
  calls call mem := (w.calls call mem).mono (List.subset_append_left ..)
  transfers x op mem := by
    refine TransferKnown.mono (List.subset_append_left ..) id ?_
    by_cases eq : x = table
    · subst eq
      have self : (sys.setTransfers x s').transfers x = s' := update_self ..
      rw [self] at mem
      exact known op mem
    · have other : (sys.setTransfers table s').transfers x = sys.transfers x := update_of_ne eq ..
      rw [other] at mem
      exact w.transfers x op mem
  exported mem := by
    rcases List.mem_append.mp mem with old | new
    · obtain ⟨source, handle, held⟩ := w.exported old
      exact ⟨source, handle, held.mono (List.subset_append_left ..)⟩
    · obtain ⟨source, handle, _, held, _⟩ := w.of_exportedGrant st (Option.mem_toList.mp new)
      exact ⟨source, handle, held.mono (List.subset_append_left ..)⟩

end

lemma exportedGrant_of_external (answered : external e = some answer) :
    exportedGrant table e = none := by
  cases e with
  | exportClaim => cases answered
  | _ => rfl

lemma Step.warranted {gs sys e sys'} (w : Warranted gs sys) (st : Step sys e sys') :
    Warranted (gs ++ e.granted.toList) sys' := by
  have rest : ∀ {call calls}, sys.calls = call ::ₘ calls → ∀ other ∈ calls, other.Known gs :=
    fun eq other mem => w.calls other (eq ▸ mem_cons_of_mem mem)
  cases st with
  | handle st => exact w.handle st w.calls
  | duplicatePin _ _ st =>
    obtain ⟨mem, sub, _⟩ := w.record.of_pin st
    rw [Option.toList_none, List.append_nil]
    refine w.handle_silent st rfl (forall_mem_cons.mpr ⟨?_, w.calls⟩)
    exact ⟨_, mem, sub, Mask.Sub.refl _⟩
  | duplicateNotRetained eq st | duplicateDenied eq st _ | duplicateRefused eq st =>
    rw [Option.toList_none, List.append_nil]
    exact w.handle_silent st rfl (rest eq)
  | duplicateUnpin eq st sub =>
    rw [Option.toList_none, List.append_nil]
    obtain ⟨held, mem, duplicate, sub'⟩ := w.calls _ (eq ▸ mem_cons_self ..)
    refine w.handle_silent st rfl (forall_mem_cons.mpr ⟨?_, rest eq⟩)
    exact ⟨held, mem, duplicate, sub.trans sub'⟩
  | duplicateInsert eq st => exact w.handle st (rest eq)
  | transfer st own => exact w.transfer st (w.known_of_local st own)
  | @transferCall table e s' answering e' h' st answered answer =>
    -- the answer runs first, so that what it establishes holds after the section
    have next := (w.handle answer w.calls).transfer st fun op mem =>
      TransferKnown.mono (List.subset_append_left ..) id
        (w.known_of_external st answered answer op mem)
    rw [exportedGrant_of_external answered, Option.toList_none, List.append_nil] at next
    exact next

/-- What a grant with this parent must find on record. -/
def Sourced (gs : List Grant) (g : Grant) : Token → Prop
  | .handle source handle => Duplicable gs source handle g.obj g.rights
  | .reference table reference => Transferable gs table reference g.obj g.rights

lemma Step.sourced (w : Warranted gs sys) (st : Step sys e sys')
    (derived : e.parent = some parent) (granted : e.granted = some g) : Sourced gs g parent := by
  cases st with
  | @handle table e s' st =>
    cases e with
    | replace handle requested result =>
      cases result with
      | error => cases derived
      | ok replacement =>
        obtain ⟨obj, held, minted⟩ := w.record.of_replace st
        cases minted.symm.trans granted
        cases derived
        exact held
    | _ => cases derived
  | duplicateInsert eq st =>
    cases (w.record.of_insert st).symm.trans granted
    cases derived
    exact w.calls _ (eq ▸ mem_cons_self ..)
  | transfer st _ =>
    obtain ⟨source, handle, eq, held, _⟩ := w.of_exportedGrant st granted
    cases eq.symm.trans derived
    exact held
  | @transferCall table e s' answering e' h' st answered answer =>
    cases e with
    | importPublish reference destination reservation object published returned =>
      cases published with
      | error => cases derived
      | ok handle =>
        obtain ⟨rights, reserved, held⟩ := w.of_import st
        cases answered
        cases (w.record.of_publish reserved answer).symm.trans granted
        cases derived
        exact held
    | _ => cases derived
  | _ => cases derived

lemma Step.parent_of_reference (w : Warranted gs sys)
    (st : Step sys e sys') (granted : e.granted = some ⟨.reference table reference, obj, rights⟩) :
    ∃ source handle, e.parent = some (.handle source handle) := by
  cases st with
  | transfer st _ =>
    obtain ⟨source, handle, eq, _⟩ := w.of_exportedGrant st granted
    exact ⟨source, handle, eq⟩
  | handle | transferCall =>
    obtain ⟨_, _, eq⟩ := mintedGrant_token granted
    cases eq
  | duplicateInsert _ st =>
    cases (w.record.of_insert st).symm.trans granted
  | _ => cases granted

section Runs

lemma grants_append (es fs : List Event) :
    grants (es ++ fs) = grants es ++ grants fs := List.filterMap_append ..

lemma grants_snoc (es : List Event) (e : Event) :
    grants (es ++ [e]) = grants es ++ e.granted.toList := by
  rw [grants_append]
  cases eq : e.granted with
  | none => rw [show grants [e] = [] from List.filterMap_cons_none eq]; rfl
  | some g => rw [show grants [e] = [g] from List.filterMap_cons_some eq]; rfl

lemma mem_grants : g ∈ grants es ↔ ∃ e ∈ es, e.granted = some g := List.mem_filterMap

lemma Sourced.mono (grow : gs ⊆ gs') (sourced : Sourced gs g token) : Sourced gs' g token := by
  cases token with
  | handle => exact Duplicable.mono grow sourced
  | reference => exact Transferable.mono grow sourced

section Initialized

variable (initialized : ∀ table,
  (ObjectTransfer.objectTransferTableInitialize .zero (first table)).1 = .ok)
  (run : Run (System.init first) es sys)

include initialized run

lemma Run.warranted : Warranted (grants es) sys := by
  refine run.history (P := fun es sys => Warranted (grants es) sys) ?_ fun w st => ?_
  · refine ⟨Recorded.init initialized, nofun,
      nofun, nofun⟩
  · rw [grants_snoc]
    exact st.warranted w

/-- The step that performed an event of the history found its sources on record. -/
lemma Run.event_sourced (mem : e ∈ es) :
    (∀ {token g}, e.parent = some token → e.granted = some g → Sourced (grants es) g token) ∧
      ∀ {table reference obj rights}, e.granted = some ⟨.reference table reference, obj, rights⟩ →
        ∃ source handle, e.parent = some (.handle source handle) := by
  obtain ⟨before, after, rfl⟩ := List.append_of_mem mem
  obtain ⟨sys1, sys2, run1, st, _⟩ := Lts.Run.split_at run
  have w := Run.warranted initialized run1
  refine ⟨fun derived granted => (st.sourced w derived granted).mono ?_, st.parent_of_reference w⟩
  rw [grants_append]
  exact List.subset_append_left ..

lemma Run.direct_of_event (mem : e ∈ es) (derived : e.parent = some token)
    (granted : e.granted = some k) : ∃ h, h.token = token ∧ Direct es h k := by
  have sourced := (Run.event_sourced initialized run mem).1 derived granted
  cases token with
  | handle source handle | reference table reference =>
    obtain ⟨held, recorded, _⟩ := sourced
    exact ⟨_, rfl, recorded, e, mem, derived, granted⟩

/-- The right to derive from a grant: a handle needs `Duplicate`, and a reference was exported from
a handle that had it. -/
def MayDerive (es : List Event) (h : Grant) : Prop :=
  match h.token with
  | .handle _ _ => Mask.Sub kHandleRightDuplicate h.rights
  | .reference _ _ => ∃ source table handle, Direct es source h ∧
      source.token = .handle table handle ∧ Mask.Sub kHandleRightDuplicate source.rights

lemma Direct.attenuates (direct : Direct es h k) :
    k.obj = h.obj ∧ Mask.Sub k.rights h.rights ∧ ((∃ table handle, h.token = .handle table handle) →
        Mask.Sub kHandleRightDuplicate h.rights) := by
  obtain ⟨recorded, e, mem, derived, granted⟩ := direct
  have record := (Run.warranted initialized run).record
  have sourced := (Run.event_sourced initialized run mem).1 derived granted
  obtain ⟨token, obj, rights⟩ := h
  cases token with
  | handle source handle =>
    obtain ⟨held, recorded', duplicate, sub⟩ := sourced
    cases record.unique recorded recorded' rfl
    exact ⟨rfl, sub, fun _ => duplicate⟩
  | reference table reference =>
    obtain ⟨held, recorded', sub⟩ := sourced
    cases record.unique recorded recorded' rfl
    exact ⟨rfl, sub, fun ⟨_, _, eq⟩ => by cases eq⟩

/-- Every derivation required `Duplicate` on the handle it came from. -/
lemma Direct.mayDerive (direct : Direct es h k) : MayDerive es h := by
  have attenuates := direct.attenuates initialized run
  obtain ⟨recorded, _⟩ := direct
  obtain ⟨token, obj, rights⟩ := h
  cases token with
  | handle source handle => exact attenuates.2.2 ⟨source, handle, rfl⟩
  | reference table reference =>
    obtain ⟨e, mem, granted⟩ := mem_grants.mp recorded
    obtain ⟨source, handle, derived⟩ := (Run.event_sourced initialized run mem).2 granted
    obtain ⟨g, token, exported⟩ := Run.direct_of_event initialized run mem derived granted
    exact ⟨g, source, handle, exported, token,
      (exported.attenuates initialized run).2.2 ⟨source, handle, token⟩⟩

lemma Direct.not_serviceEndpoint (direct : Direct es h k) : k.obj.type ≠ .serviceEndpoint := by
  have duplicable : ∀ {g}, g ∈ grants es → Mask.Sub kHandleRightDuplicate g.rights →
      g.obj.type ≠ .serviceEndpoint := fun mem duplicate eq =>
    serviceEndpoint_not_duplicable
      (eq ▸ ((Run.warranted initialized run).record.valid _ mem).2) duplicate
  have mayDerive := direct.mayDerive initialized run
  rw [(direct.attenuates initialized run).1]
  obtain ⟨recorded, _⟩ := direct
  obtain ⟨token, obj, rights⟩ := h
  cases token with
  | handle => exact duplicable recorded mayDerive
  | reference =>
    obtain ⟨source, _, _, exported, _, duplicate⟩ := mayDerive
    have same := (exported.attenuates initialized run).1
    exact same ▸ duplicable exported.1 duplicate

lemma Derived.attenuates (derived : Derived es h k) :
    k.obj = h.obj ∧ Mask.Sub k.rights h.rights := by
  induction derived with
  | single direct =>
    obtain ⟨obj, sub, _⟩ := direct.attenuates initialized run
    exact ⟨obj, sub⟩
  | tail _ direct ih =>
    obtain ⟨obj, sub, _⟩ := direct.attenuates initialized run
    exact ⟨obj.trans ih.1, sub.trans ih.2⟩

end Initialized

/-- Authority never grows. What a live handle carries is what its token was granted with; a token is
granted once; every derivation has its source on record and needed `Duplicate`; and whatever is
derived through a chain of duplicates, replaces, exports and imports names the same object with a
nonzero subset of the source's rights, never beyond its type, and never a service endpoint. -/
theorem authority_never_grows (initialized : ∀ table,
      (ObjectTransfer.objectTransferTableInitialize .zero (first table)).1 = .ok)
    (run : Run (System.init first) es sys) :
    (∀ table handle decoded obj, decodeHandleNospec handle = some decoded →
      ((sys.handles table).table.slots decoded.slot).state = .live →
      ((sys.handles table).table.slots decoded.slot).generation = decoded.generation →
      ((sys.handles table).table.slots decoded.slot).obj = some obj →
        ⟨.handle table handle, obj, ((sys.handles table).table.slots decoded.slot).rights⟩ ∈
          grants es) ∧
    ((grants es).map Grant.token).Nodup ∧
    (∀ e ∈ es, ∀ token k, e.parent = some token → e.granted = some k → ∃ h, h.token = token ∧
      Direct es h k) ∧
    (∀ h k, Direct es h k → MayDerive es h) ∧
    ∀ h k, Derived es h k → k.obj = h.obj ∧ k.rights ≠ 0 ∧ Mask.Sub k.rights h.rights ∧
        Mask.Sub k.rights (typeAllowedRights k.obj.type) ∧ k.obj.type ≠ .serviceEndpoint := by
  have record := (Run.warranted initialized run).record
  refine ⟨fun _ _ _ _ decodes _ same owned => record.rows decodes same owned, record.nodup,
    fun e mem _ _ => Run.direct_of_event initialized run mem,
    fun _ _ direct => direct.mayDerive initialized run, fun h k derived => ?_⟩
  obtain ⟨obj, sub⟩ := Derived.attenuates initialized run derived
  obtain ⟨_, _, direct⟩ := Relation.TransGen.tail'_iff.mp derived
  obtain ⟨_, e, mem, _, granted⟩ := id direct
  have valid := record.valid k (mem_grants.mpr ⟨e, mem, granted⟩)
  exact ⟨obj, valid.1, sub, valid.2, direct.not_serviceEndpoint initialized run⟩

end Runs

open HandleTable (sampleEvent)

/-- Insert a handle that may be waited on and duplicated, replace it, then drop the right to
wait. -/
def sampleEvents : List Event :=
  [⟨none, some ⟨.handle 0 4097, sampleEvent, kHandleRightDuplicate ||| kHandleRightWait⟩⟩,
    ⟨some (.handle 0 4097),
    some ⟨.handle 0 8193, sampleEvent, kHandleRightDuplicate ||| kHandleRightWait⟩⟩,
   ⟨some (.handle 0 8193), some ⟨.handle 0 12289, sampleEvent, kHandleRightDuplicate⟩⟩]

lemma sampleEvents_run : ∃ sys, Run (System.init fun _ => 1) sampleEvents sys := by
  have inserted := Lts.Run.single (@Step.handle (System.init fun _ => 1) 0
    (.insert (some sampleEvent) (kHandleRightDuplicate ||| kHandleRightWait) (.ok 4097)) _
    (@HandleTable.Step.insert _ _ _ _ _ 1 _ _ rfl))
  have replaced := inserted.snoc (@Step.handle _ 0
    (.replace 4097 (kHandleRightDuplicate ||| kHandleRightWait) (.ok 8193)) _ (.replace rfl))
  have narrowed := replaced.snoc
    (@Step.handle _ 0 (.replace 8193 kHandleRightDuplicate (.ok 12289)) _ (.replace rfl))
  exact ⟨_, narrowed⟩

theorem authority_never_grows_sample : (∃ sys, Run (System.init fun _ => 1) sampleEvents sys) ∧
    Derived sampleEvents
        ⟨.handle 0 4097, sampleEvent, kHandleRightDuplicate ||| kHandleRightWait⟩
        ⟨.handle 0 12289, sampleEvent, kHandleRightDuplicate⟩ ∧
      Mask.Sub kHandleRightDuplicate (kHandleRightDuplicate ||| kHandleRightWait) := by
  obtain ⟨sys, run⟩ := sampleEvents_run
  obtain ⟨_, _, _, _, attenuates⟩ := authority_never_grows (fun _ => rfl) run
  have derived : Derived sampleEvents
    ⟨.handle 0 4097, sampleEvent, kHandleRightDuplicate ||| kHandleRightWait⟩
      ⟨.handle 0 12289, sampleEvent, kHandleRightDuplicate⟩ :=
    .tail (.single ⟨.head _, _, .tail _ (.head _), rfl, rfl⟩)
      ⟨.tail _ (.head _), _, .tail _ (.tail _ (.head _)), rfl, rfl⟩
  exact ⟨⟨sys, run⟩, derived, (attenuates _ _ derived).2.2.1⟩

end DuetOS.Authority
