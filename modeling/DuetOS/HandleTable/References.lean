import DuetOS.HandleTable.Tokens

/-!
# References are conserved

A row that owns an object owns one reference to it. Over every run the references the table adopted
are, as a multiset, those its rows still own together with those it handed out, and a closed table
owns none; so every adopted reference leaves the table exactly once. A pinned row keeps its object.
-/

namespace DuetOS.HandleTable

open Word Bag Slots
open scoped BigOperators

def owned (table : HandleTable) : Multiset KObject := gather HandleSlot.obj table.slots

/-- The reference a section took over from its caller. -/
def Event.adopted : Event → Multiset KObject
  | .insert obj _ (.ok _) => obj.toList
  | .publish _ obj (.ok _) => obj.toList
  | .adoptFinish _ replacement _ (some _) => {replacement}
  | _ => 0

/-- The references a section handed to its caller or to the drain's release list. -/
def Event.handedOut : Event → Multiset KObject
  | .detachFinish _ obj => obj.toList
  | .adoptFinish _ _ _ (some result) => {result.displaced}
  | .drainDetach victims => victims
  | _ => 0

lemma Inv.owned_eq_victims (inv : Inv ⟨table, inflight, nonce⟩) :
    owned table = (drainIndices.filterMap fun index => (table.slots index).obj : List KObject) := by
  have sentinel : (table.slots ⟨0, by decide⟩).obj = none := by
    have free := ((inv.ok.rows ⟨0, by decide⟩).of_free (inv.sentinel _ rfl)).1
    rw [free]
    rfl
  have split : List.finRange kHandleTableCapacity = ⟨0, by decide⟩ :: drainIndices := rfl
  rw [owned, gather_eq_filterMap, split]
  exact congrArg _ (List.filterMap_cons_none (f := fun index => (table.slots index).obj) sentinel)

lemma Effect.conserves (inv : Inv s) (effect : Effect s e s') :
    owned s'.table + e.handedOut = owned s.table + e.adopted := by
  cases effect with
  | quiet q => cases q <;> rfl
  | insert _ _ _ _ row | reserve _ _ _ _ _ _ row | publish _ _ _ _ row | abort _ _ _ row
  | pin _ _ _ _ _ _ row | unpin _ _ _ _ _ row | detachMark _ _ _ _ _ _ row | detachFinish _ _ row
  | replace _ _ _ _ _ _ _ _ row | adoptMark _ _ _ _ _ _ _ _ row =>
    exact gather_update (by rw [row]; rfl)
  | adoptFinish _ _ _ _ row =>
    exact gather_update (by rw [row]; exact add_comm (G := Multiset KObject) _ _)
  | drainDetach =>
    have emptied : owned (HandleTable.closeRows _ drainIndices) = 0 :=
      gather_eq_zero fun j => by rw [inv.closeRows_slots j]; rfl
    rw [emptied, inv.owned_eq_victims]
    exact add_comm (G := Multiset KObject) _ _
  | _ => rfl

lemma Run.conserves (run : Run State.init es s) :
    owned s.table + (es.map Event.handedOut).sum = (es.map Event.adopted).sum := by
  have start : owned State.init.table = 0 := gather_eq_zero fun _ => rfl
  have balance := run.conserved (I := Inv) (h := fun s => owned s.table) (p := Event.adopted)
    (q := Event.handedOut) Inv.init Step.preserves fun inv st => (st.effect inv).conserves inv
  rw [start, zero_add] at balance
  exact balance

def sampleToken : DecodedHandle := ⟨⟨1, by decide⟩, 1⟩

end DuetOS.HandleTable
