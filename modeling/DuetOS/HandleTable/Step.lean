import DuetOS.HandleTable.Rows
import DuetOS.Lib.Lts

/-!
# Interleavings of handle-table operations

One table shared by any number of callers. `State` is the table with the calls between two of their
sections (`InFlight`, with their locals) and the boot-global reservation nonce. `Step` runs one
section of one call, in any order. An `Event` records the arguments of the section and what it
returned.

`HandleTableLookupRef`, `HandleTableDuplicate` and `HandleTableDuplicateRights` touch their source
table through `RetainSnapshot` alone, and `HandleTableRemove` is `HandleTableDetach` and a release:
they have no steps of their own. A failed assertion is the event `fault`.
-/

namespace DuetOS.HandleTable

inductive InFlight where
  | retaining (decoded : DecodedHandle) (snapshot : RetainedSnapshot)
  | detaching (decoded : DecodedHandle)
  | adopting (decoded : DecodedHandle) (replacement : KObject) (rights : Rights)
  | drainPolling
  | drainDetaching
  | drainReleasing (victims : List KObject)
  | drainWaiting
  deriving DecidableEq

structure State where
  table : HandleTable
  inflight : Multiset InFlight
  lastNonce : Nat

/-- A zero-initialised table nobody is using. -/
def State.init : State := ⟨.zero, 0, 0⟩

/-- What one section did: its arguments and its result. -/
inductive Event where
  | insert (obj : Option KObject) (rights : Rights) (result : Except ErrorCode Handle)
  | reserve (type : KObjectType) (rights : Rights)
    (result : Except ErrorCode HandleTableReservation)
  | publish (reservation : HandleTableReservation) (obj : Option KObject)
    (result : Except ErrorCode Handle)
  | abort (reservation : HandleTableReservation) (result : Except ErrorCode Unit)
  | pin (handle : Handle) (type : KObjectType) (required : Rights)
    (result : Except ErrorCode RetainedSnapshot)
  | unpin (decoded : DecodedHandle) (result : Except ErrorCode RetainedSnapshot)
  | rights (handle : Handle) (result : Rights)
  | checkRight (handle : Handle) (required : Rights) (result : Bool)
  | detachMark (handle : Handle) (type : KObjectType) (required : Rights)
    (result : Except ErrorCode Unit)
  | detachFinish (decoded : DecodedHandle) (result : Option KObject)
  | replace (handle : Handle) (rights : Rights) (result : Except ErrorCode Handle)
  | adoptMark (handle : Handle) (replacement : Option KObject) (rights : Rights)
      (type : KObjectType) (result : Except ErrorCode Unit)
  | adoptFinish (decoded : DecodedHandle) (replacement : KObject) (rights : Rights)
      (result : Option HandleAdoptReplaceResult)
  | drainBegin (role : DrainRole)
  | drainPoll (quiescent : Bool)
  | drainWait (closed : Bool)
  | drainDetach (victims : List KObject)
  | drainComplete
  | nonceElsewhere
  | fault (failed : Kassert)
  deriving DecidableEq

inductive Step : State → Event → State → Prop where
  | insert {table table' inflight nonce obj refcount rights result} :
    handleTableInsert table obj refcount rights = .ok (result, table') →
    Step ⟨table, inflight, nonce⟩ (.insert obj rights result) ⟨table', inflight, nonce⟩
  | insertFault :
    handleTableInsert table obj refcount rights = .error failed →
    Step ⟨table, inflight, nonce⟩ (.fault failed) ⟨table, inflight, nonce⟩
  | reserve {table table' inflight nonce nonce' type rights result} :
    handleTableReserve table type rights nonce = .ok ((result, nonce'), table') →
    Step ⟨table, inflight, nonce⟩ (.reserve type rights result) ⟨table', inflight, nonce'⟩
  | reserveFault {table inflight nonce type rights failed} :
    handleTableReserve table type rights nonce = .error failed →
    Step ⟨table, inflight, nonce⟩ (.fault failed) ⟨table, inflight, nonce⟩
  | publish {table table' inflight nonce reservation obj refcount result} :
    handleTablePublish table reservation obj refcount = .ok (result, table') →
    Step ⟨table, inflight, nonce⟩ (.publish reservation obj result) ⟨table', inflight, nonce⟩
  | publishFault :
    handleTablePublish table reservation obj refcount = .error failed →
    Step ⟨table, inflight, nonce⟩ (.fault failed) ⟨table, inflight, nonce⟩
  | abort {table table' inflight nonce reservation result} :
    handleTableAbort table reservation = .ok (result, table') →
    Step ⟨table, inflight, nonce⟩ (.abort reservation result) ⟨table', inflight, nonce⟩
  | abortFault : handleTableAbort table reservation = .error failed →
    Step ⟨table, inflight, nonce⟩ (.fault failed) ⟨table, inflight, nonce⟩
  | pinRefused :
    retainSnapshotPin table handle type required = .ok (.error code, table') →
    Step ⟨table, inflight, nonce⟩ (.pin handle type required (.error code))
      ⟨table', inflight, nonce⟩
  | pin {table table' inflight nonce handle type required decoded snapshot} :
    retainSnapshotPin table handle type required = .ok (.ok (decoded, snapshot), table') →
    Step ⟨table, inflight, nonce⟩ (.pin handle type required (.ok snapshot))
      ⟨table', .retaining decoded snapshot ::ₘ inflight, nonce⟩
  | pinFault :
    retainSnapshotPin table handle type required = .error failed →
    Step ⟨table, inflight, nonce⟩ (.fault failed) ⟨table, inflight, nonce⟩
  | unpin {table table' inflight nonce decoded snapshot retained result} :
    retainSnapshotUnpin table decoded snapshot retained = .ok (result, table') →
    Step ⟨table, .retaining decoded snapshot ::ₘ inflight, nonce⟩ (.unpin decoded result)
      ⟨table', inflight, nonce⟩
  | unpinFault :
    retainSnapshotUnpin table decoded snapshot retained = .error failed →
    Step ⟨table, .retaining decoded snapshot ::ₘ inflight, nonce⟩ (.fault failed)
      ⟨table, .retaining decoded snapshot ::ₘ inflight, nonce⟩
  | rights :
    Step ⟨table, inflight, nonce⟩ (.rights handle (handleTableRights table handle))
      ⟨table, inflight, nonce⟩
  | checkRight : Step ⟨table, inflight, nonce⟩
      (.checkRight handle required (handleCheckRight table handle required))
      ⟨table, inflight, nonce⟩
  | detachRefused :
    handleTableDetachMark table handle type required = .ok (.error code, table') →
    Step ⟨table, inflight, nonce⟩ (.detachMark handle type required (.error code))
      ⟨table', inflight, nonce⟩
  | detachMark :
    handleTableDetachMark table handle type required = .ok (.ok decoded, table') →
    Step ⟨table, inflight, nonce⟩ (.detachMark handle type required (.ok ()))
      ⟨table', .detaching decoded ::ₘ inflight, nonce⟩
  | detachMarkFault :
    handleTableDetachMark table handle type required = .error failed →
    Step ⟨table, inflight, nonce⟩ (.fault failed) ⟨table, inflight, nonce⟩
  | detachSpin : handleTableDetachFinish table decoded = .ok (none, table') →
    Step ⟨table, .detaching decoded ::ₘ inflight, nonce⟩ (.detachFinish decoded none)
      ⟨table', .detaching decoded ::ₘ inflight, nonce⟩
  | detachFinish :
    handleTableDetachFinish table decoded = .ok (some obj, table') →
    Step ⟨table, .detaching decoded ::ₘ inflight, nonce⟩ (.detachFinish decoded (some obj))
      ⟨table', inflight, nonce⟩
  | detachFault : handleTableDetachFinish table decoded = .error failed →
    Step ⟨table, .detaching decoded ::ₘ inflight, nonce⟩ (.fault failed)
      ⟨table, .detaching decoded ::ₘ inflight, nonce⟩
  | replace {table table' inflight nonce handle rights result} :
    handleReplace table handle rights = .ok (result, table') →
    Step ⟨table, inflight, nonce⟩ (.replace handle rights result) ⟨table', inflight, nonce⟩
  | replaceFault : handleReplace table handle rights = .error failed →
    Step ⟨table, inflight, nonce⟩ (.fault failed) ⟨table, inflight, nonce⟩
  | adoptRefused :
    handleTableAdoptReplaceMark table handle replacement refcount rights type =
      .ok (.error code, table') →
    Step ⟨table, inflight, nonce⟩ (.adoptMark handle replacement rights type (.error code))
      ⟨table', inflight, nonce⟩
  | adoptMark :
    handleTableAdoptReplaceMark table handle replacement refcount rights type =
      .ok (.ok (decoded, obj), table') →
    Step ⟨table, inflight, nonce⟩ (.adoptMark handle replacement rights type (.ok ()))
      ⟨table', .adopting decoded obj rights ::ₘ inflight, nonce⟩
  | adoptMarkFault :
    handleTableAdoptReplaceMark table handle replacement refcount rights type = .error failed →
    Step ⟨table, inflight, nonce⟩ (.fault failed) ⟨table, inflight, nonce⟩
  | adoptSpin :
    handleTableAdoptReplaceFinish table decoded obj rights = .ok (none, table') →
    Step ⟨table, .adopting decoded obj rights ::ₘ inflight, nonce⟩
      (.adoptFinish decoded obj rights none)
      ⟨table', .adopting decoded obj rights ::ₘ inflight, nonce⟩
  | adoptFinish :
    handleTableAdoptReplaceFinish table decoded obj rights = .ok (some result, table') →
    Step ⟨table, .adopting decoded obj rights ::ₘ inflight, nonce⟩
      (.adoptFinish decoded obj rights (some result)) ⟨table', inflight, nonce⟩
  | adoptFault :
    handleTableAdoptReplaceFinish table decoded obj rights = .error failed →
    Step ⟨table, .adopting decoded obj rights ::ₘ inflight, nonce⟩ (.fault failed)
      ⟨table, .adopting decoded obj rights ::ₘ inflight, nonce⟩
  | drainDone : handleTableDrainBegin table = .ok (.done, table') →
    Step ⟨table, inflight, nonce⟩ (.drainBegin .done) ⟨table', inflight, nonce⟩
  | drainOwner : handleTableDrainBegin table = .ok (.owner, table') →
    Step ⟨table, inflight, nonce⟩ (.drainBegin .owner) ⟨table', .drainPolling ::ₘ inflight, nonce⟩
  | drainWaiter : handleTableDrainBegin table = .ok (.waiter, table') →
    Step ⟨table, inflight, nonce⟩ (.drainBegin .waiter) ⟨table', .drainWaiting ::ₘ inflight, nonce⟩
  | drainBusy : handleTableDrainPoll table = false →
    Step ⟨table, .drainPolling ::ₘ inflight, nonce⟩ (.drainPoll false)
      ⟨table, .drainPolling ::ₘ inflight, nonce⟩
  | drainQuiescent : handleTableDrainPoll table →
    Step ⟨table, .drainPolling ::ₘ inflight, nonce⟩ (.drainPoll true)
      ⟨table, .drainDetaching ::ₘ inflight, nonce⟩
  | drainWait : handleTableDrainWait table = false →
    Step ⟨table, .drainWaiting ::ₘ inflight, nonce⟩ (.drainWait false)
      ⟨table, .drainWaiting ::ₘ inflight, nonce⟩
  | drainReturn : handleTableDrainWait table →
    Step ⟨table, .drainWaiting ::ₘ inflight, nonce⟩ (.drainWait true) ⟨table, inflight, nonce⟩
  | drainDetach : handleTableDrainDetach table = .ok (victims, table') →
    Step ⟨table, .drainDetaching ::ₘ inflight, nonce⟩ (.drainDetach victims)
      ⟨table', .drainReleasing victims ::ₘ inflight, nonce⟩
  | drainDetachFault : handleTableDrainDetach table = .error failed →
    Step ⟨table, .drainDetaching ::ₘ inflight, nonce⟩ (.fault failed)
      ⟨table, .drainDetaching ::ₘ inflight, nonce⟩
  | drainComplete {table table' inflight nonce victims} : handleTableDrainComplete table =
    .ok ((), table') →
    Step ⟨table, .drainReleasing victims ::ₘ inflight, nonce⟩ .drainComplete
      ⟨table', inflight, nonce⟩
  | drainCompleteFault : handleTableDrainComplete table = .error failed →
    Step ⟨table, .drainReleasing victims ::ₘ inflight, nonce⟩ (.fault failed)
      ⟨table, .drainReleasing victims ::ₘ inflight, nonce⟩
  | nonceElsewhere :
    -- another table's reservation draws on the same boot-global authority
    Step ⟨table, inflight, nonce⟩ .nonceElsewhere
      ⟨table, inflight, (mintHandleReservationNonce nonce).2⟩

abbrev Run := Lts.Run Step

end DuetOS.HandleTable
