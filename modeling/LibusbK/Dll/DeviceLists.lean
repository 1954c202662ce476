import LibusbK.Lib.Objects
import LibusbK.Dll.DeviceSync
import Mathlib.Data.Int.Notation

/-!
# Device lists and their elements

The calls of `lusbk_device_list.c` that make, link and free device lists and their
elements, one after the other.  A list and an element are handles with a reference
count; an element is linked into the chain of a list and names that list.  In the
cleanup of a list the calls on that list count nothing.

The chain of a list stands as the list of its elements: `DL_APPEND` adds at its end,
and `DL_DELETE` has no meaning for an element that is not linked, so a call that does
it ends in `none`.

## Main definitions

* `ObjBase`, `ObjBase.inc`, `ObjBase.dec` — the counts of a handle.
* `DevList`, `DevInfoEL`, `DevLists` — the lists, the elements, and all of them.
* `LstKCall`, `LstKCall.run` — the calls, and what they return and leave behind.
-/

namespace LibusbK

/-! ### Counted handles -/

/-- `KOBJ_BASE` of a handle in use, seen by the thread that makes the calls: `Count.Ref`,
and whether `Disposing` is set. -/
structure ObjBase where
  ref : ℤ
  disposing : Bool
deriving DecidableEq

namespace ObjBase

/-- `PoolHandle_Acquire`. -/
def acquired : ObjBase := ⟨1, false⟩

/-- `PoolHandle_Inc`, unless it returns `FALSE` and leaves the count as it is. -/
def inc (b : ObjBase) : Option ObjBase :=
  if b.disposing then some b
  else if b.ref + 1 > 1 then some { b with ref := b.ref + 1 }
  else none

/-- `PoolHandle_Dec` gives up the last reference, and runs the cleanup. -/
def Last (b : ObjBase) : Prop := b.disposing = false ∧ b.ref - 1 = 0

instance (b : ObjBase) : Decidable b.Last := inferInstanceAs (Decidable (_ ∧ _))

/-- `PoolHandle_Dec`, up to the cleanup. -/
def dec (b : ObjBase) : ObjBase :=
  if b.disposing then b
  else { ref := b.ref - 1, disposing := decide (b.ref - 1 = 0) }

end ObjBase

/-! ### Lists and elements -/

/-- `KLST_HANDLE_INTERNAL`. -/
structure DevList extends ObjBase where
  /-- The elements of the chain at `head`. -/
  head : List ℕ
deriving DecidableEq

/-- `KLST_DEVINFO_EL` with the handle that `DevInfoHandle` names. -/
structure DevInfoEL extends ObjBase where
  devListHandle : Option ℕ
  info : DevInfo
deriving DecidableEq

/-- The handles of the sections `LstK` and `LstInfoK`. -/
@[ext] structure DevLists where
  lstK : Objects DevList
  lstInfoK : Objects DevInfoEL

namespace DevLists

/-- No list. -/
def empty : DevLists := ⟨.empty, .empty⟩

/-- Change a list. -/
def onLstK (s : DevLists) (list : ℕ) (f : DevList → DevList) : DevLists :=
  { s with lstK := s.lstK.modify list f }

/-- Change an element. -/
def onLstInfoK (s : DevLists) (info : ℕ) (f : DevInfoEL → DevInfoEL) : DevLists :=
  { s with lstInfoK := s.lstInfoK.modify info f }

/-- The elements a list holds. -/
def chain (s : DevLists) (list : ℕ) : List ℕ := ((s.lstK.get list).map DevList.head).getD []

/-- `DevListHandle` of an element. -/
def devListHandle (s : DevLists) (info : ℕ) : Option ℕ :=
  (s.lstInfoK.get info).bind DevInfoEL.devListHandle

/-- `DL_APPEND`. -/
def dlAppend (s : DevLists) (list info : ℕ) : DevLists :=
  s.onLstK list fun l => { l with head := l.head ++ [info] }

/-- `DL_DELETE`, if the element is linked. -/
def dlDelete (s : DevLists) (list info : ℕ) : Option DevLists :=
  if info ∈ s.chain list then some (s.onLstK list fun l => { l with head := l.head.erase info })
  else none

/-! ### References -/

/-- `PoolHandle_Inc_LstK`, unless it returns `FALSE`. -/
def incLstK (s : DevLists) (list : ℕ) : Option DevLists :=
  (s.lstK.get list).bind fun l =>
    l.inc.map fun base => s.onLstK list fun l => { l with toObjBase := base }

/-- `PoolHandle_Inc_LstInfoK`, unless it returns `FALSE`. -/
def incLstInfoK (s : DevLists) (info : ℕ) : Option DevLists :=
  (s.lstInfoK.get info).bind fun el =>
    el.inc.map fun base => s.onLstInfoK info fun el => { el with toObjBase := base }

/-- `PoolHandle_Dec_LstK`, with the cleanup of the list. -/
def decLstK (cleanup : ℕ → DevLists → Option DevLists) (s : DevLists) (list : ℕ) :
    Option DevLists :=
  match s.lstK.get list with
  | none => some s
  | some l =>
    let s' := s.onLstK list fun l => { l with toObjBase := l.dec }
    if l.Last then (cleanup list s').map fun s => { s with lstK := s.lstK.delete list }
    else some s'

/-- `PoolHandle_Dec_LstInfoK`; the cleanup frees the element. -/
def decLstInfoK (s : DevLists) (info : ℕ) : DevLists :=
  match s.lstInfoK.get info with
  | none => s
  | some el =>
    if el.Last then { s with lstInfoK := s.lstInfoK.delete info }
    else s.onLstInfoK info fun el => { el with toObjBase := el.dec }

/-! ### Linking elements -/

section Link

variable (cleanup : ℕ → DevLists → Option DevLists)

/-- `LstK_DetachInfo`. -/
def lstKDetachInfo (deviceList deviceInfo : ℕ) (s : DevLists) : Option (Bool × DevLists) :=
  match s.incLstK deviceList with
  | none => some (false, s)
  | some s =>
    match s.incLstInfoK deviceInfo with
    | none => (s.decLstK cleanup deviceList).map fun s => (false, s)
    | some s =>
      if s.devListHandle deviceInfo = some deviceList then
        let s := s.onLstInfoK deviceInfo fun el => { el with devListHandle := none }
        (s.dlDelete deviceList deviceInfo).bind fun s =>
          let s := s.decLstInfoK deviceInfo
          ((s.decLstInfoK deviceInfo).decLstK cleanup deviceList).map fun s => (true, s)
      else
        -- `DeviceInfo` does not exist in `DeviceList`
        ((s.decLstInfoK deviceInfo).decLstK cleanup deviceList).map fun s => (false, s)

/-- `LstK_AttachInfo`. -/
def lstKAttachInfo (deviceList deviceInfo : ℕ) (s : DevLists) : Option (Bool × DevLists) :=
  match s.incLstK deviceList with
  | none => some (false, s)
  | some s =>
    match s.incLstInfoK deviceInfo with
    | none => (s.decLstK cleanup deviceList).map fun s => (false, s)
    | some s =>
      if s.devListHandle deviceInfo = none then
        let s := s.onLstInfoK deviceInfo fun el => { el with devListHandle := some deviceList }
        ((s.dlAppend deviceList deviceInfo).decLstK cleanup deviceList).map fun s => (true, s)
      else
        -- `DeviceInfo` already attached
        ((s.decLstInfoK deviceInfo).decLstK cleanup deviceList).map fun s => (false, s)

/-- `LstK_FreeInfo`. -/
def lstKFreeInfo (deviceInfo : ℕ) (s : DevLists) : Bool × DevLists :=
  match s.incLstInfoK deviceInfo with
  | none => (false, s)
  | some s =>
    if s.devListHandle deviceInfo = none then
      (true, (s.decLstInfoK deviceInfo).decLstInfoK deviceInfo)
    else (false, s.decLstInfoK deviceInfo)

/-- `LstK_CloneInfo`; `refused` says that there is no handle or no memory for the clone.
Returned is the clone. -/
def lstKCloneInfo (srcInfo : ℕ) (refused : Bool) (s : DevLists) : Option ℕ × DevLists :=
  match s.incLstInfoK srcInfo, s.lstInfoK.get srcInfo with
  | some s, some src =>
    if refused then (none, s.decLstInfoK srcInfo)
    else
      let clone : DevInfoEL :=
        { toObjBase := .acquired
          devListHandle := none
          info := src.info }
      (some s.lstInfoK.next, { s with lstInfoK := s.lstInfoK.create clone }.decLstInfoK srcInfo)
  | _, _ => (none, s)

/-! ### Enumerations -/

/-- `DL_FOREACH_SAFE` over the elements that were linked when it started: a callback
unlinks no other element than the one it is shown. -/
def foreachSafe (enumDevListCB : ℕ → DevLists → Option (Bool × DevLists)) :
    List ℕ → DevLists → Option DevLists
  | [], s => some s
  | check :: rest, s =>
    (enumDevListCB check s).bind fun (more, s) =>
      if more then foreachSafe enumDevListCB rest s else some s

/-- `LstK_Enumerate`. -/
def lstKEnumerate (enumDevListCB : ℕ → DevLists → Option (Bool × DevLists)) (deviceList : ℕ)
    (s : DevLists) : Option (Bool × DevLists) :=
  match s.incLstK deviceList with
  | none => some (false, s)
  | some s =>
    (foreachSafe enumDevListCB (s.chain deviceList) s).bind fun s =>
      (s.decLstK cleanup deviceList).map fun s => (true, s)

/-- `l_DevEnum_Free_All`. -/
def devEnumFreeAll (deviceList deviceInfo : ℕ) (s : DevLists) : Option (Bool × DevLists) :=
  (lstKDetachInfo cleanup deviceList deviceInfo s).map fun (_, s) =>
    (true, (lstKFreeInfo deviceInfo s).2)

end Link

/-- `Cleanup_DeviceList`.  It does not run inside itself: there the list counts nothing. -/
def cleanupDeviceList (list : ℕ) (s : DevLists) : Option DevLists :=
  (lstKEnumerate (fun _ _ => none) (devEnumFreeAll (fun _ _ => none) list) list s).map Prod.snd

/-! ### Making and freeing lists -/

/-- `LstK_Free`. -/
def lstKFree (deviceList : ℕ) (s : DevLists) : Option (Bool × DevLists) :=
  match s.incLstK deviceList with
  | none => some (false, s)
  | some s =>
    (s.decLstK cleanupDeviceList deviceList).bind fun s =>
      (s.decLstK cleanupDeviceList deviceList).map fun s => (true, s)

/-- `l_Build_AddElement`, when there is a handle and memory for the element. -/
def buildAddElement (deviceList : ℕ) (tempItem : TempItem) (s : DevLists) : DevLists :=
  let element : DevInfoEL :=
    { toObjBase := .acquired
      devListHandle := none
      info := tempItem.devInfo }
  let clonedHandle := s.lstInfoK.next
  let s : DevLists := { s with lstInfoK := s.lstInfoK.create element }
  let s := (s.incLstInfoK clonedHandle).getD s
  let s := s.onLstInfoK clonedHandle fun el => { el with devListHandle := some deviceList }
  s.dlAppend deviceList clonedHandle

/-- How `LstK_InitInternal` ends: without a handle, or after the elements `items` were
added, when the enumeration of the devices succeeds or fails. -/
inductive InitOutcome
  | noHandle
  | built (items : List TempItem) (success : Bool)

/-- A new list. -/
def acquireLstK (s : DevLists) : DevLists :=
  { s with lstK := s.lstK.create { toObjBase := .acquired, head := [] } }

/-- `LstK_InitInternal`.  Returned is the list. -/
def lstKInitInternal (outcome : InitOutcome) (s : DevLists) : Option (Option ℕ × DevLists) :=
  match outcome with
  | .noHandle => some (none, s)
  | .built items success =>
    let handle := s.lstK.next
    let s := items.foldl (fun s item => s.buildAddElement handle item) s.acquireLstK
    if success then some (some handle, s)
    else (s.decLstK cleanupDeviceList handle).map fun s => (none, s)

/-- `l_DevEnum_Clone_All`; the elements for which there is no clone are `refused`. -/
def devEnumCloneAll (refused : ℕ → Bool) (dstDeviceList deviceInfo : ℕ) (s : DevLists) :
    Option (Bool × DevLists) :=
  match lstKCloneInfo deviceInfo (refused deviceInfo) s with
  | (some clonedDevInfo, s) =>
    (lstKAttachInfo cleanupDeviceList dstDeviceList clonedDevInfo s).map fun (_, s) => (true, s)
  | (none, s) => some (false, s)

/-- `LstK_Clone`; `noHandle` says that there is no handle for the new list. -/
def lstKClone (srcList : ℕ) (noHandle : Bool) (refused : ℕ → Bool) (s : DevLists) :
    Option (Bool × DevLists) :=
  match s.incLstK srcList with
  | none => some (false, s)
  | some s =>
    if noHandle then (s.decLstK cleanupDeviceList srcList).map fun s => (false, s)
    else
      let newDeviceList := s.lstK.next
      (lstKEnumerate cleanupDeviceList (devEnumCloneAll refused newDeviceList) srcList
          s.acquireLstK).bind fun (success, s) =>
        (s.decLstK cleanupDeviceList srcList).map fun s => (success, s)

/-! ### Synchronising lists -/

section Sync

variable (pathMatchSpec : List Char → List Char → Bool)

/-- `DL_SEARCH` for an element with the link of `pattern`. -/
def dlSearch (s : DevLists) (list : ℕ) (pattern : DevInfo) : Option ℕ :=
  (s.chain list).find? fun info =>
    (s.lstInfoK.get info).any fun el => matchSymbolicLink pathMatchSpec el.info pattern

/-- `l_DevEnum_SyncPrep`. -/
def devEnumSyncPrep (deviceInfo : ℕ) (s : DevLists) : Option (Bool × DevLists) :=
  some (true, s.onLstInfoK deviceInfo fun el =>
    { el with info := el.info.setSyncFlags SyncFlag.none })

/-- `l_DevEnum_Sync_Slave`. -/
def devEnumSyncSlave (mask : BitVec 32) (master deviceList deviceInfo : ℕ) (s : DevLists) :
    Option (Bool × DevLists) :=
  (s.lstInfoK.get deviceInfo).bind fun slave =>
    match s.dlSearch pathMatchSpec master slave.info with
    | some masterDevInfo =>
      some (true, s.onLstInfoK masterDevInfo fun el =>
        { el with info := syncSlaveFound mask slave.info el.info })
    | none =>
      if SyncFlag.added &&& mask ≠ 0#32 then
        -- moved to the master list
        (lstKDetachInfo cleanupDeviceList deviceList deviceInfo s).bind fun (_, s) =>
          (lstKAttachInfo cleanupDeviceList master deviceInfo s).map fun (_, s) =>
            let flags := if slave.info.connected then SyncFlag.added else SyncFlag.unchanged
            (true, s.onLstInfoK deviceInfo fun el =>
              { el with info := el.info.setSyncFlags flags })
      else some (true, s)

/-- `l_DevEnum_Sync_Master`. -/
def devEnumSyncMaster (mask : BitVec 32) (slave deviceInfo : ℕ) (s : DevLists) :
    Option (Bool × DevLists) :=
  let slaveInfos := (s.chain slave).filterMap fun info =>
    (s.lstInfoK.get info).map DevInfoEL.info
  some (true, s.onLstInfoK deviceInfo fun el =>
    { el with info := syncMaster pathMatchSpec mask slaveInfos el.info })

/-- `LstK_Sync`, when it has both lists.  They may be one list: every link matches itself,
so then nothing is moved. -/
def syncLists (masterList slaveList : ℕ) (syncFlags : BitVec 32) (s : DevLists) :
    Option (Bool × DevLists) :=
  let mask := if syncFlags = 0#32 then SyncFlag.mask else syncFlags
  (lstKEnumerate cleanupDeviceList devEnumSyncPrep masterList s).bind fun (_, s) =>
  (lstKEnumerate cleanupDeviceList (devEnumSyncSlave pathMatchSpec mask masterList slaveList)
    slaveList s).bind fun (_, s) =>
  (lstKEnumerate cleanupDeviceList (devEnumSyncMaster pathMatchSpec mask slaveList) masterList
    s).bind fun (_, s) =>
  (s.decLstK cleanupDeviceList masterList).bind fun s =>
  (s.decLstK cleanupDeviceList slaveList).map fun s => (true, s)

/-- `LstK_Sync`. -/
def lstKSync (masterList : ℕ) (slaveList : Option ℕ) (syncFlags : BitVec 32)
    (outcome : InitOutcome) (s : DevLists) : Option (Bool × DevLists) :=
  match s.incLstK masterList with
  | none => some (false, s)
  | some s =>
    match slaveList with
    | none =>
      (lstKInitInternal outcome s).bind fun
        | (some slaveList, s) => s.syncLists pathMatchSpec masterList slaveList syncFlags
        | (none, s) => (s.decLstK cleanupDeviceList masterList).map fun s => (false, s)
    | some slaveList =>
      match s.incLstK slaveList with
      | some s => s.syncLists pathMatchSpec masterList slaveList syncFlags
      | none =>
        (s.decLstK cleanupDeviceList masterList).bind fun s =>
          (s.decLstK cleanupDeviceList slaveList).map fun s => (false, s)

end Sync

end DevLists

/-! ### The calls -/

/-- The calls on lists and elements. -/
inductive LstKCall
  | init (outcome : DevLists.InitOutcome)
  | clone (srcList : ℕ) (noHandle : Bool) (refused : ℕ → Bool)
  | cloneInfo (srcInfo : ℕ) (refused : Bool)
  | attachInfo (deviceList deviceInfo : ℕ)
  | detachInfo (deviceList deviceInfo : ℕ)
  | freeInfo (deviceInfo : ℕ)
  | sync (masterList : ℕ) (slaveList : Option ℕ) (syncFlags : BitVec 32)
    (outcome : DevLists.InitOutcome)
  | free (deviceList : ℕ)

/-- What a call returns and leaves behind. -/
def LstKCall.run (pathMatchSpec : List Char → List Char → Bool) (s : DevLists) :
    LstKCall → Option (Bool × DevLists)
  | init outcome => (s.lstKInitInternal outcome).map fun (list, s) => (list.isSome, s)
  | clone srcList noHandle refused => s.lstKClone srcList noHandle refused
  | cloneInfo srcInfo refused =>
    some ((s.lstKCloneInfo srcInfo refused).1.isSome, (s.lstKCloneInfo srcInfo refused).2)
  | attachInfo deviceList deviceInfo =>
    s.lstKAttachInfo DevLists.cleanupDeviceList deviceList deviceInfo
  | detachInfo deviceList deviceInfo =>
    s.lstKDetachInfo DevLists.cleanupDeviceList deviceList deviceInfo
  | freeInfo deviceInfo => some (s.lstKFreeInfo deviceInfo)
  | sync masterList slaveList syncFlags outcome =>
    s.lstKSync pathMatchSpec masterList slaveList syncFlags outcome
  | free deviceList => s.lstKFree deviceList

end LibusbK
