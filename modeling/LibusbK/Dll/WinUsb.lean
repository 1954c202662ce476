import LibusbK.Dll.UsbHandles
import LibusbK.Driver.PipePolicy
import LibusbK.Lib.Machine

/-!
# The WinUSB backend

The calls of `lusbk_bknd_winusb.c` that name a pipe, those that change an alternate
setting, and `IsochK_Init`.  WinUSB has a handle for each interface of a device, here
the index of the interface; it opens a device with the alternate setting zero on each,
and a request it refuses changes nothing.

## Main definitions

* `WUsbDevice`, `wUsbInitialize` — a device of the backend, and how it is opened.
* `WinUsbRequest` — a request to WinUSB about a pipe, and the handle it is made on.
* `WUsbCall`, `WUsbCall.run` — the calls.
-/

namespace LibusbK

/-! ### A device -/

/-- The functions of WinUSB that take a pipe, or the buffer of one. -/
inductive WinUsbFunction
  | setPipePolicy
  | getPipePolicy
  | readPipe
  | writePipe
  | resetPipe
  | abortPipe
  | flushPipe
  | registerIsochBuffer
  | readIsochPipe
  | readIsochPipeAsap
  | writeIsochPipe
  | writeIsochPipeAsap
  deriving DecidableEq, Repr

/-- A request to WinUSB; that of an isochronous transfer is made on the handle its buffer
is registered with. -/
structure WinUsbRequest where
  function : WinUsbFunction
  interfaceHandle : Option ℕ
  pipeID : UInt8
  deriving DecidableEq, Repr

/-- `USER_PIPE_POLICY`. -/
structure UserPipePolicy where
  timeout : UInt32 := 0
  isoasap : UInt32 := 0
  deriving DecidableEq, Repr

/-- `KISOCH_HANDLE_INTERNAL`: its pipe, and the interface handle its buffer is registered
with. -/
structure IsochHandle where
  pipeID : UInt8
  interfaceHandle : Option ℕ
  deriving DecidableEq, Repr

/-- A device that the backend has opened. -/
structure WUsbDevice where
  handles : UsbHandles
  pipeCache : UInt8 → Option ℕ
  pipePolicies : UInt8 → UserPipePolicy := fun _ => {}
  isochs : List IsochHandle := []
  /-- The functions that this version of WinUSB has. -/
  supports : WinUsbFunction → Bool
  /-- The alternate setting WinUSB has selected for each of its handles. -/
  altSettings : ℕ → UInt8 := fun _ => 0

/-- The loop of `w_Init_Config` over the handles WinUSB has for the interfaces. -/
def wInitConfig (interfaceCount : ℕ) : ℕ → SharedSetting :=
  (List.range interfaceCount).foldl
    (fun shared k => Function.update shared k { shared k with interfaceHandle := some k })
    fun _ => { interfaceHandle := none, currentAltSetting := 0, claimed := false }

/-- `MasterInterfaceHandle`. -/
def masterInterfaceHandle : Option ℕ := some 0

/-- `UsbStack_RefreshPipeCache`. -/
def WUsbDevice.refreshPipeCache (stack : UsbStack) (d : WUsbDevice) : WUsbDevice :=
  { d with
    pipeCache :=
      stack.refreshPipeCache masterInterfaceHandle d.handles.sharedInterfaces d.pipeCache }

/-- `WUsb_Init` and `WUsb_Initialize`, on a device with this stack. -/
def wUsbInitialize (stack : UsbStack) (supports : WinUsbFunction → Bool) : WUsbDevice :=
  { handles := { sharedInterfaces := wInitConfig stack.interfaceList.length }
    pipeCache := fun _ => none
    supports : WUsbDevice }.refreshPipeCache stack

/-- A call: the device after it, the request it makes about a pipe, whether it succeeds,
and what it answers of its own. -/
structure WUsbResult where
  device : WUsbDevice
  request : Option WinUsbRequest := none
  success : Bool
  answer : Option UInt8 := none

namespace WUsbDevice

/-- `Pub_To_Priv_UsbK`, and the call on the selected index of a valid handle. -/
def withHandle (d : WUsbDevice) (handle : ℕ) (call : UInt8 → WUsbResult) : WUsbResult :=
  match d.handles.selected[handle]? with
  | none => { device := d, success := false }
  | some selected => call selected

/-- `FindInterfaceEL`, and the call on what it finds. -/
def withInterface (d : WUsbDevice) (stack : UsbStack) (isIndex : Bool) (numberOrIndex : UInt8)
    (call : InterfaceEL → WUsbResult) : WUsbResult :=
  match stack.findInterfaceEL isIndex numberOrIndex with
  | none => { device := d, success := false }
  | some intfEL => call intfEL

/-- A call that makes no request to WinUSB. -/
def ofHandles {α : Type} (d : WUsbDevice) (r : HandleResult α) : WUsbResult :=
  { device := { d with handles := r.handles }, success := r.result.isOk }

/-! ### Interfaces and alternate settings -/

/-- `WUsb_ClaimInterface`. -/
def claimInterface (stack : UsbStack) (d : WUsbDevice) (handle : ℕ) (numberOrIndex : UInt8)
    (isIndex : Bool) : WUsbResult :=
  d.ofHandles (d.handles.claimOrReleaseInterface stack handle numberOrIndex true isIndex true)

/-- `WUsb_ReleaseInterface`. -/
def releaseInterface (stack : UsbStack) (d : WUsbDevice) (handle : ℕ) (numberOrIndex : UInt8)
    (isIndex : Bool) : WUsbResult :=
  d.ofHandles (d.handles.claimOrReleaseInterface stack handle numberOrIndex false isIndex true)

/-- `WUsb_SelectInterface`. -/
def selectInterface (stack : UsbStack) (d : WUsbDevice) (handle : ℕ) (numberOrIndex : UInt8)
    (isIndex : Bool) : WUsbResult :=
  d.ofHandles (d.handles.selectInterface stack handle numberOrIndex isIndex)

/-- `UsbStack_CloneHandle`. -/
def cloneHandle (d : WUsbDevice) (handle : ℕ) (pool : Bool) : WUsbResult :=
  d.ofHandles (d.handles.cloneHandle handle pool)

/-- `WUsb_GetAssociatedInterface`. -/
def getAssociatedInterface (stack : UsbStack) (d : WUsbDevice) (handle : ℕ)
    (associatedInterfaceIndex : UInt8) (pool : Bool) : WUsbResult :=
  d.ofHandles (d.handles.getAssociatedInterface stack handle associatedInterfaceIndex pool)

/-- `WinUsb.SetCurrentAlternateSetting` for the slot of an index, and what follows it;
`accepts` is whether WinUSB accepts a request on a handle. -/
def setAltSetting (stack : UsbStack) (d : WUsbDevice) (intfIndex altSettingNumber : UInt8)
    (accepts : Bool) : WUsbResult :=
  match (getSharedInterface d.handles.sharedInterfaces intfIndex).interfaceHandle, accepts with
  | some k, true =>
    let handles := (d.handles.storeAltSetting intfIndex (some altSettingNumber)).handles
    let altSettings := Function.update d.altSettings k altSettingNumber
    { device := { d with handles, altSettings }.refreshPipeCache stack, success := true }
  | _, _ => { device := d, success := false }

/-- `WinUsb.GetCurrentAlternateSetting` for the slot of an index, and what follows it. -/
def getAltSetting (stack : UsbStack) (d : WUsbDevice) (intfIndex : UInt8) (accepts : Bool) :
    WUsbResult :=
  match (getSharedInterface d.handles.sharedInterfaces intfIndex).interfaceHandle, accepts with
  | some k, true =>
    let handles := (d.handles.storeAltSetting intfIndex (some (d.altSettings k))).handles
    { device := { d with handles }.refreshPipeCache stack
      success := true
      answer := some (d.altSettings k) }
  | _, _ => { device := d, success := false }

/-- `WUsb_SetCurrentAlternateSetting`. -/
def setCurrentAlternateSetting (stack : UsbStack) (d : WUsbDevice) (handle : ℕ)
    (altSettingNumber : UInt8) (accepts : Bool) : WUsbResult :=
  d.withHandle handle fun selected => d.setAltSetting stack selected altSettingNumber accepts

/-- `WUsb_GetCurrentAlternateSetting`. -/
def getCurrentAlternateSetting (stack : UsbStack) (d : WUsbDevice) (handle : ℕ)
    (accepts : Bool) : WUsbResult :=
  d.withHandle handle fun selected => d.getAltSetting stack selected accepts

/-- `WUsb_SetAltInterface`. -/
def setAltInterface (stack : UsbStack) (d : WUsbDevice) (handle : ℕ) (numberOrIndex : UInt8)
    (isIndex : Bool) (altSettingNumber : UInt8) (accepts : Bool) : WUsbResult :=
  d.withHandle handle fun _ =>
    d.withInterface stack isIndex numberOrIndex fun intfEL =>
      d.setAltSetting stack intfEL.index altSettingNumber accepts

/-- `WUsb_GetAltInterface`. -/
def getAltInterface (stack : UsbStack) (d : WUsbDevice) (handle : ℕ) (numberOrIndex : UInt8)
    (isIndex accepts : Bool) : WUsbResult :=
  d.withHandle handle fun _ =>
    d.withInterface stack isIndex numberOrIndex fun intfEL =>
      d.getAltSetting stack intfEL.index accepts

/-! ### Pipes -/

/-- `Get_PipeInterfaceHandle`. -/
def getPipeInterfaceHandle (d : WUsbDevice) (pipeID : UInt8) : Option ℕ :=
  d.pipeCache (pipeIdToIdx pipeID)

/-- A write to `GetSetPipePolicy`. -/
def updatePolicy (d : WUsbDevice) (pipeID : UInt8) (f : UserPipePolicy → UserPipePolicy) :
    WUsbDevice :=
  { d with
    pipePolicies :=
      Function.update d.pipePolicies (pipeIdToIdx pipeID)
        (f (d.pipePolicies (pipeIdToIdx pipeID))) }

/-- `WUsb_SetPipePolicy`.  WinUSB accepts no timeout without a value. -/
def setPipePolicy (d : WUsbDevice) (handle : ℕ) (pipeID : UInt8) (policyType valueLength : UInt32)
    (value : Option ValueBytes) (accepts : Bool) : WUsbResult :=
  d.withHandle handle fun _ =>
    if policyType = ISO_ALWAYS_START_ASAP ∧ value.isSome ∧ valueLength ≠ 0 then
      { device := d.updatePolicy pipeID fun policy =>
          { policy with isoasap := ((value.map ValueBytes.uchar).getD 0).toUInt32 }
        success := true }
    else
      { device :=
          if accepts ∧ policyType = PIPE_TRANSFER_TIMEOUT then
            d.updatePolicy pipeID fun policy =>
              { policy with timeout := (value.map ValueBytes.ulong).getD 0 }
          else d
        request := some ⟨.setPipePolicy, masterInterfaceHandle, pipeID⟩
        success := accepts }

/-- `WUsb_GetPipePolicy`; `hasValue` is whether there is a place for the value. -/
def getPipePolicy (d : WUsbDevice) (handle : ℕ) (pipeID : UInt8) (policyType : UInt32)
    (hasValue accepts : Bool) : WUsbResult :=
  d.withHandle handle fun _ =>
    if policyType = ISO_ALWAYS_START_ASAP ∧ hasValue then
      { device := d
        success := true
        answer := some (d.pipePolicies (pipeIdToIdx pipeID)).isoasap.toUInt8 }
    else
      { device := d
        request := some ⟨.getPipePolicy, masterInterfaceHandle, pipeID⟩
        success := accepts }

/-- The calls that only pass their pipe on. -/
def pipeRequest (function : WinUsbFunction) (d : WUsbDevice) (handle : ℕ) (pipeID : UInt8)
    (accepts : Bool) : WUsbResult :=
  d.withHandle handle fun _ =>
    { device := d
      request := some ⟨function, d.getPipeInterfaceHandle pipeID, pipeID⟩
      success := accepts }

/-- `WUsb_ResetPipe`. -/
def resetPipe : WUsbDevice → ℕ → UInt8 → Bool → WUsbResult := pipeRequest .resetPipe

/-- `WUsb_AbortPipe`. -/
def abortPipe : WUsbDevice → ℕ → UInt8 → Bool → WUsbResult := pipeRequest .abortPipe

/-- `WUsb_FlushPipe`. -/
def flushPipe : WUsbDevice → ℕ → UInt8 → Bool → WUsbResult := pipeRequest .flushPipe

/-- `WUsb_ReadPipe`. -/
def readPipe : WUsbDevice → ℕ → UInt8 → Bool → WUsbResult := pipeRequest .readPipe

/-- `WUsb_WritePipe`. -/
def writePipe : WUsbDevice → ℕ → UInt8 → Bool → WUsbResult := pipeRequest .writePipe

/-- `IsochK_Init`; `ready` is whether the calls before the query of the pipe succeed. -/
def isochInit (stack : UsbStack) (d : WUsbDevice) (handle : ℕ) (pipeID : UInt8)
    (ready accepts : Bool) : WUsbResult :=
  d.withHandle handle fun _ =>
    if !ready || !(d.handles.querySelectedPipe stack handle pipeID false).result.isOk then
      { device := d, success := false }
    else
      let interfaceHandle := d.getPipeInterfaceHandle pipeID
      { device :=
          if accepts then { d with isochs := d.isochs ++ [⟨pipeID, interfaceHandle⟩] } else d
        request := some ⟨.registerIsochBuffer, interfaceHandle, pipeID⟩
        success := accepts }

/-- An isochronous transfer: as soon as possible, or in a given frame. -/
def isochTransfer (asap inFrame : WinUsbFunction) (d : WUsbDevice) (isoch : IsochHandle)
    (frameNumber accepts : Bool) : WUsbResult :=
  let function :=
    if !frameNumber || (d.pipePolicies (pipeIdToIdx isoch.pipeID)).isoasap ≠ 0 then asap
    else inFrame
  if d.supports function then
    { device := d
      request := some ⟨function, isoch.interfaceHandle, isoch.pipeID⟩
      success := accepts }
  else { device := d, success := false }

/-- `WUsb_IsochReadPipe`; `frameNumber` is whether there is one. -/
def isochReadPipe (d : WUsbDevice) (isochHandle : ℕ) (frameNumber accepts : Bool) : WUsbResult :=
  if !d.supports .readIsochPipe then { device := d, success := false }
  else
    match d.isochs[isochHandle]? with
    | none => { device := d, success := false }
    | some isoch =>
      d.isochTransfer .readIsochPipeAsap .readIsochPipe isoch frameNumber accepts

/-- `WUsb_IsochWritePipe`. -/
def isochWritePipe (d : WUsbDevice) (isochHandle : ℕ) (frameNumber accepts : Bool) : WUsbResult :=
  match d.isochs[isochHandle]? with
  | none => { device := d, success := false }
  | some isoch =>
    d.isochTransfer .writeIsochPipeAsap .writeIsochPipe isoch frameNumber accepts

end WUsbDevice

/-! ### Calls -/

/-- A call of the backend, with what WinUSB answers. -/
inductive WUsbCall
  | claimInterface (handle : ℕ) (numberOrIndex : UInt8) (isIndex : Bool)
  | releaseInterface (handle : ℕ) (numberOrIndex : UInt8) (isIndex : Bool)
  | selectInterface (handle : ℕ) (numberOrIndex : UInt8) (isIndex : Bool)
  | cloneHandle (handle : ℕ) (pool : Bool)
  | getAssociatedInterface (handle : ℕ) (associatedInterfaceIndex : UInt8) (pool : Bool)
  | setCurrentAlternateSetting (handle : ℕ) (altSettingNumber : UInt8) (accepts : Bool)
  | getCurrentAlternateSetting (handle : ℕ) (accepts : Bool)
  | setAltInterface (handle : ℕ) (numberOrIndex : UInt8) (isIndex : Bool)
    (altSettingNumber : UInt8) (accepts : Bool)
  | getAltInterface (handle : ℕ) (numberOrIndex : UInt8) (isIndex accepts : Bool)
  | setPipePolicy (handle : ℕ) (pipeID : UInt8) (policyType valueLength : UInt32)
    (value : Option ValueBytes) (accepts : Bool)
  | getPipePolicy (handle : ℕ) (pipeID : UInt8) (policyType : UInt32) (hasValue accepts : Bool)
  | resetPipe (handle : ℕ) (pipeID : UInt8) (accepts : Bool)
  | abortPipe (handle : ℕ) (pipeID : UInt8) (accepts : Bool)
  | flushPipe (handle : ℕ) (pipeID : UInt8) (accepts : Bool)
  | readPipe (handle : ℕ) (pipeID : UInt8) (accepts : Bool)
  | writePipe (handle : ℕ) (pipeID : UInt8) (accepts : Bool)
  | isochInit (handle : ℕ) (pipeID : UInt8) (ready accepts : Bool)
  | isochReadPipe (isochHandle : ℕ) (frameNumber accepts : Bool)
  | isochWritePipe (isochHandle : ℕ) (frameNumber accepts : Bool)

/-- The call on a device. -/
def WUsbCall.run (stack : UsbStack) (d : WUsbDevice) : WUsbCall → WUsbResult
  | claimInterface handle numberOrIndex isIndex =>
    d.claimInterface stack handle numberOrIndex isIndex
  | releaseInterface handle numberOrIndex isIndex =>
    d.releaseInterface stack handle numberOrIndex isIndex
  | selectInterface handle numberOrIndex isIndex =>
    d.selectInterface stack handle numberOrIndex isIndex
  | cloneHandle handle pool => d.cloneHandle handle pool
  | getAssociatedInterface handle associatedInterfaceIndex pool =>
    d.getAssociatedInterface stack handle associatedInterfaceIndex pool
  | setCurrentAlternateSetting handle altSettingNumber accepts =>
    d.setCurrentAlternateSetting stack handle altSettingNumber accepts
  | getCurrentAlternateSetting handle accepts =>
    d.getCurrentAlternateSetting stack handle accepts
  | setAltInterface handle numberOrIndex isIndex altSettingNumber accepts =>
    d.setAltInterface stack handle numberOrIndex isIndex altSettingNumber accepts
  | getAltInterface handle numberOrIndex isIndex accepts =>
    d.getAltInterface stack handle numberOrIndex isIndex accepts
  | setPipePolicy handle pipeID policyType valueLength value accepts =>
    d.setPipePolicy handle pipeID policyType valueLength value accepts
  | getPipePolicy handle pipeID policyType hasValue accepts =>
    d.getPipePolicy handle pipeID policyType hasValue accepts
  | resetPipe handle pipeID accepts => d.resetPipe handle pipeID accepts
  | abortPipe handle pipeID accepts => d.abortPipe handle pipeID accepts
  | flushPipe handle pipeID accepts => d.flushPipe handle pipeID accepts
  | readPipe handle pipeID accepts => d.readPipe handle pipeID accepts
  | writePipe handle pipeID accepts => d.writePipe handle pipeID accepts
  | isochInit handle pipeID ready accepts => d.isochInit stack handle pipeID ready accepts
  | isochReadPipe isochHandle frameNumber accepts =>
    d.isochReadPipe isochHandle frameNumber accepts
  | isochWritePipe isochHandle frameNumber accepts =>
    d.isochWritePipe isochHandle frameNumber accepts

/-- The calls on a device with a stack. -/
def wUsbCalls (stack : UsbStack) : Machine WUsbDevice WUsbCall where
  step d call := some (call.run stack d).device

end LibusbK
