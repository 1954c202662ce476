import LibusbK.Dll.SlotLives

/-!
# Sections that forget

`Init_Handle_HotK`, `Init_Handle_LstK`, `Init_Handle_UsbK` and `Init_Handle_DevK` reset every
field of a handle, so the code of these sections may be any code.  `Init_Handle_LstInfoK`,
`Init_Handle_OvlK` and `Init_Handle_IsochK` leave fields out; there the functions that create
a handle write the others before they are read, also by the clean-up of a handle that could
not be created.

## Main definitions

* `hotKCode`, `lstKCode`, `usbKCode`, `devKCode` — sections with any code.
* `lstInfoKCode`, `ovlKCode`, `isochKCode` — the sections whose creation does the rest.

## Main results

* `lstInfoK_pastForgotten`, … — none of these sections remembers anything.
-/

namespace LibusbK

open SlotCode SectionCode

/-- A section of words with any code: what is run is part of the arguments. -/
def SectionCode.ofAnyCode {F : Type} [DecidableEq F]
    (initHandle : SlotCode (fun _ : F => ℤ) Unit) : SectionCode where
  Field := F
  decEq := inferInstance
  Val _ := ℤ
  zero _ := 0
  initHandle := initHandle
  Init := SlotCode (fun _ : F => ℤ) Bool
  init := id
  Use := SlotCode (fun _ : F => ℤ) Unit
  use := id
  Free := SlotCode (fun _ : F => ℤ) Unit
  cleanup := id

/-- Such a section forgets if `Init_Handle_*` writes every field. -/
theorem SectionCode.ofAnyCode_pastForgotten {F : Type} [DecidableEq F]
    {initHandle : SlotCode (fun _ : F => ℤ) Unit}
    (hexposes : ∀ s f, ¬initHandle.Exposes s (.own f))
    (hassigns : ∀ s f, initHandle.Assigns s (.own f)) (s : SlotState (.ofAnyCode initHandle)) :
    PastForgotten s := by
  have hwrites : ∀ (a : (ofAnyCode initHandle).Init) s f,
      (prepare a).Assigns s (.own f) := fun a s f =>
    (Access.assigns_bind ..).mpr (.inl (hassigns s f))
  refine PastForgotten.of_prepare (fun a s f h => ?_) (fun a s f _ => hwrites a s f)
    (fun a _ s _ f _ hnot => absurd (hwrites a s f) hnot) s
  rcases (Access.exposes_bind ..).mp h with h | ⟨hnot, -⟩
  · exact hexposes s f h
  · exact hnot (hassigns s f)

/-! ### Every field is reset -/

/-- `KHOT_HANDLE_INTERNAL`. -/
inductive HotKField
  | pub
  | prev
  | next
  deriving DecidableEq, Repr

/-- `Init_Handle_HotK`. -/
def initHandleHotK : SlotCode (fun _ : HotKField => ℤ) Unit := do
  put .pub 0
  put .next 0
  put .prev 0

def hotKCode : SectionCode := .ofAnyCode initHandleHotK

/-- `KLST_HANDLE_INTERNAL`. -/
inductive LstKField
  | current
  | head
  deriving DecidableEq, Repr

/-- `Init_Handle_LstK`. -/
def initHandleLstK : SlotCode (fun _ : LstKField => ℤ) Unit := do
  put .current 0
  put .head 0

def lstKCode : SectionCode := .ofAnyCode initHandleLstK

/-- `KUSB_HANDLE_INTERNAL`. -/
inductive UsbKField
  | device
  | selectedSharedInterfaceIndex
  | isClone
  | moveEnd
  | moveInterfaceEL
  | moveAltInterfaceEL
  | movePipeEL
  deriving DecidableEq, Repr

/-- `Init_Handle_UsbK`. -/
def initHandleUsbK : SlotCode (fun _ : UsbKField => ℤ) Unit := do
  put .device 0
  put .selectedSharedInterfaceIndex 0
  put .isClone 0
  put .moveEnd 0
  put .moveInterfaceEL 0
  put .moveAltInterfaceEL 0
  put .movePipeEL 0

def usbKCode : SectionCode := .ofAnyCode initHandleUsbK

/-- `KDEV_HANDLE_INTERNAL`. -/
inductive DevKField
  | masterDeviceHandle
  | masterInterfaceHandle
  | devicePath
  | configDescriptor
  | sharedInterfaces
  | driverAPI
  | usbStack
  | backendCtx
  deriving DecidableEq, Repr

/-- `Init_Handle_DevK`. -/
def initHandleDevK : SlotCode (fun _ : DevKField => ℤ) Unit := do
  put .masterDeviceHandle 0
  put .masterInterfaceHandle 0
  put .devicePath 0
  put .configDescriptor 0
  put .sharedInterfaces 0
  put .driverAPI 0
  put .usbStack 0
  put .backendCtx 0

def devKCode : SectionCode := .ofAnyCode initHandleDevK

theorem hotK_pastForgotten : ∀ s : SlotState hotKCode, PastForgotten s :=
  ofAnyCode_pastForgotten (fun s f => by cases f <;> simp [initHandleHotK])
    fun s f => by cases f <;> simp [initHandleHotK]

theorem lstK_pastForgotten : ∀ s : SlotState lstKCode, PastForgotten s :=
  ofAnyCode_pastForgotten (fun s f => by cases f <;> simp [initHandleLstK])
    fun s f => by cases f <;> simp [initHandleLstK]

theorem usbK_pastForgotten : ∀ s : SlotState usbKCode, PastForgotten s :=
  ofAnyCode_pastForgotten (fun s f => by cases f <;> simp [initHandleUsbK])
    fun s f => by cases f <;> simp [initHandleUsbK]

theorem devK_pastForgotten : ∀ s : SlotState devKCode, PastForgotten s :=
  ofAnyCode_pastForgotten (fun s f => by cases f <;> simp [initHandleDevK])
    fun s f => by cases f <;> simp [initHandleDevK]

/-! ### The creation does the rest -/

/-- `IsHandleValid`. -/
abbrev isHandleValid (handle : ℤ) : Prop := handle ≠ 0 ∧ handle ≠ -1

/-- `KLST_DEVINFO_HANDLE_INTERNAL`. -/
inductive LstInfoKField
  | devInfoEL
  | heap
  deriving DecidableEq, Repr

/-- The argument of `l_Alloc_DevInfo`, `AllK->HeapDynamic`, and what the allocation returns. -/
structure LstInfoKInit where
  heap : ℤ
  heapDynamic : ℤ
  alloc : ℤ

/-- `Init_Handle_LstInfoK`. -/
def initHandleLstInfoK : SlotCode (fun _ : LstInfoKField => ℤ) Unit :=
  put .devInfoEL 0

/-- `l_Alloc_DevInfo`. -/
def lAllocDevInfo (a : LstInfoKInit) : SlotCode (fun _ : LstInfoKField => ℤ) Bool := do
  if a.heap ≠ 0 then
    put .devInfoEL a.alloc
    put .heap a.heap
  else
    put .devInfoEL a.alloc
    put .heap a.heapDynamic
  let devInfoEL ← load .devInfoEL
  return decide (isHandleValid devInfoEL)

/-- `Cleanup_DevInfo`. -/
def cleanupDevInfo : SlotCode (fun _ : LstInfoKField => ℤ) Unit := do
  poolHandleDead
  let heap ← load .heap
  if heap ≠ 0 then
    let devInfoEL ← load .devInfoEL
    tell (.heapFree heap devInfoEL)
    put .devInfoEL 0
    put .heap 0
  else
    let devInfoEL ← load .devInfoEL
    tell (.memFree devInfoEL)
    put .devInfoEL 0

/-- The `LstInfoK` section. -/
def lstInfoKCode : SectionCode where
  Field := LstInfoKField
  decEq := inferInstance
  Val _ := ℤ
  zero _ := 0
  initHandle := initHandleLstInfoK
  Init := LstInfoKInit
  init := lAllocDevInfo
  Use := SlotCode (fun _ : LstInfoKField => ℤ) Unit
  use := id
  Free := Unit
  cleanup _ := cleanupDevInfo

/-- To prepare a device information exposes nothing and writes every field. -/
theorem lAllocDevInfo_spec (a : LstInfoKInit)
    (s : ∀ f, SlotVal (fun _ : LstInfoKField => ℤ) f) (f : LstInfoKField) :
    ¬(initHandleLstInfoK >>= fun _ => lAllocDevInfo a).Exposes s (.own f) ∧
      (initHandleLstInfoK >>= fun _ => lAllocDevInfo a).Assigns s (.own f) := by
  cases f <;> simp [initHandleLstInfoK, lAllocDevInfo]

theorem lstInfoK_pastForgotten : ∀ s : SlotState lstInfoKCode, PastForgotten s :=
  PastForgotten.of_prepare (fun a s f => (lAllocDevInfo_spec a s f).1)
    (fun a s f _ => (lAllocDevInfo_spec a s f).2)
    fun a _ s _ f _ hnot => absurd (lAllocDevInfo_spec a s f).2 hnot

/-! ### Overlapped handles -/

/-- `KOVL_HANDLE_INTERNAL`. -/
inductive OvlKField
  | internal
  | internalHigh
  | offset
  | offsetHigh
  | hEvent
  | pool
  | isAcquired
  | masterLink
  deriving DecidableEq, Repr

/-- The element and the pool `OvlK_Acquire` makes the handle for, and what `CreateEvent`
returns. -/
structure OvlKSlotInit where
  overlappedEL : ℤ
  pool : ℤ
  createEvent : ℤ

/-- `Init_Handle_OvlK`. -/
def initHandleOvlK : SlotCode (fun _ : OvlKField => ℤ) Unit := do
  put .internal 0
  put .internalHigh 0
  put .offset 0
  put .offsetHigh 0
  put .hEvent 0
  put .pool 0
  put .isAcquired 0

/-- `o_Reuse`. -/
def oReuse (createEvent : ℤ) : SlotCode (fun _ : OvlKField => ℤ) Unit := do
  let hEvent ← load .hEvent
  if hEvent = 0 then
    tell (.createEvent createEvent)
    put .hEvent createEvent
  else
    tell (.resetEvent hEvent)

/-- `OvlK_Acquire`, for an element that has no handle yet. -/
def ovlKAcquireNew (a : OvlKSlotInit) : SlotCode (fun _ : OvlKField => ℤ) Bool := do
  put .masterLink a.overlappedEL
  put .pool a.pool
  oReuse a.createEvent
  poolHandleLive
  put .isAcquired 1
  return true

/-- `Cleanup_OvlK`, but for the pool. -/
def cleanupOvlKHandle : SlotCode (fun _ : OvlKField => ℤ) Unit := do
  poolHandleDead
  let hEvent ← load .hEvent
  if hEvent ≠ 0 then
    tell (.closeHandle hEvent)
  let pool ← load .pool
  if pool ≠ 0 then
    put .pool 0

/-- The `OvlK` section. -/
def ovlKCode : SectionCode where
  Field := OvlKField
  decEq := inferInstance
  Val _ := ℤ
  zero _ := 0
  initHandle := initHandleOvlK
  Init := OvlKSlotInit
  init := ovlKAcquireNew
  Use := SlotCode (fun _ : OvlKField => ℤ) Unit
  use := id
  Free := Unit
  cleanup _ := cleanupOvlKHandle

/-- To prepare an overlapped handle exposes nothing and writes every field. -/
theorem ovlKAcquireNew_spec (a : OvlKSlotInit)
    (s : ∀ f, SlotVal (fun _ : OvlKField => ℤ) f) (f : OvlKField) :
    ¬(initHandleOvlK >>= fun _ => ovlKAcquireNew a).Exposes s (.own f) ∧
      (initHandleOvlK >>= fun _ => ovlKAcquireNew a).Assigns s (.own f) := by
  cases f <;> simp [initHandleOvlK, ovlKAcquireNew, oReuse]

theorem ovlK_pastForgotten : ∀ s : SlotState ovlKCode, PastForgotten s :=
  PastForgotten.of_prepare (fun a s f => (ovlKAcquireNew_spec a s f).1)
    (fun a s f _ => (ovlKAcquireNew_spec a s f).2)
    fun a _ s _ f _ hnot => absurd (ovlKAcquireNew_spec a s f).2 hnot

/-! ### Isochronous handles -/

/-- `KISOCH_HANDLE_INTERNAL`.  `context` is `Context.UsbK` or `Context.UsbW.BufferHandle`. -/
inductive IsochKField
  | usbHandle
  | pipeID
  | transferBuffer
  | transferBufferSize
  | packetCount
  | isHighSpeed
  | packetInformation
  | pipeInformation
  | context
  | packets
  | numberOfPackets
  deriving DecidableEq, Repr

/-- The drivers `IsochK_Init` tells apart. -/
inductive IsochDrvId
  | libusbK
  | winUsb
  | other
  deriving DecidableEq, Repr

/-- The arguments of `IsochK_Init`, and the answers it gets. -/
structure IsochKArgs where
  usbHandle : ℤ
  pipeId : ℤ
  maxNumberOfPackets : ℤ
  transferBuffer : ℤ
  transferBufferSize : ℤ
  drvId : IsochDrvId
  /-- `QueryDeviceInformation`: the speed of the device. -/
  devSpeed : Option ℤ
  /-- `UsbStack_QuerySelectedPipe`. -/
  querySelectedPipe : Option ℤ
  /-- `IsochK_CalcPacketInformation`, of the speed and the pipe. -/
  calcPacketInformation : ℤ → ℤ → ℤ
  /-- `IsoK_Init` or `RegisterIsochBuffer`. -/
  prepares : Option ℤ
  memAlloc : ℤ

/-- `Init_Handle_IsochK`. -/
def initHandleIsochK : SlotCode (fun _ : IsochKField => ℤ) Unit := do
  put .usbHandle 0
  put .transferBuffer 0
  put .transferBufferSize 0
  put .packetCount 0
  put .context 0
  put .packets 0
  put .numberOfPackets 0

/-- The `switch` of `IsochK_Init`. -/
def isochKSwitch (a : IsochKArgs) : SlotCode (fun _ : IsochKField => ℤ) Bool :=
  match a.drvId, a.prepares with
  | .libusbK, some isoContext => do
    put .context isoContext
    poolHandleLive
    return true
  | .winUsb, some bufferHandle => do
    put .context bufferHandle
    put .packets a.memAlloc
    put .numberOfPackets a.maxNumberOfPackets
    poolHandleLive
    return true
  | _, _ => return false

/-- `IsochK_Init`, once it has acquired the handle. -/
def isochKInit (a : IsochKArgs) : SlotCode (fun _ : IsochKField => ℤ) Bool :=
  match a.devSpeed, a.querySelectedPipe with
  | some devSpeed, some pipeInformation => do
    put .pipeInformation pipeInformation
    put .usbHandle a.usbHandle
    put .pipeID a.pipeId
    put .packetCount a.maxNumberOfPackets
    put .transferBuffer a.transferBuffer
    put .transferBufferSize a.transferBufferSize
    put .isHighSpeed (if 3 ≤ devSpeed then 1 else 0)
    let isHighSpeed ← load .isHighSpeed
    let pipeInformation ← load .pipeInformation
    put .packetInformation (a.calcPacketInformation isHighSpeed pipeInformation)
    isochKSwitch a
  | _, _ => return false

/-- `Isoch_Cleanup`. -/
def isochCleanup (drvId : IsochDrvId) : SlotCode (fun _ : IsochKField => ℤ) Unit := do
  poolHandleDead
  let usbHandle ← load .usbHandle
  if isHandleValid usbHandle then
    match drvId with
    | .libusbK =>
      let context ← load .context
      if context ≠ 0 then
        tell (.isoKFree context)
    | .winUsb =>
      let context ← load .context
      if context ≠ 0 then
        tell (.unregisterIsochBuffer context)
        put .context 0
      let packets ← load .packets
      if packets ≠ 0 then
        tell (.memFree packets)
        put .packets 0
    | .other => pure ()
    tell (.decUsbK usbHandle)

/-- The `IsochK` section. -/
def isochKCode : SectionCode where
  Field := IsochKField
  decEq := inferInstance
  Val _ := ℤ
  zero _ := 0
  initHandle := initHandleIsochK
  Init := IsochKArgs
  init := isochKInit
  Use := SlotCode (fun _ : IsochKField => ℤ) Unit
  use := id
  Free := IsochDrvId
  cleanup := isochCleanup

variable {s : ∀ f, SlotVal (fun _ : IsochKField => ℤ) f} {f : IsochKField}

@[simp] theorem isochKSwitch_exposes (a : IsochKArgs) : ¬(isochKSwitch a).Exposes s (.own f) := by
  unfold isochKSwitch
  split <;> simp

/-- To prepare an isochronous handle exposes nothing, and it writes every field unless a query
fails. -/
theorem isochKInit_spec (a : IsochKArgs) :
    ¬(initHandleIsochK >>= fun _ => isochKInit a).Exposes s (.own f) ∧
      ((initHandleIsochK >>= fun _ => isochKInit a).result s = true →
        (initHandleIsochK >>= fun _ => isochKInit a).Assigns s (.own f)) := by
  unfold isochKInit
  split
  · cases f <;> simp [initHandleIsochK]
  · simp [initHandleIsochK]

/-- The clean-up reads fields that `Init_Handle_IsochK` has written. -/
theorem initHandleIsochK_assigns {t : ∀ f, SlotVal (fun _ : IsochKField => ℤ) f}
    {drvId : IsochDrvId} (h : (isochCleanup drvId).Exposes t (.own f)) :
    initHandleIsochK.Assigns s (.own f) := by
  cases drvId <;> cases f <;> simp [isochCleanup, initHandleIsochK] at h ⊢

theorem isochK_pastForgotten : ∀ s : SlotState isochKCode, PastForgotten s :=
  PastForgotten.of_prepare (fun a _ _ => (isochKInit_spec a).1)
    (fun a _ _ => (isochKInit_spec a).2)
    fun _ _ _ _ _ _ hnot _ h => hnot ((Access.assigns_bind ..).mpr
      (.inl (initHandleIsochK_assigns h)))

end LibusbK
