import LibusbK.Dll.AssociatedInterface
import LibusbK.Lib.Machine
import LibusbK.Lib.Tokens

/-!
# Devices that are opened and closed

Any number of threads open devices with `UsbK_Init` or `UsbK_Initialize`, make handles for
them with `UsbK_Clone` and `UsbK_GetAssociatedInterface`, use their handles in other calls
and free them with `UsbK_Free`.  An `Inc` or a `Dec` is one step, and so is each of the
allocations of `UsbStack_Init`; the steps of the threads come in any order.

The application passes handles only that it has been given and has not freed.  What the
user's clean-up callbacks do is left out, and so is `UsbK_SetConfiguration`, which rebuilds
the stack of a device for drivers before libusbK.

## Main definitions

* `OpenHandles` — the `UsbK` and the `DevK` section, and where the threads are.
* `UsbPc`, `UsbPc.run` — the points a call can be at, and what it does there.
* `openHandles` — the machine of all calls.
* `OpenHandles.Safe` — what an application relies on.
* `OpenHandles.Accounted` — a handle in use is one that somebody can free.
-/

namespace LibusbK

/-! ### Handles -/

/-- `KUSB_HANDLE_INTERNAL`; `δ` names the device handles. -/
structure UsbKObject (δ : Type) where
  base : KObjBase := .free
  device : Option δ := none
  selected : UInt8 := 0
  isClone : Bool := false

/-- `KDEV_HANDLE_INTERNAL`.  What the library has allocated or opened is known by a number:
`masterDeviceHandle` is `none` for the file of the caller of `UsbK_Initialize`.
`usbStack` is the block of the stack, the driver API and the shared interfaces, with the
elements of the stack; `interfaces` is the stack. -/
structure DevKObject where
  base : KObjBase := .free
  masterDeviceHandle : Option ℕ := none
  devicePath : Option ℕ := none
  usbStack : Option ℕ := none
  interfaces : UsbStack := {}
  configDescriptor : Option ℕ := none
  backendCtx : Option ℕ := none

/-- What `k_Cleanup_DevK` frees and closes. -/
def DevKObject.resources (x : DevKObject) : List ℕ :=
  (x.devicePath.elim [] fun path => path :: x.masterDeviceHandle.toList) ++
    (x.usbStack.toList ++ (x.configDescriptor.toList ++ x.backendCtx.toList))

/-- The device after `k_Cleanup_DevK`. -/
def DevKObject.cleanup (x : DevKObject) : DevKObject :=
  { x with devicePath := none, usbStack := none, configDescriptor := none, backendCtx := none }

/-- All that calls on the device read is there. -/
structure DevKObject.IsReady (x : DevKObject) : Prop where
  usbStack : x.usbStack.isSome = true
  configDescriptor : x.configDescriptor.isSome = true
  backendCtx : x.backendCtx.isSome = true

/-- The reference on a device that a handle holds: its clean-up gives it back. -/
def UsbKObject.devRef {δ : Type} (x : UsbKObject δ) : List δ :=
  match x.base with
  | .counted _ => x.device.toList
  | _ => []

/-- The clean-up of the handle is not over. -/
def KObjBase.ending : KObjBase → ℕ
  | disposing _ => 1
  | _ => 0

/-! ### Calls -/

/-- A call of the application.  `use` stands for the calls that take a reference on their
handle while they read its device. -/
inductive UsbCall (η : Type)
  /-- `UsbK_Init`, or `UsbK_Initialize` with the file that is `given`. -/
  | init (given : Bool)
  | clone (h : η)
  | getAssociatedInterface (h : η) (associatedInterfaceIndex : UInt8)
  | use (h : η)
  | free (h : η)

/-- A `UsbStack_CloneHandle` of `handle`; `nextIndex` is what the call of
`UsbStack_GetAssociatedInterface` around it selects, if there is one. -/
structure CloneCall (η : Type) where
  handle : η
  nextIndex : Option UInt8 := none

/-- What a call still does before it returns. -/
inductive UsbTail (η : Type)
  /-- `PoolHandle_Dec_UsbK`. -/
  | decUsbK (h : η)
  /-- `clonedHandle->Selected_SharedInterface_Index = handle->Selected_SharedInterface_Index`. -/
  | copySelected (h i : η)
  /-- `associatedHandle->Selected_SharedInterface_Index = nextIndex`. -/
  | select (i : η) (nextIndex : UInt8)

/-- The handle that is written. -/
def UsbTail.target {η : Type} : UsbTail η → Option η
  | decUsbK _ => none
  | copySelected _ i | select i _ => some i

/-- The points a call can be at. -/
inductive UsbPc (η δ : Type)
  | idle
  /-- The call has its reference, and uses the device. -/
  | inCall (h : η)
  /-- `UsbStack_GetAssociatedInterface`: `FindInterfaceEL`. -/
  | findInterface (h : η) (associatedInterfaceIndex : UInt8)
  /-- `UsbStack_CloneHandle` for `UsbStack_GetAssociatedInterface`: `PoolHandle_Inc_UsbK`. -/
  | cloneInc (h : η) (nextIndex : UInt8)
  /-- `UsbStack_CloneHandle` reads `handle->Device`. -/
  | cloneDevice (c : CloneCall η)
  /-- `u_Init_Handle` with a `SharedDevice`: `PoolHandle_Acquire_UsbK`. -/
  | acquireClone (c : CloneCall η) (d : δ)
  | incDevK (c : CloneCall η) (d : δ) (i : η)
  | setDevice (c : CloneCall η) (d : δ) (i : η)
  /-- `u_Init_Handle` without one. -/
  | acquireUsbK (given : Bool)
  | acquireDevK (given : Bool) (i : η)
  | initBackend (given : Bool) (i : η) (d : δ)
  /-- `UsbStack_Init`: `CreateDeviceFile`, and `Str_Dupe` of the path. -/
  | createFile (i : η) (d : δ)
  | extraMem (i : η) (d : δ)
  | initConfig (i : η) (d : δ)
  /-- The call does what is left and returns the handle `out`. -/
  | finish (acts : List (UsbTail η)) (out : Option η)
  /-- `k_Cleanup_UsbK` of `h` gives up its reference on the device. -/
  | cleanupUsbK (h : η) (device : Option δ) (acts : List (UsbTail η)) (out : Option η)
  /-- `k_Cleanup_DevK`. -/
  | cleanupDevK (d : δ) (h : η) (acts : List (UsbTail η)) (out : Option η)
  /-- `mSpin_Release` of the device and then of the handle. -/
  | releaseDevK (d : δ) (h : η) (acts : List (UsbTail η)) (out : Option η)
  | releaseUsbK (h : η) (acts : List (UsbTail η)) (out : Option η)

/-- What is left to do after the clone `i` has been made. -/
def CloneCall.made {η : Type} (c : CloneCall η) (i : η) : List (UsbTail η) :=
  .copySelected c.handle i :: .decUsbK c.handle ::
    c.nextIndex.elim [] fun nextIndex => [.select i nextIndex, .decUsbK c.handle]

/-- What is left to do after none has been made. -/
def CloneCall.failed {η : Type} (c : CloneCall η) : List (UsbTail η) :=
  .decUsbK c.handle :: c.nextIndex.elim [] fun _ => [.decUsbK c.handle]

/-- An event: the thread, and what the system and the device answer to its next step. -/
structure UsbEvent (η δ : Type) (n : ℕ) where
  thread : Fin n
  /-- The call that an idle thread makes. -/
  call : Option (UsbCall η) := none
  /-- Where the search for a handle ends. -/
  usbK : Option η := none
  devK : Option δ := none
  /-- Nothing is refused. -/
  ok : Bool := true
  /-- What `u_Init_Config` builds. -/
  interfaces : UsbStack := {}

/-- The sections, the threads, and what there is to release.  `owned` are the references of
the application, `lost` those that `UsbStack_Init` has returned without giving back. -/
structure OpenHandles (η δ : Type) (n : ℕ) where
  usb : η → UsbKObject δ := fun _ => {}
  dev : δ → DevKObject := fun _ => {}
  threads : Fin n → UsbPc η δ := fun _ => .idle
  owned : List η := []
  lost : List η := []
  allocated : ℕ := 0
  released : List ℕ := []

namespace OpenHandles

variable {η δ : Type} {n : ℕ} [DecidableEq η] [DecidableEq δ] (s : OpenHandles η δ n)

/-- A USB handle is written. -/
def setUsb (h : η) (x : UsbKObject δ) : OpenHandles η δ n :=
  { s with usb := Function.update s.usb h x }

/-- A device handle is written. -/
def setDev (d : δ) (x : DevKObject) : OpenHandles η δ n :=
  { s with dev := Function.update s.dev d x }

/-- The base of a USB handle is written. -/
def setUsbBase (h : η) (base : KObjBase) : OpenHandles η δ n :=
  s.setUsb h { s.usb h with base }

/-- The base of a device handle is written. -/
def setDevBase (d : δ) (base : KObjBase) : OpenHandles η δ n :=
  s.setDev d { s.dev d with base }

/-- `PoolHandle_Inc_UsbK`; `none` is `FALSE`. -/
def incUsbK (t : Fin n) (h : η) : Option (OpenHandles η δ n) :=
  ((s.usb h).base.inc t).map (s.setUsbBase h)

/-- `PoolHandle_Inc_DevK`. -/
def incDevK (t : Fin n) (d : δ) : Option (OpenHandles η δ n) :=
  ((s.dev d).base.inc t).map (s.setDevBase d)

/-- `k_Cleanup_DevK`. -/
def cleanupDevK (d : δ) : OpenHandles η δ n :=
  { s.setDev d (s.dev d).cleanup with released := (s.dev d).resources ++ s.released }

/-- The device handle is written with the numbers of `k` new resources. -/
def allocate (d : δ) (k : ℕ) (x : DevKObject) : OpenHandles η δ n :=
  { s.setDev d x with allocated := s.allocated + k }

/-- `PoolHandle_Inc_UsbK` of a call whose handle is `h`, with what the call does next. -/
def enter (t : Fin n) (h : η) (next failed : UsbPc η δ) : OpenHandles η δ n × UsbPc η δ :=
  (s.incUsbK t h).elim (s, failed) fun s => (s, next)

/-- `PoolHandle_Dec_UsbK`, up to the clean-up. -/
def decUsbK (t : Fin n) (h : η) (acts : List (UsbTail η)) (out : Option η) :
    OpenHandles η δ n × UsbPc η δ :=
  match (s.usb h).base with
  | .counted 0 => (s.setUsbBase h (.disposing t), .cleanupUsbK h (s.usb h).device acts out)
  | .counted (others + 1) => (s.setUsbBase h (.counted others), .finish acts out)
  | _ => (s, .finish acts out)

/-- `PoolHandle_Dec_DevK` in the clean-up of `h`. -/
def decDevK (t : Fin n) (d : δ) (h : η) (acts : List (UsbTail η)) (out : Option η) :
    OpenHandles η δ n × UsbPc η δ :=
  match (s.dev d).base with
  | .counted 0 => (s.setDevBase d (.disposing t), .cleanupDevK d h acts out)
  | .counted (others + 1) => (s.setDevBase d (.counted others), .releaseUsbK h acts out)
  | _ => (s, .releaseUsbK h acts out)

end OpenHandles

section

variable {η δ : Type} {n : ℕ} [DecidableEq η] [DecidableEq δ]

/-- The first step of a call; `none` is a handle that the application does not have. -/
def UsbCall.start (s : OpenHandles η δ n) (t : Fin n) :
    UsbCall η → Option (OpenHandles η δ n × UsbPc η δ)
  | init given => some (s, .acquireUsbK given)
  | clone h => if h ∈ s.owned then some (s.enter t h (.cloneDevice ⟨h, none⟩) .idle) else none
  | getAssociatedInterface h a =>
    if h ∈ s.owned then some (s.enter t h (.findInterface h a) .idle) else none
  | use h => if h ∈ s.owned then some (s.enter t h (.inCall h) .idle) else none
  | free h =>
    if h ∈ s.owned then
      some ({ s with owned := s.owned.erase h }, .finish [.decUsbK h] none)
    else none

/-- A step of thread `t`; `none` ends the process, or is an answer that cannot be. -/
def UsbPc.run (s : OpenHandles η δ n) (t : Fin n) (e : UsbEvent η δ n) :
    UsbPc η δ → Option (OpenHandles η δ n × UsbPc η δ)
  | idle => e.call.bind (·.start s t)
  | inCall h => (s.usb h).device.map fun _ => (s, .finish [.decUsbK h] none)
  | findInterface h a =>
    (s.usb h).device.map fun d =>
      let nextIndex := (s.usb h).selected + 1 + a
      if ((s.dev d).interfaces.findInterfaceEL true nextIndex).isSome then
        (s, .cloneInc h nextIndex)
      else (s, .finish [.decUsbK h] none)
  | cloneInc h nextIndex =>
    some (s.enter t h (.cloneDevice ⟨h, some nextIndex⟩) (.finish [.decUsbK h] none))
  | cloneDevice c => (s.usb c.handle).device.map fun d => (s, .acquireClone c d)
  | acquireClone c d =>
    match e.usbK with
    | none => some (s, .finish c.failed none)
    | some i =>
      if (s.usb i).base = .free then
        some (s.setUsb i { base := .counted 0 }, .incDevK c d i)
      else none
  | incDevK c d i =>
    some ((s.incDevK t d).elim (s, .finish (.decUsbK i :: c.failed) none) fun s =>
      (s, .setDevice c d i))
  | setDevice c d i =>
    some (s.setUsb i { s.usb i with device := some d, isClone := true },
      .finish (c.made i) (some i))
  | acquireUsbK given =>
    match e.usbK with
    | none => some (s, .finish [] none)
    | some i =>
      if (s.usb i).base = .free then
        some (s.setUsb i { base := .counted 0 }, .acquireDevK given i)
      else none
  | acquireDevK given i =>
    match e.devK with
    | none => some (s, .finish [.decUsbK i] none)
    | some d =>
      if (s.dev d).base = .free then
        some ((s.setDev d { base := .counted 0 }).setUsb i { s.usb i with device := some d },
          .initBackend given i d)
      else none
  | initBackend given i d =>
    if e.ok then
      some (s.allocate d 1 { s.dev d with backendCtx := some s.allocated },
        if given then .extraMem i d else .createFile i d)
    else some (s, .finish [.decUsbK i] none)
  | createFile i d =>
    if e.ok then
      some (s.allocate d 2 { s.dev d with
        masterDeviceHandle := some s.allocated, devicePath := some (s.allocated + 1) },
        .extraMem i d)
    else some (s, .finish [.decUsbK i] none)
  | extraMem i d =>
    if e.ok then
      some (s.allocate d 1 { s.dev d with usbStack := some s.allocated }, .initConfig i d)
    else some ({ s with lost := i :: s.lost }, .finish [] none)
  | initConfig i d =>
    if e.ok then
      some (s.allocate d 1 { s.dev d with
        configDescriptor := some s.allocated, interfaces := e.interfaces }, .finish [] (some i))
    else some (s, .finish [.decUsbK i] none)
  | finish [] out => some ({ s with owned := out.toList ++ s.owned }, .idle)
  | finish (.decUsbK h :: acts) out => some (s.decUsbK t h acts out)
  | finish (.copySelected h i :: acts) out =>
    some (s.setUsb i { s.usb i with selected := (s.usb h).selected }, .finish acts out)
  | finish (.select i nextIndex :: acts) out =>
    some (s.setUsb i { s.usb i with selected := nextIndex }, .finish acts out)
  | cleanupUsbK h none acts out => some (s, .releaseUsbK h acts out)
  | cleanupUsbK h (some d) acts out => some (s.decDevK t d h acts out)
  | cleanupDevK d h acts out => some (s.cleanupDevK d, .releaseDevK d h acts out)
  | releaseDevK d h acts out => some (s.setDevBase d .free, .releaseUsbK h acts out)
  | releaseUsbK h acts out => some (s.setUsbBase h .free, .finish acts out)

/-- All calls, on any number of handles, in any number of threads. -/
def openHandles (η δ : Type) (n : ℕ) [DecidableEq η] [DecidableEq δ] :
    Machine (OpenHandles η δ n) (UsbEvent η δ n) where
  step s e :=
    ((s.threads e.thread).run s e.thread e).map fun next =>
      { next.1 with threads := Function.update next.1.threads e.thread next.2 }

end

/-! ### What an application relies on -/

/-- The handle through which a call reads its device. -/
def UsbPc.reads {η δ : Type} : UsbPc η δ → Option η
  | inCall h | findInterface h _ | cloneInc h _ => some h
  | cloneDevice c | acquireClone c _ | incDevK c _ _ | setDevice c _ _ => some c.handle
  | _ => none

namespace OpenHandles

variable {η δ : Type} {n : ℕ} (s : OpenHandles η δ n)

/-- The handle has references, and a device that is open: nothing of it has been freed or
closed. -/
def IsOpen (h : η) : Prop :=
  0 < (s.usb h).base.ref ∧ ∃ d, (s.usb h).device = some d ∧ 0 < (s.dev d).base.ref ∧
    (s.dev d).IsReady ∧ ∀ r ∈ (s.dev d).resources, r ∉ s.released

/-- **What an application relies on**: the handles that it has are open, and so is the handle
in each call; and nothing is freed or closed twice. -/
structure Safe : Prop where
  owned : ∀ h ∈ s.owned, s.IsOpen h
  calls : ∀ t h, (s.threads t).reads = some h → s.IsOpen h
  once : s.released.Nodup

end OpenHandles

/-- The references on USB handles that a call holds. -/
def UsbTail.refs {η : Type} : UsbTail η → List η
  | decUsbK h => [h]
  | _ => []

/-- Likewise for a clone. -/
def CloneCall.refs {η : Type} (c : CloneCall η) : List η := c.failed.flatMap UsbTail.refs

/-- Likewise for a thread. -/
def UsbPc.refs {η δ : Type} : UsbPc η δ → List η
  | idle | acquireUsbK _ => []
  | inCall h | findInterface h _ | cloneInc h _ => [h]
  | cloneDevice c | acquireClone c _ => c.refs
  | incDevK c _ i | setDevice c _ i => i :: c.refs
  | acquireDevK _ i | initBackend _ i _ | createFile i _ | extraMem i _ | initConfig i _ => [i]
  | finish acts out | cleanupUsbK _ _ acts out | cleanupDevK _ _ acts out
  | releaseDevK _ _ acts out | releaseUsbK _ acts out => acts.flatMap UsbTail.refs ++ out.toList

namespace OpenHandles

variable {η δ : Type} {n : ℕ} (s : OpenHandles η δ n)

/-- A handle in use is one that the application has or a call holds. -/
def Accounted : Prop :=
  ∀ h, 0 < (s.usb h).base.ref → h ∈ s.owned ∨ ∃ t, h ∈ (s.threads t).refs

/-- No call is being made. -/
def Quiet : Prop := ∀ t, s.threads t = .idle

/-- Every handle has been given back, and all that was allocated or opened has been
released. -/
structure NothingLeft : Prop where
  usb : ∀ h, (s.usb h).base = .free
  dev : ∀ d, (s.dev d).base = .free
  resources : ∀ r, r < s.allocated → r ∈ s.released

/-- The step in which `UsbStack_Init` gets no memory for the stack. -/
def DropsHandle (e : UsbEvent η δ n) : Prop :=
  (∃ i d, s.threads e.thread = .extraMem i d) ∧ e.ok = false

end OpenHandles

end LibusbK
