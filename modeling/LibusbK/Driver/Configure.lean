import LibusbK.Driver.InterfaceSetting
import LibusbK.Lib.Machine

/-!
# Preparing the device, and everything that changes a pipe

`Device_OnPrepareHardware` with `Device_Configure` of `drv_device.c`, the reset
of the device, and the refresh of a dirty queue by the default queue.  With the
alternate settings and the routines of one pipe these are all the operations
that change pipe contexts; `pipeMachine` runs them in any order.
-/

namespace LibusbK

abbrev STATUS_NOT_FOUND : NTSTATUS := 0xC0000225

/-! ### `Device_Configure` -/

/-- `MAX_CONTROL_TRANSFER_SIZE`. -/
abbrev MAX_CONTROL_TRANSFER_SIZE : ℕ := 4096

/-- The default pipe, as `Pipe_InitDefaultContext` sets it up. -/
def defaultPipe (isHS : Bool) (bMaxPacketSize0 : ℕ) (pc : PipeContext) : PipeContext :=
  let pc := policyInitPipe isHS pc
  { pc with
    pipe := none
    queue := none
    pipeInformation := { pc.pipeInformation with
      maximumPacketSize := bMaxPacketSize0
      maximumTransferSize := MAX_CONTROL_TRANSFER_SIZE
      endpointAddress := 0
      pipeType := .control }
    timeoutPolicy := 5000 }

/-- `Pipe_InitDefaultContext`. -/
def pipeInitDefaultContext (s : DeviceState) (a : StartAnswers) : DeviceState × NTSTATUS :=
  let bMaxPacketSize0 := (s.device.usbDeviceDescriptor.getD 7 0).toNat
  pipeInitContext (s.setPipe 0 (defaultPipe s.device.isHighSpeed bMaxPacketSize0 (s.pipes 0))) 0
    false a

/-- What the framework answers while the device is configured. -/
structure ConfigureAnswers where
  /-- `ExAllocatePool2`. -/
  allocates : Bool := true
  /-- `WdfUsbTargetDeviceGetNumInterfaces`, before and after the selection. -/
  numInterfaces : UInt8 := 1
  numInterfacesAfter : UInt8 := 1
  /-- `WdfUsbTargetDeviceSelectConfig`. -/
  selectConfig : NTSTATUS := STATUS_SUCCESS
  defaultPipe : StartAnswers := {}
  /-- `WdfUsbTargetDeviceGetInterface` returns a handle. -/
  hasInterface : ℕ → Bool := fun _ => true
  interface : ℕ → InterfaceAnswers := fun _ => {}

namespace DeviceState

/-- Assign `InterfaceCount`. -/
def withInterfaceCount (s : DeviceState) (interfaceCount : ℕ) : DeviceState :=
  { s with interfaceCount := interfaceCount }

end DeviceState

/-- The index and the handle of an interface are stored. -/
def assignInterface (a : ConfigureAnswers) (s : DeviceState) (i : ℕ) : DeviceState :=
  s.setInterface i
    { s.interfaces i with interfaceIndex := UInt8.ofNat i, hasInterface := a.hasInterface i }

/-- One pass of the loop of `Device_Configure`. -/
def configureInterface (a : ConfigureAnswers) (s : DeviceState) (i : ℕ) :
    DeviceState × NTSTATUS :=
  let s := assignInterface a s i
  let r := interfaceInitContext s i (a.interface i)
  if !ntSuccess r.2 then (r.1.withInterfaceCount i, r.2)
  else
    let r := interfaceStart r.1 i (a.interface i).start
    if !ntSuccess r.2 then (r.1.withInterfaceCount i, r.2) else r

/-- The loop of `Device_Configure`, with `n` interfaces to go from `i` on. -/
def configureInterfaces (a : ConfigureAnswers) :
    ℕ → ℕ → DeviceState × NTSTATUS → DeviceState × NTSTATUS
  | 0, _, r => r
  | n + 1, i, r =>
    let r := configureInterface a r.1 i
    if !ntSuccess r.2 then r else configureInterfaces a n (i + 1) r

/-- `Device_Configure`. -/
def deviceConfigure (s : DeviceState) (a : ConfigureAnswers) : DeviceState × NTSTATUS :=
  let s := s.withInterfaceCount a.numInterfaces.toNat
  if a.numInterfaces ≠ 1 ∧ a.allocates = false then (s, STATUS_INSUFFICIENT_RESOURCES)
  else if !ntSuccess a.selectConfig then (s, a.selectConfig)
  else
    let s := s.withInterfaceCount a.numInterfacesAfter.toNat
    let r := pipeInitDefaultContext s a.defaultPipe
    if !ntSuccess r.2 then r else configureInterfaces a a.numInterfacesAfter.toNat 0 r

/-! ### `Device_OnPrepareHardware` -/

/-- What the framework answers while the hardware is prepared, and the device
context that `Device_Create` and `Device_FetchConfigDescriptor` fill in. -/
structure PrepareAnswers where
  targetDeviceCreate : NTSTATUS := STATUS_SUCCESS
  retrieveInformation : NTSTATUS := STATUS_SUCCESS
  fetchConfigDescriptor : NTSTATUS := STATUS_SUCCESS
  device : DeviceContext := {}
  configure : ConfigureAnswers := {}

/-- A device; `prepared` says whether `WdfUsbTargetDevice` is set. -/
structure UsbDevice where
  prepared : Bool := false
  state : DeviceState := {}

/-- `Device_OnPrepareHardware`. -/
def deviceOnPrepareHardware (d : UsbDevice) (a : PrepareAnswers) : UsbDevice × NTSTATUS :=
  if d.prepared then (d, STATUS_SUCCESS)
  else if !ntSuccess a.targetDeviceCreate then (d, a.targetDeviceCreate)
  else
    let created := { d.state with device := { a.device with usbConfigurationDescriptor := [] } }
    if !ntSuccess a.retrieveInformation then (⟨true, created⟩, a.retrieveInformation)
    else if !ntSuccess a.fetchConfigDescriptor then (⟨true, created⟩, a.fetchConfigDescriptor)
    else
      let r := deviceConfigure { d.state with device := a.device } a.configure
      (⟨true, r.1⟩, r.2)

/-! ### Other operations -/

/-- The beginning of `mRequest_InitAndForwardToQueue`: a dirty queue is refreshed
before a request is forwarded to it. -/
def refreshForRequest (s : DeviceState) (pipeID : UInt8) (a : StartAnswers) :
    DeviceState × NTSTATUS :=
  let k := pipeSlot pipeID
  let pc := s.pipes k
  if !pc.isValid || pc.queue.isNone then (s, STATUS_NOT_FOUND)
  else if pc.isQueueDirty then pipeRefreshQueue s k a
  else (s, STATUS_SUCCESS)

/-- `Pipe_StopAll` and `Pipe_StartAll` go through the interfaces in order. -/
def forInterfaces (f : DeviceState → ℕ → DeviceState) (s : DeviceState) : DeviceState :=
  (List.range s.interfaceCount).foldl f s

/-- `Device_Reset`, less the reset of the port. -/
def deviceReset (s : DeviceState) (start : ℕ → ℕ → StartAnswers) : DeviceState :=
  let s := forInterfaces (fun s i => stopPipes s (s.interfaces i).pipeContextByIndex) s
  forInterfaces (fun s i => startPipes (start i) true s 0 (s.interfaces i).pipeContextByIndex) s

/-- `case LIBUSB_IOCTL_SET_PIPE_POLICY`. -/
def setPipePolicy (s : DeviceState) (pipeID : UInt8) (policyType : UInt32) (value : ValueBytes)
    (valueLength : UInt32) : DeviceState × NTSTATUS :=
  let pc := getPipeContextByID s.pipes pipeID
  if !pc.isValid || pc.queue.isNone then (s, STATUS_INVALID_PARAMETER)
  else
    let r := policySetPipe s.device.isHighSpeed s.pipes pipeID policyType value valueLength
    ({ s with pipes := r.1 }, r.2)

/-- The completed operations that change pipe contexts. -/
inductive PipeOperation
  | prepareHardware (a : PrepareAnswers)
  | setAltSetting (intf : InterfaceRequest) (a : InterfaceAnswers)
  | flushPipe (pipeID : UInt8) (a : StartAnswers)
  | refreshForRequest (pipeID : UInt8) (a : StartAnswers)
  | resetPipe (pipeID : UInt8) (status : NTSTATUS)
  | setPolicy (pipeID : UInt8) (policyType : UInt32) (value : ValueBytes) (valueLength : UInt32)
  | resetDevice (start : ℕ → ℕ → StartAnswers)

/-- What a request does that leads to an operation. -/
def PipeOperation.onState (s : DeviceState) : PipeOperation → DeviceState
  | .prepareHardware _ => s
  | .setAltSetting intf a => (interfaceSetAltSetting s intf a).1
  | .flushPipe pipeID a => (LibusbK.flushPipe s pipeID a).1
  | .refreshForRequest pipeID a => (LibusbK.refreshForRequest s pipeID a).1
  | .resetPipe pipeID status => (pipeReset s pipeID status).1
  | .setPolicy pipeID policyType value valueLength =>
    (setPipePolicy s pipeID policyType value valueLength).1
  | .resetDevice start => deviceReset s start

/-- The device under its operations; requests only arrive when the hardware is
prepared. -/
def pipeMachine : Machine UsbDevice PipeOperation where
  step d op :=
    match op with
    | .prepareHardware a => some (deviceOnPrepareHardware d a).1
    | op => if d.prepared then some { d with state := op.onState d.state } else none

/-- All that one operation can do. -/
theorem pipeMachine_step {d d' : UsbDevice} {op : PipeOperation}
    (h : pipeMachine.step d op = some d') :
    (∃ a, op = .prepareHardware a ∧ d' = (deviceOnPrepareHardware d a).1) ∨
      (d.prepared = true ∧ d' = { d with state := op.onState d.state }) := by
  cases op with
  | prepareHardware a => exact .inl ⟨a, rfl, (Option.some.inj h).symm⟩
  | _ =>
    right
    simp only [pipeMachine, Option.ite_none_right_eq_some, Option.some.injEq] at h
    exact ⟨h.1, h.2.symm⟩

end LibusbK
