import LibusbK.Dll.PipeCache
import LibusbK.Driver.Direction
import LibusbK.Driver.PipeTimeouts
import LibusbK.Driver.PolicyReads

/-!
# The timeouts of synchronous transfers

`UsbK_SetPipePolicy`, `UsbK_ControlTransfer`, `UsbK_ReadPipe` and `UsbK_WritePipe` of
`lusbk_bknd_libusbk.c`, with the libusbK driver below them.  A timeout that the driver accepts
is stored twice: in the pipe context of the driver, which all device objects share, and in
`PipePolicies` of the object it was set through.  The driver finds a pipe context by the address
of the endpoint, and takes `0x80` for the default pipe; `PipePolicies` has an entry for `0x80`
of its own.

## Main definitions

* `UsbKSystem`, `usbKSystem` — the device objects of the library and the driver, and their runs.
* `UsbKSystem.syncTransfer` — a synchronous transfer: the request that reaches a pipe queue of
  the driver, and how long the library waits for it.
* `UsbKSystem.told`, `UsbKSystem.taken` — the timeouts that callers were told they had set, and
  those that the driver has taken.

## Main result

* `limits_of_run` — after every run, the limits of a transfer are the timeout last set through
  its own object and the one last taken by the driver.
-/

namespace LibusbK

/-! ### `UsbK_SetPipePolicy` -/

theorem length_zeros :
    (List.replicate sizeofLibusbRequest (0 : UInt8)).length = sizeofLibusbRequest :=
  List.length_replicate

/-- A request as `AllocRequest` leaves it. -/
def zeroRequest : LibusbRequest := ⟨List.replicate sizeofLibusbRequest 0, length_zeros⟩

/-- An entry of `PipePolicies`. -/
structure CachedPolicy where
  timeout : UInt32 := 0
  isoasap : UInt8 := 0
  deriving DecidableEq, Repr

/-- `PipePolicies` of a device object, at the index of `GetSetPipePolicy`. -/
abbrev PolicyCache := UInt8 → CachedPolicy

/-- The arguments of `UsbK_SetPipePolicy`; `value` is `none` for a null pointer. -/
structure SetPipePolicyCall where
  pipeID : UInt8
  policyType : UInt32
  valueLength : UInt32
  value : Option ValueBytes

namespace SetPipePolicyCall

variable (c : SetPipePolicyCall)

/-- The fields of the request, which is allocated with zeros. -/
def header : LibusbRequest :=
  (zeroRequest.set .pipePolicyPipeId c.pipeID.toUInt32).set .pipePolicyPolicyType c.policyType

/-- `SetRequestData`: a null pointer leaves the zeros of the allocation. -/
def data : List UInt8 :=
  (List.range c.valueLength.toNat).map fun i => (c.value.map fun value => value i).getD 0

/-- `requestLength`, a `ULONG`. -/
def requestLength : ℕ := (sizeofLibusbRequest + c.valueLength.toNat) % 0x100000000

/-- The request as the driver gets it. -/
def request : SetPolicyRequest where
  code := LIBUSB_IOCTL_SET_PIPE_POLICY
  input := (c.header.bytes ++ c.data).take c.requestLength
  length_lt := by
    have hlt : c.requestLength < 0x100000000 := Nat.mod_lt _ (by decide)
    exact Nat.lt_of_le_of_lt (List.length_take_le _ _) hlt

end SetPipePolicyCall

/-- What the system answers to `UsbK_SetPipePolicy`. -/
structure SetPipePolicyAnswers where
  /-- `Pub_To_Priv_UsbK` and `PoolHandle_Inc_UsbK`. -/
  handle : Bool := true
  /-- `AllocRequest`. -/
  allocates : Bool := true
  /-- `CreateEventA` and `CloseHandle` in `Ioctl_Sync`. -/
  createsEvent : Bool := true
  closesEvent : Bool := true
  /-- In the driver, before the switch. -/
  preIo : PreIoAnswers := {}
  /-- What lies behind the request in the buffer of the driver. -/
  beyond : ValueBytes := fun _ => 0

/-- The switch of `UsbK_SetPipePolicy` over the policies that are cached. -/
def cachePolicy (cache : PolicyCache) (pipeID : UInt8) (policyType : UInt32)
    (value : ValueBytes) : PolicyCache :=
  let item := pipeIdToIdx pipeID
  if policyType = PIPE_TRANSFER_TIMEOUT then
    Function.update cache item { cache item with timeout := value.ulong }
  else if policyType = ISO_ALWAYS_START_ASAP then
    Function.update cache item { cache item with isoasap := value.uchar }
  else cache

/-- The device objects of the library by number, and the device below them.  The `PipePolicies`
of an object are allocated with zeros. -/
structure UsbKSystem where
  driver : UsbDevice := {}
  policies : ℕ → PolicyCache := fun _ _ => {}

namespace UsbKSystem

variable (s : UsbKSystem)

/-- The request gets to the driver, and past the checks before its switch. -/
def submits (c : SetPipePolicyCall) (a : SetPipePolicyAnswers) : Bool :=
  a.handle && a.allocates && a.createsEvent && s.driver.prepared && c.request.passes a.preIo

/-- `case LIBUSB_IOCTL_SET_PIPE_POLICY` for the request, with what it decodes. -/
def setPolicyOperation (c : SetPipePolicyCall) (a : SetPipePolicyAnswers) : PipeOperation :=
  .setPolicy (RequestField.pipePolicyPipeId.get c.request.input).toUInt8
    (RequestField.pipePolicyPolicyType.get c.request.input) (c.request.value a.beyond)
    (UInt64.ofNat c.request.input.length - UInt64.ofNat sizeofLibusbRequest).toUInt32

/-- The status of that case. -/
def setPolicyStatus (c : SetPipePolicyCall) (a : SetPipePolicyAnswers) : NTSTATUS :=
  (LibusbK.setPipePolicy s.driver.state
    (RequestField.pipePolicyPipeId.get c.request.input).toUInt8
    (RequestField.pipePolicyPolicyType.get c.request.input) (c.request.value a.beyond)
    (UInt64.ofNat c.request.input.length - UInt64.ofNat sizeofLibusbRequest).toUInt32).2

/-- `UsbK_SetPipePolicy` returns `TRUE`. -/
def setPipePolicySucceeds (c : SetPipePolicyCall) (a : SetPipePolicyAnswers) : Bool :=
  s.submits c a && ntSuccess (s.setPolicyStatus c a) && a.closesEvent

/-- `UsbK_SetPipePolicy`, where the driver is that of libusbK. -/
def setPipePolicy (device : ℕ) (c : SetPipePolicyCall) (a : SetPipePolicyAnswers) : UsbKSystem :=
  let driver :=
    if s.submits c a then
      { s.driver with state := (setPolicyOperation c a).onState s.driver.state }
    else s.driver
  match s.setPipePolicySucceeds c a, c.value with
  | true, some value =>
    { driver
      policies := Function.update s.policies device
        (cachePolicy (s.policies device) c.pipeID c.policyType value) }
  | _, _ => { s with driver }

end UsbKSystem

/-- A call of `UsbK_SetPipePolicy` through one of the objects, or anything else that happens
to the pipe contexts of the driver. -/
inductive PolicyCall
  | setPipePolicy (device : ℕ) (c : SetPipePolicyCall) (a : SetPipePolicyAnswers)
  | driver (op : PipeOperation)

/-- The runs of the objects and the driver. -/
def usbKSystem : Machine UsbKSystem PolicyCall where
  step s
    | .setPipePolicy device c a => some (s.setPipePolicy device c a)
    | .driver op => (pipeMachine.step s.driver op).map fun driver => { s with driver }

/-! ### Synchronous transfers -/

/-- A transfer without an `OVERLAPPED`. -/
inductive SyncCall
  | controlTransfer (setup : SetupPacket) (buffer : List UInt8)
  | readPipe (pipeID : UInt8) (buffer : List UInt8)
  | writePipe (pipeID : UInt8) (buffer : List UInt8)

namespace SyncCall

/-- The pipe whose cached timeout the call looks up. -/
def pipeID : SyncCall → UInt8
  | controlTransfer setup _ => if setup.isDeviceToHost then 0x80 else 0x00
  | readPipe pipeID _ => pipeID
  | writePipe pipeID _ => pipeID

/-- `UsbK_ControlTransfer`, which leaves the timeout to the driver. -/
def isControl : SyncCall → Bool
  | controlTransfer _ _ => true
  | _ => false

/-- The code of the request, and the type the driver gives it. -/
def code : SyncCall → UInt32 × WdfRequestType
  | controlTransfer setup _ =>
    if setup.isDeviceToHost then (LIBUSB_IOCTL_CONTROL_READ, .read)
    else (LIBUSB_IOCTL_CONTROL_WRITE, .write)
  | readPipe _ _ => (LIBUSB_IOCTL_INTERRUPT_OR_BULK_READ, .read)
  | writePipe _ _ => (LIBUSB_IOCTL_INTERRUPT_OR_BULK_WRITE, .write)

/-- The request; `timeout` is the cached one. -/
def request (call : SyncCall) (timeout : UInt32) : TransferRequest :=
  match call with
  | controlTransfer _ buffer => ⟨.ioctl call.code.1, 0, buffer, timeout, 0⟩
  | readPipe pipeID buffer => ⟨.ioctl call.code.1, pipeID, buffer, 0, 0⟩
  | writePipe pipeID buffer => ⟨.ioctl call.code.1, pipeID, buffer, 0, 0⟩

/-- How long the library waits, zero for without a limit: `Ioctl_Sync` or
`Ioctl_SyncWithTimeout`. -/
def wait (call : SyncCall) (timeout : UInt32) : UInt32 :=
  if call.isControl then 0 else timeout

end SyncCall

/-- A transfer that is under way. -/
structure SyncTransfer where
  forwarded : Forwarded
  wait : UInt32

/-- The transfer is handed to the driver through an object, and forwarded to its pipe queue. -/
def UsbKSystem.syncTransfer (s : UsbKSystem) (device : ℕ) (call : SyncCall)
    (a : DispatchAnswers) : Except NTSTATUS SyncTransfer :=
  let timeout := (s.policies device (pipeIdToIdx call.pipeID)).timeout
  (initAndForwardToQueue s.driver.state (call.request timeout) call.code.2 .deviceControl
    call.code.1 a).map fun forwarded => ⟨forwarded, call.wait timeout⟩

/-! ### What the driver decodes -/

namespace SetPipePolicyCall

variable {c : SetPipePolicyCall} {a : PreIoAnswers}

/-- The value as the driver reads it: past its length lies whatever the buffer holds. -/
def sent (c : SetPipePolicyCall) (beyond : ValueBytes) : ValueBytes :=
  fun i => if i < c.valueLength.toNat then (c.value.map fun value => value i).getD 0 else beyond i

theorem length_data (c : SetPipePolicyCall) : c.data.length = c.valueLength.toNat := by
  simp [data]

theorem length_input (c : SetPipePolicyCall) :
    (c.header.bytes ++ c.data).length = sizeofLibusbRequest + c.valueLength.toNat := by
  rw [List.length_append, c.header.length_bytes, c.length_data]

/-- A request whose length has wrapped around is too short to pass. -/
theorem input_eq (h : c.request.passes a = true) :
    c.request.input = c.header.bytes ++ c.data := by
  have hle : sizeofLibusbRequest ≤ c.requestLength :=
    Nat.le_trans (SetPolicyRequest.length_of_passes h) (List.length_take_le _ _)
  have hlt := c.valueLength.toNat_lt
  show (c.header.bytes ++ c.data).take c.requestLength = _
  apply List.take_of_length_le
  rw [length_input]
  unfold requestLength at hle ⊢
  unfold sizeofLibusbRequest at *
  omega

theorem pipeID_input (h : c.request.passes a = true) :
    (RequestField.pipePolicyPipeId.get c.request.input).toUInt8 = c.pipeID := by
  rw [input_eq h, LibusbRequest.get_append, header, LibusbRequest.get_set_of_ne _ _ (by decide),
    LibusbRequest.get_set_self]
  exact UInt8.toUInt8_toUInt32 c.pipeID

theorem policyType_input (h : c.request.passes a = true) :
    RequestField.pipePolicyPolicyType.get c.request.input = c.policyType := by
  rw [input_eq h, LibusbRequest.get_append, header, LibusbRequest.get_set_self]

theorem value_request (h : c.request.passes a = true) (beyond : ValueBytes) :
    c.request.value beyond = c.sent beyond := by
  funext i
  have hdrop : c.request.input.drop sizeofLibusbRequest = c.data := by
    rw [input_eq h]
    exact List.drop_left' c.header.length_bytes
  unfold SetPolicyRequest.value sent
  rw [hdrop]
  by_cases hi : i < c.valueLength.toNat
  · simp [data, hi]
  · simp [data, hi]

end SetPipePolicyCall

theorem UsbKSystem.setPolicyOperation_eq {s : UsbKSystem} {c : SetPipePolicyCall}
    {a : SetPipePolicyAnswers} (h : s.submits c a = true) : ∃ valueLength,
      setPolicyOperation c a = .setPolicy c.pipeID c.policyType (c.sent a.beyond) valueLength := by
  have hpasses : c.request.passes a.preIo = true := by
    unfold submits at h
    simp only [Bool.and_eq_true] at h
    exact h.2
  refine ⟨(UInt64.ofNat c.request.input.length - UInt64.ofNat sizeofLibusbRequest).toUInt32, ?_⟩
  unfold setPolicyOperation
  rw [c.pipeID_input hpasses, c.policyType_input hpasses, c.value_request hpasses]

/-! ### What is told and what is taken -/

namespace UsbKSystem

/-- The timeouts a call tells its caller that it has set. -/
def told (s : UsbKSystem) : PolicyCall → List ((ℕ × UInt8) × UInt32)
  | .setPipePolicy device c a =>
    match c.value with
    | some value =>
      if s.setPipePolicySucceeds c a ∧ c.policyType = PIPE_TRANSFER_TIMEOUT then
        [((device, pipeIdToIdx c.pipeID), value.ulong)]
      else []
    | none => []
  | .driver _ => []

/-- The timeouts the driver takes. -/
def taken (s : UsbKSystem) : PolicyCall → List (Fin 32 × UInt32)
  | .setPipePolicy _ c a =>
    if s.submits c a then
      setPolicyWrites s.driver.state c.pipeID c.policyType (c.sent a.beyond)
    else []
  | .driver op => op.timeoutWrites s.driver

/-- The cached timeouts of all objects. -/
def timeouts (s : UsbKSystem) (k : ℕ × UInt8) : UInt32 := (s.policies k.1 k.2).timeout

variable {s t : UsbKSystem} {e : PolicyCall} {es : List PolicyCall}

theorem timeouts_update_of_eq {device : ℕ} {cache : PolicyCache}
    (h : ∀ item, (cache item).timeout = (s.policies device item).timeout) (driver : UsbDevice) :
    (⟨driver, Function.update s.policies device cache⟩ : UsbKSystem).timeouts = s.timeouts := by
  funext ⟨device', item⟩
  unfold timeouts
  by_cases hdevice : device' = device
  · subst hdevice
    simp [h]
  · simp [hdevice]

/-- The timeout of one entry is cached. -/
theorem timeouts_update (s : UsbKSystem) (device : ℕ) (item : UInt8) (timeout : UInt32)
    (driver : UsbDevice) :
    (⟨driver, Function.update s.policies device (Function.update (s.policies device) item
      { s.policies device item with timeout := timeout })⟩ : UsbKSystem).timeouts =
      Function.update s.timeouts (device, item) timeout := by
  funext ⟨device', item'⟩
  unfold timeouts
  by_cases hdevice : device' = device
  · subst hdevice
    by_cases hitem : item' = item
    · subst hitem
      simp
    · simp [hitem]
  · simp [hdevice]

theorem timeouts_setPipePolicy (s : UsbKSystem) (device : ℕ) (c : SetPipePolicyCall)
    (a : SetPipePolicyAnswers) : (s.setPipePolicy device c a).timeouts =
      writeAll s.timeouts (told s (.setPipePolicy device c a)) := by
  unfold setPipePolicy told
  dsimp only
  cases hvalue : c.value with
  | none => cases s.setPipePolicySucceeds c a <;> rfl
  | some value =>
    cases hsucceeds : s.setPipePolicySucceeds c a with
    | false =>
      simp only [Bool.false_eq_true, false_and, if_false]
      rfl
    | true =>
      simp only [true_and]
      unfold cachePolicy
      dsimp only
      by_cases htype : c.policyType = PIPE_TRANSFER_TIMEOUT
      · rw [if_pos htype, if_pos htype, timeouts_update]
        rfl
      · rw [if_neg htype, if_neg htype]
        apply timeouts_update_of_eq
        intro item
        -- `ISO_ALWAYS_START_ASAP` is cached beside the timeout
        split
        · by_cases hitem : item = pipeIdToIdx c.pipeID
          · subst hitem
            simp
          · simp [hitem]
        · rfl

theorem driver_setPipePolicy (s : UsbKSystem) (device : ℕ) (c : SetPipePolicyCall)
    (a : SetPipePolicyAnswers) : (s.setPipePolicy device c a).driver =
      if s.submits c a then
        { s.driver with state := (setPolicyOperation c a).onState s.driver.state }
      else s.driver := by
  unfold setPipePolicy
  dsimp only
  split <;> rfl

/-- A step stores, in the library, what it tells. -/
theorem timeouts_step (h : usbKSystem.step s e = some t) :
    t.timeouts = writeAll s.timeouts (told s e) := by
  cases e with
  | setPipePolicy device c a =>
    cases h
    exact timeouts_setPipePolicy s device c a
  | driver op =>
    simp only [usbKSystem, Option.map_eq_some_iff] at h
    obtain ⟨driver, -, rfl⟩ := h
    rfl

/-- A step stores, in the driver, what the driver takes. -/
theorem driver_timeouts_step (h : usbKSystem.step s e = some t) :
    t.driver.state.timeouts = writeAll s.driver.state.timeouts (taken s e) := by
  cases e with
  | setPipePolicy device c a =>
    cases h
    rw [driver_setPipePolicy]
    unfold taken
    by_cases hsubmits : s.submits c a = true
    · obtain ⟨valueLength, hop⟩ := setPolicyOperation_eq hsubmits
      simp only [hsubmits, if_true, hop]
      exact LibusbK.timeouts_setPipePolicy _ _ _ _ _
    · simp only [hsubmits]
      rfl
  | driver op =>
    simp only [usbKSystem, Option.map_eq_some_iff] at h
    obtain ⟨driver, hstep, rfl⟩ := h
    exact LibusbK.timeouts_step hstep

/-! ### Runs -/

theorem pipeSlot_request (call : SyncCall) (timeout : UInt32) :
    pipeSlot (call.request timeout).pipeID = pipeSlot call.pipeID := by
  cases call with
  | controlTransfer setup buffer =>
    show pipeSlot 0 = pipeSlot (if setup.isDeviceToHost then 0x80 else 0x00)
    split <;> rfl
  | readPipe pipeID buffer => rfl
  | writePipe pipeID buffer => rfl

theorem timeout_request (call : SyncCall) (timeout : UInt32) :
    (call.request timeout).timeout = if call.isControl then timeout else 0 := by
  cases call <;> rfl

/-- What a transfer that is forwarded has of the two stored timeouts. -/
theorem limits_of_syncTransfer {s : UsbKSystem} {device : ℕ} {call : SyncCall}
    {a : DispatchAnswers} {x : SyncTransfer} (hx : s.syncTransfer device call a = .ok x) :
    let own := s.timeouts (device, pipeIdToIdx call.pipeID)
    x.forwarded.rc.timeout =
        (if call.isControl ∧ own ≠ 0 then own
          else s.driver.state.timeouts (pipeSlot call.pipeID)).toNat ∧
      x.wait = call.wait own := by
  intro own
  unfold syncTransfer at hx
  dsimp only at hx
  rw [show (s.policies device (pipeIdToIdx call.pipeID)).timeout = own from rfl] at hx
  cases hforward : initAndForwardToQueue s.driver.state (call.request own) call.code.2
      .deviceControl call.code.1 a with
  | error status =>
    rw [hforward] at hx
    cases hx
  | ok forwarded =>
    rw [hforward] at hx
    cases hx
    refine ⟨?_, rfl⟩
    rw [(foundContext_of_forwarded hforward).2, pipeSlot_request]
    unfold TransferRequest.context
    dsimp only
    rw [timeout_request]
    cases call.isControl with
    | true =>
      simp only [if_true, true_and]
      by_cases hown : own = 0
      · rw [if_neg (not_not.mpr hown), if_neg (not_not.mpr hown)]
        rfl
      · rw [if_pos hown, if_pos hown]
    | false => rfl

/-- The timeout that was last set for a pipe through an object, as its callers were told. -/
def toldTimeout (s : UsbKSystem) (es : List PolicyCall) (device : ℕ) (pipeID : UInt8) : UInt32 :=
  (lastWritten (device, pipeIdToIdx pipeID) (usbKSystem.outputs told s es)).getD
    (s.timeouts (device, pipeIdToIdx pipeID))

/-- The timeout the driver has last taken for a pipe, through any object. -/
def takenTimeout (s : UsbKSystem) (es : List PolicyCall) (pipeID : UInt8) : UInt32 :=
  (lastWritten (pipeSlot pipeID) (usbKSystem.outputs taken s es)).getD
    (s.driver.state.timeouts (pipeSlot pipeID))

/-- The limit the driver sets to a transfer: an own timeout other than zero stands before that
of the pipe, for control transfers. -/
def driverLimit (s : UsbKSystem) (es : List PolicyCall) (device : ℕ) (call : SyncCall) : UInt32 :=
  let told := s.toldTimeout es device call.pipeID
  if call.isControl ∧ told ≠ 0 then told else s.takenTimeout es call.pipeID

/-- **The limits of a transfer after a run**: the driver gives it the timeout last set through
its own object, or else the one last taken for the pipe; and the library, which waits for
control transfers without a limit, waits for the others as long as was last set through the
object. -/
theorem limits_of_run (hrun : usbKSystem.exec s es = some t) (device : ℕ) (call : SyncCall)
    (a : DispatchAnswers) {x : SyncTransfer} (hx : t.syncTransfer device call a = .ok x) :
    x.forwarded.rc.timeout = (s.driverLimit es device call).toNat ∧
      x.wait = call.wait (s.toldTimeout es device call.pipeID) := by
  have htold : t.timeouts (device, pipeIdToIdx call.pipeID) =
      s.toldTimeout es device call.pipeID := by
    have h : t.timeouts = writeAll s.timeouts (usbKSystem.outputs told s es) :=
      Machine.exec_writeAll (fun _ _ _ => timeouts_step) hrun
    exact (congrFun h _).trans (writeAll_apply _ _ _)
  have htaken : t.driver.state.timeouts (pipeSlot call.pipeID) =
      s.takenTimeout es call.pipeID := by
    have h : t.driver.state.timeouts =
        writeAll s.driver.state.timeouts (usbKSystem.outputs taken s es) :=
      Machine.exec_writeAll (fun _ _ _ => driver_timeouts_step) hrun
    exact (congrFun h _).trans (writeAll_apply _ _ _)
  have hlimits := limits_of_syncTransfer hx
  rw [htold, htaken] at hlimits
  exact hlimits

/-- A device with nothing but its default pipe. -/
def defaultPipeOnly : UsbDevice where
  prepared := true
  state :=
    let pc : PipeContext := { queue := some 0, isValid := true, timeoutPolicy := 5000 }
    DeviceState.setPipe { queues := Objects.empty.create (newQueue pc {}) } 0 pc

/-- `UsbK_SetPipePolicy` of a timeout of less than 256. -/
def setTimeout (pipeID timeout : UInt8) : SetPipePolicyCall where
  pipeID := pipeID
  policyType := PIPE_TRANSFER_TIMEOUT
  valueLength := 4
  value := some fun i => if i = 0 then timeout else 0

/-- One object sets 200 through `0x00`, and another 50 through `0x80`: a transfer to the device
through the first has 200, and one from the device has 50. -/
theorem limits_of_run_twoObjects :
    let s : UsbKSystem := { driver := defaultPipeOnly }
    let t := (s.setPipePolicy 0 (setTimeout 0x00 200) {}).setPipePolicy 1 (setTimeout 0x80 50) {}
    let timeout (setup : SetupPacket) :=
      (t.syncTransfer 0 (.controlTransfer setup []) { reads := vanishingPackets }).map
        fun x => x.forwarded.rc.timeout
    timeout ⟨0x40, 0, 0, 0⟩ = .ok 200 ∧ timeout ⟨0xC0, 0, 0, 0⟩ = .ok 50 := by
  intro s t timeout
  have hrun : usbKSystem.exec s [.setPipePolicy 0 (setTimeout 0x00 200) {},
      .setPipePolicy 1 (setTimeout 0x80 50) {}] = some t := rfl
  have htimeout (setup : SetupPacket) (hok : (t.syncTransfer 0 (.controlTransfer setup [])
      { reads := vanishingPackets }).isOk = true) : timeout setup = .ok (s.driverLimit
      [.setPipePolicy 0 (setTimeout 0x00 200) {}, .setPipePolicy 1 (setTimeout 0x80 50) {}] 0
      (.controlTransfer setup [])).toNat := by
    cases hx : t.syncTransfer 0 (.controlTransfer setup []) { reads := vanishingPackets } with
    | ok x =>
      have hlimits := limits_of_run hrun 0 _ _ hx
      show Except.map _ (t.syncTransfer 0 _ _) = _
      rw [hx]
      exact congrArg Except.ok hlimits.1
    | error status =>
      rw [hx] at hok
      cases hok
  rw [htimeout _ (by decide), htimeout _ (by decide)]
  exact ⟨by decide, by decide⟩

end UsbKSystem

end LibusbK
