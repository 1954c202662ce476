import LibusbK.Dll.ControlMessage
import LibusbK.Driver.Configure
import LibusbK.Driver.PolicyQuery
import LibusbK.Lib.Access

/-!
# What the policy setters read

`Policy_SetPipe` and `Policy_SetPower` of `drv_policy.c`, and the cases of
`DefaultQueue_OnIoControl` that call them.  The value is what follows the
`libusb_request` in the input buffer; its length is that of the buffer less that of the
request.  The code is given with its reads of the value, byte by byte; the memory from the
value on does not end with the buffer.

## Main definitions

* `policySetPipeCode`, `policySetPower` — the setters, with what they read.
* `onSetPolicy` — the setter a request calls, and the length it is given.
* `ReadsOnlyValue` — the length is that of the value, and no byte after it is read.

## Main result

* `readsOnlyValue_iff` — a request reads only its value exactly if it does not set the
  timeout of a pipe from less than four bytes.
-/

namespace LibusbK

open Access

abbrev LIBUSB_IOCTL_SET_PIPE_POLICY : UInt32 := ctlCode 0x906 METHOD_BUFFERED
abbrev LIBUSB_IOCTL_SET_POWER_POLICY : UInt32 := ctlCode 0x908 METHOD_BUFFERED

/-- Code that reads bytes of a value. -/
abbrev ValueCode (α : Type) := Access (fun _ : ℕ => UInt8) Empty α

namespace ValueCode

/-- `((PUCHAR)value)[0]` -/
def uchar : ValueCode UInt8 := load 0

/-- `((PUSHORT)value)[0]` -/
def ushort : ValueCode UInt16 := do
  let b0 ← load (V := fun _ => UInt8) 0
  let b1 ← load (V := fun _ => UInt8) 1
  return b0.toUInt16 ||| b1.toUInt16 <<< 8

/-- `((PULONG)value)[0]` -/
def ulong : ValueCode UInt32 := do
  let b0 ← load (V := fun _ => UInt8) 0
  let b1 ← load (V := fun _ => UInt8) 1
  let b2 ← load (V := fun _ => UInt8) 2
  let b3 ← load (V := fun _ => UInt8) 3
  return b0.toUInt32 ||| b1.toUInt32 <<< 8 ||| b2.toUInt32 <<< 16 ||| b3.toUInt32 <<< 24

variable (value : ValueBytes) (i : ℕ)

@[simp] theorem result_uchar : uchar.result value = value.uchar := rfl

@[simp] theorem result_ushort : ushort.result value = value.ushort := rfl

@[simp] theorem result_ulong : ulong.result value = value.ulong := rfl

@[simp] theorem final_uchar : uchar.final value = value := rfl

@[simp] theorem final_ushort : ushort.final value = value := rfl

@[simp] theorem final_ulong : ulong.final value = value := rfl

@[simp] theorem assigns_uchar : ¬uchar.Assigns value i := id

@[simp] theorem assigns_ushort : ¬ushort.Assigns value i := id

@[simp] theorem assigns_ulong : ¬ulong.Assigns value i := id

@[simp] theorem exposes_uchar : uchar.Exposes value i ↔ i < 1 := by
  simp [uchar]

@[simp] theorem exposes_ushort : ushort.Exposes value i ↔ i < 2 := by
  simp [ushort]
  omega

@[simp] theorem exposes_ulong : ulong.Exposes value i ↔ i < 4 := by
  simp [ulong]
  omega

end ValueCode

/-- A case that checks for `minValueLength` bytes, where it goes to `Done:`, and otherwise
goes on with `code`. -/
def ValueCode.checked {α : Type} (minValueLength : ℕ) (valueLength : UInt32)
    (refused : NTSTATUS → α) (code : ValueCode α) : ValueCode α :=
  if !ntSuccess (checkValueLength minValueLength valueLength) then
    return refused (checkValueLength minValueLength valueLength)
  else code

theorem ValueCode.exposes_checked {α : Type} {m : ℕ} (hm : 0 < m) {valueLength : UInt32}
    {refused : NTSTATUS → α} {code : ValueCode α} {value : ValueBytes} {i : ℕ} :
    (ValueCode.checked m valueLength refused code).Exposes value i ↔
      LengthOk m valueLength ∧ code.Exposes value i := by
  rw [ValueCode.checked, exposes_ite, ← ntSuccess_checkValueLength hm]
  cases ntSuccess (checkValueLength m valueLength) <;> simp

/-! ### `Policy_SetPipe` -/

section SetPipe

variable (isHighSpeed : Bool) (pc : PipeContext) (valueLength : UInt32)

/-- A case of the switch that checks for `minValueLength` bytes. -/
def checked (minValueLength : ℕ) (code : ValueCode PolicyUpdate) : ValueCode PolicyUpdate :=
  .checked minValueLength valueLength (fun status => ⟨pc, pc.policies, status⟩) code

/-- A case that assigns `value ? 1 : 0` to a flag. -/
def setFlagCode (f : PolicyFlag) : ValueCode PolicyUpdate :=
  checked pc valueLength 1 do
    let x ← ValueCode.uchar
    return ⟨pc, f.field.set pc.policies (if x ≠ 0 then 1 else 0), STATUS_SUCCESS⟩

/-- `case RAW_IO`. -/
def setRawIoCode : ValueCode PolicyUpdate :=
  if pc.pipeInformation.pipeType ≠ .bulk ∧ pc.pipeInformation.pipeType ≠ .interrupt then
    return ⟨pc, pc.policies, STATUS_INVALID_PARAMETER⟩
  else
    checked pc valueLength 1 do
      let tempVal ← ValueCode.uchar
      if tempVal &&& 0x1 ≠ flagByte (BitField.get PolicyFlag.rawIO.field pc.policies) then
        let x ← ValueCode.uchar
        return ⟨{ pc with isQueueDirty := true },
          PolicyFlag.rawIO.field.set pc.policies (if x ≠ 0 then 1 else 0), STATUS_SUCCESS⟩
      else
        return ⟨pc, pc.policies, STATUS_SUCCESS⟩

/-- `case PIPE_TRANSFER_TIMEOUT`: the length it checks is its own. -/
def setTransferTimeoutCode : ValueCode PolicyUpdate :=
  checked pc 4 4 do
    let x ← ValueCode.ulong
    return ⟨{ pc with timeoutPolicy := x }, pc.policies, STATUS_SUCCESS⟩

/-- `case ISO_START_LATENCY`. -/
def setIsoStartLatencyCode : ValueCode PolicyUpdate :=
  checked pc valueLength 2 do
    let x ← ValueCode.ushort
    return ⟨pc, isoStartLatencyField.set pc.policies (BitVec.ofNat 10 x.toNat), STATUS_SUCCESS⟩

/-- `case ISO_NUM_FIXED_PACKETS`. -/
def setIsoNumFixedPacketsCode : ValueCode PolicyUpdate :=
  checked pc valueLength 2 do
    let x ← ValueCode.ushort
    let policies := isoNumFixedPacketsField.set pc.policies (BitVec.ofNat 11 (x &&& 0x7FF).toNat)
    if fixedPacketsRefused isHighSpeed (isoNumFixedPacketsField.get policies).toNat then
      return ⟨pc, policies, STATUS_INVALID_PARAMETER⟩
    else
      return ⟨pc, policies, STATUS_SUCCESS⟩

/-- `case SIMUL_PARALLEL_REQUESTS`. -/
def setSimulParallelRequestsCode : ValueCode PolicyUpdate :=
  checked pc valueLength 4 do
    let x ← ValueCode.ulong
    if pc.simulParallelRequests ≠ x then
      let x ← ValueCode.ulong
      return ⟨{ pc with simulParallelRequests := x, isQueueDirty := true }, pc.policies,
        STATUS_SUCCESS⟩
    else
      return ⟨pc, pc.policies, STATUS_SUCCESS⟩

/-- The switch of `Policy_SetPipe`. -/
def setPolicyCode (policyType : UInt32) : ValueCode PolicyUpdate :=
  match PipePolicy.ofCode policyType with
  | some (.flag PolicyFlag.rawIO) => setRawIoCode pc valueLength
  | some (.flag f) => setFlagCode pc valueLength f
  | some .pipeTransferTimeout => setTransferTimeoutCode pc
  | some .isoStartLatency => setIsoStartLatencyCode pc valueLength
  | some .isoNumFixedPackets => setIsoNumFixedPacketsCode isHighSpeed pc valueLength
  | some .simulParallelRequests => setSimulParallelRequestsCode pc valueLength
  | some .maximumTransferSize => return ⟨pc, pc.policies, STATUS_INVALID_PARAMETER⟩
  | none => return ⟨pc, pc.policies, STATUS_INVALID_PARAMETER⟩

/-- `Policy_SetPipe`. -/
def policySetPipeCode (pipes : PipeTable) (pipeID : UInt8) (policyType : UInt32) :
    ValueCode (PipeTable × NTSTATUS) :=
  let pc := getPipeContextByID pipes pipeID
  if !pc.isValid then return (pipes, STATUS_INVALID_PARAMETER)
  else do
    let u ← setPolicyCode isHighSpeed pc valueLength policyType
    return (Function.update pipes (pipeSlot pipeID) u.done, u.status)

variable {isHighSpeed} {pc} {valueLength} {value : ValueBytes} {i : ℕ}

theorem result_checked (m : ℕ) (code : ValueCode PolicyUpdate) :
    (checked pc valueLength m code).result value =
      if !ntSuccess (checkValueLength m valueLength) then
        ⟨pc, pc.policies, checkValueLength m valueLength⟩
      else code.result value :=
  result_ite ..

theorem result_setFlagCode (f : PolicyFlag) :
    (setFlagCode pc valueLength f).result value = setFlag f pc value valueLength :=
  result_checked 1 _

theorem result_setRawIoCode :
    (setRawIoCode pc valueLength).result value = setRawIo pc value valueLength := by
  refine (result_ite ..).trans (congrArg _ ((result_checked 1 _).trans (congrArg _ ?_)))
  exact (result_bind ..).trans (result_ite ..)

theorem result_setTransferTimeoutCode :
    (setTransferTimeoutCode pc).result value = setTransferTimeout pc value :=
  result_checked 4 _

theorem result_setIsoStartLatencyCode :
    (setIsoStartLatencyCode pc valueLength).result value =
      setIsoStartLatency pc value valueLength :=
  result_checked 2 _

theorem result_setIsoNumFixedPacketsCode :
    (setIsoNumFixedPacketsCode isHighSpeed pc valueLength).result value =
      setIsoNumFixedPackets isHighSpeed pc value valueLength := by
  refine (result_checked 2 _).trans (congrArg _ ?_)
  exact (result_bind ..).trans (result_ite ..)

theorem result_setSimulParallelRequestsCode :
    (setSimulParallelRequestsCode pc valueLength).result value =
      setSimulParallelRequests pc value valueLength := by
  refine (result_checked 4 _).trans (congrArg _ ?_)
  exact (result_bind ..).trans (result_ite ..)

/-- The code computes what the model of the switch does. -/
theorem result_setPolicyCode (policyType : UInt32) :
    (setPolicyCode isHighSpeed pc valueLength policyType).result value =
      setPolicy isHighSpeed pc policyType value valueLength := by
  unfold setPolicyCode setPolicy
  cases PipePolicy.ofCode policyType with
  | none => rfl
  | some p =>
    cases p with
    | flag f =>
      cases f with
      | rawIO => exact result_setRawIoCode
      | _ => exact result_setFlagCode _
    | pipeTransferTimeout => exact result_setTransferTimeoutCode
    | maximumTransferSize => rfl
    | isoStartLatency => exact result_setIsoStartLatencyCode
    | isoNumFixedPackets => exact result_setIsoNumFixedPacketsCode
    | simulParallelRequests => exact result_setSimulParallelRequestsCode

/-- The code computes what the model of `Policy_SetPipe` does. -/
theorem result_policySetPipeCode (pipes : PipeTable) (pipeID : UInt8) (policyType : UInt32) :
    (policySetPipeCode isHighSpeed valueLength pipes pipeID policyType).result value =
      policySetPipe isHighSpeed pipes pipeID policyType value valueLength := by
  refine (result_ite ..).trans (congrArg _ ((result_bind ..).trans ?_))
  rw [result_setPolicyCode]
  rfl

/-! ### The bytes that are read -/

theorem exposes_checked {m : ℕ} (hm : 0 < m) {code : ValueCode PolicyUpdate} :
    (checked pc valueLength m code).Exposes value i ↔
      LengthOk m valueLength ∧ code.Exposes value i :=
  ValueCode.exposes_checked hm

theorem exposes_setFlagCode {f : PolicyFlag} :
    (setFlagCode pc valueLength f).Exposes value i ↔ LengthOk 1 valueLength ∧ i < 1 := by
  refine (exposes_checked Nat.one_pos).trans (and_congr_right' ?_)
  simp

theorem exposes_setRawIoCode (h : (setRawIoCode pc valueLength).Exposes value i) :
    LengthOk 1 valueLength ∧ i < 1 := by
  rw [setRawIoCode, exposes_ite] at h
  split at h
  · exact h.elim
  · obtain ⟨hlength, h⟩ := (exposes_checked Nat.one_pos).mp h
    refine ⟨hlength, ?_⟩
    rw [exposes_bind, exposes_ite] at h
    rcases h with h | ⟨-, h⟩
    · exact (ValueCode.exposes_uchar value i).mp h
    · split at h
      · simpa using h
      · exact h.elim

/-- The timeout is read without regard to the length. -/
theorem exposes_setTransferTimeoutCode :
    (setTransferTimeoutCode pc).Exposes value i ↔ i < 4 := by
  refine (exposes_checked (by decide)).trans ((and_iff_right (by decide)).trans ?_)
  simp

theorem exposes_setIsoStartLatencyCode :
    (setIsoStartLatencyCode pc valueLength).Exposes value i ↔
      LengthOk 2 valueLength ∧ i < 2 := by
  refine (exposes_checked (by decide)).trans (and_congr_right' ?_)
  simp

theorem exposes_setIsoNumFixedPacketsCode :
    (setIsoNumFixedPacketsCode isHighSpeed pc valueLength).Exposes value i ↔
      LengthOk 2 valueLength ∧ i < 2 := by
  refine (exposes_checked (by decide)).trans (and_congr_right' ?_)
  rw [exposes_bind, exposes_ite]
  simp

theorem exposes_setSimulParallelRequestsCode :
    (setSimulParallelRequestsCode pc valueLength).Exposes value i ↔
      LengthOk 4 valueLength ∧ i < 4 := by
  refine (exposes_checked (by decide)).trans (and_congr_right' ?_)
  rw [exposes_bind, exposes_ite]
  simp

/-- **A case reads a value of its size**, and all cases but one have checked for it. -/
theorem setPolicyCode_exposes {policyType : UInt32} {p : PipePolicy}
    (hp : PipePolicy.ofCode policyType = some p)
    (h : (setPolicyCode isHighSpeed pc valueLength policyType).Exposes value i) :
    i < p.size ∧ (p = .pipeTransferTimeout ∨ LengthOk p.size valueLength) := by
  unfold setPolicyCode at h
  rw [hp] at h
  cases p with
  | flag f =>
    have hread : LengthOk 1 valueLength ∧ i < 1 := by
      cases f with
      | rawIO => exact exposes_setRawIoCode h
      | _ => exact exposes_setFlagCode.mp h
    exact ⟨hread.2, .inr hread.1⟩
  | pipeTransferTimeout => exact ⟨exposes_setTransferTimeoutCode.mp h, .inl rfl⟩
  | maximumTransferSize => exact h.elim
  | isoStartLatency =>
    have hread := exposes_setIsoStartLatencyCode.mp h
    exact ⟨hread.2, .inr hread.1⟩
  | isoNumFixedPackets =>
    have hread := exposes_setIsoNumFixedPacketsCode.mp h
    exact ⟨hread.2, .inr hread.1⟩
  | simulParallelRequests =>
    have hread := exposes_setSimulParallelRequestsCode.mp h
    exact ⟨hread.2, .inr hread.1⟩

/-- `Policy_SetPipe` reads within the length, but for the timeout. -/
theorem policySetPipeCode_exposes {pipes : PipeTable} {pipeID : UInt8} {policyType : UInt32}
    (hne : policyType ≠ PIPE_TRANSFER_TIMEOUT)
    (h : (policySetPipeCode isHighSpeed valueLength pipes pipeID policyType).Exposes value i) :
    i < valueLength.toNat := by
  unfold policySetPipeCode at h
  dsimp only at h
  rw [exposes_ite] at h
  split at h
  · exact h.elim
  · rcases (exposes_bind ..).mp h with h | ⟨-, h⟩
    · cases hp : PipePolicy.ofCode policyType with
      | none =>
        rw [setPolicyCode, hp] at h
        exact h.elim
      | some p =>
        obtain ⟨hsize, rfl | hlength⟩ := setPolicyCode_exposes hp h
        · exact absurd (PipePolicy.code_of_ofCode hp).symm hne
        · exact Nat.lt_of_lt_of_le hsize hlength.1
    · exact h.elim

/-- The timeout of a pipe is read from four bytes. -/
theorem policySetPipeCode_exposes_timeout {pipes : PipeTable} {pipeID : UInt8}
    (hvalid : (getPipeContextByID pipes pipeID).isValid = true) :
    (policySetPipeCode isHighSpeed valueLength pipes pipeID PIPE_TRANSFER_TIMEOUT).Exposes value i ↔
      i < 4 := by
  have hcode : PipePolicy.ofCode PIPE_TRANSFER_TIMEOUT = some .pipeTransferTimeout := by decide
  unfold policySetPipeCode
  dsimp only
  rw [exposes_ite, if_neg (by simp [hvalid]), exposes_bind]
  refine (or_iff_left fun h => h.2.elim).trans ?_
  rw [setPolicyCode, hcode]
  exact exposes_setTransferTimeoutCode

end SetPipe

/-! ### `Policy_SetPower` -/

/-- What `Policy_InitPower` and `Policy_SetPower` use of `DEVICE_CONTEXT` and its
`DeviceRegSettings`. -/
structure PowerContext where
  usbdiVersion : UInt32
  remoteWakeCapable : Bool
  isIdleSettingsInitialized : Bool
  systemWakeEnabled : UInt32
  deviceIdleEnabled : UInt32
  deviceIdleIgnoreWakeEnable : UInt32
  userSetDeviceIdleEnabled : UInt32
  defaultIdleState : UInt32
  defaultIdleTimeout : UInt32
  deriving DecidableEq, Repr

/-- `WDF_DEVICE_POWER_POLICY_IDLE_SETTINGS`, as far as `Policy_InitPower` sets it. -/
structure IdleSettings where
  /-- `IdleUsbSelectiveSuspend`, or else `IdleCannotWakeFromS0`. -/
  selectiveSuspend : Bool
  /-- `IdleAllowUserControl`, or else `IdleDoNotAllowUserControl`. -/
  allowUserControl : Bool
  enabled : Bool
  idleTimeout : UInt32
  deriving DecidableEq, Repr

/-- What the framework answers to the settings. -/
structure PowerAnswers where
  assignS0IdleSettings : IdleSettings → NTSTATUS := fun _ => STATUS_SUCCESS
  assignSxWakeSettings : NTSTATUS := STATUS_SUCCESS

/-- The settings `Policy_InitPower` assigns. -/
def idleSettings (dc : PowerContext) : IdleSettings where
  selectiveSuspend := dc.remoteWakeCapable || dc.deviceIdleIgnoreWakeEnable != 0
  allowUserControl := dc.userSetDeviceIdleEnabled != 0
  enabled := dc.deviceIdleEnabled != 0 && dc.defaultIdleState != 0
  idleTimeout := dc.defaultIdleTimeout

/-- `Policy_InitPower`. -/
def policyInitPower (a : PowerAnswers) (dc : PowerContext) : PowerContext × NTSTATUS :=
  let dc := if dc.usbdiVersion < 0x600 then { dc with deviceIdleIgnoreWakeEnable := 0 } else dc
  let settings := idleSettings dc
  let assigns := settings.enabled || dc.isIdleSettingsInitialized
  if assigns && !ntSuccess (a.assignS0IdleSettings settings) then
    (dc, a.assignS0IdleSettings settings)
  else
    let dc := if assigns then { dc with isIdleSettingsInitialized := true } else dc
    if dc.systemWakeEnabled ≠ 0 then (dc, a.assignSxWakeSettings)
    else (dc, if assigns then a.assignS0IdleSettings settings else STATUS_SUCCESS)

/-- `Policy_SetPower`. -/
def policySetPower (a : PowerAnswers) (dc : PowerContext) (policyType valueLength : UInt32) :
    ValueCode (PowerContext × NTSTATUS) :=
  if policyType = AUTO_SUSPEND then
    .checked 1 valueLength (fun status => (dc, status)) do
      let x ← ValueCode.uchar
      let r := policyInitPower a { dc with defaultIdleState := if x ≠ 0 then 1 else 0 }
      return (if !ntSuccess r.2 then { r.1 with defaultIdleState := dc.defaultIdleState } else r.1,
        r.2)
  else if policyType = SUSPEND_DELAY then
    .checked 4 valueLength (fun status => (dc, status)) do
      let x ← ValueCode.ulong
      let r := policyInitPower a { dc with defaultIdleTimeout := x }
      return (if !ntSuccess r.2 then { r.1 with defaultIdleTimeout := dc.defaultIdleTimeout }
        else r.1, r.2)
  else return (dc, STATUS_INVALID_PARAMETER)

/-- `Policy_SetPower` reads within the length. -/
theorem policySetPower_exposes {a : PowerAnswers} {dc : PowerContext}
    {policyType valueLength : UInt32} {value : ValueBytes} {i : ℕ}
    (h : (policySetPower a dc policyType valueLength).Exposes value i) :
    i < valueLength.toNat := by
  unfold policySetPower at h
  rw [exposes_ite, exposes_ite] at h
  split at h
  · obtain ⟨hlength, h⟩ := (ValueCode.exposes_checked Nat.one_pos).mp h
    have hi : i < 1 := by simpa using h
    exact Nat.lt_of_lt_of_le hi hlength.1
  · split at h
    · obtain ⟨hlength, h⟩ := (ValueCode.exposes_checked (by decide)).mp h
      have hi : i < 4 := by simpa using h
      exact Nat.lt_of_lt_of_le hi hlength.1
    · exact h.elim

/-! ### Requests -/

/-- A request with its input buffer, whose length is a `ULONG` of the IRP. -/
structure SetPolicyRequest where
  code : UInt32
  input : List UInt8
  length_lt : input.length < 0x100000000

/-- What the framework answers before the switch of `DefaultQueue_OnIoControl`. -/
structure PreIoAnswers where
  /-- `GetRequestContext`. -/
  requestContext : Bool := true
  /-- `WdfRequestRetrieveInputBuffer`, for a buffer that is long enough. -/
  inputBuffer : NTSTATUS := STATUS_SUCCESS
  /-- `WdfDeviceEnqueueRequest`. -/
  enqueue : NTSTATUS := STATUS_SUCCESS
  /-- The device, request and file objects are there. -/
  contexts : Bool := true

/-- The checks before the switch. -/
def SetPolicyRequest.passes (r : SetPolicyRequest) (a : PreIoAnswers) : Bool :=
  a.requestContext && decide (sizeofLibusbRequest ≤ r.input.length) && ntSuccess a.inputBuffer &&
    ntSuccess a.enqueue && a.contexts

/-- The contexts the setters work on. -/
structure SettablePolicies where
  device : DeviceState
  power : PowerContext

/-- A call of a setter. -/
inductive SetterCall
  | setPipe (pipeID : UInt8) (policyType valueLength : UInt32)
  | setPower (policyType valueLength : UInt32)
  deriving DecidableEq, Repr

namespace SetterCall

def valueLength : SetterCall → UInt32
  | setPipe _ _ valueLength => valueLength
  | setPower _ valueLength => valueLength

/-- The call reads byte `i` from the value on. -/
def Reads (s : SettablePolicies) (a : PowerAnswers) (value : ValueBytes) (i : ℕ) :
    SetterCall → Prop
  | setPipe pipeID policyType valueLength =>
    (policySetPipeCode s.device.device.isHighSpeed valueLength s.device.pipes pipeID
      policyType).Exposes value i
  | setPower policyType valueLength =>
    (policySetPower a s.power policyType valueLength).Exposes value i

end SetterCall

/-- `DefaultQueue_OnIoControl`: the setter that is called, if any.  The lengths are of
type `size_t`, and cut to a `ULONG`. -/
def onSetPolicy (s : SettablePolicies) (a : PreIoAnswers) (r : SetPolicyRequest) :
    Option SetterCall :=
  let inputBufferLength := UInt64.ofNat r.input.length - UInt64.ofNat sizeofLibusbRequest
  if !r.passes a then none
  else if r.code = LIBUSB_IOCTL_SET_PIPE_POLICY then
    let pipeID := (RequestField.pipePolicyPipeId.get r.input).toUInt8
    let pc := getPipeContextByID s.device.pipes pipeID
    if !pc.isValid || pc.queue.isNone then none
    else some (.setPipe pipeID (RequestField.pipePolicyPolicyType.get r.input)
      inputBufferLength.toUInt32)
  else if r.code = LIBUSB_IOCTL_SET_POWER_POLICY then
    some (.setPower (RequestField.powerPolicyPolicyType.get r.input) inputBufferLength.toUInt32)
  else none

/-- The memory from the value on: the rest of the buffer, and what comes after it. -/
def SetPolicyRequest.value (r : SetPolicyRequest) (beyond : ValueBytes) : ValueBytes :=
  fun i => (r.input.drop sizeofLibusbRequest)[i]?.getD (beyond i)

/-- The setter is given the length of what follows the request, and reads nothing else. -/
def ReadsOnlyValue (s : SettablePolicies) (a : PreIoAnswers) (p : PowerAnswers)
    (r : SetPolicyRequest) : Prop :=
  ∀ c, onSetPolicy s a r = some c →
    c.valueLength.toNat = r.input.length - sizeofLibusbRequest ∧
      ∀ beyond i, c.Reads s p (r.value beyond) i → i < c.valueLength.toNat

/-- The request sets the timeout of a pipe that is there, from less than four bytes. -/
structure SetPolicyRequest.CutsTimeout (r : SetPolicyRequest) (s : SettablePolicies)
    (a : PreIoAnswers) : Prop where
  passes : r.passes a = true
  code : r.code = LIBUSB_IOCTL_SET_PIPE_POLICY
  policyType : RequestField.pipePolicyPolicyType.get r.input = PIPE_TRANSFER_TIMEOUT
  isValid : (getPipeContextByID s.device.pipes
    (RequestField.pipePolicyPipeId.get r.input).toUInt8).isValid = true
  queue : (getPipeContextByID s.device.pipes
    (RequestField.pipePolicyPipeId.get r.input).toUInt8).queue.isSome = true
  length : r.input.length < sizeofLibusbRequest + 4

section Requests

variable {s : SettablePolicies} {a : PreIoAnswers} {r : SetPolicyRequest}

theorem SetPolicyRequest.length_of_passes (h : r.passes a = true) :
    sizeofLibusbRequest ≤ r.input.length := by
  unfold SetPolicyRequest.passes at h
  simp only [Bool.and_eq_true, decide_eq_true_eq] at h
  exact h.1.1.1.2

/-- The length does not wrap around. -/
theorem SetPolicyRequest.toNat_length (h : r.passes a = true) :
    (UInt64.ofNat r.input.length - UInt64.ofNat sizeofLibusbRequest).toUInt32.toNat =
      r.input.length - sizeofLibusbRequest := by
  have hle := r.length_of_passes h
  have hlt := r.length_lt
  have hlength : (UInt64.ofNat r.input.length).toNat = r.input.length :=
    UInt64.toNat_ofNat_of_lt' (Nat.lt_trans hlt (by decide))
  have hsize : (UInt64.ofNat sizeofLibusbRequest).toNat = sizeofLibusbRequest := rfl
  have hsub : (UInt64.ofNat r.input.length - UInt64.ofNat sizeofLibusbRequest).toNat =
      r.input.length - sizeofLibusbRequest := by
    rw [UInt64.toNat_sub_of_le _ _ (by rw [UInt64.le_iff_toNat_le, hlength, hsize]; exact hle),
      hlength, hsize]
  rw [UInt64.toNat_toUInt32, hsub]
  omega

/-- The two ways to a setter. -/
theorem onSetPolicy_eq_some {c : SetterCall} (h : onSetPolicy s a r = some c) :
    r.passes a = true ∧ c.valueLength.toNat = r.input.length - sizeofLibusbRequest ∧
      (c = .setPipe (RequestField.pipePolicyPipeId.get r.input).toUInt8
          (RequestField.pipePolicyPolicyType.get r.input) c.valueLength ∧
        r.code = LIBUSB_IOCTL_SET_PIPE_POLICY ∧
        (getPipeContextByID s.device.pipes
          (RequestField.pipePolicyPipeId.get r.input).toUInt8).isValid = true ∧
        (getPipeContextByID s.device.pipes
          (RequestField.pipePolicyPipeId.get r.input).toUInt8).queue.isSome = true ∨
      c = .setPower (RequestField.powerPolicyPolicyType.get r.input) c.valueLength) := by
  unfold onSetPolicy at h
  dsimp only at h
  split at h
  · cases h
  · next hpasses =>
    replace hpasses : r.passes a = true := by simpa using hpasses
    split at h
    · next hcode =>
      split at h
      · cases h
      · next hpipe =>
        cases h
        simp only [Bool.or_eq_true, Bool.not_eq_true', not_or, Bool.not_eq_false,
          Option.isNone_iff_eq_none, ← Option.isSome_iff_ne_none] at hpipe
        exact ⟨hpasses, r.toNat_length hpasses, .inl ⟨rfl, hcode, hpipe.1, hpipe.2⟩⟩
    · split at h
      · cases h
        exact ⟨hpasses, r.toNat_length hpasses, .inr rfl⟩
      · cases h

theorem SetPolicyRequest.CutsTimeout.onSetPolicy_eq (h : r.CutsTimeout s a) :
    ∃ valueLength, onSetPolicy s a r =
      some (.setPipe (RequestField.pipePolicyPipeId.get r.input).toUInt8 PIPE_TRANSFER_TIMEOUT
        valueLength) := by
  obtain ⟨hpasses, hcode, htype, hvalid, hqueue, -⟩ := h
  refine ⟨(UInt64.ofNat r.input.length - UInt64.ofNat sizeofLibusbRequest).toUInt32, ?_⟩
  unfold onSetPolicy
  dsimp only
  rw [if_neg (by simp [hpasses]), if_pos hcode, if_neg, htype]
  simp [hvalid, Option.isSome_iff_ne_none.mp hqueue]

/-- **A request reads only its value exactly if it does not set the timeout of a pipe from
less than four bytes.** -/
theorem readsOnlyValue_iff (s : SettablePolicies) (a : PreIoAnswers) (p : PowerAnswers)
    (r : SetPolicyRequest) : ReadsOnlyValue s a p r ↔ ¬r.CutsTimeout s a := by
  constructor
  · intro h hcuts
    obtain ⟨valueLength, hcall⟩ := hcuts.onSetPolicy_eq
    obtain ⟨hlength, hreads⟩ := h _ hcall
    have hread := hreads (fun _ => 0) 3
      ((policySetPipeCode_exposes_timeout hcuts.isValid).mpr (by decide))
    rw [hlength] at hread
    have hshort := hcuts.length
    omega
  · intro hcuts c hcall
    obtain ⟨hpasses, hlength, ⟨hc, hcode, hvalid, hqueue⟩ | hc⟩ := onSetPolicy_eq_some hcall
    · refine ⟨hlength, fun beyond i hread => ?_⟩
      rw [hc] at hread
      by_cases htype : RequestField.pipePolicyPolicyType.get r.input = PIPE_TRANSFER_TIMEOUT
      · rw [htype] at hread
        have hi : i < 4 := (policySetPipeCode_exposes_timeout hvalid).mp hread
        have hlong : ¬r.input.length < sizeofLibusbRequest + 4 := fun hshort =>
          hcuts ⟨hpasses, hcode, htype, hvalid, hqueue, hshort⟩
        omega
      · exact policySetPipeCode_exposes htype hread
    · refine ⟨hlength, fun beyond i hread => ?_⟩
      rw [hc] at hread
      exact policySetPower_exposes hread

end Requests

/-- A device with a queue for each pipe. -/
def queuedDevice : SettablePolicies where
  device := { pipes := fun _ => { isValid := true, queue := some 0 } }
  power := ⟨0x600, false, false, 0, 0, 0, 0, 0, 0⟩

/-- `SET_PIPE_POLICY` of the timeout of pipe 81h, with no byte after the request. -/
def bareTimeout : SetPolicyRequest where
  code := LIBUSB_IOCTL_SET_PIPE_POLICY
  input := [0, 0, 0, 0, 0, 0, 0, 0, 0x81, 0, 0, 0, 3, 0, 0, 0, 0, 0, 0, 0, 0, 0, 0, 0]
  length_lt := by decide

/-- The timeout is read from behind the buffer. -/
theorem not_readsOnlyValue_bareTimeout : ¬ReadsOnlyValue queuedDevice {} {} bareTimeout := by
  intro h
  have hcall : onSetPolicy queuedDevice {} bareTimeout =
      some (.setPipe 0x81 PIPE_TRANSFER_TIMEOUT 0) := by decide
  have hread := (h _ hcall).2 (fun _ => 0) 0
    ((policySetPipeCode_exposes_timeout rfl).mpr (by decide))
  exact absurd hread (by decide)

end LibusbK
