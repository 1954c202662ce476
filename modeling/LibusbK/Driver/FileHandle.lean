import LibusbK.Driver.DefaultQueue

/-!
# File handles opened by a pipe name

`Device_OnFileCreate` (`drv_device.c`) with `Pipe_GetContextFromName`
(`drv_pipe.c`), and what `DefaultQueue_OnRead` and `DefaultQueue_OnWrite` do with
the requests of such a handle.  The file context says which pipe the handle
reads or writes, and the two dispatchers test both its `PipeID` and its
`PipeType`.

## Main results

* `deviceOnFileCreate_pipeName` -- every configured pipe is opened by its name.
* `not_directHandleWorks` -- no request of such a handle reaches the pipe: the
  type in the file context is the one no pipe has.
-/

namespace LibusbK

/-! ### Pipe names -/

/-- The digits of the addresses in `PipeNameToPipeID`. -/
def hexDigits : List Char :=
  ['0', '1', '2', '3', '4', '5', '6', '7', '8', '9', 'A', 'B', 'C', 'D', 'E', 'F']

/-- `PIPE_` and the two digits of the address. -/
def pipeName (pipeID : UInt8) : List Char :=
  ['P', 'I', 'P', 'E', '_', hexDigits.getD (pipeID.toNat / 16) '0',
    hexDigits.getD (pipeID.toNat % 16) '0']

/-- `DEF_PIPENAME_MAP`. -/
def defPipeNameMap (pipeID : UInt8) : List Char × UInt8 := (pipeName pipeID, pipeID)

/-- `PipeNameToPipeID`.  The two entries of endpoint 7 stand in it twice. -/
def pipeNameToPipeID : List (List Char × UInt8) :=
  [defPipeNameMap 0x01, defPipeNameMap 0x81,
    defPipeNameMap 0x02, defPipeNameMap 0x82,
    defPipeNameMap 0x03, defPipeNameMap 0x83,
    defPipeNameMap 0x04, defPipeNameMap 0x84,
    defPipeNameMap 0x05, defPipeNameMap 0x85,
    defPipeNameMap 0x06, defPipeNameMap 0x86,
    defPipeNameMap 0x07, defPipeNameMap 0x87,
    defPipeNameMap 0x07, defPipeNameMap 0x87,
    defPipeNameMap 0x08, defPipeNameMap 0x88,
    defPipeNameMap 0x09, defPipeNameMap 0x89,
    defPipeNameMap 0x0A, defPipeNameMap 0x8A,
    defPipeNameMap 0x0B, defPipeNameMap 0x8B,
    defPipeNameMap 0x0C, defPipeNameMap 0x8C,
    defPipeNameMap 0x0D, defPipeNameMap 0x8D,
    defPipeNameMap 0x0E, defPipeNameMap 0x8E,
    defPipeNameMap 0x0F, defPipeNameMap 0x8F]

/-- A pipe that can be opened by name. -/
def PipeContext.isOpenable (pc : PipeContext) : Bool :=
  pc.isValid && pc.pipe.isSome && pc.queue.isSome

/-- `Pipe_GetContextFromName`: the slot of the pipe. -/
def pipeGetContextFromName (s : DeviceState) (fileName : List Char) : Option (Fin 32) :=
  match pipeNameToPipeID.find? fun entry => entry.1 == fileName with
  | none => none
  | some entry =>
    if !(getPipeContextByID s.pipes entry.2).isOpenable then none
    else some (pipeSlot entry.2)

/-! ### Opening a handle -/

/-- `FILE_CONTEXT`, less the device.  The framework clears it. -/
structure FileContext where
  pipeID : UInt8 := 0
  pipeType : WdfUsbPipeType := .invalid
  deriving DecidableEq, Repr

/-- `Device_OnFileCreate`: the file context, and the status the create request is
completed with. -/
def deviceOnFileCreate (s : DeviceState) (fileName : List Char) : FileContext × NTSTATUS :=
  let fileContext : FileContext := {}
  -- without a name it is the device that is opened
  if fileName.length = 0 then (fileContext, STATUS_SUCCESS)
  else
    match pipeGetContextFromName s fileName with
    | some k =>
      ({ fileContext with pipeID := (s.pipes k).pipeInformation.endpointAddress }, STATUS_SUCCESS)
    | none => (fileContext, STATUS_INVALID_DEVICE_REQUEST)

/-- The names of the table are found under the address they spell. -/
theorem find_pipeNameToPipeID :
    ∀ entry ∈ pipeNameToPipeID,
      pipeNameToPipeID.find? (fun entry' => entry'.1 == pipeName entry.2) = some entry := by
  decide

/-- A pipe is opened by its name exactly if it is configured. -/
theorem deviceOnFileCreate_pipeName (s : DeviceState) {entry : List Char × UInt8}
    (hentry : entry ∈ pipeNameToPipeID) :
    (deviceOnFileCreate s (pipeName entry.2)).2 = STATUS_SUCCESS ↔
      (getPipeContextByID s.pipes entry.2).isOpenable = true := by
  have hfind := find_pipeNameToPipeID entry hentry
  unfold deviceOnFileCreate pipeGetContextFromName
  rw [if_neg (by simp [pipeName]), hfind]
  dsimp only
  cases (getPipeContextByID s.pipes entry.2).isOpenable with
  | true => exact iff_of_true rfl rfl
  | false =>
    exact iff_of_false (show ¬STATUS_INVALID_DEVICE_REQUEST = STATUS_SUCCESS by decide)
      Bool.false_ne_true

/-- No branch stores a pipe type. -/
theorem pipeType_deviceOnFileCreate (s : DeviceState) (fileName : List Char) :
    (deviceOnFileCreate s fileName).1.pipeType = .invalid := by
  unfold deviceOnFileCreate
  dsimp only
  split_ifs
  · rfl
  · cases pipeGetContextFromName s fileName with
    | none => rfl
    | some k => rfl

/-! ### The requests of a handle -/

/-- A `ReadFile` on the handle. -/
def FileContext.readRequest (file : FileContext) (buffer : List UInt8) : TransferRequest where
  kind := .readFile file.pipeType
  pipeID := file.pipeID
  buffer := buffer

/-- A `WriteFile` on the handle. -/
def FileContext.writeRequest (file : FileContext) (buffer : List UInt8) : TransferRequest where
  kind := .writeFile file.pipeType
  pipeID := file.pipeID
  buffer := buffer

/-- What `DefaultQueue_OnRead` forwards a request to; `.error` is the status it is
completed with. -/
def FileContext.forwardRead (file : FileContext) (s : DeviceState) (buffer : List UInt8)
    (a : DispatchAnswers) : Except NTSTATUS Forwarded :=
  if file.pipeID &&& 0x0F = 0 ∨ file.pipeID &&& 0x80 = 0 ∨ isTransferPipe file.pipeType = false then
    .error STATUS_INVALID_PARAMETER
  else
    initAndForwardToQueue s (file.readRequest buffer) .read .read (fileIoControlCode file.pipeType)
      a

/-- What `DefaultQueue_OnWrite` forwards a request to. -/
def FileContext.forwardWrite (file : FileContext) (s : DeviceState) (buffer : List UInt8)
    (a : DispatchAnswers) : Except NTSTATUS Forwarded :=
  if file.pipeID &&& 0x0F = 0 ∨ file.pipeID &&& 0x80 ≠ 0 ∨ isTransferPipe file.pipeType = false then
    .error STATUS_INVALID_PARAMETER
  else
    initAndForwardToQueue s (file.writeRequest buffer) .write .write
      (fileIoControlCode file.pipeType) a

section Requests

variable (file : FileContext) (s : DeviceState) (buffer : List UInt8) (a : DispatchAnswers)

theorem serve_readRequest :
    (file.readRequest buffer).serve s a =
      match file.forwardRead s buffer a with
      | .error status => dispatchFailed (file.readRequest buffer) status
      | .ok f =>
        if f.queue.config.evtIoRead then f.present s.device .onRead a
        else dispatchFailed (file.readRequest buffer) STATUS_INVALID_DEVICE_REQUEST := by
  unfold TransferRequest.serve FileContext.forwardRead
  dsimp only [FileContext.readRequest]
  unfold defaultQueueOnRead
  split_ifs
  · rfl
  · rfl

theorem serve_writeRequest :
    (file.writeRequest buffer).serve s a =
      match file.forwardWrite s buffer a with
      | .error status => dispatchFailed (file.writeRequest buffer) status
      | .ok f =>
        if f.queue.config.evtIoWrite then f.present s.device .onWrite a
        else dispatchFailed (file.writeRequest buffer) STATUS_INVALID_DEVICE_REQUEST := by
  unfold TransferRequest.serve FileContext.forwardWrite
  dsimp only [FileContext.writeRequest]
  unfold defaultQueueOnWrite
  split_ifs
  · rfl
  · rfl

variable {file}

theorem forwardRead_invalid (h : file.pipeType = .invalid) :
    file.forwardRead s buffer a = .error STATUS_INVALID_PARAMETER := by
  unfold FileContext.forwardRead
  rw [h]
  exact if_pos (.inr (.inr rfl))

theorem forwardWrite_invalid (h : file.pipeType = .invalid) :
    file.forwardWrite s buffer a = .error STATUS_INVALID_PARAMETER := by
  unfold FileContext.forwardWrite
  rw [h]
  exact if_pos (.inr (.inr rfl))

end Requests

/-! ### Direct pipe handles -/

/-- The pipe is valid and nothing the framework is asked for fails, so that a
request for the pipe reaches `queue`. -/
structure TakesRequests (s : DeviceState) (pipeID : UInt8) (a : DispatchAnswers)
    (queue : QueueObject) : Prop where
  refreshed : ntSuccess (refreshForRequest s pipeID a.refresh).2 = true
  queue_eq : ((refreshForRequest s pipeID a.refresh).1.pipes (pipeSlot pipeID)).queue.bind
    (refreshForRequest s pipeID a.refresh).1.queues.get = some queue
  forwarded : ntSuccess a.forwardToIoQueue = true

/-- A handle opened by the name of the pipe `pipeID` in the state `s` works in the
later state `s'`: requests in the pipe's direction reach the pipe's queue, and
those in the other direction are refused. -/
def DirectHandleWorks (s : DeviceState) (pipeID : UInt8) (s' : DeviceState) : Prop :=
  ∀ file, deviceOnFileCreate s (pipeName pipeID) = (file, STATUS_SUCCESS) → ∀ buffer a,
    if usbEndpointDirectionIn pipeID then
      (∀ queue, TakesRequests s' pipeID a queue →
        ∃ rc, file.forwardRead s' buffer a = .ok ⟨queue, rc⟩) ∧
      ∃ status, file.forwardWrite s' buffer a = .error status
    else
      (∀ queue, TakesRequests s' pipeID a queue →
        ∃ rc, file.forwardWrite s' buffer a = .ok ⟨queue, rc⟩) ∧
      ∃ status, file.forwardRead s' buffer a = .error status

/-- **A direct pipe handle never works.**  Whatever pipe is opened by its name, and
in whatever later state the pipe takes requests, a request of the handle in the
pipe's direction is completed with an error. -/
theorem not_directHandleWorks {s s' : DeviceState} {pipeID : UInt8} {a : DispatchAnswers}
    {queue : QueueObject} (hopen : (deviceOnFileCreate s (pipeName pipeID)).2 = STATUS_SUCCESS)
    (htakes : TakesRequests s' pipeID a queue) : ¬DirectHandleWorks s pipeID s' := by
  intro hworks
  have hfile : deviceOnFileCreate s (pipeName pipeID) =
      ((deviceOnFileCreate s (pipeName pipeID)).1, STATUS_SUCCESS) := by rw [← hopen]
  have htype := pipeType_deviceOnFileCreate s (pipeName pipeID)
  have hrequest := hworks _ hfile [] a
  split_ifs at hrequest
  · obtain ⟨rc, hok⟩ := hrequest.1 queue htakes
    rw [forwardRead_invalid s' [] a htype] at hok
    cases hok
  · obtain ⟨rc, hok⟩ := hrequest.1 queue htakes
    rw [forwardWrite_invalid s' [] a htype] at hok
    cases hok

/-! ### A handle that cannot be read -/

/-- A device with a valid bulk IN pipe at the address `0x81`. -/
def bulkInDevice : DeviceState :=
  let pc : PipeContext :=
    { queue := some 0
      isValid := true
      pipeInformation := ⟨64, 0x81, 0, .bulk, 64⟩
      pipe := some 0 }
  DeviceState.setPipe { queues := Objects.empty.create (newQueue pc {}) } 17 pc

/-- A framework that refuses nothing; a file request has no packet context. -/
def fileAnswers : DispatchAnswers where
  reads :=
    { zeroTest := 0
      signTest := 0
      highSpeedTest := 0
      urbSize := 0
      initUrb := 0
      copyLoop _ := 0
      offsetTested _ := 0
      offsetAssigned _ := 0 }

theorem takesRequests_bulkInDevice :
    TakesRequests bulkInDevice 0x81 fileAnswers (newQueue (bulkInDevice.pipes 17) {}) where
  refreshed := by decide
  queue_eq := rfl
  forwarded := by decide

/-- The type is all that is missing: with that of the pipe the read would be forwarded. -/
theorem not_directHandleWorks_bulkIn :
    (deviceOnFileCreate bulkInDevice (pipeName 0x81)).2 = STATUS_SUCCESS ∧
      TakesRequests bulkInDevice 0x81 fileAnswers (newQueue (bulkInDevice.pipes 17) {}) ∧
      ¬DirectHandleWorks bulkInDevice 0x81 bulkInDevice ∧
      ∃ rc, FileContext.forwardRead ⟨0x81, .bulk⟩ bulkInDevice [] fileAnswers =
        .ok ⟨newQueue (bulkInDevice.pipes 17) {}, rc⟩ :=
  ⟨by decide, takesRequests_bulkInDevice,
    not_directHandleWorks (by decide) takesRequests_bulkInDevice, _, rfl⟩

/-- The file context of a handle that is opened by the name of the pipe. -/
def openedBulkIn : FileContext := ⟨0x81, .invalid⟩

/-- A handle is opened by the name of the pipe, and `ReadFile` and `WriteFile` are completed by
the default queue. -/
theorem not_directHandleWorks_readFile :
    (¬∀ (s s' : DeviceState) (pipeID : UInt8), DirectHandleWorks s pipeID s') ∧
      deviceOnFileCreate bulkInDevice (pipeName 0x81) = (openedBulkIn, STATUS_SUCCESS) ∧
      (openedBulkIn.readRequest [0]).serve bulkInDevice fileAnswers =
        dispatchFailed (openedBulkIn.readRequest [0]) STATUS_INVALID_PARAMETER ∧
      (openedBulkIn.writeRequest [0]).serve bulkInDevice fileAnswers =
        dispatchFailed (openedBulkIn.writeRequest [0]) STATUS_INVALID_PARAMETER := by
  refine ⟨fun h => ?_, rfl, ?_, ?_⟩
  · have hworks := h bulkInDevice bulkInDevice 0x81 openedBulkIn rfl [0] fileAnswers
    rw [if_pos (by decide)] at hworks
    obtain ⟨rc, hok⟩ := hworks.1 _ takesRequests_bulkInDevice
    rw [forwardRead_invalid _ _ _ rfl] at hok
    cases hok
  · rw [serve_readRequest, forwardRead_invalid _ _ _ rfl]
  · rw [serve_writeRequest, forwardWrite_invalid _ _ _ rfl]

end LibusbK
