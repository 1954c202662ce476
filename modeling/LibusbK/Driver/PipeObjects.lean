import LibusbK.Driver.Framework
import LibusbK.Driver.PipePolicy
import LibusbK.Lib.Objects

/-!
# Pipe contexts and their queues

The device context with its pipe and interface contexts, the queues the
framework holds for it, and the routines of `drv_pipe.c` that stop, start,
refresh and reset a pipe.  A deleted queue is a handle without an object.

`StartAnswers` holds what the framework answers while one pipe is started.
Purging a queue and stopping an I/O target change nothing the driver looks at.
-/

namespace LibusbK

abbrev STATUS_INVALID_PIPE_STATE : NTSTATUS := 0xC00000AD

/-! ### The state -/

/-- The fields of `WDF_IO_QUEUE_CONFIG` the driver sets, besides the handler for
device control requests, which every queue has. -/
structure QueueConfig where
  /-- `WdfIoQueueDispatchParallel`; else the dispatch is sequential. -/
  parallel : Bool := false
  /-- `Settings.Parallel.NumberOfPresentedRequests`, 0 for no limit. -/
  numberOfPresentedRequests : UInt32 := 0
  /-- `EvtIoStop` and `EvtIoResume`. -/
  evtIoStop : Bool := false
  evtIoRead : Bool := false
  evtIoWrite : Bool := false
  allowZeroLengthRequests : Bool := false
  deriving DecidableEq, Repr

/-- A `WDFQUEUE`: its configuration and its context.  `pipeHandle` is the
`PipeHandle` of the context. -/
structure QueueObject where
  config : QueueConfig
  pipeHandle : WdfHandle
  context : QueueContext
  deriving DecidableEq, Repr

/-- The fields of `USB_INTERFACE_DESCRIPTOR` the driver reads. -/
structure UsbInterfaceDescriptor where
  bInterfaceNumber : UInt8 := 0
  bAlternateSetting : UInt8 := 0
  deriving DecidableEq, Repr

/-- `INTERFACE_CONTEXT`, less its owner.  `pipeContextByIndex` holds the slots of
the first `PipeCount` entries, and `hasInterface` says whether `Interface` is set. -/
structure InterfaceContext where
  hasInterface : Bool := false
  interfaceIndex : UInt8 := 0
  settingIndex : UInt8 := 0
  interfaceDescriptor : UsbInterfaceDescriptor := {}
  pipeContextByIndex : List (Fin 32) := []
  deriving DecidableEq, Repr

/-- `DEVICE_CONTEXT`, and the queues of the device. -/
structure DeviceState where
  device : DeviceContext := {}
  pipes : PipeTable := fun _ => {}
  interfaces : ℕ → InterfaceContext := fun _ => {}
  interfaceCount : ℕ := 0
  queues : Objects QueueObject := Objects.empty

namespace DeviceState

/-- Store a pipe context. -/
def setPipe (s : DeviceState) (k : Fin 32) (pc : PipeContext) : DeviceState :=
  { s with pipes := Function.update s.pipes k pc }

/-- Replace the queues. -/
def withQueues (s : DeviceState) (queues : Objects QueueObject) : DeviceState :=
  { s with queues := queues }

/-- `WdfObjectDelete` of a queue, if there is a handle. -/
def deleteQueue (s : DeviceState) : WdfHandle → DeviceState
  | none => s
  | some q => s.withQueues (s.queues.delete q)

/-- Store an interface context. -/
def setInterface (s : DeviceState) (i : ℕ) (ic : InterfaceContext) : DeviceState :=
  { s with interfaces := Function.update s.interfaces i ic }

section
variable (s : DeviceState) (k : Fin 32) (pc : PipeContext) (i : ℕ) (ic : InterfaceContext)

@[simp] theorem pipes_setPipe : (s.setPipe k pc).pipes = Function.update s.pipes k pc := rfl

@[simp] theorem queues_setPipe : (s.setPipe k pc).queues = s.queues := rfl

@[simp] theorem interfaces_setPipe : (s.setPipe k pc).interfaces = s.interfaces := rfl

@[simp] theorem interfaceCount_setPipe : (s.setPipe k pc).interfaceCount = s.interfaceCount := rfl

@[simp] theorem device_setPipe : (s.setPipe k pc).device = s.device := rfl

@[simp] theorem pipes_deleteQueue (q : WdfHandle) : (s.deleteQueue q).pipes = s.pipes := by
  cases q <;> rfl

@[simp] theorem interfaces_deleteQueue (q : WdfHandle) :
    (s.deleteQueue q).interfaces = s.interfaces := by
  cases q <;> rfl

@[simp] theorem interfaceCount_deleteQueue (q : WdfHandle) :
    (s.deleteQueue q).interfaceCount = s.interfaceCount := by
  cases q <;> rfl

@[simp] theorem withQueues_deleteQueue (q : WdfHandle) (queues : Objects QueueObject) :
    (s.deleteQueue q).withQueues queues = s.withQueues queues := by
  cases q <;> rfl

@[simp] theorem withQueues_withQueues (queues queues' : Objects QueueObject) :
    (s.withQueues queues).withQueues queues' = s.withQueues queues' := rfl

@[simp] theorem pipes_withQueues (queues : Objects QueueObject) :
    (s.withQueues queues).pipes = s.pipes := rfl

@[simp] theorem queues_withQueues (queues : Objects QueueObject) :
    (s.withQueues queues).queues = queues := rfl

@[simp] theorem interfaces_withQueues (queues : Objects QueueObject) :
    (s.withQueues queues).interfaces = s.interfaces := rfl

@[simp] theorem setPipe_setPipe (pc' : PipeContext) :
    (s.setPipe k pc).setPipe k pc' = s.setPipe k pc' := by
  unfold setPipe
  simp

@[simp] theorem pipes_setInterface : (s.setInterface i ic).pipes = s.pipes := rfl

@[simp] theorem queues_setInterface : (s.setInterface i ic).queues = s.queues := rfl

@[simp] theorem interfaces_setInterface :
    (s.setInterface i ic).interfaces = Function.update s.interfaces i ic := rfl

@[simp] theorem interfaceCount_setInterface :
    (s.setInterface i ic).interfaceCount = s.interfaceCount := rfl

@[simp] theorem device_setInterface : (s.setInterface i ic).device = s.device := rfl

end

end DeviceState

/-! ### Creating a queue -/

/-- What the framework answers while a pipe is started. -/
structure StartAnswers where
  /-- `WdfIoQueueCreate`. -/
  queueCreate : NTSTATUS := STATUS_SUCCESS
  /-- `WdfDriverIsVersionAvailable`. -/
  versionAvailable : Bool := true
  /-- `WdfMemoryCreate`. -/
  memoryCreate : NTSTATUS := STATUS_SUCCESS
  /-- `WdfIoTargetStart`. -/
  targetStart : NTSTATUS := STATUS_SUCCESS
  deriving DecidableEq, Repr

/-- `Pipe_InitQueueConfig`. -/
def pipeInitQueueConfig (pc : PipeContext) (a : StartAnswers) : QueueConfig :=
  if pc.pipe.isNone then {}
  else
    let directionIn := usbEndpointDirectionIn pc.pipeInformation.endpointAddress
    if pc.pipeInformation.pipeType = .isochronous ∨ PolicyFlag.rawIO.isSet pc.policies = true then
      { parallel := true
        numberOfPresentedRequests := if a.versionAvailable then pc.simulParallelRequests else 0
        evtIoRead := directionIn
        evtIoWrite := !directionIn
        allowZeroLengthRequests := !directionIn }
    else
      { evtIoStop := true
        evtIoRead := directionIn
        evtIoWrite := !directionIn
        allowZeroLengthRequests := !directionIn }

/-- Whether a queue for the pipe gets an over-run buffer. -/
def PipeInformation.needsOverMem (info : PipeInformation) : Bool :=
  info.maximumPacketSize != 0 && (info.pipeType == .bulk || info.pipeType == .interrupt)

/-- The context of a new queue, as `Pipe_InitQueue` fills it in. -/
def newQueueContext (pc : PipeContext) : QueueContext where
  pipeHandle := pc.pipe.isSome
  info := pc.pipeInformation
  isFreshPipeReset := true
  overMem := pc.pipeInformation.needsOverMem
  overBuf :=
    if pc.pipeInformation.needsOverMem then
      List.replicate pc.pipeInformation.maximumPacketSize 0
    else []

/-- The queue `Pipe_InitQueue` makes for a pipe. -/
def newQueue (pc : PipeContext) (a : StartAnswers) : QueueObject where
  config := pipeInitQueueConfig pc a
  pipeHandle := pc.pipe
  context := newQueueContext pc

/-- `Pipe_InitQueue`: the status and `*queueRef`. -/
def pipeInitQueue (s : DeviceState) (pc : PipeContext) (a : StartAnswers) :
    DeviceState × NTSTATUS × WdfHandle :=
  if !ntSuccess a.queueCreate then (s, a.queueCreate, none)
  else
    let queue := s.queues.next
    let s := s.withQueues (s.queues.create (newQueue pc a))
    if pc.pipeInformation.needsOverMem then
      if !ntSuccess a.memoryCreate then (s.deleteQueue (some queue), a.memoryCreate, none)
      else (s, a.memoryCreate, some queue)
    else (s, a.queueCreate, some queue)

/-! ### Starting and stopping a pipe -/

/-- `EndpointAddress & 0xF`. -/
def PipeInformation.hasNumber (info : PipeInformation) : Bool :=
  info.endpointAddress &&& 0xF != 0

/-- `Pipe_InitContext`, from the point where there is a queue. -/
def pipeInitContextWithQueue (s : DeviceState) (k : Fin 32) (status : NTSTATUS)
    (startIoTarget : Bool) (a : StartAnswers) : DeviceState × NTSTATUS :=
  let pc := s.pipes k
  if pc.pipeInformation.pipeType ≠ .control ∧ startIoTarget = true then
    if !ntSuccess a.targetStart then (s.setPipe k { pc with isValid := false }, a.targetStart)
    else (s.setPipe k { pc with isValid := true }, a.targetStart)
  else (s.setPipe k { pc with isValid := true }, status)

/-- The old queue of a pipe has to go: there is none, or it is dirty and not the
default pipe's. -/
def PipeContext.needsQueue (pc : PipeContext) : Bool :=
  pc.queue.isNone || (pc.pipeInformation.hasNumber && pc.isQueueDirty)

/-- `Pipe_InitContext`. -/
def pipeInitContext (s : DeviceState) (k : Fin 32) (startIoTarget : Bool) (a : StartAnswers) :
    DeviceState × NTSTATUS :=
  let pc := s.pipes k
  if pc.pipe.isNone && pc.pipeInformation.pipeType != .control then (s, STATUS_INVALID_HANDLE)
  else if pc.needsQueue then
    let pc := { pc with isQueueDirty := false }
    let r := pipeInitQueue (s.deleteQueue pc.queue) pc a
    if !ntSuccess r.2.1 then
      (r.1.setPipe k { pc with queue := none, isValid := false }, r.2.1)
    else
      let s := r.1.setPipe k { pc with queue := r.2.2 }
      if r.2.2.isNone then
        (s.setPipe k { pc with queue := none, isValid := false }, STATUS_INVALID_PIPE_STATE)
      else pipeInitContextWithQueue s k r.2.1 startIoTarget a
  else pipeInitContextWithQueue s k STATUS_SUCCESS startIoTarget a

/-- `Pipe_Start`. -/
def pipeStart (s : DeviceState) (k : Fin 32) (startIoTarget : Bool) (a : StartAnswers) :
    DeviceState × NTSTATUS :=
  if (s.pipes k).isValid then (s, STATUS_INVALID_PIPE_STATE)
  else pipeInitContext s k startIoTarget a

/-- `Pipe_Stop`. -/
def pipeStop (s : DeviceState) (k : Fin 32) : DeviceState × NTSTATUS :=
  if (s.pipes k).isValid then
    (s.setPipe k { s.pipes k with isValid := false }, STATUS_SUCCESS)
  else (s, STATUS_INVALID_PIPE_STATE)

/-- `Pipe_RefreshQueue`. -/
def pipeRefreshQueue (s : DeviceState) (k : Fin 32) (a : StartAnswers) : DeviceState × NTSTATUS :=
  let r := pipeStop s k
  if !ntSuccess r.2 then r else pipeStart r.1 k false a

/-- Change the context of a queue, if there is one. -/
def DeviceState.modifyQueue (s : DeviceState) (queue : WdfHandle)
    (f : QueueContext → QueueContext) : DeviceState :=
  match queue with
  | none => s
  | some q =>
    s.withQueues (s.queues.modify q fun obj => { obj with context := f obj.context })

/-- `Pipe_Reset`; `status` is what `WdfUsbTargetPipeResetSynchronously` answers. -/
def pipeReset (s : DeviceState) (pipeID : UInt8) (status : NTSTATUS) : DeviceState × NTSTATUS :=
  let pc := getPipeContextByID s.pipes pipeID
  if pc.pipe.isNone then (s, STATUS_INVALID_PARAMETER)
  else if !ntSuccess status then (s, status)
  else (s.modifyQueue pc.queue fun qc => { qc with isFreshPipeReset := true }, status)

/-- `case LIBUSB_IOCTL_FLUSH_PIPE`. -/
def flushPipe (s : DeviceState) (pipeID : UInt8) (a : StartAnswers) : DeviceState × NTSTATUS :=
  let k := pipeSlot pipeID
  let pc := s.pipes k
  if !pc.isValid || pc.pipe.isNone then (s, STATUS_INVALID_PARAMETER)
  else
    let r := pipeStop s k
    if !ntSuccess r.2 then r
    else
      -- the over-run buffer of partial reads
      let s :=
        if pc.pipeInformation.hasNumber then
          r.1.modifyQueue pc.queue fun qc => { qc with overOfs := ⟨0, 0⟩ }
        else r.1
      pipeStart s k true a

/-! ### What starting a pipe can do -/

/-- `Pipe_InitQueue` makes a queue for the pipe. -/
def StartAnswers.creates (a : StartAnswers) (info : PipeInformation) : Bool :=
  ntSuccess a.queueCreate && (!info.needsOverMem || ntSuccess a.memoryCreate)

theorem pipeInitQueue_of_creates (s : DeviceState) (pc : PipeContext) {a : StartAnswers}
    (h : a.creates pc.pipeInformation = true) :
    ∃ status, ntSuccess status = true ∧
      pipeInitQueue s pc a =
        (s.withQueues (s.queues.create (newQueue pc a)), status, some s.queues.next) := by
  unfold StartAnswers.creates at h
  rw [Bool.and_eq_true, Bool.or_eq_true] at h
  obtain ⟨hcreate, hmem⟩ := h
  unfold pipeInitQueue
  rw [if_neg (by simp [hcreate])]
  dsimp only
  by_cases hneeds : pc.pipeInformation.needsOverMem = true
  · have hok : ntSuccess a.memoryCreate = true := by simpa [hneeds] using hmem
    rw [if_pos hneeds, if_neg (by simp [hok])]
    exact ⟨_, hok, rfl⟩
  · rw [if_neg hneeds]
    exact ⟨_, hcreate, rfl⟩

/-- A queue that could not be made leaves the queues as they were. -/
theorem pipeInitQueue_of_not_creates (s : DeviceState) (pc : PipeContext) {a : StartAnswers}
    (h : a.creates pc.pipeInformation = false) :
    ∃ status queues, ntSuccess status = false ∧ queues.get = s.queues.get ∧
      pipeInitQueue s pc a = (s.withQueues queues, status, none) := by
  unfold StartAnswers.creates at h
  unfold pipeInitQueue
  cases hcreate : ntSuccess a.queueCreate with
  | false => exact ⟨a.queueCreate, s.queues, hcreate, rfl, rfl⟩
  | true =>
    have hneeds : pc.pipeInformation.needsOverMem = true := by simp_all
    have hfail : ntSuccess a.memoryCreate = false := by simp_all
    rw [if_neg (by simp)]
    dsimp only
    rw [if_pos hneeds, if_pos (by simp [hfail])]
    exact ⟨_, (s.queues.create (newQueue pc a)).delete s.queues.next, hfail,
      s.queues.get_delete_create _, rfl⟩

/-- The pipe can be started at all: it has a handle, or is a control pipe. -/
def PipeContext.canStart (pc : PipeContext) : Bool :=
  pc.pipe.isSome || pc.pipeInformation.pipeType == .control

theorem PipeContext.not_canStart_eq (pc : PipeContext) :
    (pc.pipe.isNone && pc.pipeInformation.pipeType != .control) = !pc.canStart := by
  unfold PipeContext.canStart
  cases pc.pipe <;> rfl

/-- The I/O target of the pipe runs: it is started, or need not be. -/
def StartAnswers.starts (a : StartAnswers) (info : PipeInformation) (startIoTarget : Bool) : Bool :=
  info.pipeType == .control || !startIoTarget || ntSuccess a.targetStart

/-- All that starting the pipe `k` can do. -/
inductive PipeStarted (s : DeviceState) (k : Fin 32) (startIoTarget : Bool) (a : StartAnswers) :
    DeviceState → Prop
  /-- The pipe is valid already. -/
  | refused (hvalid : (s.pipes k).isValid = true) : PipeStarted s k startIoTarget a s
  /-- There is no pipe. -/
  | noPipe (hvalid : (s.pipes k).isValid = false) (hstart : (s.pipes k).canStart = false) :
    PipeStarted s k startIoTarget a s
  /-- The old queue is gone and no new one could be made. -/
  | noQueue (queues : Objects QueueObject) (hvalid : (s.pipes k).isValid = false)
    (hstart : (s.pipes k).canStart = true) (hneeds : (s.pipes k).needsQueue = true)
    (hcreates : a.creates (s.pipes k).pipeInformation = false)
    (hget : queues.get = (s.deleteQueue (s.pipes k).queue).queues.get) :
    PipeStarted s k startIoTarget a
      ((s.withQueues queues).setPipe k
        { s.pipes k with isQueueDirty := false, queue := none, isValid := false })
  /-- The pipe has a new queue. -/
  | created (hvalid : (s.pipes k).isValid = false) (hstart : (s.pipes k).canStart = true)
    (hneeds : (s.pipes k).needsQueue = true)
    (hcreates : a.creates (s.pipes k).pipeInformation = true) :
    PipeStarted s k startIoTarget a
      ((s.withQueues ((s.deleteQueue (s.pipes k).queue).queues.create
          (newQueue { s.pipes k with isQueueDirty := false } a))).setPipe k
        { s.pipes k with
          isQueueDirty := false
          queue := some (s.deleteQueue (s.pipes k).queue).queues.next
          isValid := a.starts (s.pipes k).pipeInformation startIoTarget })
  /-- The pipe keeps its queue. -/
  | kept (hvalid : (s.pipes k).isValid = false) (hstart : (s.pipes k).canStart = true)
    (hneeds : (s.pipes k).needsQueue = false) :
    PipeStarted s k startIoTarget a
      (s.setPipe k
        { s.pipes k with isValid := a.starts (s.pipes k).pipeInformation startIoTarget })

theorem pipeInitContextWithQueue_fst (s : DeviceState) (k : Fin 32) (status : NTSTATUS)
    (startIoTarget : Bool) (a : StartAnswers) :
    (pipeInitContextWithQueue s k status startIoTarget a).1 =
      s.setPipe k
        { s.pipes k with isValid := a.starts (s.pipes k).pipeInformation startIoTarget } := by
  unfold pipeInitContextWithQueue StartAnswers.starts
  by_cases htype : (s.pipes k).pipeInformation.pipeType = .control
  · simp [htype]
  · have hne : ((s.pipes k).pipeInformation.pipeType == .control) = false := by simpa using htype
    cases startIoTarget <;> cases ntSuccess a.targetStart <;> simp [htype, hne]

/-- A start of the pipe goes through: there is a pipe, and its queue is kept or
can be made. -/
def PipeContext.starts (pc : PipeContext) (a : StartAnswers) : Bool :=
  pc.canStart && (!pc.needsQueue || a.creates pc.pipeInformation)

theorem ntSuccess_pipeInitContextWithQueue (s : DeviceState) (k : Fin 32) {status : NTSTATUS}
    (h : ntSuccess status = true) (a : StartAnswers) :
    ntSuccess (pipeInitContextWithQueue s k status false a).2 = true := by
  unfold pipeInitContextWithQueue
  simpa using h

/-- What a start does, and when one without the I/O target succeeds. -/
theorem pipeStart_spec (s : DeviceState) (k : Fin 32) (startIoTarget : Bool) (a : StartAnswers) :
    PipeStarted s k startIoTarget a (pipeStart s k startIoTarget a).1 ∧
      (startIoTarget = false → ntSuccess (pipeStart s k startIoTarget a).2 =
        (!(s.pipes k).isValid && (s.pipes k).starts a)) := by
  unfold pipeStart PipeContext.starts
  cases hvalid : (s.pipes k).isValid with
  | true =>
    rw [if_pos rfl]
    exact ⟨.refused hvalid, fun _ => rfl⟩
  | false =>
    rw [if_neg (by simp)]
    unfold pipeInitContext
    dsimp only
    rw [PipeContext.not_canStart_eq]
    cases hstart : (s.pipes k).canStart with
    | false =>
      rw [if_pos (by simp)]
      exact ⟨.noPipe hvalid hstart, fun _ => rfl⟩
    | true =>
      rw [if_neg (by simp)]
      cases hneeds : (s.pipes k).needsQueue with
      | false =>
        rw [if_neg (by simp)]
        constructor
        · rw [pipeInitContextWithQueue_fst]
          exact .kept hvalid hstart hneeds
        · rintro rfl
          exact ntSuccess_pipeInitContextWithQueue _ _ rfl a
      | true =>
        rw [if_pos rfl]
        cases hcreates : a.creates (s.pipes k).pipeInformation with
        | false =>
          obtain ⟨status, queues, hfail, hget, heq⟩ := pipeInitQueue_of_not_creates
            (s.deleteQueue (s.pipes k).queue) { s.pipes k with isQueueDirty := false } hcreates
          rw [heq]
          dsimp only
          rw [if_pos (by simp [hfail]), DeviceState.withQueues_deleteQueue]
          exact ⟨.noQueue queues hvalid hstart hneeds hcreates hget, fun _ => hfail⟩
        | true =>
          obtain ⟨status, hok, heq⟩ := pipeInitQueue_of_creates
            (s.deleteQueue (s.pipes k).queue) { s.pipes k with isQueueDirty := false } hcreates
          rw [heq]
          dsimp only
          rw [if_neg (by simp [hok]), if_neg (by simp)]
          constructor
          · rw [pipeInitContextWithQueue_fst, DeviceState.setPipe_setPipe,
              DeviceState.withQueues_deleteQueue]
            simp only [DeviceState.pipes_setPipe, Function.update_self]
            exact .created hvalid hstart hneeds hcreates
          · rintro rfl
            exact ntSuccess_pipeInitContextWithQueue _ _ hok a

theorem pipeStarted_pipeStart (s : DeviceState) (k : Fin 32) (startIoTarget : Bool)
    (a : StartAnswers) : PipeStarted s k startIoTarget a (pipeStart s k startIoTarget a).1 :=
  (pipeStart_spec s k startIoTarget a).1

/-- A start without the I/O target succeeds exactly when it goes through. -/
theorem ntSuccess_pipeStart (s : DeviceState) (k : Fin 32) (a : StartAnswers) :
    ntSuccess (pipeStart s k false a).2 = (!(s.pipes k).isValid && (s.pipes k).starts a) :=
  (pipeStart_spec s k false a).2 rfl

end LibusbK
