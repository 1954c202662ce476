import LibusbK.Driver.Context
import Mathlib.Tactic.SplitIfs

/-!
# Talking to the framework

A dispatcher, a transfer routine and a completion routine each make a handful of
framework calls, every one of them at most once per invocation.  `Framework`
holds what those calls answer, so an invocation is a pure function of its
contexts and of one `Framework`; `Served` is what it leaves behind: the queue
context and, in order, what it did that is visible outside.

`goto Exit` is `exitWith`, which completes the request with the bytes counted so
far.  The submit macros of `drv_xfer_bulk.c` return `Except.error status` where
they run their error action.
-/

namespace LibusbK

/-- A request that can be sent has no failure status. -/
theorem requestStatus_failed_of_send :
    true = false → ntSuccess STATUS_INVALID_DEVICE_REQUEST = false := by decide

/-- What the framework answers during one invocation.  A `false` handle or
pointer field is a `NULL`. -/
structure Framework where
  /-- `GetRequestContext`. -/
  requestContext : Bool := true
  /-- `GetQueueContext`. -/
  queueContext : Bool := true
  /-- `WdfUsbTargetPipeResetSynchronously`. -/
  resetPipe : NTSTATUS := STATUS_SUCCESS
  /-- `WdfRequestRetrieveInputMemory` or `WdfRequestRetrieveOutputMemory`. -/
  transferMemory : NTSTATUS := STATUS_SUCCESS
  /-- `WdfRequestRetrieveInputWdmMdl` or `WdfRequestRetrieveOutputWdmMdl`. -/
  transferMdl : NTSTATUS := STATUS_SUCCESS
  /-- `WdfRequestRetrieveOutputBuffer`. -/
  outputBuffer : NTSTATUS := STATUS_SUCCESS
  /-- `WdfMemoryCopyFromBuffer`. -/
  copyFromBuffer : NTSTATUS := STATUS_SUCCESS
  /-- `WdfMemoryCreate`. -/
  memoryCreate : NTSTATUS := STATUS_SUCCESS
  /-- `WdfMemoryGetBuffer` on the isochronous context memory. -/
  contextBuffer : Bool := true
  /-- `WdfMemoryGetBuffer` on the URB memory. -/
  urbBuffer : Bool := true
  /-- `WdfUsbTargetPipeWdmGetPipeHandle`. -/
  wdmPipeHandle : Bool := true
  /-- `WdfUsbTargetDeviceRetrieveCurrentFrameNumber`: its status and its answer. -/
  currentFrame : NTSTATUS × UInt32 := (STATUS_SUCCESS, 0)
  /-- The word in front of a table of frames per interval. -/
  wordBeforeTable : UInt16 := 0
  /-- The `WdfUsbTarget…FormatRequestFor…` call. -/
  formatRequest : NTSTATUS := STATUS_SUCCESS
  /-- `WdfRequestAllocateTimer`. -/
  allocateTimer : NTSTATUS := STATUS_SUCCESS
  /-- `WdfRequestSend`. -/
  send : Bool := true
  /-- `WdfRequestGetStatus`, asked after `WdfRequestSend` failed. -/
  requestStatus : NTSTATUS := STATUS_INVALID_DEVICE_REQUEST
  /-- A request that could not be sent has a failure status. -/
  requestStatus_failed : send = false → ntSuccess requestStatus = false := by
    first | exact requestStatus_failed_of_send | decide

/-- An isochronous URB as it is submitted. -/
structure IsoUrb where
  numberOfPackets : UInt32
  transferBufferLength : ℕ
  directionIn : Bool
  offsets : List ℕ
  /-- `USBD_START_ISO_TRANSFER_ASAP` is set. -/
  startAsap : Bool
  startFrame : UInt32
  deriving DecidableEq, Repr

/-- The memory a submitted stage hands to the I/O target. -/
inductive StageMemory
  /-- The whole over-run buffer. -/
  | overrun
  /-- A window of the user's transfer buffer. -/
  | user (ofs : MemoryOffset)
  /-- The whole transfer buffer. -/
  | whole
  /-- An URB that describes the transfer buffer. -/
  | urb (urb : IsoUrb)
  /-- No memory: a transfer without data. -/
  | zlp
  deriving DecidableEq, Repr

/-- The completion routines. -/
inductive Routine
  | readBulk
  | readBulkRaw
  | writeBulk
  | writeBulkRaw
  | isoEx
  | isoRd
  | isoWr
  | ctrl
  deriving DecidableEq, Repr

/-- What an invocation does that is visible outside.  `discard` is `AutoFlush`
dropping bytes of the over-run buffer. -/
inductive Effect
  | resetPipe (status : NTSTATUS)
  | discard (bytes : List UInt8)
  | send (routine : Routine) (memory : StageMemory)
  | complete (status : NTSTATUS) (information : ℕ)
  deriving DecidableEq, Repr

/-- An effect that leaves the request where it is. -/
def Effect.isQuiet : Effect → Bool
  | .resetPipe _ => true
  | .discard _ => true
  | .send _ _ => false
  | .complete _ _ => false

/-- An effect that gives the request to the I/O target. -/
def Effect.isSend : Effect → Bool
  | .send _ _ => true
  | _ => false

/-- What an invocation leaves behind. -/
structure Served where
  queue : QueueContext
  effects : List Effect

namespace Served

/-- The effects that give the request away, to the I/O target or to its user. -/
def handoff (s : Served) : List Effect := s.effects.filter fun e => !e.isQuiet

/-- The request is given away once: sent to the I/O target, with `routine` to be
called on completion, or completed. -/
def HandsOver (routine : Routine) (s : Served) : Prop :=
  (∃ memory, s.handoff = [.send routine memory]) ∨
    ∃ status information, s.handoff = [.complete status information]

/-- `s`, with the effects `es` before it. -/
def after (es : List Effect) (s : Served) : Served := { s with effects := es ++ s.effects }

@[simp] theorem queue_after (es : List Effect) (s : Served) : (s.after es).queue = s.queue := rfl

@[simp] theorem effects_after (es : List Effect) (s : Served) :
    (s.after es).effects = es ++ s.effects := rfl

theorem handoff_after {es : List Effect} (h : ∀ e ∈ es, e.isQuiet = true) (s : Served) :
    (s.after es).handoff = s.handoff := by
  have hnil : es.filter (fun e => !e.isQuiet) = [] := by
    rw [List.filter_eq_nil_iff]
    intro e he
    simp [h e he]
  rw [handoff, effects_after, List.filter_append, hnil]
  rfl

theorem HandsOver.after {routine : Routine} {es : List Effect} {s : Served}
    (h : s.HandsOver routine) (hes : ∀ e ∈ es, e.isQuiet = true) :
    (s.after es).HandsOver routine := by
  rwa [HandsOver, handoff_after hes]

end Served

/-- `Exit:` of the bulk routines. -/
def exitWith (qc : QueueContext) (status : NTSTATUS) : Served :=
  { queue := qc, effects := [.complete status qc.xfer.transferred] }

@[simp] theorem queue_exitWith (qc : QueueContext) (status : NTSTATUS) :
    (exitWith qc status).queue = qc := rfl

@[simp] theorem effects_exitWith (qc : QueueContext) (status : NTSTATUS) :
    (exitWith qc status).effects = [.complete status qc.xfer.transferred] := rfl

@[simp] theorem handoff_exitWith (qc : QueueContext) (status : NTSTATUS) :
    (exitWith qc status).handoff = [.complete status qc.xfer.transferred] := rfl

theorem handsOver_exitWith (routine : Routine) (qc : QueueContext) (status : NTSTATUS) :
    (exitWith qc status).HandsOver routine :=
  .inr ⟨_, _, rfl⟩

/-- `WdfRequestCompleteWithInformation(Request, status, information)`. -/
def completeWithInformation (qc : QueueContext) (status : NTSTATUS) (information : ℕ) : Served :=
  { queue := qc, effects := [.complete status information] }

@[simp] theorem queue_completeWithInformation (qc : QueueContext) (status : NTSTATUS) (n : ℕ) :
    (completeWithInformation qc status n).queue = qc := rfl

@[simp] theorem effects_completeWithInformation (qc : QueueContext) (status : NTSTATUS) (n : ℕ) :
    (completeWithInformation qc status n).effects = [.complete status n] := rfl

theorem handsOver_completeWithInformation (routine : Routine) (qc : QueueContext)
    (status : NTSTATUS) (n : ℕ) : (completeWithInformation qc status n).HandsOver routine :=
  .inr ⟨_, _, rfl⟩

/-! ### The helpers of `drv_request.h` and `drv_xfer.h` -/

/-- `VALIDATE_REQUEST_CONTEXT`. -/
def validateRequestContext (fw : Framework) (rc : RequestContext) : NTSTATUS :=
  if !fw.requestContext then STATUS_INVALID_DEVICE_REQUEST
  else if !rc.queueContext then STATUS_PIPE_BROKEN
  else STATUS_SUCCESS

/-- A guard that fails with the status it finds. -/
theorem ntSuccess_guard {status rest : NTSTATUS} :
    ntSuccess (if !ntSuccess status then status else rest) = true ↔
      ntSuccess status = true ∧ ntSuccess rest = true := by
  cases h : ntSuccess status <;> simp [h]

/-- A guard that fails with a status of its own. -/
theorem ntSuccess_ite {c : Prop} [Decidable c] {status rest : NTSTATUS}
    (h : ntSuccess status = false) :
    ntSuccess (if c then status else rest) = true ↔ ¬c ∧ ntSuccess rest = true := by
  split <;> simp [*]

theorem ntSuccess_validateRequestContext {fw : Framework} {rc : RequestContext} :
    ntSuccess (validateRequestContext fw rc) = true ↔
      fw.requestContext = true ∧ rc.queueContext = true := by
  unfold validateRequestContext
  cases fw.requestContext <;> cases rc.queueContext <;> decide

/-- `mXfer_HandlePipeResetScenarios`, with the status it stores. -/
def handlePipeResetScenarios (fw : Framework) (rc : RequestContext) (qc : QueueContext) :
    QueueContext × List Effect :=
  if (qc.resetPipeForResume && rc.policies.resetPipeOnResume) ||
      (qc.resetPipeForStall && rc.policies.autoClearStall) then
    if ntSuccess fw.resetPipe then
      ({ qc with
        isFreshPipeReset := true
        resetPipeForResume := false
        resetPipeForStall := false }, [.resetPipe fw.resetPipe])
    else (qc, [.resetPipe fw.resetPipe])
  else (qc, [])

section
variable (fw : Framework) (rc : RequestContext) (qc : QueueContext)

@[simp] theorem info_handlePipeResetScenarios :
    (handlePipeResetScenarios fw rc qc).1.info = qc.info := by
  unfold handlePipeResetScenarios; split_ifs <;> rfl

@[simp] theorem overOfs_handlePipeResetScenarios :
    (handlePipeResetScenarios fw rc qc).1.overOfs = qc.overOfs := by
  unfold handlePipeResetScenarios; split_ifs <;> rfl

@[simp] theorem overBuf_handlePipeResetScenarios :
    (handlePipeResetScenarios fw rc qc).1.overBuf = qc.overBuf := by
  unfold handlePipeResetScenarios; split_ifs <;> rfl

@[simp] theorem xfer_handlePipeResetScenarios :
    (handlePipeResetScenarios fw rc qc).1.xfer = qc.xfer := by
  unfold handlePipeResetScenarios; split_ifs <;> rfl

/-- All a reset does outside is the reset. -/
theorem eq_resetPipe_of_mem_handlePipeResetScenarios {e : Effect}
    (h : e ∈ (handlePipeResetScenarios fw rc qc).2) : e = .resetPipe fw.resetPipe := by
  unfold handlePipeResetScenarios at h
  split_ifs at h <;> simp at h <;> exact h

theorem isQuiet_of_mem_handlePipeResetScenarios (e : Effect)
    (h : e ∈ (handlePipeResetScenarios fw rc qc).2) : e.isQuiet = true := by
  rw [eq_resetPipe_of_mem_handlePipeResetScenarios fw rc qc h]
  rfl

end

/-- `mXfer_HandlePipeResetScenariosForComplete`. -/
def handlePipeResetScenariosForComplete (status : NTSTATUS) (rc : RequestContext)
    (qc : QueueContext) : QueueContext :=
  if !ntSuccess status && rc.policies.autoClearStall &&
      (status != STATUS_DEVICE_NOT_CONNECTED && status != STATUS_CANCELLED) then
    { qc with resetPipeForStall := true }
  else qc

section
variable (status : NTSTATUS) (rc : RequestContext) (qc : QueueContext)

@[simp] theorem info_handlePipeResetScenariosForComplete :
    (handlePipeResetScenariosForComplete status rc qc).info = qc.info := by
  unfold handlePipeResetScenariosForComplete; split_ifs <;> rfl

@[simp] theorem overOfs_handlePipeResetScenariosForComplete :
    (handlePipeResetScenariosForComplete status rc qc).overOfs = qc.overOfs := by
  unfold handlePipeResetScenariosForComplete; split_ifs <;> rfl

@[simp] theorem overBuf_handlePipeResetScenariosForComplete :
    (handlePipeResetScenariosForComplete status rc qc).overBuf = qc.overBuf := by
  unfold handlePipeResetScenariosForComplete; split_ifs <;> rfl

@[simp] theorem xfer_handlePipeResetScenariosForComplete :
    (handlePipeResetScenariosForComplete status rc qc).xfer = qc.xfer := by
  unfold handlePipeResetScenariosForComplete; split_ifs <;> rfl

end

/-- `SetRequestTimeout`: a timer is allocated for a finite timeout only. -/
def setRequestTimeout (fw : Framework) (rc : RequestContext) : NTSTATUS :=
  if rc.timeout ≠ 0 ∧ rc.timeout ≠ 0xFFFFFFFF then fw.allocateTimer else STATUS_SUCCESS

/-- `SubmitAsyncQueueRequest`. -/
def submitAsyncQueueRequest (fw : Framework) : NTSTATUS :=
  if fw.send then STATUS_SUCCESS else fw.requestStatus

/-- The tail every submission shares: format the request, set its timeout, send
it.  An error is the status the caller's error action finds. -/
def formatAndSubmit (fw : Framework) (rc : RequestContext) : Except NTSTATUS Unit :=
  if !ntSuccess fw.formatRequest then .error fw.formatRequest
  else if !ntSuccess (setRequestTimeout fw rc) then .error (setRequestTimeout fw rc)
  else if !ntSuccess (submitAsyncQueueRequest fw) then .error (submitAsyncQueueRequest fw)
  else .ok ()

theorem ntSuccess_submitAsyncQueueRequest (fw : Framework) :
    ntSuccess (submitAsyncQueueRequest fw) = fw.send := by
  unfold submitAsyncQueueRequest
  cases h : fw.send with
  | true => rfl
  | false => simpa using fw.requestStatus_failed h

/-- Whether the submission fails: the request cannot be formatted, timed or sent. -/
def submissionFails (fw : Framework) (rc : RequestContext) : Bool :=
  !ntSuccess fw.formatRequest || !ntSuccess (setRequestTimeout fw rc) || !fw.send

theorem submissionFails_eq_true {fw : Framework} {rc : RequestContext} :
    submissionFails fw rc = true ↔ ∃ status, formatAndSubmit fw rc = .error status := by
  unfold submissionFails formatAndSubmit
  rw [ntSuccess_submitAsyncQueueRequest]
  cases ntSuccess fw.formatRequest <;> cases ntSuccess (setRequestTimeout fw rc) <;>
    cases fw.send <;> simp

theorem submissionFails_eq_false {fw : Framework} {rc : RequestContext} :
    submissionFails fw rc = false ↔ formatAndSubmit fw rc = .ok () := by
  unfold submissionFails formatAndSubmit
  rw [ntSuccess_submitAsyncQueueRequest]
  cases ntSuccess fw.formatRequest <;> cases ntSuccess (setRequestTimeout fw rc) <;>
    cases fw.send <;> simp

/-- A failed submission failed with a failure status. -/
theorem ntSuccess_of_formatAndSubmit_error {fw : Framework} {rc : RequestContext}
    {status : NTSTATUS} (h : formatAndSubmit fw rc = .error status) : ntSuccess status = false := by
  unfold formatAndSubmit at h
  split at h
  · next hf => cases h; simpa using hf
  · split at h
    · next ht => cases h; simpa using ht
    · split at h
      · next hs => cases h; simpa using hs
      · cases h

end LibusbK
