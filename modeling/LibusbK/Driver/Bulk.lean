import LibusbK.Driver.Framework
import LibusbK.Lib.Window
import Mathlib.Tactic.SplitIfs

/-!
# Bulk and interrupt transfers

The transfer routines of `drv_xfer_bulk.c` and their completion routines.  A
non-raw read or write is moved in stages of at most `MaximumTransferSize` bytes,
each submitted by the completion of the one before; the last part of a read,
when it is shorter than a packet, goes through the over-run buffer of the queue.
A conditional expression that picks the smaller of two lengths is `min`.

A completion routine is handed the status and the number of bytes of the stage
that ended; the bytes themselves are in memory by then.  Its context argument is
the queue context the submission passed, so its null test never fires and is
left out.
-/

namespace LibusbK

open Window

/-! ### Changes to the transfer state -/

namespace QueueContext

/-- The bytes `OverOfs` denotes. -/
def leftover (qc : QueueContext) : List UInt8 :=
  window qc.overOfs.bufferOffset qc.overOfs.bufferLength qc.overBuf

/-- A new request of `length` bytes, none of them transferred. -/
def startXfer (qc : QueueContext) (length : ℕ) : QueueContext :=
  { qc with xfer := { qc.xfer with transferred := 0, length := length } }

/-- The user's memory is `mem`, and the whole transfer lies ahead. -/
def setUserMem (qc : QueueContext) (mem : List UInt8) : QueueContext :=
  { qc with xfer := { qc.xfer with userMem := mem, userOfs := ⟨0, qc.xfer.length⟩ } }

/-- The portion of the user's memory for the next stage. -/
def setUserOfs (qc : QueueContext) (ofs : MemoryOffset) : QueueContext :=
  { qc with xfer := { qc.xfer with userOfs := ofs } }

/-- `n` more bytes have been transferred. -/
def addTransferred (qc : QueueContext) (n : ℕ) : QueueContext :=
  { qc with xfer := { qc.xfer with transferred := qc.xfer.transferred + n } }

/-- The window of the over-run buffer. -/
def setOverOfs (qc : QueueContext) (ofs : MemoryOffset) : QueueContext :=
  { qc with overOfs := ofs }

/-- The number of zero-length packets the transfer requires. -/
def requireZlps (qc : QueueContext) (n : ℕ) : QueueContext :=
  { qc with xfer := { qc.xfer with zlpsRequired := n } }

/-- One more zero-length packet counts as sent. -/
def countZlp (qc : QueueContext) : QueueContext :=
  { qc with xfer := { qc.xfer with zlpsSent := qc.xfer.zlpsSent + 1 } }

/-- `length` bytes of `buffer` have been copied to the user's memory and taken
off `OverOfs`. -/
def copied (qc : QueueContext) (buffer : List UInt8) (length : ℕ) : QueueContext :=
  { qc with
    overOfs := ⟨qc.overOfs.bufferOffset + length, qc.overOfs.bufferLength - length⟩
    xfer := { qc.xfer with
      userMem := writeAt qc.xfer.transferred (buffer.take length) qc.xfer.userMem
      transferred := qc.xfer.transferred + length } }

section
variable (qc : QueueContext) (n : ℕ) (mem : List UInt8) (ofs : MemoryOffset)

@[simp] theorem transferred_copied : (qc.copied mem n).xfer.transferred =
    qc.xfer.transferred + n := rfl

@[simp] theorem length_copied : (qc.copied mem n).xfer.length = qc.xfer.length := rfl

@[simp] theorem length_startXfer : (qc.startXfer n).xfer.length = n := rfl

@[simp] theorem transferred_startXfer : (qc.startXfer n).xfer.transferred = 0 := rfl

@[simp] theorem length_setUserMem : (qc.setUserMem mem).xfer.length = qc.xfer.length := rfl

@[simp] theorem transferred_setUserMem :
    (qc.setUserMem mem).xfer.transferred = qc.xfer.transferred := rfl

@[simp] theorem transferred_addTransferred :
    (qc.addTransferred n).xfer.transferred = qc.xfer.transferred + n := rfl

@[simp] theorem length_addTransferred : (qc.addTransferred n).xfer.length = qc.xfer.length := rfl

end

end QueueContext

/-! ### Submitting a stage -/

/-- Format a stage, set its timeout and send it; on failure, `goto Exit`. -/
def submitStage (fw : Framework) (rc : RequestContext) (qc : QueueContext) (routine : Routine)
    (memory : StageMemory) : Served :=
  match formatAndSubmit fw rc with
  | .error status => exitWith qc status
  | .ok () => { queue := qc, effects := [.send routine memory] }

/-- `mXfer_CopyPartialReadToUserMemory`. -/
def copyPartialReadToUserMemory (fw : Framework) (qc : QueueContext) (buffer : List UInt8)
    (length : ℕ) : Except NTSTATUS QueueContext :=
  if !ntSuccess fw.copyFromBuffer then .error fw.copyFromBuffer
  else .ok (qc.copied buffer length)

/-- `mXfer_SubmitNextRead`, with `goto Exit` for its error action. -/
def submitNextRead (fw : Framework) (rc : RequestContext) (qc : QueueContext) : Served :=
  let remainingLength := qc.xfer.length - qc.xfer.transferred
  let stageLength := min remainingLength qc.info.maximumTransferSize
  let remainderLength := stageLength % qc.info.maximumPacketSize
  if stageLength < qc.info.maximumPacketSize then
    if !rc.policies.allowPartialReads then exitWith qc STATUS_INVALID_BUFFER_SIZE
    else submitStage fw rc (qc.setOverOfs ⟨0, stageLength⟩) .readBulk .overrun
  else
    let userOfs : MemoryOffset := ⟨qc.xfer.transferred, stageLength - remainderLength⟩
    submitStage fw rc (qc.setUserOfs userOfs) .readBulk (.user userOfs)

/-- `mXfer_SubmitNextWrite`, with `goto Exit` for its error action. -/
def submitNextWrite (fw : Framework) (rc : RequestContext) (qc : QueueContext) : Served :=
  let remainingLength := qc.xfer.length - qc.xfer.transferred
  let stageLength := min remainingLength qc.info.maximumTransferSize
  let userOfs : MemoryOffset := ⟨qc.xfer.transferred, stageLength⟩
  submitStage fw rc (qc.setUserOfs userOfs) .writeBulk
    (if stageLength ≠ 0 then .user userOfs else .zlp)

/-! ### Reads -/

/-- A read that has all it asked for: drop the rest of the over-run buffer under
`AutoFlush`, then `goto Exit`. -/
def exitTransferred (rc : RequestContext) (qc : QueueContext) (status : NTSTATUS) : Served :=
  if rc.policies.autoFlush then
    (exitWith (qc.setOverOfs ⟨0, 0⟩) status).after [.discard qc.leftover]
  else exitWith qc status

/-- `Xfer_ReadBulk`, from the point where the user's memory is known. -/
def readBulkFromUserMem (fw : Framework) (rc : RequestContext) (qc : QueueContext) : Served :=
  if qc.overOfs.bufferLength > 0 then
    let remainingLength := qc.xfer.length - qc.xfer.transferred
    let stageLength := min qc.overOfs.bufferLength remainingLength
    match copyPartialReadToUserMemory fw qc (qc.overBuf.drop qc.overOfs.bufferOffset)
        stageLength with
    | .error status => exitWith qc status
    | .ok qc =>
      if qc.xfer.transferred ≥ qc.xfer.length then exitTransferred rc qc STATUS_SUCCESS
      else submitNextRead fw rc qc
  else submitNextRead fw rc qc

/-- `Xfer_ReadBulk`, from the point where the pipe has been reset if needed. -/
def readBulkAfterReset (fw : Framework) (rc : RequestContext) (qc : QueueContext) : Served :=
  if qc.xfer.length = 0 then
    exitWith qc
      (if rc.policies.allowPartialReads then STATUS_SUCCESS else STATUS_INVALID_BUFFER_SIZE)
  else if !ntSuccess fw.transferMemory then exitWith qc fw.transferMemory
  else readBulkFromUserMem fw rc (qc.setUserMem rc.buffer)

/-- `Xfer_ReadBulk`. -/
def xferReadBulk (fw : Framework) (rc : RequestContext) (qc : QueueContext) : Served :=
  let status := validateRequestContext fw rc
  if !ntSuccess status then completeWithInformation qc status 0
  else if !fw.queueContext then completeWithInformation qc STATUS_INVALID_DEVICE_REQUEST 0
  else
    let qc := qc.startXfer rc.length
    if !qc.overMem then exitWith qc STATUS_INVALID_DEVICE_REQUEST
    else if qc.info.maximumPacketSize = 0 then exitWith qc STATUS_INVALID_BUFFER_SIZE
    else
      let reset := handlePipeResetScenarios fw rc qc
      (readBulkAfterReset fw rc reset.1).after reset.2

/-- The end of both branches of `Xfer_ReadBulkComplete`: a short stage ends the
read unless `IgnoreShortPackets` is set. -/
def nextReadUnlessShort (fw : Framework) (rc : RequestContext) (qc : QueueContext)
    (status : NTSTATUS) : Served :=
  if !rc.policies.ignoreShortPackets then exitWith qc status else submitNextRead fw rc qc

/-- `Xfer_ReadBulkComplete`, once `OverOfs` denotes the bytes received into the
over-run buffer: copy `stageLength` of them.  The copy overwrites the status of
the stage, so the test after it never fires. -/
def readBulkCopyReceived (fw : Framework) (rc : RequestContext) (stageLength : ℕ)
    (qc : QueueContext) : Served :=
  match copyPartialReadToUserMemory fw qc qc.overBuf stageLength with
  | .error status => exitWith qc status
  | .ok qc =>
    let status := fw.copyFromBuffer
    if qc.xfer.transferred ≥ qc.xfer.length then exitTransferred rc qc status
    else if !ntSuccess status then exitWith qc status
    else nextReadUnlessShort fw rc qc status

/-- `Xfer_ReadBulkComplete` for a stage received into the over-run buffer. -/
def readBulkCompleteOver (fw : Framework) (rc : RequestContext) (status : NTSTATUS)
    (transferredLength : ℕ) (qc : QueueContext) : Served :=
  if transferredLength ≠ 0 then
    let stageLength := min qc.overOfs.bufferLength transferredLength
    readBulkCopyReceived fw rc stageLength
      (qc.setOverOfs ⟨qc.overOfs.bufferOffset, transferredLength⟩)
  else if !ntSuccess status then exitWith qc status
  else nextReadUnlessShort fw rc (qc.setOverOfs ⟨qc.overOfs.bufferOffset, 0⟩) status

/-- `Xfer_ReadBulkComplete` for a stage received into the user's memory. -/
def readBulkCompleteUser (fw : Framework) (rc : RequestContext) (status : NTSTATUS)
    (transferredLength : ℕ) (qc : QueueContext) : Served :=
  let qc := qc.addTransferred transferredLength
  if !ntSuccess status then exitWith qc status
  else if qc.xfer.transferred ≥ qc.xfer.length then exitWith qc status
  else if transferredLength ≠ 0 ∧ transferredLength = qc.xfer.userOfs.bufferLength then
    submitNextRead fw rc qc
  else nextReadUnlessShort fw rc qc status

/-- `Xfer_ReadBulkComplete`. -/
def xferReadBulkComplete (fw : Framework) (rc : RequestContext) (status : NTSTATUS)
    (transferredLength : ℕ) (qc : QueueContext) : Served :=
  let qc := handlePipeResetScenariosForComplete status rc qc
  if qc.overOfs.bufferLength ≠ 0 then readBulkCompleteOver fw rc status transferredLength qc
  else readBulkCompleteUser fw rc status transferredLength qc

/-! ### Writes -/

/-- `Xfer_WriteBulk`, from the point where the pipe has been reset if needed. -/
def writeBulkAfterReset (fw : Framework) (rc : RequestContext) (qc : QueueContext) : Served :=
  let required := if rc.policies.shortPacketTerminate then 1 else 0
  if qc.xfer.length ≠ 0 then
    if !ntSuccess fw.transferMemory then exitWith qc fw.transferMemory
    else submitNextWrite fw rc ((qc.setUserMem rc.buffer).requireZlps required)
  else submitNextWrite fw rc ((qc.setUserMem []).requireZlps required)

/-- `Xfer_WriteBulk`. -/
def xferWriteBulk (fw : Framework) (rc : RequestContext) (qc : QueueContext) : Served :=
  let status := validateRequestContext fw rc
  if !ntSuccess status then completeWithInformation qc status 0
  else if !fw.queueContext then completeWithInformation qc STATUS_INVALID_DEVICE_REQUEST 0
  else
    let qc := qc.startXfer rc.length
    if qc.info.maximumPacketSize = 0 ∧ qc.xfer.length ≠ 0 then
      exitWith qc STATUS_INVALID_BUFFER_SIZE
    else
      let reset := handlePipeResetScenarios fw rc qc
      (writeBulkAfterReset fw rc reset.1).after reset.2

/-- `Xfer_WriteBulkComplete`. -/
def xferWriteBulkComplete (fw : Framework) (rc : RequestContext) (status : NTSTATUS)
    (transferredLength : ℕ) (qc : QueueContext) : Served :=
  let qc := qc.addTransferred transferredLength
  if ntSuccess status then
    if qc.xfer.transferred ≥ qc.xfer.length then
      if qc.xfer.zlpsSent ≥ qc.xfer.zlpsRequired then exitWith qc status
      else submitNextWrite fw rc qc.countZlp
    else submitNextWrite fw rc qc
  else exitWith qc status

/-! ### Raw transfers -/

/-- The end of a raw routine: submit the whole transfer buffer, or complete with
no bytes. -/
def submitRaw (fw : Framework) (rc : RequestContext) (qc : QueueContext) (routine : Routine)
    (memory : StageMemory) : Served :=
  match formatAndSubmit fw rc with
  | .error status => completeWithInformation qc status 0
  | .ok () => { queue := qc, effects := [.send routine memory] }

/-- `Xfer_ReadBulkRaw`. -/
def xferReadBulkRaw (fw : Framework) (rc : RequestContext) (qc : QueueContext) : Served :=
  let status := validateRequestContext fw rc
  if !ntSuccess status then completeWithInformation qc status 0
  else if !fw.queueContext then completeWithInformation qc STATUS_INVALID_DEVICE_REQUEST 0
  else if qc.info.maximumPacketSize = 0 then
    completeWithInformation qc STATUS_INVALID_BUFFER_SIZE 0
  else if rc.length % qc.info.maximumPacketSize > 0 then
    completeWithInformation qc STATUS_INVALID_BUFFER_SIZE 0
  else if !ntSuccess fw.transferMemory then completeWithInformation qc fw.transferMemory 0
  else submitRaw fw rc qc .readBulkRaw .whole

/-- `Xfer_ReadBulkRawComplete`. -/
def xferReadBulkRawComplete (rc : RequestContext) (status : NTSTATUS) (length : ℕ)
    (qc : QueueContext) : Served :=
  completeWithInformation (handlePipeResetScenariosForComplete status rc qc) status length

/-- `Xfer_WriteBulkRaw`. -/
def xferWriteBulkRaw (fw : Framework) (rc : RequestContext) (qc : QueueContext) : Served :=
  let status := validateRequestContext fw rc
  if !ntSuccess status then completeWithInformation qc status 0
  else if !fw.queueContext then completeWithInformation qc STATUS_INVALID_DEVICE_REQUEST 0
  else if qc.info.maximumPacketSize = 0 ∧ rc.length ≠ 0 then
    completeWithInformation qc STATUS_INVALID_BUFFER_SIZE 0
  else if rc.length ≠ 0 ∧ !ntSuccess fw.transferMemory then
    completeWithInformation qc fw.transferMemory 0
  else submitRaw fw rc qc .writeBulkRaw (if rc.length ≠ 0 then .whole else .zlp)

/-- `Xfer_WriteBulkRawComplete`. -/
def xferWriteBulkRawComplete (status : NTSTATUS) (length : ℕ) (qc : QueueContext) : Served :=
  completeWithInformation qc status length

/-! ### Every routine gives its request away once -/

section

variable (fw : Framework) (rc : RequestContext) (qc : QueueContext)

/-- A stage is sent, or its submission fails and the request ends with that
failure. -/
theorem handoff_submitStage (routine : Routine) (memory : StageMemory) :
    (formatAndSubmit fw rc = .ok () ∧
        (submitStage fw rc qc routine memory).handoff = [.send routine memory]) ∨
      ∃ status, formatAndSubmit fw rc = .error status ∧
        (submitStage fw rc qc routine memory).handoff =
          [.complete status qc.xfer.transferred] := by
  unfold submitStage
  cases formatAndSubmit fw rc with
  | ok => exact .inl ⟨rfl, rfl⟩
  | error status => exact .inr ⟨status, rfl, rfl⟩

theorem handsOver_submitStage (routine : Routine) (memory : StageMemory) :
    (submitStage fw rc qc routine memory).HandsOver routine := by
  rcases handoff_submitStage fw rc qc routine memory with ⟨_, h⟩ | ⟨status, _, h⟩
  · exact .inl ⟨memory, h⟩
  · exact .inr ⟨_, _, h⟩

theorem handsOver_submitNextRead : (submitNextRead fw rc qc).HandsOver .readBulk := by
  unfold submitNextRead
  dsimp only
  split_ifs
  · exact handsOver_exitWith _ _ _
  all_goals exact handsOver_submitStage fw rc _ _ _

theorem handsOver_submitNextWrite : (submitNextWrite fw rc qc).HandsOver .writeBulk :=
  handsOver_submitStage fw rc _ _ _

theorem handoff_exitTransferred (status : NTSTATUS) :
    (exitTransferred rc qc status).handoff = [.complete status qc.xfer.transferred] := by
  unfold exitTransferred
  split_ifs <;> rfl

theorem handsOver_exitTransferred (routine : Routine) (status : NTSTATUS) :
    (exitTransferred rc qc status).HandsOver routine :=
  .inr ⟨_, _, handoff_exitTransferred rc qc status⟩

theorem handsOver_readBulkFromUserMem : (readBulkFromUserMem fw rc qc).HandsOver .readBulk := by
  unfold readBulkFromUserMem
  dsimp only
  split_ifs
  · split
    · exact handsOver_exitWith _ _ _
    · split_ifs
      · exact handsOver_exitTransferred rc _ _ _
      · exact handsOver_submitNextRead fw rc _
  · exact handsOver_submitNextRead fw rc _

theorem handsOver_readBulkAfterReset : (readBulkAfterReset fw rc qc).HandsOver .readBulk := by
  unfold readBulkAfterReset
  split_ifs
  iterate 3 exact handsOver_exitWith _ _ _
  exact handsOver_readBulkFromUserMem fw rc _

theorem handsOver_xferReadBulk : (xferReadBulk fw rc qc).HandsOver .readBulk := by
  unfold xferReadBulk
  dsimp only
  split_ifs
  iterate 2 exact handsOver_completeWithInformation _ _ _ _
  iterate 2 exact handsOver_exitWith _ _ _
  exact (handsOver_readBulkAfterReset fw rc _).after
    (isQuiet_of_mem_handlePipeResetScenarios fw rc _)

theorem handsOver_nextReadUnlessShort (status : NTSTATUS) :
    (nextReadUnlessShort fw rc qc status).HandsOver .readBulk := by
  unfold nextReadUnlessShort
  split_ifs
  · exact handsOver_exitWith _ _ _
  · exact handsOver_submitNextRead fw rc _

theorem handsOver_readBulkCopyReceived (n : ℕ) :
    (readBulkCopyReceived fw rc n qc).HandsOver .readBulk := by
  unfold readBulkCopyReceived
  split
  · exact handsOver_exitWith _ _ _
  · dsimp only
    split_ifs
    · exact handsOver_exitTransferred rc _ _ _
    · exact handsOver_exitWith _ _ _
    · exact handsOver_nextReadUnlessShort fw rc _ _

theorem handsOver_xferReadBulkComplete (status : NTSTATUS) (n : ℕ) :
    (xferReadBulkComplete fw rc status n qc).HandsOver .readBulk := by
  unfold xferReadBulkComplete readBulkCompleteOver readBulkCompleteUser
  dsimp only
  split_ifs
  · exact handsOver_readBulkCopyReceived fw rc _ _
  · exact handsOver_exitWith _ _ _
  · exact handsOver_nextReadUnlessShort fw rc _ _
  · exact handsOver_exitWith _ _ _
  · exact handsOver_exitWith _ _ _
  · exact handsOver_submitNextRead fw rc _
  · exact handsOver_nextReadUnlessShort fw rc _ _

theorem handsOver_xferWriteBulk : (xferWriteBulk fw rc qc).HandsOver .writeBulk := by
  have hstart : ∀ q, (writeBulkAfterReset fw rc q).HandsOver .writeBulk := by
    intro q
    unfold writeBulkAfterReset
    dsimp only
    split_ifs
    · exact handsOver_exitWith _ _ _
    all_goals exact handsOver_submitNextWrite fw rc _
  unfold xferWriteBulk
  dsimp only
  split_ifs
  iterate 2 exact handsOver_completeWithInformation _ _ _ _
  · exact handsOver_exitWith _ _ _
  · exact (hstart _).after (isQuiet_of_mem_handlePipeResetScenarios fw rc _)

theorem handsOver_xferWriteBulkComplete (status : NTSTATUS) (n : ℕ) :
    (xferWriteBulkComplete fw rc status n qc).HandsOver .writeBulk := by
  unfold xferWriteBulkComplete
  dsimp only
  split_ifs
  · exact handsOver_exitWith _ _ _
  · exact handsOver_submitNextWrite fw rc _
  · exact handsOver_submitNextWrite fw rc _
  · exact handsOver_exitWith _ _ _

theorem handsOver_submitRaw (routine : Routine) (memory : StageMemory) :
    (submitRaw fw rc qc routine memory).HandsOver routine := by
  unfold submitRaw
  split
  · exact handsOver_completeWithInformation _ _ _ _
  · exact .inl ⟨memory, rfl⟩

theorem handsOver_xferReadBulkRaw : (xferReadBulkRaw fw rc qc).HandsOver .readBulkRaw := by
  unfold xferReadBulkRaw
  dsimp only
  split_ifs
  iterate 5 exact handsOver_completeWithInformation _ _ _ _
  exact handsOver_submitRaw fw rc _ _ _

theorem handsOver_xferWriteBulkRaw : (xferWriteBulkRaw fw rc qc).HandsOver .writeBulkRaw := by
  unfold xferWriteBulkRaw
  dsimp only
  split_ifs
  iterate 4 exact handsOver_completeWithInformation _ _ _ _
  all_goals exact handsOver_submitRaw fw rc _ _ _

end

end LibusbK
