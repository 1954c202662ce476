import LibusbK.Dll.SlotLives
import Mathlib.Data.List.Basic

/-!
# The slots of streams

`Init_Handle_StmK` resets all fields but the semaphore with its timeout, the two counters and
`XferItems` with its count.  `Stm_Cleanup` closes the semaphore and keeps the handle; `StmK_Init`
writes it after the heap and all memory have been allocated.  Nothing but the stream thread and
the calls count `PendingIO` and `APCTransferQueueCount`, up and down, and nothing writes
`XferItemsCount`.

The transfers are the numbers below `MaxPendingTransfers`, and a list is kept as the transfers
in it.  The functions of a stream run in several threads, so that they are given in the parts
between which others may run, with the answers and choices as arguments.

## Main definitions

* `stmKCode` — the section.
* `StmKSlot.Clean` — a slot without a semaphore, and counters at zero.
* `StmKSlot.leavesClean` — what keeps a slot in this state between its lives.

## Main results

* `StmKSlot.pastForgotten_iff` — a slot has forgotten its past exactly if it is clean.
* `StmKSlot.pastForgotten_iff_throughout` — the same, of histories.
-/

namespace LibusbK

open SlotCode SectionCode

/-! ### The code -/

/-- `KSTM_HANDLE_INTERNAL`, and the `UsbHandle` of its `Info`. -/
inductive StmKField
  | heap
  | info
  | flags
  | userCB
  | pendingIo
  | aPCTransferQueueCount
  | timeoutCancelMS
  | semReady
  | waitTimeout
  | threadState
  | threadId
  | threadHandle
  | finishedLock
  | finished
  | finishedTemp
  | queued
  | xferItems
  | xferItemsCount
  | infoUsbHandle
  deriving DecidableEq, Repr

abbrev StmKVal : StmKField → Type
  | .finished => List ℕ
  | .finishedTemp => List ℕ
  | .queued => List ℕ
  | _ => ℤ

abbrev KSTM_FLAG_USE_TIMEOUT : UInt32 := 0x80000000
abbrev KSTM_FLAG_TIMEOUT_MASK : UInt32 := 0x0001FFFF

/-- The values of `Thread.State`. -/
abbrev KSTM_THREADSTATE_STARTED : ℤ := 1

/-- `Init_Handle_StmK`. -/
def initHandleStmK : SlotCode StmKVal Unit := do
  put .heap 0
  put .info 0
  put .flags 0
  put .userCB 0
  put .timeoutCancelMS 0
  put .threadState 0
  put .threadId 0
  put .threadHandle 0
  put .finishedLock 0
  put .finished []
  put .finishedTemp []
  put .queued []

/-- `Stm_Cleanup` gives back the reference to the USB handle. -/
def stmCleanupInfo : SlotCode StmKVal Unit := do
  if (← load .info) ≠ 0 then
    let usbHandle ← load .infoUsbHandle
    if usbHandle ≠ 0 then
      tell (.decUsbK usbHandle)

/-- `Stm_Cleanup`. -/
def stmCleanup : SlotCode StmKVal Unit := do
  poolHandleDead
  stmCleanupInfo
  let semReady ← load .semReady
  if semReady ≠ 0 then
    tell (.closeHandle semReady)
  let heap ← load .heap
  if heap ≠ 0 then
    tell (.heapDestroy heap)
    put .heap 0

/-- The arguments of `StmK_Init`, and the answers it gets; an answer of zero is a failure. -/
structure StmKSlotInit where
  usbHandle : ℤ
  /-- `USB_ENDPOINT_DIRECTION_IN(PipeID)`. -/
  isIn : Bool
  maxPendingTransfers : ℕ
  flags : UInt32
  heapCreate : ℤ
  allocInfo : ℤ
  allocUserCB : ℤ
  allocXferItems : ℤ
  allocBuffers : ℤ
  createSemaphore : ℤ
  incUsbK : Bool

namespace StmKSlotInit

variable (a : StmKSlotInit)

/-- The stream is to have a semaphore. -/
def useTimeout : Bool := a.flags &&& KSTM_FLAG_USE_TIMEOUT != 0

/-- `INFINITE`, or the timeout in the flags. -/
def waitTimeout : ℤ :=
  if a.flags &&& KSTM_FLAG_TIMEOUT_MASK = KSTM_FLAG_TIMEOUT_MASK then 0xFFFFFFFF
  else (a.flags &&& KSTM_FLAG_TIMEOUT_MASK).toNat

end StmKSlotInit

/-- `Stm_Alloc`. -/
def stmAlloc (memory : ℤ) : SlotCode StmKVal ℤ := do
  let _ ← load .heap
  return memory

/-- The loop of `StmK_Init`. -/
def appendTransfers (isIn : Bool) : List ℕ → SlotCode StmKVal Unit
  | [] => pure ()
  | xfer :: xfers => do
    if isIn then
      let queued ← load .queued
      put .queued (queued ++ [xfer])
    else
      let finished ← load .finished
      put .finished (finished ++ [xfer])
    appendTransfers isIn xfers

/-- `StmK_Init` makes the heap and what is in it. -/
def stmKInitMemory (a : StmKSlotInit) : SlotCode StmKVal Bool := do
  put .heap a.heapCreate
  if a.heapCreate = 0 then
    return false
  let info ← stmAlloc a.allocInfo
  put .info info
  put .infoUsbHandle 0
  if a.allocInfo = 0 then
    return false
  let userCB ← stmAlloc a.allocUserCB
  put .userCB userCB
  if a.allocUserCB = 0 then
    return false
  let xferItems ← stmAlloc a.allocXferItems
  put .xferItems xferItems
  if a.allocXferItems = 0 then
    return false
  let bufferMemory ← stmAlloc a.allocBuffers
  return bufferMemory != 0

/-- `StmK_Init` makes the semaphore. -/
def stmKInitSemaphore (a : StmKSlotInit) : SlotCode StmKVal Bool := do
  if a.useTimeout then
    put .semReady a.createSemaphore
    if a.createSemaphore = 0 then
      return false
    put .waitTimeout a.waitTimeout
    return true
  else
    put .semReady 0
    return true

/-- The rest of `StmK_Init`. -/
def stmKInitTransfers (a : StmKSlotInit) : SlotCode StmKVal Bool := do
  put .flags a.flags.toNat
  if a.incUsbK then
    put .infoUsbHandle a.usbHandle
    put .timeoutCancelMS 1
    appendTransfers a.isIn (List.range a.maxPendingTransfers)
    poolHandleLive
    return true
  else
    return false

/-- `StmK_Init`, once it has acquired the slot. -/
def stmKSlotInit (a : StmKSlotInit) : SlotCode StmKVal Bool := do
  if ← stmKInitMemory a then
    if ← stmKInitSemaphore a then
      stmKInitTransfers a
    else
      return false
  else
    return false

/-- How `Stm_Thread_ProcessPending` leaves a transfer that has ended. -/
inductive TransferEnd
  /-- `BeforeComplete` sends it back. -/
  | requeued
  /-- `Stm_SynchronizeFinishedList` gets the lock. -/
  | finished
  | temp
  deriving DecidableEq, Repr

/-- What is done with a stream. -/
inductive StmKUse
  | base (u : BaseUse)
  /-- `StmK_Read` and `StmK_Write` check the direction. -/
  | checkDirection
  /-- `mStm_SpinLockForTransferRequest`, with the result of the wait. -/
  | request (signaled : Bool)
  /-- The loop over the `Finished` list moves `n` transfers, and the lock is released.  The
  last transfer may be read in part. -/
  | take (n : ℕ) (inPart : Bool)
  /-- `mStm_CheckPartialTransfer`. -/
  | checkPartial
  /-- `mStm_QueueTransferList`, up to the count. -/
  | queueTransferList (xferSubmitList : List ℕ)
  | countAPC
  /-- The error label of `StmK_Read` and `StmK_Write`. -/
  | putBack (xferSubmitList : List ℕ)
  | transferListAPC (xferSubmitList : List ℕ)
  /-- `InterlockedCompareExchange` of `Thread.State`. -/
  | compareExchangeState (exchange comperand : ℤ)
  /-- `InterlockedExchange` of `Thread.State`. -/
  | exchangeState (value : ℤ)
  /-- `Stm_Create_Thread`. -/
  | createThread (handle id : ℤ)
  /-- `StmK_Start` and `Stm_StopInternal` use the handle of the thread. -/
  | threadHandle
  /-- `StmK_Stop` sets `TimeoutCancelMS`. -/
  | setTimeoutCancel (timeoutCancelMS : ℤ)
  /-- `Stm_Thread_Alloc_Ovl` and `Stm_Thread_Free_Ovl`. -/
  | overlappeds
  /-- `Stm_ThreadProc` calls `Started` or `Stopped`, which is set, for all transfers. -/
  | callbacks
  | synchronizeFinishedList
  /-- `Stm_Thread_ProcessQueued`; the submission is accepted, or not. -/
  | processQueued (accepted : Bool)
  /-- `Stm_Thread_ProcessPending`, for the transfer that has ended. -/
  | processPending (xfer : ℕ) (how : TransferEnd)
  /-- `Stm_ThreadProc` takes over `TimeoutCancelMS`. -/
  | takeTimeoutCancel
  /-- The condition of its last loop. -/
  | testPending
  deriving DecidableEq, Repr

/-- `mSpin_Acquire(&List.FinishedLock)`. -/
def acquireFinishedLock : SlotCode StmKVal Unit := do
  let _ ← load .finishedLock
  put .finishedLock 1

/-- `ReleaseSemaphore`, if there is a semaphore. -/
def releaseSemReady (count : ℕ) : SlotCode StmKVal Unit := do
  let semReady ← load .semReady
  if semReady ≠ 0 then
    tell (.releaseSemaphore semReady count)

/-- `InterlockedIncrement` and `InterlockedDecrement` of `PendingIO`. -/
def addPendingIo (d : ℤ) : SlotCode StmKVal Unit := do
  let pendingIo ← load StmKField.pendingIo
  put .pendingIo (pendingIo + d)

/-- The same of `APCTransferQueueCount`. -/
def addAPCTransferQueueCount (d : ℤ) : SlotCode StmKVal Unit := do
  let count ← load StmKField.aPCTransferQueueCount
  put .aPCTransferQueueCount (count + d)

/-- Transfers are appended to the `Queued` list. -/
def appendQueued (xfers : List ℕ) : SlotCode StmKVal Unit := do
  let queued ← load StmKField.queued
  put .queued (queued ++ xfers)

/-- `mStm_SpinLockForTransferRequest`, once the wait is over. -/
def lockFinished : SlotCode StmKVal Unit := do
  acquireFinishedLock
  let finished ← load StmKField.finished
  if finished = [] then
    put .finishedLock 0
    releaseSemReady 1

/-- `mStm_SpinLockForTransferRequest`. -/
def requestTransfer (signaled : Bool) : SlotCode StmKVal Unit := do
  let semReady ← load .semReady
  if semReady ≠ 0 then
    let waitTimeout ← load .waitTimeout
    tell (.wait semReady waitTimeout)
    if signaled then
      lockFinished
  else
    let finished ← load StmKField.finished
    if finished ≠ [] then
      lockFinished

/-- `Stm_SynchronizeFinishedList`, once it has the lock. -/
def synchronizeFinished (finishedXferItem : List ℕ) : SlotCode StmKVal Unit := do
  acquireFinishedLock
  let finishedTemp ← load StmKField.finishedTemp
  put .finishedTemp []
  let finished ← load StmKField.finished
  put .finished (finished ++ finishedTemp ++ finishedXferItem)
  releaseSemReady (finishedTemp.length + finishedXferItem.length)
  put .finishedLock 0

/-- A callback is called for the first `n` transfers. -/
def callForTransfers (userCB : ℤ) : ℕ → SlotCode StmKVal Unit
  | 0 => pure ()
  | n + 1 => do
    callForTransfers userCB n
    let xferItems ← load .xferItems
    let _ ← load .info
    tell (.streamCallback userCB xferItems n)

/-- The parts of the functions of a stream. -/
def StmKUse.code : StmKUse → SlotCode StmKVal Unit
  | base u => useBase u
  | checkDirection => do
    let info ← load .info
    tell (.call 0 [info])
  | request signaled => requestTransfer signaled
  | take n inPart => do
    let finished ← load StmKField.finished
    let semReady ← load .semReady
    if semReady ≠ 0 then
      tell (.wait semReady 0)
    put .finished (finished.drop n)
    if inPart then
      releaseSemReady 1
    put .finishedLock 0
  | checkPartial => do
    let flags ← load .flags
    tell (.call 1 [flags])
  | queueTransferList xferSubmitList => do
    let state ← load .threadState
    if state = KSTM_THREADSTATE_STARTED then
      let handle ← load .threadHandle
      tell (.queueUserAPC handle)
    else
      appendQueued xferSubmitList
  | countAPC => addAPCTransferQueueCount 1
  | putBack xferSubmitList => do
    acquireFinishedLock
    let finished ← load StmKField.finished
    put .finished (xferSubmitList.reverse ++ finished)
    releaseSemReady xferSubmitList.length
    put .finishedLock 0
  | transferListAPC xferSubmitList => do
    appendQueued xferSubmitList
    addAPCTransferQueueCount (-1)
  | compareExchangeState exchange comperand => do
    let state ← load .threadState
    if state = comperand then
      put .threadState exchange
  | exchangeState value => put .threadState value
  | createThread handle id => do
    put .threadId id
    put .threadHandle handle
  | threadHandle => do
    let handle ← load .threadHandle
    tell (.queueUserAPC handle)
  | setTimeoutCancel timeoutCancelMS => put .timeoutCancelMS timeoutCancelMS
  | overlappeds => do
    let heap ← load .heap
    let info ← load .info
    tell (.call 2 [heap, info])
  | callbacks => do
    let userCB ← load .userCB
    let xferItemsCount ← load StmKField.xferItemsCount
    callForTransfers userCB xferItemsCount.toNat
  | synchronizeFinishedList => synchronizeFinished []
  | processQueued accepted => do
    let queued ← load StmKField.queued
    match queued with
    | [] => pure ()
    | xfer :: rest => do
      let info ← load .info
      let userCB ← load .userCB
      tell (.call 3 [info, userCB, xfer])
      if accepted then
        put .queued rest
        addPendingIo 1
  | processPending xfer how => do
    let info ← load .info
    let userCB ← load .userCB
    tell (.call 4 [info, userCB, xfer])
    match how with
    | .requeued => appendQueued [xfer]
    | .finished => synchronizeFinished [xfer]
    | .temp => do
      let finishedTemp ← load StmKField.finishedTemp
      put .finishedTemp (finishedTemp ++ [xfer])
    addPendingIo (-1)
  | takeTimeoutCancel => do
    let _ ← load .timeoutCancelMS
    put .timeoutCancelMS 0
  | testPending => do
    let pendingIo ← load StmKField.pendingIo
    if pendingIo ≤ 0 then
      let count ← load StmKField.aPCTransferQueueCount
      tell (.call 5 [count])

/-- The `StmK` section. -/
def stmKCode : SectionCode where
  Field := StmKField
  decEq := inferInstance
  Val := StmKVal
  zero
    | .finished => []
    | .finishedTemp => []
    | .queued => []
    | .heap => (0 : ℤ)
    | .info => (0 : ℤ)
    | .flags => (0 : ℤ)
    | .userCB => (0 : ℤ)
    | .pendingIo => (0 : ℤ)
    | .aPCTransferQueueCount => (0 : ℤ)
    | .timeoutCancelMS => (0 : ℤ)
    | .semReady => (0 : ℤ)
    | .waitTimeout => (0 : ℤ)
    | .threadState => (0 : ℤ)
    | .threadId => (0 : ℤ)
    | .threadHandle => (0 : ℤ)
    | .finishedLock => (0 : ℤ)
    | .xferItems => (0 : ℤ)
    | .xferItemsCount => (0 : ℤ)
    | .infoUsbHandle => (0 : ℤ)
  initHandle := initHandleStmK
  Init := StmKSlotInit
  init := stmKSlotInit
  Use := StmKUse
  use := StmKUse.code
  Free := Unit
  cleanup _ := stmCleanup

/-- A slot of the section. -/
abbrev StmKSlot : Type := ∀ f, SlotVal StmKVal f

namespace StmKSlotInit

variable (a : StmKSlotInit)

/-- All memory of the stream is there. -/
def MemoryMade : Prop :=
  a.heapCreate ≠ 0 ∧ a.allocInfo ≠ 0 ∧ a.allocUserCB ≠ 0 ∧ a.allocXferItems ≠ 0 ∧
    a.allocBuffers ≠ 0

instance : Decidable a.MemoryMade :=
  inferInstanceAs (Decidable (_ ∧ _ ∧ _ ∧ _ ∧ _))

/-- A semaphore is made. -/
def SemaphoreMade : Prop := a.MemoryMade ∧ a.useTimeout = true ∧ a.createSemaphore ≠ 0

instance : Decidable a.SemaphoreMade :=
  inferInstanceAs (Decidable (_ ∧ _ ∧ _))

end StmKSlotInit

/-- What a use adds to `PendingIO`. -/
def StmKUse.pendingDelta (s : StmKSlot) : StmKUse → ℤ
  | .processQueued accepted =>
    if accepted = true ∧ (s (.own .queued) : List ℕ) ≠ [] then 1 else 0
  | .processPending _ _ => -1
  | _ => 0

/-- What it adds to `APCTransferQueueCount`. -/
def StmKUse.apcDelta : StmKUse → ℤ
  | .countAPC => 1
  | .transferListAPC _ => -1
  | _ => 0

namespace StmKSlot

variable (s : StmKSlot)

abbrev semReady : ℤ := s (.own .semReady)
abbrev pendingIo : ℤ := s (.own .pendingIo)
abbrev aPCTransferQueueCount : ℤ := s (.own .aPCTransferQueueCount)
abbrev xferItemsCount : ℤ := s (.own .xferItemsCount)

/-- There is no semaphore, and nothing is counted. -/
structure Clean : Prop where
  semReady : s.semReady = 0
  pendingIo : s.pendingIo = 0
  aPCTransferQueueCount : s.aPCTransferQueueCount = 0
  xferItemsCount : s.xferItemsCount = 0

variable {s} {t : StmKSlot} {f : StmKField} {a : StmKSlotInit}

/-! ### The creation of a stream -/

theorem stmKInitMemory_exposes : ¬(stmKInitMemory a).Exposes s (.own f) := by
  simp +contextual [stmKInitMemory, stmAlloc]

theorem stmKInitMemory_result : (stmKInitMemory a).result s = decide a.MemoryMade := by
  by_cases hheap : a.heapCreate = 0
  · simp [stmKInitMemory, StmKSlotInit.MemoryMade, hheap]
  by_cases hinfo : a.allocInfo = 0
  · simp [stmKInitMemory, StmKSlotInit.MemoryMade, stmAlloc, hheap, hinfo]
  by_cases huser : a.allocUserCB = 0
  · simp [stmKInitMemory, StmKSlotInit.MemoryMade, stmAlloc, hheap, hinfo, huser]
  by_cases hitems : a.allocXferItems = 0
  · simp [stmKInitMemory, StmKSlotInit.MemoryMade, stmAlloc, hheap, hinfo, huser, hitems]
  · simp [stmKInitMemory, StmKSlotInit.MemoryMade, stmAlloc, hheap, hinfo, huser, hitems]
    rfl

theorem stmKInitMemory_assigns (h : (stmKInitMemory a).Assigns s (.own f)) :
    f = .heap ∨ f = .info ∨ f = .infoUsbHandle ∨ f = .userCB ∨ f = .xferItems := by
  cases f <;> simp [stmKInitMemory, stmAlloc] at h ⊢

theorem stmKInitSemaphore_exposes : ¬(stmKInitSemaphore a).Exposes s (.own f) := by
  simp [stmKInitSemaphore]

theorem stmKInitSemaphore_final : (stmKInitSemaphore a).final s (.own .semReady) =
    if a.useTimeout then a.createSemaphore else 0 := by
  cases huse : a.useTimeout with
  | false => simp [stmKInitSemaphore, huse]
  | true =>
    by_cases hsem : a.createSemaphore = 0 <;> simp [stmKInitSemaphore, huse, hsem]

theorem stmKInitSemaphore_result : (stmKInitSemaphore a).result s =
    decide (a.useTimeout = true → a.createSemaphore ≠ 0) := by
  cases huse : a.useTimeout with
  | false => simp [stmKInitSemaphore, huse]
  | true =>
    by_cases hsem : a.createSemaphore = 0 <;> simp [stmKInitSemaphore, huse, hsem]

theorem stmKInitSemaphore_assigns : (stmKInitSemaphore a).Assigns s (.own f) ↔
   f = .semReady ∨ f = .waitTimeout ∧ a.useTimeout = true ∧ a.createSemaphore ≠ 0 := by
  cases huse : a.useTimeout with
  | false => simp [stmKInitSemaphore, huse]
  | true =>
    by_cases hsem : a.createSemaphore = 0 <;> simp [stmKInitSemaphore, huse, hsem]

theorem appendTransfers_exposes {isIn : Bool} {xfers : List ℕ}
    (h : (appendTransfers isIn xfers).Exposes s (.own f)) : f = .queued ∨ f = .finished := by
  induction xfers generalizing s with
  | nil => exact h.elim
  | cons xfer xfers ih =>
    cases isIn <;> simp [appendTransfers] at h
    · rcases h with h | ⟨-, h⟩
      · exact .inr h
      · exact ih h
    · rcases h with h | ⟨-, h⟩
      · exact .inl h
      · exact ih h

theorem appendTransfers_assigns {isIn : Bool} {xfers : List ℕ}
    (h : (appendTransfers isIn xfers).Assigns s (.own f)) : f = .queued ∨ f = .finished := by
  induction xfers generalizing s with
  | nil => exact h.elim
  | cons xfer xfers ih =>
    cases isIn <;> simp [appendTransfers] at h
    · rcases h with h | h
      · exact .inr h
      · exact ih h
    · rcases h with h | h
      · exact .inl h
      · exact ih h

theorem stmKInitTransfers_exposes (h : (stmKInitTransfers a).Exposes s (.own f)) :
    f = .queued ∨ f = .finished := by
  simp [stmKInitTransfers] at h
  exact appendTransfers_exposes h.2.2.2.2

theorem stmKInitTransfers_result : (stmKInitTransfers a).result s = a.incUsbK := by
  cases hinc : a.incUsbK <;> simp [stmKInitTransfers, hinc]

theorem stmKInitTransfers_assigns (h : (stmKInitTransfers a).Assigns s (.own f)) :
    f = .flags ∨ f = .infoUsbHandle ∨ f = .timeoutCancelMS ∨ f = .queued ∨ f = .finished := by
  simp [stmKInitTransfers] at h
  rcases h with h | ⟨-, h | h | h⟩
  · exact .inl h
  · exact .inr (.inl h)
  · exact .inr (.inr (.inl h))
  · exact .inr (.inr (.inr (appendTransfers_assigns h)))

/-- The slot is reset, and written by `StmK_Init`. -/
def prepareStream (a : StmKSlotInit) : SlotCode StmKVal Bool := do
  initHandleStmK
  stmKSlotInit a

/-- The fields that `Init_Handle_StmK` does not reset. -/
def NotReset (f : StmKField) : Prop :=
  f = .pendingIo ∨ f = .aPCTransferQueueCount ∨ f = .semReady ∨ f = .waitTimeout ∨
    f = .xferItems ∨ f = .xferItemsCount ∨ f = .infoUsbHandle

theorem initHandleStmK_exposes : ¬initHandleStmK.Exposes s (.own f) := by
  simp [initHandleStmK]

theorem initHandleStmK_assigns : initHandleStmK.Assigns s (.own f) ↔ ¬NotReset f := by
  cases f <;> simp [initHandleStmK, NotReset]

theorem prepareStream_exposes : ¬(prepareStream a).Exposes s (.own f) := by
  intro h
  simp [prepareStream, stmKSlotInit, initHandleStmK_exposes, stmKInitMemory_exposes,
    stmKInitSemaphore_exposes, initHandleStmK_assigns] at h
  obtain ⟨hreset, -, -, -, -, h⟩ := h
  rcases stmKInitTransfers_exposes h with rfl | rfl <;> simp [NotReset] at hreset

theorem prepareStream_result : (prepareStream a).result s =
    decide (a.MemoryMade ∧ (a.useTimeout = true → a.createSemaphore ≠ 0) ∧ a.incUsbK = true) := by
  by_cases hmemory : a.MemoryMade
  · by_cases hsem : a.useTimeout = true → a.createSemaphore ≠ 0
    · simp [prepareStream, stmKSlotInit, stmKInitMemory_result, stmKInitSemaphore_result,
        stmKInitTransfers_result, hmemory]
    · simp [prepareStream, stmKSlotInit, stmKInitMemory_result, stmKInitSemaphore_result,
        hmemory, hsem]
  · simp [prepareStream, stmKSlotInit, stmKInitMemory_result, hmemory]

/-- What `StmK_Init` writes, if at all. -/
theorem stmKSlotInit_assigns (h : (stmKSlotInit a).Assigns s (.own f)) :
    f ≠ .pendingIo ∧ f ≠ .aPCTransferQueueCount ∧ f ≠ .xferItemsCount := by
  simp [stmKSlotInit, stmKInitMemory_result, stmKInitSemaphore_result,
    stmKInitSemaphore_assigns] at h
  rcases h with h | ⟨-, (h | h) | ⟨-, h⟩⟩
  · rcases stmKInitMemory_assigns h with rfl | rfl | rfl | rfl | rfl <;> simp
  · simp [h]
  · simp [h]
  · rcases stmKInitTransfers_assigns h with rfl | rfl | rfl | rfl | rfl <;> simp

theorem incUsbK_of_success (h : (prepareStream a).result s = true) : a.incUsbK = true := by
  rw [prepareStream_result, decide_eq_true_iff] at h
  exact h.2.2

/-- The counters are not written. -/
theorem prepareStream_not_assigns
    (hf : f = .pendingIo ∨ f = .aPCTransferQueueCount ∨ f = .xferItemsCount) :
    ¬(prepareStream a).Assigns s (.own f) := by
  intro h
  simp [prepareStream, initHandleStmK_assigns] at h
  rcases h with h | h
  · exact h (by rcases hf with rfl | rfl | rfl <;> simp [NotReset])
  · have hne := stmKSlotInit_assigns h
    rcases hf with rfl | rfl | rfl <;> simp at hne

theorem stmKInitMemory_semReady :
    (stmKInitMemory a).final s (.own .semReady) = s (.own .semReady) :=
  Access.final_of_not_assigns fun h => by simpa using stmKInitMemory_assigns h

theorem stmKInitTransfers_semReady :
    (stmKInitTransfers a).final s (.own .semReady) = s (.own .semReady) :=
  Access.final_of_not_assigns fun h => by simpa using stmKInitTransfers_assigns h

theorem initHandleStmK_semReady :
    initHandleStmK.final s (.own .semReady) = s (.own .semReady) :=
  Access.final_of_not_assigns fun h => by simp [initHandleStmK_assigns, NotReset] at h

/-- The semaphore after `StmK_Init`. -/
theorem prepareStream_semReady : (prepareStream a).final s (.own .semReady) =
    if a.MemoryMade then if a.useTimeout then a.createSemaphore else 0 else s.semReady := by
  by_cases hmemory : a.MemoryMade
  · have hinit : (prepareStream a).final s (.own .semReady) =
        (stmKInitSemaphore a).final ((stmKInitMemory a).final (initHandleStmK.final s))
          (.own .semReady) := by
      simp [prepareStream, stmKSlotInit, stmKInitMemory_result, hmemory]
      split
      · exact stmKInitTransfers_semReady
      · rfl
    rw [hinit, stmKInitSemaphore_final, if_pos hmemory]
  · simp [prepareStream, stmKSlotInit, stmKInitMemory_result, stmKInitMemory_semReady,
      initHandleStmK_semReady, hmemory]

/-- Where `Info` is written, its USB handle is. -/
theorem prepareStream_info : (prepareStream a).Assigns s (.own .infoUsbHandle) ∨
    (prepareStream a).final s (.own .info) = 0 := by
  by_cases hheap : a.heapCreate = 0
  · right
    simp [prepareStream, stmKSlotInit, stmKInitMemory, hheap, initHandleStmK]
  · left
    simp [prepareStream, stmKSlotInit, stmKInitMemory, hheap, stmAlloc]

theorem prepareStream_assigns_of_reset (hf : ¬NotReset f) :
    (prepareStream a).Assigns s (.own f) := by
  simp [prepareStream, initHandleStmK_assigns]
  exact .inl hf

/-- A stream that is made: what is not written, and without a semaphore its timeout. -/
theorem prepareStream_of_success (h : (prepareStream a).result s = true)
    (hf : ¬(prepareStream a).Assigns s (.own f)) :
    f = .pendingIo ∨ f = .aPCTransferQueueCount ∨ f = .xferItemsCount ∨
      f = .waitTimeout ∧ (prepareStream a).final s (.own .semReady) = 0 := by
  rw [prepareStream_result, decide_eq_true_iff] at h
  obtain ⟨hmemory, hsem, hinc⟩ := h
  obtain ⟨hheap, hinfo, huser, hitems, -⟩ := id hmemory
  have hreset : NotReset f := by
    by_contra hreset
    exact hf (prepareStream_assigns_of_reset hreset)
  rw [prepareStream_semReady, if_pos hmemory]
  simp [prepareStream, stmKSlotInit, stmKInitMemory_result, stmKInitSemaphore_assigns,
    hmemory] at hf
  obtain ⟨-, hmem, ⟨hne, htimeout⟩, -⟩ := hf
  rcases hreset with rfl | rfl | rfl | rfl | rfl | rfl | rfl
  · exact .inl rfl
  · exact .inr (.inl rfl)
  · exact absurd rfl hne
  · refine .inr (.inr (.inr ⟨rfl, ?_⟩))
    cases huse : a.useTimeout with
    | false => simp
    | true => exact absurd (htimeout rfl huse) (hsem huse)
  · exfalso
    simp [stmKInitMemory, stmAlloc, hheap, hinfo, huser] at hmem
  · exact .inr (.inr (.inl rfl))
  · exfalso
    simp [stmKInitMemory, stmAlloc, hheap] at hmem

/-! ### The clean-up of a stream -/

theorem stmCleanup_exposes (h : stmCleanup.Exposes s (.own f)) :
    f = .info ∨ f = .infoUsbHandle ∧ s (.own .info) ≠ (0 : ℤ) ∨ f = .semReady ∨ f = .heap := by
  simp [stmCleanup, stmCleanupInfo] at h
  rcases h with h | ⟨hinfo, h⟩ | h | h
  · exact .inl h
  · exact .inr (.inl ⟨h, hinfo⟩)
  · exact .inr (.inr (.inl h))
  · exact .inr (.inr (.inr h))

theorem stmCleanup_exposes_semReady : stmCleanup.Exposes s (.own .semReady) := by
  simp [stmCleanup, stmCleanupInfo]

theorem stmCleanup_assigns (h : stmCleanup.Assigns s (.own f)) : f = .heap := by
  simp [stmCleanup, stmCleanupInfo] at h
  exact h.2

/-! ### The parts of the code -/

@[simp] theorem callForTransfers_assigns (userCB : ℤ) (n : ℕ) :
    ¬(callForTransfers userCB n).Assigns s (.own f) := by
  induction n generalizing s with
  | zero => exact id
  | succ n ih => simp [callForTransfers, ih]

theorem callForTransfers_exposes {userCB : ℤ} {n : ℕ}
    (h : (callForTransfers userCB n).Exposes s (.own f)) : f = .xferItems ∨ f = .info := by
  induction n generalizing s with
  | zero => exact h.elim
  | succ n ih =>
    simp [callForTransfers] at h
    rcases h with h | h
    · exact ih h
    · exact h

/-- The list of transfers is changed, and nothing else that is kept. -/
structure Kept (s t : StmKSlot) (pending apc : ℤ) : Prop where
  semReady : t.semReady = s.semReady
  pendingIo : t.pendingIo = s.pendingIo + pending
  aPCTransferQueueCount : t.aPCTransferQueueCount = s.aPCTransferQueueCount + apc
  xferItemsCount : t.xferItemsCount = s.xferItemsCount

theorem Kept.of_not_assigns {p : SlotCode StmKVal Unit}
    (h : ∀ f, f = .semReady ∨ f = .pendingIo ∨ f = .aPCTransferQueueCount ∨ f = .xferItemsCount →
      ¬p.Assigns s (.own f)) : Kept s (p.final s) 0 0 where
  semReady := Access.final_of_not_assigns (h _ (.inl rfl))
  pendingIo := (Access.final_of_not_assigns (h _ (.inr (.inl rfl)))).trans (Int.add_zero _).symm
  aPCTransferQueueCount :=
    (Access.final_of_not_assigns (h _ (.inr (.inr (.inl rfl))))).trans (Int.add_zero _).symm
  xferItemsCount := Access.final_of_not_assigns (h _ (.inr (.inr (.inr rfl))))

@[simp] theorem releaseSemReady_assigns (count : ℕ) :
    ¬(releaseSemReady count).Assigns s (.own f) := by
  simp [releaseSemReady]

/-- The transfers that have ended go to `Finished`. -/
theorem synchronizeFinished_assigns {xfers : List ℕ}
    (h : (synchronizeFinished xfers).Assigns s (.own f)) :
    f = .finishedLock ∨ f = .finishedTemp ∨ f = .finished := by
  cases f <;> simp [synchronizeFinished, acquireFinishedLock] at h ⊢

theorem Kept.addPendingIo {pending apc : ℤ} (h : Kept s t pending apc) (d : ℤ) :
    Kept s ((LibusbK.addPendingIo d).final t) (pending + d) apc where
  semReady := by simpa [LibusbK.addPendingIo] using h.semReady
  pendingIo := by
    have hadd : StmKSlot.pendingIo ((LibusbK.addPendingIo d).final t) = t.pendingIo + d := by
      simp [LibusbK.addPendingIo]
    rw [hadd, h.pendingIo, Int.add_assoc]
  aPCTransferQueueCount := by simpa [LibusbK.addPendingIo] using h.aPCTransferQueueCount
  xferItemsCount := by simpa [LibusbK.addPendingIo] using h.xferItemsCount

/-- **What a use changes.** -/
theorem use_kept (u : StmKUse) : Kept s (u.code.final s) (u.pendingDelta s) u.apcDelta := by
  cases u with
  | countAPC =>
    constructor <;> simp [StmKUse.code, StmKUse.pendingDelta, StmKUse.apcDelta,
      addAPCTransferQueueCount]
  | transferListAPC xferSubmitList =>
    constructor <;> simp [StmKUse.code, StmKUse.pendingDelta, StmKUse.apcDelta,
      addAPCTransferQueueCount, appendQueued]
  | processQueued accepted =>
    cases hqueued : (s (.own .queued) : List ℕ) with
    | nil =>
      constructor <;> simp [StmKUse.code, StmKUse.pendingDelta, StmKUse.apcDelta, hqueued]
    | cons xfer rest =>
      cases accepted <;> constructor <;>
        simp [StmKUse.code, StmKUse.pendingDelta, StmKUse.apcDelta, hqueued, addPendingIo]
  | processPending xfer how =>
    obtain ⟨p, hp, hfinal⟩ : ∃ p : SlotCode StmKVal Unit,
        (∀ s f, p.Assigns s (.own f) →
          f = .finishedLock ∨ f = .finishedTemp ∨ f = .finished ∨ f = .queued) ∧
        (StmKUse.processPending xfer how).code.final s =
          (LibusbK.addPendingIo (-1)).final (p.final s) := by
      cases how with
      | requeued =>
        refine ⟨appendQueued [xfer], fun s f h => ?_, by simp [StmKUse.code]⟩
        simp [appendQueued] at h
        exact .inr (.inr (.inr h))
      | finished =>
        refine ⟨synchronizeFinished [xfer], fun s f h => ?_, by simp [StmKUse.code]⟩
        rcases synchronizeFinished_assigns h with h | h | h
        · exact .inl h
        · exact .inr (.inl h)
        · exact .inr (.inr (.inl h))
      | temp =>
        refine ⟨do
          let finishedTemp ← load StmKField.finishedTemp
          put .finishedTemp (finishedTemp ++ [xfer]), fun s f h => ?_, by simp [StmKUse.code]⟩
        simp at h
        exact .inr (.inl h)
    rw [hfinal]
    have hkept : Kept s (p.final s) 0 0 := .of_not_assigns fun f hf h => by
      rcases hp s f h with rfl | rfl | rfl | rfl <;> simp at hf
    exact hkept.addPendingIo (-1)
  | synchronizeFinishedList =>
    refine .of_not_assigns fun f hf h => ?_
    rcases synchronizeFinished_assigns h with rfl | rfl | rfl <;> simp at hf
  | _ =>
    refine .of_not_assigns fun f hf h => ?_
    rcases hf with rfl | rfl | rfl | rfl <;>
      simp [StmKUse.code, requestTransfer, lockFinished, acquireFinishedLock, appendQueued] at h

/-- Without a semaphore the timeout is not used. -/
theorem use_not_exposes_waitTimeout (hs : s.semReady = 0) (u : StmKUse) :
    ¬u.code.Exposes s (.own .waitTimeout) := by
  cases u with
  | processQueued accepted =>
    cases hqueued : (s (.own .queued) : List ℕ) with
    | nil => simp [StmKUse.code, hqueued]
    | cons xfer rest => simp [StmKUse.code, hqueued, addPendingIo]
  | processPending xfer how =>
    cases how <;> simp [StmKUse.code, addPendingIo, appendQueued, synchronizeFinished,
      acquireFinishedLock, releaseSemReady]
  | callbacks =>
    intro h
    simp [StmKUse.code] at h
    simpa using callForTransfers_exposes h
  | _ =>
    simp [StmKUse.code, requestTransfer, lockFinished, acquireFinishedLock, releaseSemReady,
      addAPCTransferQueueCount, appendQueued, synchronizeFinished, hs]

/-! ### Clean slots -/

theorem Clean.congr (h : ∀ f, s (.own f) = t (.own f)) : s.Clean ↔ t.Clean := by
  constructor
  · exact fun ⟨hsem, hpending, hapc, hitems⟩ =>
      ⟨(h _).symm.trans hsem, (h _).symm.trans hpending, (h _).symm.trans hapc,
        (h _).symm.trans hitems⟩
  · exact fun ⟨hsem, hpending, hapc, hitems⟩ =>
      ⟨(h _).trans hsem, (h _).trans hpending, (h _).trans hapc, (h _).trans hitems⟩

/-- Where no stream is made, the clean-up exposes at most the semaphore. -/
theorem exposes_stmCleanup_of_failure (hassigns : ¬(prepareStream a).Assigns s (.own f))
    (ht : ∀ f, t (.own f) = (prepareStream a).final s (.own f))
    (h : stmCleanup.Exposes t (.own f)) : f = .semReady := by
  rcases stmCleanup_exposes h with rfl | ⟨rfl, hinfo⟩ | rfl | rfl
  · exact absurd (prepareStream_assigns_of_reset (by simp [NotReset])) hassigns
  · rw [ht] at hinfo
    exact absurd prepareStream_info (not_or.mpr ⟨hassigns, hinfo⟩)
  · rfl
  · exact absurd (prepareStream_assigns_of_reset (by simp [NotReset])) hassigns

/-- A life of a clean slot exposes nothing but the semaphore and the counters. -/
theorem exposes_life {l : Life stmKCode} {f : SlotField StmKField}
    (h : (life l).Exposes s f) :
    f = .own .semReady ∨ f = .own .pendingIo ∨ f = .own .aPCTransferQueueCount ∨
      f = .own .xferItemsCount := by
  rcases SectionCode.exposes_life h with h | ⟨hresult, hassigns, h⟩
  · cases f with
    | base b => exact absurd h (create_not_exposes_base b)
    | own f =>
      rcases exposes_create_iff.mp h with h | ⟨hassigns, -, h⟩
      · exact absurd h prepareStream_exposes
      · exact .inl (congrArg _ (exposes_stmCleanup_of_failure hassigns (l.failed_own s) h))
  · have hprepare : (prepareStream l.init).result (l.acquired s) = true :=
      create_result.symm.trans hresult
    have hfinal := create_final (P := stmKCode) hprepare
    cases f with
    | base b => exact absurd (create_assigns_base b) hassigns
    | own f =>
      have hnot : ¬(prepareStream l.init).Assigns (l.acquired s) (.own f) :=
        fun h => hassigns (assigns_create (P := stmKCode) h)
      rcases prepareStream_of_success hprepare hnot with rfl | rfl | rfl | ⟨rfl, hsem⟩
      · exact .inr (.inl rfl)
      · exact .inr (.inr (.inl rfl))
      · exact .inr (.inr (.inr rfl))
      · -- there is no semaphore, so that the timeout is not used
        exfalso
        have hnone : semReady ((create l.toCreation).final s) = 0 := hfinal ▸ hsem
        have huse : ∀ (u : StmKUse) (s : StmKSlot), s.semReady = 0 →
            semReady (u.code.final s) = 0 := fun u s hs => (use_kept u).semReady.trans hs
        rcases h with h | h
        · refine exposes_runUses (P := stmKCode) (I := fun s => semReady s = 0)
            (Q := fun f => f ≠ .own .waitTimeout) huse ?_ hnone _ h rfl
          rintro u s _ hs h rfl
          exact use_not_exposes_waitTimeout hs u h
        · simpa using stmCleanup_exposes ((poolHandleDec_exposes_own ..).mp h)

theorem Clean.behavesSame (hs : s.Clean) (l : Life stmKCode) :
    stmKCode.BehavesSame s stmKCode.zeroSlot l := by
  refine behavesSame_iff.mpr fun f hf => ?_
  rcases exposes_life hf with rfl | rfl | rfl | rfl
  · exact hs.semReady
  · exact hs.pendingIo
  · exact hs.aPCTransferQueueCount
  · exact hs.xferItemsCount

/-- No heap is made for the stream. -/
def failing : StmKSlotInit := ⟨1, true, 1, 0, 0, 0, 0, 0, 0, 0, false⟩

/-- A stream without a semaphore. -/
def succeeding : StmKSlotInit := ⟨1, true, 1, 0, 1, 2, 3, 4, 5, 0, true⟩

theorem failing_result : (prepareStream failing).result s = false := by
  rw [prepareStream_result]
  decide

theorem failing_not_assigns : ¬(prepareStream failing).Assigns s (.own .semReady) := by
  simp [prepareStream, stmKSlotInit, stmKInitMemory, failing, initHandleStmK_assigns, NotReset]

theorem succeeding_result : (prepareStream succeeding).result s = true := by
  rw [prepareStream_result]
  decide

/-- A slot in which every life is as in a slot of zeros is clean. -/
theorem Clean.of_behavesSame (h : ∀ l, stmKCode.BehavesSame s stmKCode.zeroSlot l) :
    s.Clean := by
  have hcounter : ∀ (u : StmKUse) (f : StmKField),
      f = .pendingIo ∨ f = .aPCTransferQueueCount ∨ f = .xferItemsCount →
      (∀ t : StmKSlot, u.code.Exposes t (.own f)) →
      s (.own f) = stmKCode.zeroSlot (.own f) := fun u f hf hu =>
    (h _).reads (.own f) (exposes_life_of_use (P := stmKCode)
      (c := { init := succeeding, free := () }) (u := u) succeeding_result
      (prepareStream_not_assigns hf) (hu _))
  constructor
  · have hcreate : (create (P := stmKCode) { init := failing, free := () }).Exposes s
        (.own StmKField.semReady) := by
      exact exposes_create_iff.mpr (.inr ⟨failing_not_assigns, failing_result,
        stmCleanup_exposes_semReady⟩)
    exact (h { init := failing, free := (), uses := [] }).reads _ (exposes_life_of_create hcreate)
  · exact hcounter .testPending .pendingIo (.inl rfl) fun t => by simp [StmKUse.code]
  · exact hcounter .countAPC .aPCTransferQueueCount (.inr (.inl rfl)) fun t => by
      simp [StmKUse.code, addAPCTransferQueueCount]
  · exact hcounter .callbacks .xferItemsCount (.inr (.inr rfl)) fun t => by
      simp [StmKUse.code]

/-- **A slot has forgotten its past exactly if it is clean.** -/
theorem pastForgotten_iff {s : SlotState stmKCode} (hfree : s.live = false) :
    PastForgotten s ↔ StmKSlot.Clean s.slot :=
  ⟨fun h => .of_behavesSame (h hfree), fun h _ l => h.behavesSame l⟩

/-! ### Histories -/

/-- The step leaves a slot without a semaphore, and counters at zero.  A stream is freed
without a semaphore when both counters are at zero, none is made for a stream that cannot be
created, and nothing is counted when the stream is gone. -/
def leavesClean (s : SlotState stmKCode) : SlotEvent stmKCode → Prop
  | .create c =>
    ¬(StmKSlotInit.SemaphoreMade c.init ∧ StmKSlotInit.incUsbK c.init = false)
  | .use u => s.live = true ∨ StmKUse.pendingDelta s.slot u = 0 ∧ StmKUse.apcDelta u = 0
  | .free _ _ =>
    StmKSlot.semReady s.slot = 0 ∧ StmKSlot.pendingIo s.slot = 0 ∧
      StmKSlot.aPCTransferQueueCount s.slot = 0

/-- A slot between two steps. -/
def Inv (s : SlotState stmKCode) : Prop :=
  if s.live then StmKSlot.xferItemsCount s.slot = 0 else Clean s.slot

/-- The clean-up writes none of the fields. -/
theorem stmCleanup_clean_iff : Clean (stmCleanup.final s) ↔ s.Clean := by
  have hkept : ∀ f : StmKField, f ≠ .heap → stmCleanup.final s (.own f) = s (.own f) :=
    fun f hf => Access.final_of_not_assigns fun h => hf (stmCleanup_assigns h)
  constructor
  · exact fun ⟨hsem, hpending, hapc, hitems⟩ =>
      ⟨(hkept _ (by decide)).symm.trans hsem, (hkept _ (by decide)).symm.trans hpending,
        (hkept _ (by decide)).symm.trans hapc, (hkept _ (by decide)).symm.trans hitems⟩
  · exact fun ⟨hsem, hpending, hapc, hitems⟩ =>
      ⟨(hkept _ (by decide)).trans hsem, (hkept _ (by decide)).trans hpending,
        (hkept _ (by decide)).trans hapc, (hkept _ (by decide)).trans hitems⟩

theorem prepareStream_final
    (hf : f = .pendingIo ∨ f = .aPCTransferQueueCount ∨ f = .xferItemsCount) :
    (prepareStream a).final s (.own f) = s (.own f) :=
  Access.final_of_not_assigns (prepareStream_not_assigns hf)

/-- A stream that cannot be made in a clean slot. -/
theorem Clean.fails_clean_iff (hs : s.Clean) (h : (prepareStream a).result s = false) :
    Clean ((prepareStream a).final s) ↔ ¬(a.SemaphoreMade ∧ a.incUsbK = false) := by
  rw [prepareStream_result, decide_eq_false_iff_not] at h
  have hiff : (prepareStream a).final s (.own .semReady) = (0 : ℤ) ↔
      ¬(a.SemaphoreMade ∧ a.incUsbK = false) := by
    rw [prepareStream_semReady, hs.semReady, StmKSlotInit.SemaphoreMade]
    by_cases hmemory : a.MemoryMade
    · cases huse : a.useTimeout with
      | false => simp
      | true =>
        rw [if_pos hmemory]
        by_cases hsem : a.createSemaphore = 0
        · simp [hsem]
        · simpa [hmemory, huse, hsem] using h
    · simp [hmemory]
  rw [← hiff]
  refine ⟨Clean.semReady, fun h => ⟨h, ?_, ?_, ?_⟩⟩
  · exact (prepareStream_final (.inl rfl)).trans hs.pendingIo
  · exact (prepareStream_final (.inr (.inl rfl))).trans hs.aPCTransferQueueCount
  · exact (prepareStream_final (.inr (.inr rfl))).trans hs.xferItemsCount

/-- A use that comes late. -/
theorem Clean.use_clean_iff (hs : s.Clean) (u : StmKUse) :
    Clean (u.code.final s) ↔ u.pendingDelta s = 0 ∧ u.apcDelta = 0 := by
  have hkept := use_kept (s := s) u
  have hpending := hkept.pendingIo
  have hapc := hkept.aPCTransferQueueCount
  rw [hs.pendingIo, Int.zero_add] at hpending
  rw [hs.aPCTransferQueueCount, Int.zero_add] at hapc
  rw [← hpending, ← hapc]
  refine ⟨fun h => ⟨h.pendingIo, h.aPCTransferQueueCount⟩, fun h => ⟨?_, h.1, h.2, ?_⟩⟩
  · exact hkept.semReady.trans hs.semReady
  · exact hkept.xferItemsCount.trans hs.xferItemsCount

/-- A stream is freed. -/
theorem freed_clean_iff {thread : ℤ} (hitems : s.xferItemsCount = 0)
    (ht : ∀ f, t (.own f) = stmCleanup.final (disposing thread s) (.own f)) :
    t.Clean ↔ s.semReady = 0 ∧ s.pendingIo = 0 ∧ s.aPCTransferQueueCount = 0 := by
  rw [Clean.congr ht, stmCleanup_clean_iff, Clean.congr fun f => disposing_own thread f]
  exact ⟨fun h => ⟨h.semReady, h.pendingIo, h.aPCTransferQueueCount⟩,
    fun ⟨hsem, hpending, hapc⟩ => ⟨hsem, hpending, hapc, hitems⟩⟩

/-- A stream cannot be created. -/
theorem Clean.failed_clean_iff (hs : s.Clean) {c : SectionCode.Creation stmKCode}
    (hresult : (prepareStream c.init).result (c.acquired s) = false)
    (ht : ∀ f, t (.own f) = stmCleanup.final (c.failed s) (.own f)) :
    t.Clean ↔ ¬(StmKSlotInit.SemaphoreMade c.init ∧ StmKSlotInit.incUsbK c.init = false) := by
  have hacquired : Clean (c.acquired s) := (Clean.congr (c.acquired_own s)).mpr hs
  exact (Clean.congr ht).trans (stmCleanup_clean_iff.trans
    ((Clean.congr (c.failed_own s)).trans (hacquired.fails_clean_iff hresult)))

theorem Inv.step {s t : SlotState stmKCode} {e : SlotEvent stmKCode} (hs : Inv s)
    (hok : leavesClean s e) (h : (slotLives stmKCode).step s e = some t) : Inv t := by
  obtain ⟨live, s⟩ := s
  cases Step.of_step h with
  | creates c hfree hresult =>
    obtain rfl : live = false := hfree
    have hclean : Clean s := hs
    have hitems : (prepareStream c.init).final (c.acquired s) (.own .xferItemsCount) =
        c.acquired s (.own StmKField.xferItemsCount) := prepareStream_final (.inr (.inr rfl))
    exact hitems.trans ((c.acquired_own s _).trans hclean.xferItemsCount)
  | fails c hfree hresult t ht =>
    obtain rfl : live = false := hfree
    have hclean : Clean s := hs
    exact (hclean.failed_clean_iff hresult ht).mpr hok
  | use u =>
    cases live with
    | false =>
      have hclean : Clean s := hs
      exact (hclean.use_clean_iff u).mpr (hok.resolve_left Bool.false_ne_true)
    | true =>
      have hitems : StmKSlot.xferItemsCount s = 0 := hs
      exact (use_kept u).xferItemsCount.trans hitems
  | frees thread x hlive t ht =>
    obtain rfl : live = true := hlive
    exact (freed_clean_iff hs ht).mpr hok

/-- A step that is not as it should be leaves a slot that remembers. -/
theorem leavesClean_of_pastForgotten {s t : SlotState stmKCode} {e : SlotEvent stmKCode}
    (hs : Inv s) (h : (slotLives stmKCode).step s e = some t) (ht : PastForgotten t) :
    leavesClean s e := by
  obtain ⟨live, s⟩ := s
  cases Step.of_step h with
  | creates c hfree hresult =>
    -- the reference to the USB handle has been taken
    exact fun hmade => Bool.false_ne_true (hmade.2.symm.trans (incUsbK_of_success hresult))
  | fails c hfree hresult t heq =>
    obtain rfl : live = false := hfree
    have hclean : Clean s := hs
    exact (hclean.failed_clean_iff hresult heq).mp ((pastForgotten_iff rfl).mp ht)
  | use u =>
    cases live with
    | true => exact .inl rfl
    | false =>
      have hclean : Clean s := hs
      exact .inr ((hclean.use_clean_iff u).mp ((pastForgotten_iff rfl).mp ht))
  | frees thread x hlive t heq =>
    obtain rfl : live = true := hlive
    exact (freed_clean_iff hs heq).mp ((pastForgotten_iff rfl).mp ht)

theorem pastForgotten_iff_throughout (h : List (SlotEvent stmKCode)) :
    (slotLives stmKCode).Always PastForgotten (fresh stmKCode) h ↔
      (slotLives stmKCode).Throughout leavesClean (fresh stmKCode) h := by
  refine Machine.always_iff_throughout (I := Inv) (fun s hs => ?_) (fun _ _ _ => Inv.step)
    (fun _ _ _ => leavesClean_of_pastForgotten) ?_
  · intro hfree l
    obtain ⟨live, s⟩ := s
    obtain rfl : live = false := hfree
    have hclean : Clean s := hs
    exact hclean.behavesSame l
  · exact (⟨rfl, rfl, rfl, rfl⟩ : Clean stmKCode.zeroSlot)

end StmKSlot

end LibusbK
