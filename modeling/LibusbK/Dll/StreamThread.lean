import LibusbK.Dll.Stream
import LibusbK.Lib.DList
import LibusbK.Lib.Machine

/-!
# The stream thread

`Stm_ThreadProc` of `lusbk_queued_stream.c`, with the functions its loop calls:
`Stm_Thread_ProcessQueued` submits a queued transfer with a free overlapped, and
`Stm_Thread_ProcessPending` waits for the oldest submitted one.

The free overlapped objects are the nodes of `ovlList`.  An overlapped in use
keeps the pointers it had when it was taken, and its completion deletes it from
`ovlList` once more, so the list is kept with its pointers.  Transfers have each
their overlapped; the overlapped objects are the numbers below `MaxPendingIO`.

## Main definitions

* `StmThread` — the thread, with the handle it serves.
* `processQueued`, `processPending` — the two functions.
* `stmThread` — the thread as a machine.
-/

namespace LibusbK

/-! ### State -/

/-- Where `Stm_ThreadProc` is: at the condition of its loop, before
`Stm_Thread_ProcessQueued`, before `Stm_Thread_ProcessPending`, and in the loop
that waits for pending transfers at the end. -/
inductive ThreadPhase
  | loop
  | queued
  | pending
  | done
  deriving DecidableEq, Repr

/-- `KSTM_THREAD_INTERNAL` and the variables of `Stm_ThreadProc`.  A pending
transfer stands with its `Xfer->Overlapped`; `ovlList` is `none` once a null
pointer was followed. -/
structure StmThread where
  handle : StmHandle
  ovlList : Option (DList ℕ)
  pendingList : List (XferItem × ℕ) := []
  errorCode : UInt32 := ERROR_SUCCESS
  success : Bool := false
  noWaiting : Bool := false
  exitCode : UInt32 := ERROR_SUCCESS
  phase : ThreadPhase := .loop

namespace StmThread

/-- The overlapped objects of the pending transfers. -/
def overlappeds (stm : StmThread) : List ℕ := stm.pendingList.map Prod.snd

end StmThread

/-- `Stm_Thread_Alloc_Ovl`, when every allocation succeeds: the overlapped objects
below `maxPendingIo`, appended one after the other. -/
def allocOvl : ℕ → Option (DList ℕ)
  | 0 => some .empty
  | n + 1 => (allocOvl n).bind fun ovlList => ovlList.append n

/-! ### `Stm_Thread_ProcessQueued` -/

/-- `KSTM_THREAD_RESULT`. -/
inductive ThreadResult
  | itemProcessed
  | overlappedEmpty
  | queueEmpty
  | submitError
  deriving DecidableEq, Repr

/-- A transfer item as it is submitted: from the start of its buffer, and for its
whole size if it is read into. -/
def XferItem.reset (isIn : Bool) (item : XferItem) : XferItem :=
  { item with
    context :=
      { buffer := 0
        bufferSize := item.bufferSize
        transferLength := if isIn then item.bufferSize else item.context.transferLength } }

/-- `Stm_Thread_ProcessQueued` on the list `ovlList`; `submit` is what
`UserCB->Submit` returns. -/
def processQueued (submit : UInt32) (stm : StmThread) (ovlList : DList ℕ) :
    ThreadResult × StmThread :=
  match ovlList.head, stm.handle.queued with
  | none, _ => (.overlappedEmpty, stm)
  | some _, [] => (.queueEmpty, stm)
  | some ovlNext, xferNext :: queued =>
    let xferNext := xferNext.reset stm.handle.isIn
    let taken := ovlList.delete ovlNext
    if submit ≠ ERROR_IO_PENDING ∧ submit ≠ ERROR_SUCCESS then
      (.submitError,
        { stm with
          handle := { stm.handle with queued := xferNext :: queued }
          ovlList := taken.map fun l => l.prepend ovlNext
          errorCode := submit })
    else
      (.itemProcessed,
        { stm with
          handle := { stm.handle with queued := queued, pendingIO := stm.handle.pendingIO + 1 }
          ovlList := taken
          pendingList := stm.pendingList ++ [(xferNext, ovlNext)]
          errorCode := submit })

/-! ### `Stm_Thread_ProcessPending` -/

/-- How the wait for an overlapped ends; a wait that fails is repeated. -/
inductive WaitResult
  | userApc
  | object0
  | timeout
  deriving DecidableEq, Repr

/-- What happens while `Stm_Thread_ProcessPending` runs. -/
structure PendingOutcome where
  wait : WaitResult := .object0
  /-- `GetOverlappedResult`: the error it fails with, the length it stores and the
  content of the buffer. -/
  overlappedError : Option UInt32 := none
  transferLength : ℕ := 0
  data : List UInt8 := []
  /-- What `UserCB->Error` returns, if it is set. -/
  error : Option UInt32 := none
  /-- Whether `UserCB->BeforeComplete` accepts the transfer, and the error code it
  leaves, if it is set. -/
  beforeComplete : Option (Bool × UInt32) := none
  /-- The try-lock of the `Finished` list succeeds. -/
  tryLock : Bool := true
  /-- What `UserCB->Complete` returns, if it is set. -/
  complete : Option UInt32 := none

/-- The wait of `Stm_Thread_ProcessPending` ends with the oldest transfer done. -/
def PendingOutcome.completes (o : PendingOutcome) (stm : StmThread) : Bool :=
  stm.noWaiting || o.wait == .object0

/-- The error code and the success flag after `GetOverlappedResult` and the
`Error` callback. -/
def overlappedResult (o : PendingOutcome) : UInt32 × Bool :=
  match o.overlappedError with
  | none => (ERROR_SUCCESS, true)
  | some errorCode =>
    if errorCode = ERROR_OPERATION_ABORTED ∨ errorCode = ERROR_CANCELLED then (errorCode, true)
    else
      match o.error with
      | none => (errorCode, false)
      | some errorCode => (errorCode, errorCode == ERROR_SUCCESS)

/-- The end of `Stm_Thread_ProcessPending`: the item goes back to the queue if
`BeforeComplete` refuses it, and is finished otherwise. -/
def finishTransfer (o : PendingOutcome) (item : XferItem) (result : UInt32 × Bool)
    (stm : StmThread) : StmThread :=
  let decision := o.beforeComplete.getD (true, result.1)
  if !decision.1 then
    { stm with
      handle :=
        { stm.handle with
          queued := stm.handle.queued ++ [item], pendingIO := stm.handle.pendingIO - 1 }
      errorCode := decision.2
      success := false }
  else
    let handle :=
      if o.tryLock then stm.handle.synchronizeFinishedList (some item)
      else { stm.handle with finishedTemp := stm.handle.finishedTemp ++ [item] }
    let errorCode := o.complete.getD decision.2
    { stm with
      handle := { handle with pendingIO := handle.pendingIO - 1 }
      errorCode := errorCode
      success := if o.complete.isSome then errorCode == ERROR_SUCCESS else result.2 }

/-- `Stm_Thread_ProcessPending` on the list `ovlList`; its result is `success`. -/
def processPending (o : PendingOutcome) (stm : StmThread) (ovlList : DList ℕ) : StmThread :=
  match stm.pendingList with
  | [] => { stm with errorCode := ERROR_NO_MORE_ITEMS, success := false }
  | (xferNext, ovlNext) :: pendingList =>
    if !o.completes stm then
      { stm with
        errorCode := if o.wait = .userApc then STATUS_USER_APC else ERROR_IO_INCOMPLETE
        success := false }
    else
      let item :=
        { xferNext with
          data := if stm.handle.isIn then o.data else xferNext.data
          context := { xferNext.context with transferLength := o.transferLength } }
      finishTransfer o item (overlappedResult o)
        { stm with ovlList := ovlList.readd ovlNext, pendingList := pendingList }

/-! ### `Stm_ThreadProc` -/

/-- What can happen in a run of the thread.  `callers` is the user working on the
`Finished` list and its semaphore, `transferListApc` a call of the user being
delivered in an alertable wait, and `stop` a call of `StmK_Stop`. -/
inductive StmThreadEvent
  | callers (finished : List XferItem) (semReady : Option ℕ)
  | transferListApc (xferSubmitList : List XferItem)
  | stop
  | loop (tryLock : Bool)
  | processQueued (submit : UInt32)
  | processPending (outcome : PendingOutcome)

/-- `Stm_ThreadProc` leaves its loop. -/
def leaveLoop (stm : StmThread) : StmThread :=
  { stm with
    handle := { stm.handle with threadState := .stopping }.synchronizeFinishedList none
    phase := .done }

/-- What `Stm_ThreadProc` does with the result of `Stm_Thread_ProcessQueued`. -/
def afterProcessQueued : ThreadResult × StmThread → StmThread
  | (.itemProcessed, stm) => stm
  | (.submitError, stm) => leaveLoop { stm with exitCode := stm.errorCode }
  | (_, stm) => { stm with phase := .pending }

/-- What the loop of `Stm_ThreadProc` does with the result of
`Stm_Thread_ProcessPending`. -/
def afterProcessPending (stm : StmThread) : StmThread :=
  { stm with
    exitCode :=
      if stm.success || stm.errorCode == STATUS_USER_APC ||
          stm.errorCode == ERROR_IO_INCOMPLETE || stm.errorCode == ERROR_NO_MORE_ITEMS then
        stm.exitCode
      else stm.errorCode
    phase := .loop }

/-- What the loop at the end of `Stm_ThreadProc` does with it: after a timeout it
cancels all transfers and waits no more. -/
def afterLastProcessPending (stm : StmThread) : StmThread :=
  if !stm.success ∧ stm.errorCode = ERROR_IO_INCOMPLETE then { stm with noWaiting := true }
  else stm

/-- The stream thread, until it frees its overlapped objects. -/
def stmThread : Machine StmThread StmThreadEvent where
  step stm event :=
    match stm.ovlList, event, stm.phase with
    | none, _, _ => none
    | some _, .callers finished semReady, _ =>
      some { stm with handle := { stm.handle with finished := finished, semReady := semReady } }
    | some _, .transferListApc xferSubmitList, .pending =>
      some { stm with handle := stm.handle.transferListAPC xferSubmitList }
    | some _, .transferListApc xferSubmitList, .done =>
      some { stm with handle := stm.handle.transferListAPC xferSubmitList }
    | some _, .stop, _ =>
      some { stm with handle := { stm.handle with threadState := .stopping } }
    | some _, .loop tryLock, .loop =>
      if stm.handle.threadState = .started ∧ stm.exitCode = ERROR_SUCCESS then
        let handle :=
          if stm.handle.finishedTemp ≠ [] ∧ tryLock then stm.handle.synchronizeFinishedList none
          else stm.handle
        some { stm with handle := handle, phase := .queued }
      else some (leaveLoop stm)
    | some ovlList, .processQueued submit, .queued =>
      some (afterProcessQueued (processQueued submit stm ovlList))
    | some ovlList, .processPending outcome, .pending =>
      some (afterProcessPending (processPending outcome stm ovlList))
    | some ovlList, .processPending outcome, .done =>
      if 0 < stm.handle.pendingIO then
        some (afterLastProcessPending (processPending outcome stm ovlList))
      else none
    | some _, _, _ => none

end LibusbK
