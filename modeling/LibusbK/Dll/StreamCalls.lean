import LibusbK.Dll.StreamThread
import LibusbK.Dll.StreamWrite

/-!
# A stream and its callers

The calls of `StmK_Read` and `StmK_Write`, `StmK_Start`, `StmK_Stop` and the stream thread,
step by step.  A call holds `List.FinishedLock` while it works on the `Finished` list.  It
tests `Thread.State`, queues the APC that carries its items and increments
`APCTransferQueueCount` in steps of their own; the stream thread takes APCs when it waits.

## Main definitions

* `UserPc`, `UserPc.run` — where a call is, and its next step.
* `ThreadLife` — where the stream thread is.
* `streamRun` — the machine.
* `stmKInit`, `StreamRun.start` — a stream that has been initialised.
-/

namespace LibusbK

/-! ### Calls -/

/-- A call of `StmK_Read` or `StmK_Write`. -/
inductive StreamCall
  | read (call : StmKReadCall)
  | write (call : StmKWriteCall)
  deriving DecidableEq, Repr

namespace StreamCall

/-- `Buffer` holds the bytes that are to be written. -/
def valid : StreamCall → Bool
  | read _ => true
  | write call => decide (call.length.toNat ≤ call.data.length)

/-- The checks before the call waits for an item. -/
def accepted (handle : StmHandle) : StreamCall → Bool
  | read call => call.accepted handle
  | write call => call.accepted handle

/-- The loop over the `Finished` list. -/
def take (handle : StmHandle) : StreamCall → Taken
  | read call => takeFinished 1 handle.finished handle.semReady call.length.toNat
  | write call =>
    fillFinished 1 handle.finished handle.semReady (call.data.take call.length.toNat)

/-- The caller wants to know how much is transferred. -/
def transferredLength : StreamCall → Bool
  | read call => call.transferredLength
  | write call => call.transferredLength

/-- What `QueueUserAPC` returns for a thread that has not ended. -/
def queueUserAPC : StreamCall → Bool
  | read call => call.queueUserAPC
  | write call => call.queueUserAPC

/-- `mStm_CheckPartialTransfer` goes to its error label. -/
def refusesPartial (handle : StmHandle) (taken : Taken) (call : StreamCall) : Bool :=
  decide (0 < taken.length) && (handle.noPartialXfers || !call.transferredLength)

/-- The call can return `FALSE`: `StmK_Write` stores to a null `TransferredLength` first, and
that is the end of the process. -/
def canFail : StreamCall → Bool
  | read _ => true
  | write call => call.transferredLength

/-- The call is one of `StmK_Write`. -/
def isWrite : StreamCall → Bool
  | read _ => false
  | write _ => true

/-- An IN stream accepts reads, an OUT stream writes. -/
theorem isWrite_of_accepted {handle : StmHandle} {call : StreamCall}
    (h : call.accepted handle = true) : call.isWrite = !handle.isIn := by
  cases call with
  | read call =>
    have hisIn : handle.isIn = true := by
      simp only [accepted, StmKReadCall.accepted, Bool.and_eq_true] at h
      exact h.1.2
    rw [hisIn]
    rfl
  | write call =>
    have hisOut : handle.isIn = false := by
      simp only [accepted, StmKWriteCall.accepted, Bool.and_eq_true, Bool.not_eq_true'] at h
      exact h.1.2
    rw [hisOut]
    rfl

end StreamCall

/-- What a call does next. -/
inductive UserPc
  /-- `mStm_SpinLockForTransferRequest`, up to the lock. -/
  | waits (call : StreamCall)
  | acquires (call : StreamCall)
  /-- The call holds the lock. -/
  | takes (call : StreamCall)
  | releasesEmpty (call : StreamCall)
  | releases (call : StreamCall) (taken : Taken)
  /-- `mStm_CheckPartialTransfer`, and the test of `Thread.State`. -/
  | tests (call : StreamCall) (taken : Taken)
  | queues (call : StreamCall) (taken : Taken)
  | counts
  | appends (taken : Taken)
  /-- The error label: the items go back. -/
  | reacquires (call : StreamCall) (taken : Taken)
  | putsBack (call : StreamCall) (taken : Taken)
  | releasesBack (call : StreamCall)
  deriving DecidableEq, Repr

/-- What a call has taken off the `Finished` list and not handed over. -/
def UserPc.taken : UserPc → Option Taken
  | releases _ taken => some taken
  | tests _ taken => some taken
  | queues _ taken => some taken
  | appends taken => some taken
  | reacquires _ taken => some taken
  | putsBack _ taken => some taken
  | _ => none

/-- The items among it. -/
def UserPc.items (pc : UserPc) : List XferItem :=
  match pc.taken with
  | none => []
  | some taken => taken.xferSubmitList

/-- The items are changed by `f`. -/
def Taken.mapItems (f : XferItem → XferItem) (taken : Taken) : Taken :=
  { taken with xferSubmitList := taken.xferSubmitList.map f }

/-- The items the call has taken are changed by `f`. -/
def UserPc.mapItems (f : XferItem → XferItem) : UserPc → UserPc
  | releases call taken => releases call (taken.mapItems f)
  | tests call taken => tests call (taken.mapItems f)
  | queues call taken => queues call (taken.mapItems f)
  | appends taken => appends (taken.mapItems f)
  | reacquires call taken => reacquires call (taken.mapItems f)
  | putsBack call taken => putsBack call (taken.mapItems f)
  | pc => pc

/-- The call, before it has taken anything. -/
def UserPc.waiting : UserPc → Option StreamCall
  | waits call => some call
  | acquires call => some call
  | takes call => some call
  | _ => none

/-- The call has waited for an item it has not come to. -/
def UserPc.awaits : UserPc → Bool
  | acquires _ => true
  | takes _ => true
  | releasesEmpty _ => true
  | _ => false

/-! ### The state -/

/-- Where the stream thread is. -/
inductive ThreadLife
  /-- There is none. -/
  | ended
  | starting
  /-- In the loop of `Stm_ThreadProc`, where its `phase` says. -/
  | running
  /-- At the label `Done`. -/
  | leaving
  | synchronizing
  /-- At the condition of the loop that waits for pending transfers and APCs. -/
  | testing
  /-- In the body of that loop. -/
  | draining
  /-- The loop is left. -/
  | left
  deriving DecidableEq, Repr

/-- A thread that has left its last loop, or not entered its first. -/
def ThreadLife.isIdle : ThreadLife → Bool
  | .ended => true
  | .starting => true
  | .left => true
  | _ => false

/-- `FinishedTemp` has been synchronized for the last time. -/
def ThreadLife.isFlushed : ThreadLife → Bool
  | .testing => true
  | .draining => true
  | life => life.isIdle

/-- A stream, its thread and the calls of its users.  `apcs` are the lists of items that APCs
of the thread carry; they go when the thread ends.  The fields after `users` are what an
observer notes. -/
structure StreamRun where
  stm : StmThread
  life : ThreadLife := .ended
  locked : Bool := false
  apcs : List (List XferItem) := []
  users : List (Option UserPc)
  /-- The bytes of the calls that succeed. -/
  transferred : List UInt8 := []
  /-- The bytes of the transfers that were submitted. -/
  submitted : List UInt8 := []
  /-- A call has failed. -/
  failed : Bool := false

namespace StreamRun

variable (s : StreamRun)

/-- The handle of the stream. -/
abbrev handle : StmHandle := s.stm.handle

/-- The handle is changed. -/
def withHandle (handle : StmHandle) : StreamRun := { s with stm := { s.stm with handle := handle } }

/-- User `k` goes on with `pc`, or is done with the call. -/
def goOn (k : ℕ) (pc : Option UserPc) : StreamRun := { s with users := s.users.set k pc }

/-- The call of user `k` returns `FALSE`. -/
def fails (k : ℕ) (call : StreamCall) : Option StreamRun :=
  if call.canFail then some { s.goOn k none with failed := true } else none

/-- The call of user `k` goes to its error label. -/
def failsWith (k : ℕ) (call : StreamCall) (taken : Taken) : Option StreamRun :=
  if taken.xferSubmitList = [] then s.fails k call
  else some { s.goOn k (some (.reacquires call taken)) with failed := true }

/-- The items of the stream are changed by `f`, in whatever list they are. -/
def mapItems (f : XferItem → XferItem) : StreamRun :=
  { s with
    stm :=
      { s.stm with
        handle :=
          { s.handle with
            queued := s.handle.queued.map f
            finished := s.handle.finished.map f
            finishedTemp := s.handle.finishedTemp.map f }
        pendingList := s.stm.pendingList.map fun p => (f p.1, p.2) }
    apcs := s.apcs.map fun items => items.map f
    users := s.users.map fun user => user.map (UserPc.mapItems f) }

/-- The error label of a call restores the context of the item it took a part of. -/
def restore (backup : Option XferItem) : StreamRun :=
  match backup with
  | none => s
  | some old =>
    s.mapItems fun item =>
      if item.index = old.index then { item with context := old.context } else item

/-- The error label of a call puts the items back, each in front of the `Finished` list. -/
def putBack (items : List XferItem) : StreamRun :=
  s.withHandle
    { s.handle with
      finished := items.foldl (fun list item => item :: list) s.handle.finished
      semReady := s.handle.semReady.map (· + items.length) }

end StreamRun

/-- The next step of user `k`, whose call is at this point. -/
def UserPc.run (s : StreamRun) (k : ℕ) : UserPc → Option StreamRun
  | waits call =>
    match s.handle.semReady with
    | none =>
      if s.handle.finished = [] then s.fails k call else some (s.goOn k (some (acquires call)))
    | some 0 => s.fails k call
    | some (n + 1) =>
      some ((s.withHandle { s.handle with semReady := some n }).goOn k (some (acquires call)))
  | acquires call =>
    if s.locked then none else some { s.goOn k (some (takes call)) with locked := true }
  | takes call =>
    if s.handle.finished = [] then some (s.goOn k (some (releasesEmpty call)))
    else
      let taken := call.take s.handle
      some ((s.withHandle
        { s.handle with finished := taken.finished, semReady := taken.semReady }).goOn k
          (some (releases call taken)))
  | releasesEmpty call =>
    StreamRun.fails { s.withHandle (s.handle.releaseSemaphore 1) with locked := false } k call
  | releases call taken => some { s.goOn k (some (tests call taken)) with locked := false }
  | tests call taken =>
    if call.refusesPartial s.handle taken then s.failsWith k call taken
    else if taken.xferSubmitList ≠ [] ∧ s.handle.threadState = .started then
      some (s.goOn k (some (queues call taken)))
    else some (s.goOn k (some (appends taken)))
  | queues call taken =>
    if call.queueUserAPC ∧ s.life ≠ .ended then
      some
        { s.goOn k (some counts) with
          apcs := s.apcs ++ [taken.xferSubmitList]
          transferred := s.transferred ++ taken.data }
    else s.failsWith k call taken
  | counts =>
    some ((s.withHandle
      { s.handle with aPCTransferQueueCount := s.handle.aPCTransferQueueCount + 1 }).goOn k none)
  | appends taken =>
    some
      { (s.withHandle { s.handle with queued := s.handle.queued ++ taken.xferSubmitList }).goOn k
          none with
        transferred := s.transferred ++ taken.data }
  | reacquires call taken =>
    if s.locked then none else some { s.goOn k (some (putsBack call taken)) with locked := true }
  | putsBack call taken =>
    some
      { ((s.restore taken.backupXferItem).putBack taken.xferSubmitList).goOn k
          (some (releasesBack call)) with
        failed := true }
  | releasesBack call => StreamRun.fails { s with locked := false } k call

/-! ### The machine -/

/-- What happens in a run: a user calls or takes the next step of a call, the stream is
started or stopped, an APC is delivered, and the steps of the stream thread. -/
inductive StreamEvent
  | call (k : ℕ) (call : StreamCall)
  | user (k : ℕ)
  | start
  | startFails
  | stop
  | deliver
  /-- `Stm_Thread_Alloc_Ovl` fails. -/
  | allocFails
  | started
  | loop
  | processQueued (submit : UInt32)
  | processPending (outcome : PendingOutcome)
  | leave
  | synchronize
  | test
  | sleep
  | exit

namespace StreamRun

variable (s : StreamRun)

/-- The stream thread is in an alertable wait, or about to run for the first time. -/
def alertable : Bool :=
  s.life == .starting || (s.life == .running && s.stm.phase == .pending) || s.life == .draining

/-- The user `k` calls. -/
def calls (k : ℕ) (call : StreamCall) : Option StreamRun :=
  if call.valid then
    if call.accepted s.handle then some (s.goOn k (some (.waits call))) else s.fails k call
  else none

/-- The condition of the loop of `Stm_ThreadProc`, and `FinishedTemp` after it. -/
def loop : StreamRun :=
  if s.handle.threadState = .started ∧ s.stm.exitCode = ERROR_SUCCESS then
    { s with
      stm :=
        { s.stm with
          handle :=
            if s.handle.finishedTemp ≠ [] ∧ !s.locked then s.handle.synchronizeFinishedList none
            else s.handle
          phase := .queued } }
  else { s with life := .leaving }

/-- `Stm_Thread_ProcessQueued`, and what the loop does with its result. -/
def queuedStep (submit : UInt32) (ovlList : DList ℕ) : StreamRun :=
  match processQueued submit s.stm ovlList with
  | (.itemProcessed, stm) =>
    { s with
      stm := stm
      submitted := s.submitted ++ (s.handle.queued.head?.elim [] XferItem.payload) }
  | (.submitError, stm) =>
    { s with stm := { stm with exitCode := stm.errorCode }, life := .leaving }
  | (_, stm) => { s with stm := { stm with phase := .pending } }

/-- `Stm_Thread_ProcessPending`, and what the loop it is called from does with its result. -/
def pendingStep (outcome : PendingOutcome) (ovlList : DList ℕ) : Option StreamRun :=
  let stm := processPending { outcome with tryLock := !s.locked } s.stm ovlList
  if s.life = .running ∧ s.stm.phase = .pending then
    some { s with stm := afterProcessPending stm }
  else if s.life = .draining ∧ 0 < s.handle.pendingIO then
    some { s with stm := afterLastProcessPending stm, life := .testing }
  else none

end StreamRun

/-- A stream with `maxPendingIo` overlapped objects. -/
def streamRun (maxPendingIo : ℕ) : Machine StreamRun StreamEvent where
  step s
    | .call k call =>
      match s.users[k]? with
      | some none => s.calls k call
      | _ => none
    | .user k =>
      match s.users[k]? with
      | some (some pc) => pc.run s k
      | _ => none
    | .start =>
      if s.handle.threadState = .stopped ∧ s.life = .ended then
        some
          { s with
            stm :=
              { handle := { s.handle with threadState := .starting }
                ovlList := allocOvl maxPendingIo }
            life := .starting }
      else none
    | .startFails =>
      if s.life = .starting then
        some
          { s.withHandle { s.handle with threadState := .stopped } with
            life := .ended
            apcs := [] }
      else none
    | .stop =>
      if s.handle.threadState = .started then
        some (s.withHandle { s.handle with threadState := .stopping })
      else none
    | .deliver =>
      match s.apcs with
      | [] => none
      | xferSubmitList :: apcs =>
        if s.alertable then
          some { s.withHandle (s.handle.transferListAPC xferSubmitList) with apcs := apcs }
        else none
    | .allocFails => if s.life = .starting then some { s with life := .leaving } else none
    | .started =>
      if s.life = .starting then
        some { s.withHandle { s.handle with threadState := .started } with life := .running }
      else none
    | .loop => if s.life = .running ∧ s.stm.phase = .loop then some s.loop else none
    | .processQueued submit =>
      if s.life = .running ∧ s.stm.phase = .queued then s.stm.ovlList.map (s.queuedStep submit)
      else none
    | .processPending outcome => s.stm.ovlList.bind (s.pendingStep outcome)
    | .leave =>
      if s.life = .leaving then
        some { s.withHandle { s.handle with threadState := .stopping } with life := .synchronizing }
      else none
    | .synchronize =>
      if s.life = .synchronizing ∧ !s.locked then
        some { s.withHandle (s.handle.synchronizeFinishedList none) with life := .testing }
      else none
    | .test =>
      if s.life = .testing then
        some
          { s with
            life :=
              if 0 < s.handle.pendingIO ∨ 0 < s.handle.aPCTransferQueueCount then .draining
              else .left }
      else none
    | .sleep =>
      if s.life = .draining ∧ s.handle.pendingIO = 0 then some { s with life := .testing } else none
    | .exit =>
      if s.life = .left then
        some
          { s.withHandle { s.handle with threadState := .stopped } with
            life := .ended
            apcs := [] }
      else none

/-- The thread ends, or a new one begins. -/
def StreamEvent.changesThread : StreamEvent → Bool
  | .start => true
  | .startFails => true
  | .exit => true
  | _ => false

/-- The callbacks `Error`, `BeforeComplete` and `Complete` are not set. -/
def StreamEvent.usesDefaults : StreamEvent → Bool
  | .processPending outcome =>
    outcome.error.isNone && outcome.beforeComplete.isNone && outcome.complete.isNone
  | _ => true

/-! ### A stream that has been initialised -/

/-- The transfer items of `StmK_Init`. -/
def newItems (maxTransferSize maxPendingTransfers : ℕ) : List XferItem :=
  (List.range maxPendingTransfers).map fun i =>
    { index := i
      bufferSize := maxTransferSize
      data := List.replicate maxTransferSize 0
      context := { buffer := 0, bufferSize := maxTransferSize, transferLength := 0 } }

/-- The stream `StmK_Init` makes. -/
def stmKInit (isIn noPartialXfers useTimeout : Bool) (maxTransferSize maxPendingTransfers : ℕ) :
    StmHandle where
  isIn := isIn
  noPartialXfers := noPartialXfers
  queued := if isIn then newItems maxTransferSize maxPendingTransfers else []
  finished := if isIn then [] else newItems maxTransferSize maxPendingTransfers
  semReady := if useTimeout then some (if isIn then 0 else maxPendingTransfers) else none

/-- A stream with `users` users, before it is started. -/
def StreamRun.start (handle : StmHandle) (users : ℕ) : StreamRun where
  stm := { handle := handle, ovlList := some .empty }
  users := List.replicate users none

end LibusbK
