import LibusbK.Dll.OverlappedWait
import LibusbK.Lib.Machine
import Mathlib.Tactic.SplitIfs

/-!
# Synchronous ioctls with a timeout

`Ioctl_SyncWithTimeout` of `lusbk_ioctl.c`.  The `OVERLAPPED` of the operation and its event
are the call's own.  Each call of the system is a step here, and so is the end of the operation,
which may come between any two of them once it is pending.  The ioctl that aborts the endpoint
is one step; what it does to the operation is the end of it, sooner or later or not at all.

## Main definitions

* `SyncPc`, `SyncFrame` — where the call is, and what it shares with the kernel.
* `syncRuns` — the machine of a call.
* `LeavesNothing` — when the call has returned, the operation is no longer pending.

## Main result

* `always_leavesNothing_iff` — it is so in exactly the runs in which the event is not closed
  after a wait that has come to nothing, unless the operation has failed by then.
-/

namespace LibusbK

abbrev INFINITE : UInt32 := 0xFFFFFFFF

/-! ### The call and the kernel -/

/-- The operation: with its result, the number of bytes or an error, once it has ended. -/
inductive SyncOp
  | notStarted
  | pending
  | ended (result : Except UInt32 UInt32)

/-- The operation has ended with an error. -/
def SyncOp.Failed : SyncOp → Prop
  | ended (.error _) => True
  | _ => False

/-- It has ended with success. -/
def SyncOp.Succeeded : SyncOp → Prop
  | ended (.ok _) => True
  | _ => False

/-- What the call does next. -/
inductive SyncPc
  | createEvent
  | deviceIoControl
  /-- `WaitForSingleObject` for the timeout, or for ever. -/
  | wait
  /-- The endpoint is aborted. -/
  | abort
  /-- `WaitForSingleObject` for no time. -/
  | lastWait
  | closeAborted
  | getOverlappedResult (bWait : Bool)
  | closeFailed (error : UInt32)
  | close
  | returned (success : Bool)
  deriving DecidableEq, Repr

/-- The frame of the call.  `ret` is what is stored in `*ret`. -/
structure SyncFrame where
  pc : SyncPc
  op : SyncOp
  ret : UInt32
  lastError : UInt32

/-- How `WaitForSingleObject` ends. -/
inductive SyncWait
  | object0
  | timeout
  | failed (error : UInt32)
  deriving DecidableEq, Repr

/-- A step of the call, with the answer of the system, or the end of the operation. -/
inductive SyncEvent
  | createEvent (error : Option UInt32)
  | deviceIoControl (result : Except UInt32 UInt32)
  | wait (result : SyncWait)
  | abort (error : Option UInt32)
  | lastWait
  | getOverlappedResult
  | close (closed : Bool)
  /-- The operation ends. -/
  | complete (result : Except UInt32 UInt32)

namespace SyncFrame

variable (s : SyncFrame)

/-- The call goes on. -/
def goto (pc : SyncPc) : SyncFrame := { s with pc }

/-- The call starts: `*ret` is set to zero. -/
def start (lastError : UInt32) : SyncFrame where
  pc := .createEvent
  op := .notStarted
  ret := 0
  lastError := lastError

/-- The wait for the event: it is set when the operation has ended, and a wait with a timeout
may be over before. -/
def afterWait (timeout : UInt32) : SyncWait → Option SyncFrame
  | .object0 =>
    match s.op with
    | .ended _ => some (s.goto (.getOverlappedResult false))
    | _ => none
  | .timeout =>
    match s.op with
    | .pending => if timeout ≠ 0 ∧ timeout ≠ INFINITE then some (s.goto .abort) else none
    | _ => none
  | .failed error =>
    some { s with
      pc := if timeout ≠ 0 then .abort else .getOverlappedResult false
      lastError := error }

/-- `GetOverlappedResult`; it waits for the end of the operation or does not. -/
def overlappedResult (bWait : Bool) : Option SyncFrame :=
  match s.op with
  | .ended (.ok n) => some { s with pc := .close, ret := n }
  | .ended (.error error) => some (s.goto (.closeFailed error))
  | _ => if bWait then none else some (s.goto (.closeFailed ERROR_IO_INCOMPLETE))

/-- The call after a step that has got this answer. -/
def step (timeout : UInt32) : SyncPc → SyncEvent → Option SyncFrame
  | .createEvent, .createEvent none => some (s.goto .deviceIoControl)
  | .createEvent, .createEvent (some error) =>
    some { s with pc := .returned false, lastError := error }
  | .deviceIoControl, .deviceIoControl (.ok n) =>
    some { s with pc := .getOverlappedResult true, op := .ended (.ok n) }
  | .deviceIoControl, .deviceIoControl (.error error) =>
    if error ≠ ERROR_IO_PENDING then
      some { s with pc := .closeFailed error, op := .ended (.error error) }
    else some { s with pc := .wait, op := .pending }
  | .wait, .wait result => s.afterWait timeout result
  | .abort, .abort none => some { s with pc := .lastWait, lastError := ERROR_SEM_TIMEOUT }
  | .abort, .abort (some error) => some { s with pc := .lastWait, lastError := error }
  | .lastWait, .lastWait => some (s.goto .closeAborted)
  | .closeAborted, .close _ => some (s.goto (.returned false))
  | .getOverlappedResult bWait, .getOverlappedResult => s.overlappedResult bWait
  | .closeFailed error, .close _ => some { s with pc := .returned false, lastError := error }
  | .close, .close closed => some (s.goto (.returned closed))
  | _, _ => none

end SyncFrame

/-- The runs of a call with this timeout, zero for none. -/
def syncRuns (timeout : UInt32) : Machine SyncFrame SyncEvent where
  step s
    | .complete result =>
      match s.op with
      | .pending => some { s with op := .ended result }
      | _ => none
    | e => s.step timeout s.pc e

/-- **Nothing is left behind**: when the call has returned, the operation is not pending, and it
has not succeeded if the call has failed. -/
def LeavesNothing (s : SyncFrame) : Prop :=
  ∀ success, s.pc = .returned success → s.op ≠ .pending ∧ (success = false → ¬s.op.Succeeded)

/-- The event is closed after the endpoint has been aborted or the result has been asked for too
early, and the operation has not failed; or it cannot be closed. -/
def Abandons (s : SyncFrame) : SyncEvent → Prop
  | .close closed =>
    s.pc = .closeAborted ∧ ¬s.op.Failed ∨
      s.pc = .closeFailed ERROR_IO_INCOMPLETE ∧ ¬s.op.Failed ∨
      s.pc = .close ∧ closed = false
  | _ => False

/-! ### The invariant -/

/-- What can have become of the operation by the time the call is there. -/
def SyncPc.Allows : SyncPc → SyncOp → Prop
  | createEvent, op => op = .notStarted
  | deviceIoControl, op => op = .notStarted
  | wait, op => op ≠ .notStarted
  | abort, op => op ≠ .notStarted
  | lastWait, op => op ≠ .notStarted
  | closeAborted, op => op ≠ .notStarted
  | getOverlappedResult bWait, op => op ≠ .notStarted ∧ (bWait = true → op.Succeeded)
  | closeFailed error, op => op ≠ .notStarted ∧ (error ≠ ERROR_IO_INCOMPLETE → op.Failed)
  | close, op => op.Succeeded
  | returned success, op => op ≠ .pending ∧ (success = false → ¬op.Succeeded)

section
variable {s t : SyncFrame} {timeout : UInt32} {e : SyncEvent} {op : SyncOp}

theorem SyncOp.Failed.ne_pending (h : op.Failed) : op ≠ .pending := by
  rintro rfl
  exact h

theorem SyncOp.Failed.not_succeeded (h : op.Failed) : ¬op.Succeeded := by
  intro hsucceeded
  cases op with
  | ended result =>
    cases result with
    | error error => exact hsucceeded
    | ok n => exact h
  | notStarted => exact h
  | pending => exact h

/-- An operation that has been started and has not failed is pending or has succeeded. -/
theorem SyncOp.failed_of_returned (hstarted : op ≠ .notStarted) (hpending : op ≠ .pending)
    (hsucceeded : ¬op.Succeeded) : op.Failed := by
  cases op with
  | notStarted => exact absurd rfl hstarted
  | pending => exact absurd rfl hpending
  | ended result =>
    cases result with
    | error error => trivial
    | ok n => exact absurd trivial hsucceeded

/-- The operation ends. -/
theorem SyncPc.Allows.complete {pc : SyncPc} (h : pc.Allows .pending)
    (result : Except UInt32 UInt32) : pc.Allows (.ended result) := by
  cases pc with
  | createEvent => cases h
  | deviceIoControl => cases h
  | wait => exact nofun
  | abort => exact nofun
  | lastWait => exact nofun
  | closeAborted => exact nofun
  | getOverlappedResult bWait => exact ⟨nofun, fun hwait => (h.2 hwait).elim⟩
  | closeFailed error => exact ⟨nofun, fun herror => (h.2 herror).elim⟩
  | close => exact h.elim
  | returned success => exact absurd rfl h.1

theorem allows_afterWait (h : s.op ≠ .notStarted) {wait : SyncWait}
    (hstep : s.afterWait timeout wait = some t) : t.pc.Allows t.op := by
  cases wait with
  | object0 =>
    cases hop : s.op with
    | ended result =>
      simp only [SyncFrame.afterWait, hop] at hstep
      cases hstep
      exact ⟨h, nofun⟩
    | notStarted => exact absurd hop h
    | pending =>
      simp only [SyncFrame.afterWait, hop] at hstep
      cases hstep
  | timeout =>
    cases hop : s.op with
    | pending =>
      simp only [SyncFrame.afterWait, hop] at hstep
      split at hstep
      · cases hstep
        exact h
      · cases hstep
    | notStarted => exact absurd hop h
    | ended result =>
      simp only [SyncFrame.afterWait, hop] at hstep
      cases hstep
  | failed error =>
    cases hstep
    dsimp only
    split
    · exact h
    · exact ⟨h, nofun⟩

theorem allows_overlappedResult {bWait : Bool}
    (h : s.op ≠ .notStarted ∧ (bWait = true → s.op.Succeeded))
    (hstep : s.overlappedResult bWait = some t) : t.pc.Allows t.op := by
  cases hop : s.op with
  | notStarted => exact absurd hop h.1
  | pending =>
    simp only [SyncFrame.overlappedResult, hop] at hstep
    split at hstep
    · cases hstep
    · cases hstep
      exact ⟨h.1, fun hne => absurd rfl hne⟩
  | ended result =>
    cases result with
    | ok n =>
      simp only [SyncFrame.overlappedResult, hop] at hstep
      cases hstep
      trivial
    | error error =>
      simp only [SyncFrame.overlappedResult, hop] at hstep
      cases hstep
      refine ⟨h.1, fun _ => ?_⟩
      show s.op.Failed
      rw [hop]
      trivial

/-- The call returns with a failure. -/
theorem leavesNothing_iff_failed (hstarted : s.op ≠ .notStarted) (hpc : s.pc = .returned false) :
    LeavesNothing s ↔ s.op.Failed := by
  constructor
  · intro h
    obtain ⟨hpending, hsucceeded⟩ := h false hpc
    exact SyncOp.failed_of_returned hstarted hpending (hsucceeded rfl)
  · exact fun h _ _ => ⟨h.ne_pending, fun _ => h.not_succeeded⟩

/-- The event is closed, and the call returns. -/
theorem allows_close (hs : s.pc.Allows s.op) {closed : Bool}
    (hstep : s.step timeout s.pc (.close closed) = some t) :
    ¬Abandons s (.close closed) ∧ t.pc.Allows t.op ∨
      Abandons s (.close closed) ∧ ¬LeavesNothing t := by
  -- the call returns with a failure
  have hfailed (hstarted : s.op ≠ .notStarted) (hop : t.op = s.op) (hpc : t.pc = .returned false)
      (hbad : Abandons s (.close closed) ↔ ¬s.op.Failed) :
      ¬Abandons s (.close closed) ∧ t.pc.Allows t.op ∨
        Abandons s (.close closed) ∧ ¬LeavesNothing t := by
    rw [leavesNothing_iff_failed (hop ▸ hstarted) hpc, hbad, hpc, hop, not_not]
    by_cases h : s.op.Failed
    · exact .inl ⟨h, h.ne_pending, fun _ => h.not_succeeded⟩
    · exact .inr ⟨h, h⟩
  cases hpc : s.pc with
  | closeAborted =>
    rw [hpc] at hs hstep
    cases hstep
    refine hfailed hs rfl rfl ?_
    simp [Abandons, hpc]
  | closeFailed error =>
    rw [hpc] at hs hstep
    cases hstep
    by_cases herror : error = ERROR_IO_INCOMPLETE
    · refine hfailed hs.1 rfl rfl ?_
      simp [Abandons, hpc, herror]
    · have hop := hs.2 herror
      refine .inl ⟨?_, hop.ne_pending, fun _ => hop.not_succeeded⟩
      simp [Abandons, hpc, herror]
  | close =>
    rw [hpc] at hs hstep
    cases hstep
    have hpending : s.op ≠ .pending := fun h => by rw [h] at hs; exact hs
    cases closed with
    | true =>
      refine .inl ⟨?_, hpending, nofun⟩
      simp [Abandons, hpc]
    | false =>
      refine .inr ⟨.inr (.inr ⟨hpc, rfl⟩), fun h => (h false rfl).2 rfl hs⟩
  | _ =>
    rw [hpc] at hstep
    cases hstep

/-- The call takes another step. -/
theorem allows_call (hs : s.pc.Allows s.op) (hstep : s.step timeout s.pc e = some t)
    (hclose : ∀ closed, e ≠ .close closed) : t.pc.Allows t.op := by
  cases hpc : s.pc with
  | createEvent =>
    rw [hpc] at hs hstep
    cases e with
    | createEvent error =>
      cases error with
      | none =>
        cases hstep
        exact hs
      | some error =>
        cases hstep
        have hop : s.op = .notStarted := hs
        refine ⟨?_, fun _ => ?_⟩
        · rw [hop]
          exact nofun
        · rw [hop]
          exact id
    | _ => cases hstep
  | deviceIoControl =>
    rw [hpc] at hs hstep
    cases e with
    | deviceIoControl result =>
      cases result with
      | ok n =>
        cases hstep
        exact ⟨nofun, fun _ => trivial⟩
      | error error =>
        simp only [SyncFrame.step] at hstep
        split_ifs at hstep <;> cases hstep
        · exact ⟨nofun, fun _ => trivial⟩
        · exact nofun
    | _ => cases hstep
  | wait =>
    rw [hpc] at hs hstep
    cases e with
    | wait result => exact allows_afterWait hs hstep
    | _ => cases hstep
  | abort =>
    rw [hpc] at hs hstep
    cases e with
    | abort error =>
      cases error <;> cases hstep <;> exact hs
    | _ => cases hstep
  | lastWait =>
    rw [hpc] at hs hstep
    cases e with
    | lastWait =>
      cases hstep
      exact hs
    | _ => cases hstep
  | getOverlappedResult bWait =>
    rw [hpc] at hs hstep
    cases e with
    | getOverlappedResult => exact allows_overlappedResult hs hstep
    | _ => cases hstep
  | closeAborted =>
    rw [hpc] at hstep
    cases e with
    | close closed => exact absurd rfl (hclose closed)
    | _ => cases hstep
  | closeFailed error =>
    rw [hpc] at hstep
    cases e with
    | close closed => exact absurd rfl (hclose closed)
    | _ => cases hstep
  | close =>
    rw [hpc] at hstep
    cases e with
    | close closed => exact absurd rfl (hclose closed)
    | _ => cases hstep
  | returned success =>
    rw [hpc] at hstep
    cases e <;> cases hstep

/-- A step of the call, or the end of the operation. -/
theorem allows_step (hs : s.pc.Allows s.op) (hstep : (syncRuns timeout).step s e = some t) :
    ¬Abandons s e ∧ t.pc.Allows t.op ∨ Abandons s e ∧ ¬LeavesNothing t := by
  cases e with
  | complete result =>
    simp only [syncRuns] at hstep
    cases hop : s.op with
    | pending =>
      rw [hop] at hs hstep
      cases hstep
      exact .inl ⟨id, hs.complete result⟩
    | notStarted =>
      rw [hop] at hstep
      cases hstep
    | ended result =>
      rw [hop] at hstep
      cases hstep
  | close closed => exact allows_close hs hstep
  | _ => exact .inl ⟨id, allows_call hs hstep fun _ h => by cases h⟩

/-- **Nothing is left behind in exactly the runs** in which the event is not closed after a wait
that has come to nothing, unless the operation has failed by then. -/
theorem always_leavesNothing_iff (timeout lastError : UInt32) (es : List SyncEvent) :
    (syncRuns timeout).Always LeavesNothing (.start lastError) es ↔
      (syncRuns timeout).Throughout (fun s e => ¬Abandons s e) (.start lastError) es := by
  refine Machine.always_iff_throughout_not (I := fun s => s.pc.Allows s.op) ?_
    (fun _ _ _ hs hstep => allows_step hs hstep) es rfl
  intro s hs success hpc
  rw [hpc] at hs
  exact hs

/-- The device does not answer in time, and has not when the call returns. -/
theorem not_leavesNothing_slowDevice :
    ¬(syncRuns 1000).Always LeavesNothing (.start 0)
      [.createEvent none, .deviceIoControl (.error ERROR_IO_PENDING), .wait .timeout,
        .abort none, .lastWait, .close true] := by
  intro h
  have hend := h.exec rfl
  exact (hend false rfl).1 rfl

end

end LibusbK
